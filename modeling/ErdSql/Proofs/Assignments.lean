import ErdSql.Proofs.Manifest

/-!
# The tag that a plan gives its project

Only the database gives the project a tag: the data models and the schemas tell something and
write files, and do nothing else.  So a plan assigns the tag that finding the name of the database
proposes, whether it comes to its end or not.
-/

namespace ErdSql

/-- Whether an event only tells something or writes a file. -/
def Event.isOutward (event : Event) : Bool :=
  event.isTalk || event.script?.isSome

theorem Event.isOutward_within (context : Log.Context) {event : Event}
    (h : event.isOutward = true) : (event.within context).isOutward = true :=
  h

theorem Event.assigned?_of_isOutward {event : Event} (h : event.isOutward = true) :
    event.assigned? = none := by
  obtain ⟨context, action⟩ := event
  cases action with
  | assign tag => cases h
  | report d => rfl
  | note level logger message cause => rfl
  | mark name data => rfl
  | write path script => rfl
  | conclude step => rfl

namespace Generation

open Plan

section Parts

variable {p : Event → Prop}

theorem only_write (hwrite : ∀ path script, p (.write path script)) (pair : ScriptPair)
    (options : Options) (stem : String) : (pair.write options stem).Only p :=
  only_emit (List.forall_mem_map.2 fun file _ => hwrite file.1 file.2)

theorem only_writeIfAny (hwrite : ∀ path script, p (.write path script)) (pair : ScriptPair)
    (options : Options) (stem : String) : (pair.writeIfAny options stem).Only p := by
  unfold ScriptPair.writeIfAny
  split
  · exact only_write hwrite pair options stem
  · exact only_pure ()

/-- Routines are reported and written. -/
theorem only_routines (hwrite : ∀ path script, p (.write path script))
    (hreport : ∀ d, p (.report d)) (options : Options) (kind : Sql.RoutineKind)
    (dataModel : DataModel) (modelName : String) :
    (routines options kind dataModel modelName).Only p := by
  refine only_bind (only_ofExcept _) fun pair => ?_
  refine only_bind (only_emit (List.forall_mem_map.2 fun _ _ => hreport _)) fun _ => ?_
  refine only_bind (only_ofExcept _) fun pair => ?_
  exact only_bind (only_writeIfAny hwrite pair options _) fun _ => only_pure _

theorem only_finish (hwrite : ∀ path script, p (.write path script)) (setting : TableSetting)
    (stem : String) (group : Table.Group) : (setting.finish stem group).Only p :=
  only_bind (only_writeIfAny hwrite _ _ _) fun _ => only_pure _

theorem only_finishSchemas (hwrite : ∀ path script, p (.write path script))
    (scripts : SchemaScripts) (options : Options) : (scripts.finish options).Only p := by
  unfold SchemaScripts.finish
  split
  · exact only_bind (only_write hwrite _ _ _) fun _ => only_pure _
  · exact only_pure _

/-- Once the database has its name, its scripts are written if the name can be used. -/
theorem only_database (hwrite : ∀ path script, p (.write path script)) {options : Options}
    {project : Project}
    (hname : ∀ event ∈ databaseNameEvents project (Naming.databaseName project.toElement),
      p event) : (database options project).Only p := by
  refine only_bind (only_emit hname) fun _ => ?_
  split
  · refine only_bind (only_ofExcept _) fun pair => only_bind (only_ofExcept _) fun pair => ?_
    exact only_bind (only_write hwrite pair options _) fun _ => only_pure _
  · exact only_pure _

end Parts

/-- The plan tells and writes, and does nothing else. -/
abbrev Plan.IsOutward {α : Type} (plan : Plan α) : Prop :=
  plan.Only fun event => event.isOutward = true

section Tables

variable (setting : TableSetting)

theorem isOutward_emptyGroup : setting.emptyGroup.IsOutward :=
  only_ofExcept _

theorem isOutward_entity (tablePrefix : String) (group : Table.Group) (entity : Entity) :
    (setting.entity tablePrefix group entity).IsOutward := by
  intro event hevent
  have htalk := only_isTalk_entity setting tablePrefix group entity event hevent
  simp [Event.isOutward, htalk]

theorem isOutward_entities (tablePrefix : String) (group : Table.Group)
    (entities : List Entity) : (setting.entities tablePrefix group entities).IsOutward := by
  induction entities generalizing group with
  | nil => exact only_pure group
  | cons entity entities ih =>
      exact only_bind (isOutward_entity setting tablePrefix group entity) fun next => ih next

theorem isOutward_diagram (diagram : Diagram) : (setting.diagram diagram).IsOutward := by
  refine only_bind (isOutward_emptyGroup setting) fun group => ?_
  refine only_bind (only_within _ (fun _ => Event.isOutward_within _)
    (isOutward_entities setting _ group diagram.entities)) fun group => ?_
  exact only_finish (fun _ _ => rfl) setting _ group

theorem isOutward_members (progress : TableSetting.Progress) (members : List Member) :
    (setting.members progress members).IsOutward := by
  induction members generalizing progress with
  | nil => exact only_pure progress
  | cons member members ih =>
      cases member with
      | diagram diagram => exact only_bind (isOutward_diagram setting diagram) fun count => ih _
      | entity entity =>
          exact only_bind (isOutward_entity setting "" progress.loose entity) fun loose => ih _

theorem isOutward_tables (dataModel : DataModel) : (setting.tables dataModel).IsOutward := by
  refine only_bind (isOutward_emptyGroup setting) fun group => ?_
  refine only_bind (isOutward_members setting _ dataModel.members) fun progress => ?_
  exact only_bind (only_finish (fun _ _ => rfl) setting _ _) fun loose => only_pure _

end Tables

section Schemas

variable (options : Options)

theorem isOutward_dataModel (index : Index) (model : DataModel) :
    (dataModel options index model).IsOutward := by
  refine only_bind (only_routines (fun _ _ => rfl) (fun _ => rfl) options .function model _)
    fun functions => ?_
  refine only_bind (only_routines (fun _ _ => rfl) (fun _ => rfl) options .procedure model _)
    fun procedures => ?_
  split
  · exact only_bind (only_emit (List.forall_mem_singleton.2 rfl)) fun _ => only_pure _
  · exact only_bind (isOutward_tables _ model) fun tables => only_pure _

theorem isOutward_dataModels (index : Index) (run : SchemaRun) (models : List DataModel) :
    (dataModels options index run models).IsOutward := by
  induction models generalizing run with
  | nil => exact only_pure run
  | cons model models ih =>
      rw [dataModels_cons]
      refine only_bind (only_within _ (fun _ => Event.isOutward_within _)
        (isOutward_dataModel options index model)) fun generated => ?_
      refine only_bind ?_ fun scripts => ih _
      cases generated.schema with
      | none => exact only_pure _
      | some schema => exact only_ofExcept _

theorem isOutward_schemas (project : Project) : (schemas options project).IsOutward := by
  refine only_bind (only_ofExcept _) fun pair => ?_
  refine only_bind (isOutward_dataModels options _ _ project.dataModels) fun run => ?_
  exact only_bind (only_finishSchemas (fun _ _ => rfl) run.scripts options) fun step => only_pure _

end Schemas

section Project

variable (options : Options) (project : Project)

theorem assignedTags_database :
    Event.assignedTags (database options project).events =
      (Naming.databaseName project.toElement).assignment.toList := by
  have hnames : Event.assignedTags
      (databaseNameEvents project (Naming.databaseName project.toElement)) =
        (Naming.databaseName project.toElement).assignment.toList := by
    unfold databaseNameEvents Event.assignedTags
    cases (Naming.databaseName project.toElement).fault <;>
      cases (Naming.databaseName project.toElement).assignment <;> rfl
  rw [← hnames]
  refine filterMap_bind (p := fun event => event.isOutward = true) (fun _ => ?_) fun _ =>
    Event.assigned?_of_isOutward
  split
  · refine only_bind (only_ofExcept _) fun pair => only_bind (only_ofExcept _) fun pair => ?_
    exact only_bind (only_write (fun _ _ => rfl) _ _ _) fun _ => only_pure _
  · exact only_pure _

/-- A plan assigns the tag that finding the name of the database proposes, and no other. -/
theorem assignedTags_projectPlan (location : String) :
    Event.assignedTags (projectPlan options location project).events =
      (Naming.databaseName project.toElement).assignment.toList := by
  rw [← assignedTags_database options project, projectPlan_eq]
  have hnone : ∀ {α : Type} {plan : Plan α}, plan.IsOutward →
      plan.Only fun event => event.assigned? = none :=
    fun h event hevent => Event.assigned?_of_isOutward (h event hevent)
  refine filterMap_bind (p := fun event => event.assigned? = none) (fun valid => ?_) fun _ => id
  refine only_bind ?_ fun _ => only_bind (hnone (isOutward_schemas options project)) fun steps =>
    only_bind ?_ fun _ => ?_
  · cases valid <;> simp [databaseConclusion, Plan.Only, Plan.emit, progress, Event.report,
      Event.conclude, Event.assigned?]
  · exact only_emit (List.forall_mem_map.2 fun _ _ => rfl)
  · exact only_emit (List.forall_mem_singleton.2 rfl)

end Project

end Generation
end ErdSql
