import ErdSql.Proofs.FailingSinks
import ErdSql.Proofs.Paths

/-!
# The choice of drop statements

Whether the scripts that drop things are written is an option.  The plan without them is the plan
with them but for the writes of these scripts: what goes into them is put together all the same,
so it fails as it would otherwise, and nothing else looks at the option.  So the two runs differ
in the files that drop and in nothing else, unless the sink refuses a file because of these.
-/

namespace ErdSql

/-- Whether a file is one that creates things. -/
def isCreatePath (path : String) : Bool :=
  "_create.sql".toList.isSuffixOf path.toList

theorem isCreatePath_createPath (stem : String) :
    isCreatePath (Generation.createPath stem) = true := by
  rw [isCreatePath, List.isSuffixOf_iff_suffix, Generation.createPath, String.toList_append]
  exact List.suffix_append ..

theorem isCreatePath_dropPath (stem : String) :
    isCreatePath (Generation.dropPath stem) = false := by
  rw [Bool.eq_false_iff]
  intro h
  obtain ⟨front, hfront⟩ := List.isSuffixOf_iff_suffix.1 h
  refine Generation.createPath_ne_dropPath (String.ofList front) stem (String.toList_inj.1 ?_)
  rw [← hfront, Generation.createPath, String.toList_append, String.toList_ofList]

/-- The files among these that create things. -/
def creatingFiles (files : List (String × String)) : List (String × String) :=
  files.filter fun file => isCreatePath file.1

/-- Whether an event is no write of a script that drops things. -/
def Event.isKept (event : Event) : Bool :=
  event.script?.all fun file => isCreatePath file.1

@[simp] theorem Event.isKept_within (context : Log.Context) (event : Event) :
    (event.within context).isKept = event.isKept := rfl

theorem Event.isKept_of_script?_eq_none {event : Event} (h : event.script? = none) :
    event.isKept = true := by
  rw [isKept, h]
  rfl

theorem Event.files_filter_isKept (events : List Event) :
    Event.files (events.filter Event.isKept) = creatingFiles (Event.files events) := by
  unfold Event.files creatingFiles
  rw [List.filter_filterMap, List.filterMap_filter]
  congr 1
  funext event
  unfold Event.isKept Event.file?
  cases event.script? with
  | none => rfl
  | some file => simp only [Option.all_some, Option.map_some, Option.filter_some]

/-- What does not see scripts sees the same without some of them. -/
theorem Event.filterMap_filter_isKept {γ : Type} {view : Event → Option γ}
    (hview : ∀ event : Event, event.script?.isSome → view event = none) (events : List Event) :
    (events.filter Event.isKept).filterMap view = events.filterMap view := by
  rw [List.filterMap_filter]
  congr 1
  funext event
  cases hscript : event.script? with
  | none => rw [if_pos (isKept_of_script?_eq_none hscript)]
  | some file =>
      rw [hview event (by rw [hscript]; rfl)]
      exact ite_self none

namespace Event

variable (event : Event) (h : event.script?.isSome)

include h

theorem exists_write_of_isSome_script? : ∃ path script, event.action = .write path script := by
  cases haction : event.action with
  | write path script => exact ⟨path, script, rfl⟩
  | _ => simp [script?, haction] at h

theorem step?_of_isSome_script? : event.step? = none := by
  obtain ⟨path, script, haction⟩ := exists_write_of_isSome_script? event h
  rw [step?, haction]

theorem diagnostic?_of_isSome_script? : event.diagnostic? = none := by
  obtain ⟨path, script, haction⟩ := exists_write_of_isSome_script? event h
  rw [diagnostic?, haction]

theorem assigned?_of_isSome_script? : event.assigned? = none := by
  obtain ⟨path, script, haction⟩ := exists_write_of_isSome_script? event h
  rw [assigned?, haction]

end Event

/-- The options with the choice made whether to write the scripts that drop things. -/
def Options.withDrops (options : Options) (drops : Bool) : Options :=
  { options with dropStatements := drops }

namespace Storage

variable {σ : Type} [Sink σ]

/-- Files that do not create things are always taken, and none is refused because of them. -/
structure IgnoresDrops (sink : σ) : Prop where
  taken : ∀ (writes : List (String × String)) (path text : String), isCreatePath path = false →
    (Sink.write (written sink writes) path text).2 = none
  ignored : ∀ (writes : List (String × String)) (path text : String),
    (Sink.write (written sink (creatingFiles writes)) path text).2 =
      (Sink.write (written sink writes) path text).2

theorem NeverFails.ignoresDrops {sink : σ} (h : NeverFails sink) : IgnoresDrops sink :=
  ⟨fun writes path text _ => h writes path text, fun writes path text => by
    rw [h (creatingFiles writes) path text, h writes path text]⟩

end Storage

namespace Generation

open Storage

section Deliver

variable {σ : Type} [Sink σ] {sink : σ}

/-- What is delivered without the files that drop things comes equally far. -/
structure SameButDrops (full bare : Delivery σ) : Prop where
  done : bare.done = full.done.filter Event.isKept
  fault : bare.fault = full.fault

/-- A file that creates something is taken or refused by both sinks. -/
theorem sameButDrops_cons {bareSink : σ} {event : Event} {path text : String}
    (hfile : event.file? = some (path, text)) (hkept : event.isKept = true)
    (hsame : (Sink.write bareSink path text).2 = (Sink.write sink path text).2)
    {events bareEvents : List Event}
    (hrest : SameButDrops (deliver (Sink.write sink path text).1 events)
      (deliver (Sink.write bareSink path text).1 bareEvents)) :
    SameButDrops (deliver sink (event :: events))
      (deliver bareSink (event :: bareEvents)) := by
  cases hwrite : (Sink.write sink path text).2 with
  | none =>
      rw [deliver_cons_of_written hfile hwrite, deliver_cons_of_written hfile (hsame.trans hwrite)]
      exact ⟨by rw [List.filter_cons_of_pos hkept, hrest.done], hrest.fault⟩
  | some fault =>
      rw [deliver_cons_of_fault hfile hwrite, deliver_cons_of_fault hfile (hsame.trans hwrite)]
      exact ⟨rfl, rfl⟩

/-- Without the files that drop things, the same is delivered but for them, with the same end. -/
theorem deliver_filter_isKept (hsink : IgnoresDrops sink) (writes : List (String × String))
    (events : List Event) :
    SameButDrops (deliver (written sink writes) events)
      (deliver (written sink (creatingFiles writes)) (events.filter Event.isKept)) := by
  -- the writes so far are the invariant: the two sinks have taken the same but for drop files
  induction events generalizing writes with
  | nil => exact ⟨rfl, rfl⟩
  | cons event events ih =>
      cases hscript : event.script? with
      | none =>
          have hkept := Event.isKept_of_script?_eq_none hscript
          have hfile := file?_of_script?_eq_none hscript
          rw [List.filter_cons_of_pos hkept, deliver_cons_of_file?_eq_none hfile,
            deliver_cons_of_file?_eq_none hfile]
          exact ⟨by rw [List.filter_cons_of_pos hkept, (ih writes).done], (ih writes).fault⟩
      | some file =>
          obtain ⟨path, script⟩ := file
          have hfile := file?_of_script? hscript
          have hkept : event.isKept = isCreatePath path := by
            rw [Event.isKept, hscript]
            rfl
          have hnext : ∀ before : List (String × String),
              written sink (before ++ [(path, script.text)]) =
                (Sink.write (written sink before) path script.text).1 :=
            fun before => written_append sink before [(path, script.text)]
          have hrest := ih (writes ++ [(path, script.text)])
          rw [creatingFiles, List.filter_append, List.filter_singleton, hnext,
            ← creatingFiles] at hrest
          cases hcreate : isCreatePath path with
          | false =>
              rw [hcreate] at hkept hrest
              rw [List.filter_cons_of_neg (by simp [hkept]),
                deliver_cons_of_written hfile (hsink.taken writes path script.text hcreate)]
              rw [cond_false, List.append_nil] at hrest
              exact ⟨by rw [List.filter_cons_of_neg (by simp [hkept]), hrest.done], hrest.fault⟩
          | true =>
              rw [hcreate] at hkept hrest
              rw [cond_true, hnext] at hrest
              rw [List.filter_cons_of_pos hkept]
              exact sameButDrops_cons hfile hkept
                (hsink.ignored writes path script.text) hrest

end Deliver

namespace Plan

variable {α β : Type}

/-- The second plan is the first without its writes of scripts that drop things. -/
def LeavesOutDrops (full bare : Plan α) : Prop :=
  bare = { full with events := full.events.filter Event.isKept }

theorem leavesOutDrops_pure (a : α) : LeavesOutDrops (Plan.pure a) (Plan.pure a) :=
  rfl

theorem leavesOutDrops_ofExcept (outcome : Except Sql.BuildFault α) :
    LeavesOutDrops (ofExcept outcome) (ofExcept outcome) :=
  rfl

theorem leavesOutDrops_bind {full bare : Plan α} {next next' : α → Plan β}
    (h : LeavesOutDrops full bare) (hnext : ∀ a, LeavesOutDrops (next a) (next' a)) :
    LeavesOutDrops (full.bind next) (bare.bind next') := by
  unfold LeavesOutDrops at *
  subst h
  unfold bind
  cases full.outcome with
  | error fault => rfl
  | ok a => simp only [hnext a, List.filter_append]

theorem leavesOutDrops_within {full bare : Plan α} (context : Log.Context)
    (h : LeavesOutDrops full bare) :
    LeavesOutDrops (full.within context) (bare.within context) := by
  unfold LeavesOutDrops at *
  subst h
  unfold within
  rw [List.filter_map]
  rfl

/-- A plan that writes nothing is the same without the scripts that drop things. -/
theorem leavesOutDrops_self {plan : Plan α} (h : Only (fun event => event.script? = none) plan) :
    LeavesOutDrops plan plan := by
  have hevents : plan.events.filter Event.isKept = plan.events :=
    List.filter_eq_self.2 fun event hevent => Event.isKept_of_script?_eq_none (h event hevent)
  unfold LeavesOutDrops
  rw [hevents]

end Plan

open Plan

section Pairs

theorem leavesOutDrops_write (pair : ScriptPair) (options : Options) (stem : String) :
    LeavesOutDrops (pair.write (options.withDrops true) stem)
      (pair.write (options.withDrops false) stem) := by
  have hcreate : (Event.write (createPath stem) pair.create).isKept = true :=
    isCreatePath_createPath stem
  have hdrop : (Event.write (dropPath stem) pair.drop).isKept = false :=
    isCreatePath_dropPath stem
  simp [LeavesOutDrops, ScriptPair.write, ScriptPair.files, Options.withDrops, Plan.emit, hcreate,
    hdrop]

theorem leavesOutDrops_writeIfAny (pair : ScriptPair) (options : Options) (stem : String) :
    LeavesOutDrops (pair.writeIfAny (options.withDrops true) stem)
      (pair.writeIfAny (options.withDrops false) stem) := by
  unfold ScriptPair.writeIfAny
  split
  · exact leavesOutDrops_write pair options stem
  · exact leavesOutDrops_pure ()

theorem leavesOutDrops_emit {events : List Event} (h : ∀ event ∈ events, event.script? = none) :
    LeavesOutDrops (.emit events) (.emit events) :=
  leavesOutDrops_self (only_emit h)

theorem leavesOutDrops_database (options : Options) (project : Project) :
    LeavesOutDrops (database (options.withDrops true) project)
      (database (options.withDrops false) project) := by
  have hnames : ∀ event ∈ databaseNameEvents project (Naming.databaseName project.toElement),
      event.script? = none := by
    unfold databaseNameEvents
    cases (Naming.databaseName project.toElement).fault <;>
      cases (Naming.databaseName project.toElement).assignment <;>
        simp [Event.report, Event.note, Event.script?]
  unfold database
  refine leavesOutDrops_bind (leavesOutDrops_emit hnames) fun _ => ?_
  split
  · refine leavesOutDrops_bind (leavesOutDrops_ofExcept _) fun pair => ?_
    refine leavesOutDrops_bind (leavesOutDrops_ofExcept _) fun pair => ?_
    exact leavesOutDrops_bind (leavesOutDrops_write pair options databaseStem) fun _ =>
      leavesOutDrops_pure true
  · exact leavesOutDrops_pure false

theorem leavesOutDrops_routines (options : Options) (kind : Sql.RoutineKind)
    (dataModel : DataModel) (modelName : String) :
    LeavesOutDrops (routines (options.withDrops true) kind dataModel modelName)
      (routines (options.withDrops false) kind dataModel modelName) := by
  refine leavesOutDrops_bind (leavesOutDrops_ofExcept _) fun pair => ?_
  refine leavesOutDrops_bind (leavesOutDrops_emit fun event hevent => ?_) fun _ => ?_
  · obtain ⟨tag, -, rfl⟩ := List.mem_map.1 hevent
    rfl
  · refine leavesOutDrops_bind (leavesOutDrops_ofExcept _) fun pair => ?_
    exact leavesOutDrops_bind (leavesOutDrops_writeIfAny pair options _) fun _ =>
      leavesOutDrops_pure _

end Pairs

section Tables

variable (setting : TableSetting)

/-- The setting with the choice made whether to write the scripts that drop things. -/
def TableSetting.withDrops (drops : Bool) : TableSetting :=
  { setting with options := setting.options.withDrops drops }

theorem entityEdits_withDrops (options : Options) (drops : Bool) (index : Index)
    (schema tablePrefix : String) (entity : Entity) :
    Table.entityEdits (options.withDrops drops) index schema tablePrefix entity =
      Table.entityEdits options index schema tablePrefix entity := rfl

theorem entity_withDrops (drops : Bool) (tablePrefix : String) (group : Table.Group)
    (entity : Entity) :
    (setting.withDrops drops).entity tablePrefix group entity =
      setting.entity tablePrefix group entity := by
  simp only [TableSetting.entity, TableSetting.withDrops, entityEdits_withDrops]

theorem leavesOutDrops_entity (tablePrefix : String) (group : Table.Group) (entity : Entity) :
    LeavesOutDrops ((setting.withDrops true).entity tablePrefix group entity)
      ((setting.withDrops false).entity tablePrefix group entity) := by
  rw [entity_withDrops, entity_withDrops]
  exact leavesOutDrops_self fun event hevent =>
    Event.script?_of_isTalk (only_isTalk_entity setting tablePrefix group entity event hevent)

theorem leavesOutDrops_entities (tablePrefix : String) (group : Table.Group)
    (entities : List Entity) :
    LeavesOutDrops ((setting.withDrops true).entities tablePrefix group entities)
      ((setting.withDrops false).entities tablePrefix group entities) := by
  induction entities generalizing group with
  | nil => exact leavesOutDrops_pure group
  | cons entity entities ih =>
      exact leavesOutDrops_bind (leavesOutDrops_entity setting tablePrefix group entity) fun next =>
        ih next

theorem leavesOutDrops_finish (stem : String) (group : Table.Group) :
    LeavesOutDrops ((setting.withDrops true).finish stem group)
      ((setting.withDrops false).finish stem group) :=
  leavesOutDrops_bind (leavesOutDrops_writeIfAny _ setting.options stem) fun _ =>
    leavesOutDrops_pure _

theorem leavesOutDrops_diagram (diagram : Diagram) :
    LeavesOutDrops ((setting.withDrops true).diagram diagram)
      ((setting.withDrops false).diagram diagram) := by
  refine leavesOutDrops_bind (leavesOutDrops_ofExcept _) fun group => ?_
  refine leavesOutDrops_bind (leavesOutDrops_within _
    (leavesOutDrops_entities setting _ group diagram.entities)) fun group => ?_
  exact leavesOutDrops_finish setting _ group

theorem leavesOutDrops_members (progress : TableSetting.Progress) (members : List Member) :
    LeavesOutDrops ((setting.withDrops true).members progress members)
      ((setting.withDrops false).members progress members) := by
  induction members generalizing progress with
  | nil => exact leavesOutDrops_pure progress
  | cons member members ih =>
      cases member with
      | diagram diagram =>
          exact leavesOutDrops_bind (leavesOutDrops_diagram setting diagram) fun count => ih _
      | entity entity =>
          exact leavesOutDrops_bind (leavesOutDrops_entity setting "" progress.loose entity)
            fun loose => ih _

theorem leavesOutDrops_tables (dataModel : DataModel) :
    LeavesOutDrops ((setting.withDrops true).tables dataModel)
      ((setting.withDrops false).tables dataModel) := by
  refine leavesOutDrops_bind (leavesOutDrops_ofExcept _) fun group => ?_
  refine leavesOutDrops_bind (leavesOutDrops_members setting _ dataModel.members)
    fun progress => ?_
  exact leavesOutDrops_bind (leavesOutDrops_finish setting _ _) fun loose => leavesOutDrops_pure _

end Tables

section Schemas

variable (options : Options)

theorem leavesOutDrops_dataModel (index : Index) (model : DataModel) :
    LeavesOutDrops (dataModel (options.withDrops true) index model)
      (dataModel (options.withDrops false) index model) := by
  refine leavesOutDrops_bind (leavesOutDrops_routines options .function model _)
    fun functions => ?_
  refine leavesOutDrops_bind (leavesOutDrops_routines options .procedure model _)
    fun procedures => ?_
  cases Naming.schemaName model.toElement with
  | error fault =>
      exact leavesOutDrops_bind (leavesOutDrops_emit (List.forall_mem_singleton.2 rfl)) fun _ =>
        leavesOutDrops_pure _
  | ok schema =>
      exact leavesOutDrops_bind (leavesOutDrops_tables ⟨options, index, schema, _⟩ model)
        fun tables => leavesOutDrops_pure _

theorem leavesOutDrops_gather (scripts : SchemaScripts) (model : DataModel)
    (schema : Option String) :
    LeavesOutDrops (scripts.gather (options.withDrops true) model schema)
      (scripts.gather (options.withDrops false) model schema) := by
  cases schema with
  | none => exact leavesOutDrops_pure scripts
  | some schema => exact leavesOutDrops_ofExcept _

theorem leavesOutDrops_dataModels (index : Index) (run : SchemaRun) (models : List DataModel) :
    LeavesOutDrops (dataModels (options.withDrops true) index run models)
      (dataModels (options.withDrops false) index run models) := by
  induction models generalizing run with
  | nil => exact leavesOutDrops_pure run
  | cons model models ih =>
      rw [dataModels_cons, dataModels_cons]
      refine leavesOutDrops_bind (leavesOutDrops_within _
        (leavesOutDrops_dataModel options index model)) fun generated => ?_
      exact leavesOutDrops_bind (leavesOutDrops_gather options run.scripts model generated.schema)
        fun scripts => ih _

theorem leavesOutDrops_finishSchemas (scripts : SchemaScripts) :
    LeavesOutDrops (scripts.finish (options.withDrops true))
      (scripts.finish (options.withDrops false)) := by
  unfold SchemaScripts.finish
  split
  · exact leavesOutDrops_bind (leavesOutDrops_write scripts.pair options schemaStem) fun _ =>
      leavesOutDrops_pure _
  · exact leavesOutDrops_pure noSchemaStep

theorem leavesOutDrops_schemas (project : Project) :
    LeavesOutDrops (schemas (options.withDrops true) project)
      (schemas (options.withDrops false) project) := by
  refine leavesOutDrops_bind (leavesOutDrops_ofExcept _) fun pair => ?_
  refine leavesOutDrops_bind (leavesOutDrops_dataModels options _ _ _) fun run => ?_
  exact leavesOutDrops_bind (leavesOutDrops_finishSchemas options run.scripts) fun step =>
    leavesOutDrops_pure _

/-- The plan of a project without the scripts that drop things is the plan with them, but for
their writes. -/
theorem leavesOutDrops_projectPlan (location : String) (project : Project) :
    LeavesOutDrops (projectPlan (options.withDrops true) location project)
      (projectPlan (options.withDrops false) location project) := by
  rw [projectPlan_eq, projectPlan_eq]
  refine leavesOutDrops_bind (leavesOutDrops_database options project) fun valid => ?_
  refine leavesOutDrops_bind ?_ fun _ => ?_
  · cases valid <;> exact leavesOutDrops_emit (by
      simp [progress, Event.report, Event.conclude, Event.script?])
  · refine leavesOutDrops_bind (leavesOutDrops_schemas options project) fun steps => ?_
    refine leavesOutDrops_bind (leavesOutDrops_emit fun event hevent => ?_) fun _ =>
      leavesOutDrops_emit (List.forall_mem_singleton.2 rfl)
    obtain ⟨step, -, rfl⟩ := List.mem_map.1 hevent
    rfl

end Schemas

namespace Generator

variable {σ : Type} [Sink σ]

/-- The generator with the choice made whether to write the scripts that drop things. -/
def withDrops (generator : Generator σ) (drops : Bool) : Generator σ :=
  { generator with options := generator.options.withDrops drops }

/-- What a run without the scripts that drop things has of the run with them. -/
structure LacksDrops (full bare : Run σ) : Prop where
  /-- The files that create things are written, with their texts and in their order. -/
  files : Event.files bare.events = creatingFiles (Event.files full.events)
  paths : bare.result.files = full.result.files.filter isCreatePath
  success : bare.result.success = full.result.success
  errors : bare.result.errors = full.result.errors
  steps : bare.result.steps = full.result.steps
  diagnostics : Event.diagnostics bare.events = Event.diagnostics full.events
  warnings : bare.result.warnings = full.result.warnings
  assigned : Event.assignedTags bare.events = Event.assignedTags full.events

section Choice

variable {generator : Generator σ} (hsink : IgnoresDrops generator.sink) (project : Project)

include hsink

theorem delivery_withDrops :
    SameButDrops ((generator.withDrops true).delivery project)
      ((generator.withDrops false).delivery project) := by
  have hplan : (generator.withDrops false).plan project =
      { (generator.withDrops true).plan project with
        events := ((generator.withDrops true).plan project).events.filter Event.isKept } :=
    leavesOutDrops_projectPlan generator.options _ project
  unfold delivery
  rw [hplan]
  exact deliver_filter_isKept hsink [] _

theorem failure?_withDrops :
    (generator.withDrops false).failure? project =
      (generator.withDrops true).failure? project := by
  have hplan : (generator.withDrops false).plan project = _ :=
    leavesOutDrops_projectPlan generator.options _ project
  unfold failure?
  rw [(delivery_withDrops hsink project).fault, hplan]
  rfl

theorem afterFailure_withDrops :
    (generator.withDrops false).afterFailure project =
      (generator.withDrops true).afterFailure project := by
  unfold afterFailure
  rw [failure?_withDrops hsink project]

/-- What sees no scripts sees the same of what the two runs carry out. -/
theorem filterMap_done_withDrops {γ : Type} {view : Event → Option γ}
    (hview : ∀ event : Event, event.script?.isSome → view event = none) :
    (((generator.withDrops false).delivery project).done ++
        (generator.withDrops false).afterFailure project).filterMap view =
      (((generator.withDrops true).delivery project).done ++
        (generator.withDrops true).afterFailure project).filterMap view := by
  rw [List.filterMap_append, List.filterMap_append, afterFailure_withDrops hsink project,
    (delivery_withDrops hsink project).done, Event.filterMap_filter_isKept hview]

end Choice

/-- A project with a function and a table; a second table has a comment without a literal. -/
def unfinishedProject : Project :=
  { name := "Shop", dataModels := [
      { name := "Sales"
        tags := [
          { name := "add_tax", kind := .reference, value := "() AS $$ $$;"
            reference := some (.ofString "function" "") }]
        members := [.entity { name := "Purchase" }] },
      { name := "Stock"
        members := [.entity { name := "Item", documentation := "a\x00b" }] }] }

end Generator

end Generation
end ErdSql
