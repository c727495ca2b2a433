import ErdSql.Proofs.Assignments
import ErdSql.Proofs.ContextStack

/-!
# Runs with a stack of contexts

A run of the generator as a piece of work that enters and leaves contexts: that of the project,
and in it one after the other those of the data models, of their diagrams, and of the entities.
It does what the run does that puts the contexts around the events.  Besides, it tells apart
what happens while a table is generated, and what happens after a failure.
-/

namespace ErdSql
namespace Table

/-- Whether an event among the changes has no context of its own. -/
def Edit.isUnplaced : Edit → Bool
  | .event e => e.context.isEmpty
  | _ => true

theorem all_isUnplaced_referenceEdits (options : Options) (index : Index)
    (table tableName : String) (columns : List NamedColumn) :
    (referenceEdits options index table tableName columns).all Edit.isUnplaced = true := by
  have hreference : ∀ reference : Reference, reference.edits.all Edit.isUnplaced = true := by
    intro reference
    rw [Reference.edits, List.all_append, List.all_map]
    refine Bool.and_eq_true_iff.2 ⟨List.all_eq_true.2 fun _ _ => rfl, ?_⟩
    cases reference.key <;> rfl
  unfold referenceEdits
  split
  · rw [List.all_flatMap]
    refine List.all_eq_true.2 fun column _ => ?_
    split
    · exact hreference _
    · rfl
  · rfl

/-- The changes of an entity leave it to their surroundings in what context things happen. -/
theorem all_isUnplaced_entityEdits (options : Options) (index : Index)
    (schema tablePrefix : String) (entity : Entity) :
    (entityEdits options index schema tablePrefix entity).all Edit.isUnplaced = true := by
  cases hname : Naming.prefixedTableName tablePrefix entity.toElement with
  | error fault =>
      rw [entityEdits_of_error _ _ _ _ _ hname]
      rfl
  | ok tableName =>
      rw [entityEdits_of_ok _ _ _ _ _ hname, closingEdits_eq, List.all_append, List.all_append,
        List.all_append, all_isUnplaced_referenceEdits,
        all_openingEdits (p := Edit.isUnplaced) _ rfl (fun _ => rfl) (fun _ => rfl)
          (fun _ _ => rfl) (fun _ => rfl) rfl (fun _ => rfl),
        all_bodyEdits (p := Edit.isUnplaced) _ rfl rfl (fun _ _ => rfl) rfl,
        all_furtherEdits (p := Edit.isUnplaced) _ rfl (fun _ => rfl) (fun _ => rfl)
          (fun _ => rfl) (fun _ _ _ => rfl) (fun _ _ => rfl) (fun _ _ => rfl) (fun _ _ => rfl) rfl]
      rfl

end Table

namespace Generation

namespace Plan

variable {α : Type}

/-- No event of the plan has a context of its own. -/
def IsUnplaced (plan : Plan α) : Prop :=
  plan.Only fun event => event.context = {}

theorem isUnplaced_progress (message : String) (element : Option String) :
    (Plan.emit [progress message element]).IsUnplaced :=
  only_emit (List.forall_mem_singleton.2 rfl)

theorem context_of_mem_databaseNameEvents {project : Project} {database : Naming.DatabaseName}
    {event : Event} (h : event ∈ databaseNameEvents project database) : event.context = {} := by
  rcases List.mem_append.1 h with h | h
  · cases hfault : database.fault with
    | none => simp [hfault] at h
    | some fault =>
        simp only [hfault, List.mem_singleton] at h
        rw [h]
        rfl
  · cases hassignment : database.assignment with
    | none => simp [hassignment] at h
    | some tag =>
        simp only [hassignment, List.mem_cons, List.not_mem_nil, or_false] at h
        rcases h with rfl | rfl
        · rfl
        · rfl

theorem isUnplaced_database (options : Options) (project : Project) :
    (database options project).IsUnplaced :=
  only_database (fun _ _ => rfl) fun _ => context_of_mem_databaseNameEvents

theorem isUnplaced_gather (scripts : SchemaScripts) (options : Options) (dataModel : DataModel)
    (schema : Option String) : (scripts.gather options dataModel schema).IsUnplaced := by
  cases schema with
  | none => exact only_pure _
  | some schema => exact only_ofExcept _

theorem isUnplaced_databaseConclusion (valid : Bool) : (databaseConclusion valid).IsUnplaced := by
  cases valid with
  | false => exact only_emit (List.forall_mem_singleton.2 rfl)
  | true => exact only_emit (List.forall_mem_cons.2 ⟨rfl, List.forall_mem_singleton.2 rfl⟩)

theorem isUnplaced_ofEdits (setting : TableSetting) (tablePrefix : String)
    (group : Table.Group) (entity : Entity) :
    (Plan.ofEdits group (setting.edits tablePrefix entity)).IsUnplaced := by
  intro event hevent
  obtain ⟨edit, hedit, hevent⟩ := Table.Group.exists_edit_of_mem_events_run hevent
  obtain rfl := Table.Edit.eq_of_event?_eq_some hevent
  have hall := Table.all_isUnplaced_entityEdits setting.options setting.index setting.schema
    tablePrefix entity
  exact Log.Context.isEmpty_iff.1 (List.all_eq_true.1 hall _ hedit)

end Plan

namespace Course

variable {σ : Type} [Storage.Sink σ]

/-! The generator at work.  What sets no context of its own is carried out as planned. -/

def table (setting : TableSetting) (site : Site) (tablePrefix : String) (group : Table.Group) :
    Course σ Table.Group :=
  during (.table site) (carryOut (.ofEdits group (setting.edits tablePrefix site.entity)))

def entity (setting : TableSetting) (site : Site) (tablePrefix : String) (group : Table.Group) :
    Course σ Table.Group := do
  let name := site.entity.name
  carryOut (.emit [progress ("Generate table DDL for " ++ name) (some name)])
  inContext { entity := some name } (table setting site tablePrefix group)

def entities (setting : TableSetting) (dataModel : DataModel) (diagram : Diagram) :
    Table.Group → List Entity → Course σ Table.Group
  | group, [] => pure group
  | group, entity :: rest => do
      let group ← Course.entity setting ⟨dataModel, some diagram, entity⟩
        (diagram.tags.valueOf "prefix") group
      entities setting dataModel diagram group rest

def diagram (setting : TableSetting) (dataModel : DataModel) (diagram : Diagram) :
    Course σ Nat := do
  let group ← carryOut setting.emptyGroup
  let group ← inContext { diagram := some diagram.name } <|
    entities setting dataModel diagram group diagram.entities
  carryOut (setting.finish (setting.diagramStem diagram) group)

def members (setting : TableSetting) (dataModel : DataModel) :
    TableSetting.Progress → List Member → Course σ TableSetting.Progress
  | progress, [] => pure progress
  | progress, .diagram diagram :: rest => do
      let count ← Course.diagram setting dataModel diagram
      members setting dataModel { progress with inDiagrams := progress.inDiagrams + count } rest
  | progress, .entity entity :: rest => do
      let loose ← Course.entity setting ⟨dataModel, none, entity⟩ "" progress.loose
      members setting dataModel { progress with loose := loose } rest

def tables (setting : TableSetting) (dataModel : DataModel) : Course σ Nat := do
  let group ← carryOut setting.emptyGroup
  let progress ← members setting dataModel ⟨group, 0⟩ dataModel.members
  let loose ← carryOut (setting.finish setting.looseStem progress.loose)
  return progress.inDiagrams + loose

def dataModel (options : Options) (index : Index) (model : DataModel) :
    Course σ DataModelRun := do
  let modelName := Naming.normalize model.name
  let functions ← carryOut (routines options .function model modelName)
  let procedures ← carryOut (routines options .procedure model modelName)
  let routineCounts :=
    [("functions", Json.ofNat functions), ("procedures", Json.ofNat procedures)]
  match Naming.schemaName model.toElement with
  | .error fault =>
      carryOut (.emit [.report fault.diagnostic])
      return {
        step := {
          name := dataModelStepName model
          status := .skipped
          message := "Invalid schema name, tables not generated"
          details := routineCounts }
        schema := none }
  | .ok schema =>
      let count ← tables ⟨options, index, schema, modelName⟩ model
      return {
        step := {
          name := dataModelStepName model
          status := .success
          message := "Generated " ++ toString count ++ " tables in schema " ++ schema
          details :=
            [("schema", .string schema), ("tables", .ofNat count)] ++ routineCounts }
        schema := some schema }

def dataModels (options : Options) (index : Index) :
    SchemaRun → List DataModel → Course σ SchemaRun
  | run, [] => pure run
  | run, model :: rest => do
      let generated ← inContext { dataModel := some model.name } <|
        Course.dataModel options index model
      let scripts ← carryOut (run.scripts.gather options model generated.schema)
      dataModels options index ⟨scripts, run.steps ++ [generated.step]⟩ rest

def schemas (options : Options) (project : Project) : Course σ (List StepResult) := do
  let pair ← carryOut (.ofExcept (ScriptPair.empty options))
  let run ← dataModels options (.ofProject project) ⟨{ pair := pair }, []⟩ project.dataModels
  let step ← carryOut (run.scripts.finish options)
  return run.steps ++ [step]

def project (options : Options) (location : String) (project : Project) : Course σ Unit := do
  let valid ← carryOut (database options project)
  carryOut (databaseConclusion valid)
  let steps ← schemas options project
  carryOut (.emit (steps.map .conclude))
  carryOut (.emit [progress ("Project DDL files generated in " ++ location)])

/-- What is done about a failure, if there is one. -/
def handle (project : Project) : Option Failure → Course σ Unit
  | none => pure ()
  | some failure => during (.handler failure) (carryOut (.emit (failureEvents project failure)))

end Course

/-- The result of a run in which the given events have happened, and which may have failed. -/
def Generator.conclusion {σ : Type} [Storage.Sink σ] (generator : Generator σ)
    (moment : Log.Moment) (events : List Event) (failure : Option Failure) : Result where
  outputPath := Storage.Sink.location generator.sink
  timestamp := moment.precise
  success := failure.isNone
  steps := Event.steps events
  files := (Event.files events).map (·.1)
  errors := (failure.map failureMessage).toList
  warnings := generator.keptWarnings events

namespace Course

variable {σ : Type} [Storage.Sink σ]

/-- A run on a project, in the context of the project. -/
def generateProject (generator : Generator σ) (moment : Log.Moment) (project : Project) :
    Course σ Result :=
  inContext { project := some project.name } do
    carryOut (.emit [Generator.startMark project])
    let tried ← attempt <|
      Course.project generator.options (Storage.Sink.location generator.sink) project
    handle project tried.failure
    let events := tried.done ++ tried.failure.elim [] (failureEvents project)
    let result := generator.conclusion moment events tried.failure
    carryOut (.emit [Generator.endMark result])
    return result

/-- A run on the root of a model, which should be a project. -/
def generate (generator : Generator σ) (moment : Log.Moment) : Option Node → Course σ Result
  | some (.project project) => generateProject generator moment project
  | _ => do
      carryOut (.emit [.report ⟨.error, Generator.noProjectMessage, none⟩])
      return (generator.refuse moment).result

/-! Each part of the generator at work does what the plan of that part says. -/

/-- Whatever happens while a table is generated only tells something, in the context that goes
with the site of the table, which is one of the given sites.  Nothing else is told apart, and no
entity is entered for it. -/
def TablesAt (sites : Site → Prop) (context : Site → Log.Context → Log.Context)
    (outer : Log.Context) (entry : Entry) : Prop :=
  match entry.work with
  | none => entry.event.context.entity = outer.entity
  | some (.table site) =>
      sites site ∧ entry.event.isTalk = true ∧ entry.event.context = context site outer
  | some (.handler _) => False

theorem TablesAt.imp {sites sites' : Site → Prop}
    {context context' : Site → Log.Context → Log.Context} {outer outer' : Log.Context}
    {entry : Entry} (h : TablesAt sites context outer entry)
    (houter : outer.entity = outer'.entity)
    (himp : ∀ site, sites site → sites' site ∧ context site outer = context' site outer') :
    TablesAt sites' context' outer' entry := by
  unfold TablesAt at *
  cases hwork : entry.work with
  | none =>
      rw [hwork] at h
      exact h.trans houter
  | some work =>
      rw [hwork] at h
      cases work with
      | table site =>
          obtain ⟨hsite, htalk, hcontext⟩ := h
          obtain ⟨hsite', hcontext'⟩ := himp site hsite
          exact ⟨hsite', htalk, hcontext.trans hcontext'⟩
      | handler failure => exact h

variable {sites : Site → Prop} {context : Site → Log.Context → Log.Context}

theorem follows_unplaced {α : Type} {plan : Plan α} (h : plan.IsUnplaced) :
    Follows (σ := σ) (carryOut plan) plan (TablesAt sites context) :=
  follows_carryOut h fun _ _ _ => rfl

section Tables

variable (setting : TableSetting) (dataModel : DataModel)

theorem follows_table (site : Site) (tablePrefix : String) (group : Table.Group) :
    Follows (σ := σ) (table setting site tablePrefix group)
      (.ofEdits group (setting.edits tablePrefix site.entity))
      fun outer entry => entry.work = some (.table site) ∧
        entry.event.isTalk = true ∧ entry.event.context = outer := by
  have hcarried : Follows (σ := σ)
      (carryOut (.ofEdits group (setting.edits tablePrefix site.entity)))
      (.ofEdits group (setting.edits tablePrefix site.entity))
      fun outer entry => entry.event.isTalk = true ∧ entry.event.context = outer := by
    have hplan := Plan.isUnplaced_ofEdits setting tablePrefix group site.entity
    refine follows_carryOut hplan fun event hevent outer => ⟨?_, rfl⟩
    obtain ⟨edit, hedit, hevent⟩ := Table.Group.exists_edit_of_mem_events_run hevent
    have htalk : event.isTalk = true := Table.isTalk_of_mem_entityEdits _ _ _ _ _ hedit hevent
    exact htalk
  exact hcarried.during fun outer entry hentry => ⟨rfl, hentry⟩

theorem follows_entity (site : Site) (tablePrefix : String) (group : Table.Group) :
    Follows (σ := σ) (Course.entity setting site tablePrefix group)
      (setting.entity tablePrefix group site.entity)
      (TablesAt (· = site) fun site => Log.Context.inside { entity := some site.entity.name }) := by
  rw [Course.entity, Course.bind_eq, TableSetting.entity, Plan.bind_eq]
  refine Follows.bind (follows_unplaced (Plan.isUnplaced_progress _ _)) fun _ => ?_
  have htable := follows_table (σ := σ) setting site tablePrefix group
  refine (htable.inContext rfl).imp fun outer entry hentry => ?_
  unfold TablesAt
  rw [hentry.1]
  exact ⟨rfl, hentry.2⟩

theorem follows_entities (diagram : Diagram) (group : Table.Group) (entities : List Entity) :
    Follows (σ := σ) (Course.entities setting dataModel diagram group entities)
      (setting.entities (diagram.tags.valueOf "prefix") group entities)
      (TablesAt (fun site => site.dataModel = dataModel ∧ site.diagram = some diagram ∧
          site.entity ∈ entities)
        fun site => Log.Context.inside { entity := some site.entity.name }) := by
  induction entities generalizing group with
  | nil => exact follows_pure group
  | cons entity entities ih =>
      refine Follows.bind ?_ fun next => (ih next).imp fun outer entry hentry => hentry.imp rfl ?_
      · refine (follows_entity setting ⟨dataModel, some diagram, entity⟩ _ group).imp
          fun outer entry hentry => hentry.imp rfl ?_
        rintro _ rfl
        exact ⟨⟨rfl, rfl, List.mem_cons_self⟩, rfl⟩
      · rintro site ⟨hmodel, hdiagram, hentity⟩
        exact ⟨⟨hmodel, hdiagram, List.mem_cons_of_mem _ hentity⟩, rfl⟩

theorem follows_diagram (diagram : Diagram) :
    Follows (σ := σ) (Course.diagram setting dataModel diagram) (setting.diagram diagram)
      (TablesAt (fun site => site.dataModel = dataModel ∧ site.diagram = some diagram ∧
          site.entity ∈ diagram.entities)
        fun site outer => Log.Context.inside { entity := some site.entity.name }
          (Log.Context.inside { diagram := some diagram.name } outer)) := by
  refine Follows.bind (follows_unplaced (σ := σ) (Plan.only_ofExcept _)) fun group => ?_
  have hfinish : ∀ stem group, (setting.finish stem group).IsUnplaced :=
    only_finish (fun _ _ => rfl) setting
  refine Follows.bind ?_ fun group => follows_unplaced (hfinish _ group)
  exact (follows_entities setting dataModel diagram group diagram.entities).inContext rfl

end Tables

end Course

/-- The entity is among the members, or the diagram is and holds the entity. -/
def Site.LiesAmong (site : Site) (members : List Member) : Prop :=
  match site.diagram with
  | none => .entity site.entity ∈ members
  | some diagram => .diagram diagram ∈ members ∧ site.entity ∈ diagram.entities

theorem Site.LiesAmong.cons {site : Site} {members : List Member} (h : site.LiesAmong members)
    (member : Member) : site.LiesAmong (member :: members) := by
  unfold LiesAmong at *
  cases hdiagram : site.diagram with
  | none =>
      rw [hdiagram] at h
      exact List.mem_cons_of_mem _ h
  | some diagram =>
      rw [hdiagram] at h
      exact ⟨List.mem_cons_of_mem _ h.1, h.2⟩

/-- The context in which the table of an entity is generated, within that of its data model. -/
def Site.context (site : Site) (outer : Log.Context) : Log.Context :=
  Log.Context.inside { entity := some site.entity.name } <|
    match site.diagram with
    | none => outer
    | some diagram => Log.Context.inside { diagram := some diagram.name } outer

namespace Course

variable {σ : Type} [Storage.Sink σ]

theorem follows_members (setting : TableSetting) (dataModel : DataModel)
    (progress : TableSetting.Progress) (members : List Member) :
    Follows (σ := σ) (Course.members setting dataModel progress members)
      (setting.members progress members)
      (TablesAt (fun site => site.dataModel = dataModel ∧ site.LiesAmong members)
        Site.context) := by
  induction members generalizing progress with
  | nil => exact follows_pure progress
  | cons member members ih =>
      have hrest : ∀ progress, Follows (σ := σ) (Course.members setting dataModel progress members)
          (setting.members progress members)
          (TablesAt (fun site => site.dataModel = dataModel ∧ site.LiesAmong (member :: members))
            Site.context) := by
        refine fun progress => (ih progress).imp fun outer entry hentry => hentry.imp rfl ?_
        rintro site ⟨hmodel, hsite⟩
        exact ⟨⟨hmodel, hsite.cons member⟩, rfl⟩
      cases member with
      | diagram diagram =>
          refine Follows.bind ?_ fun count => hrest _
          refine (follows_diagram setting dataModel diagram).imp
            fun outer entry hentry => hentry.imp rfl ?_
          rintro ⟨model, _, entity⟩ ⟨rfl, rfl, hentity⟩
          exact ⟨⟨rfl, List.mem_cons_self, hentity⟩, rfl⟩
      | entity entity =>
          refine Follows.bind ?_ fun loose => hrest _
          refine (follows_entity setting ⟨dataModel, none, entity⟩ "" progress.loose).imp
            fun outer entry hentry => hentry.imp rfl ?_
          rintro _ rfl
          exact ⟨⟨rfl, List.mem_cons_self⟩, rfl⟩

theorem follows_tables (setting : TableSetting) (dataModel : DataModel) :
    Follows (σ := σ) (Course.tables setting dataModel) (setting.tables dataModel)
      (TablesAt (fun site => site.dataModel = dataModel ∧ site.LiesAmong dataModel.members)
        Site.context) := by
  refine Follows.bind (follows_unplaced (Plan.only_ofExcept _)) fun group => ?_
  refine Follows.bind (follows_members setting dataModel ⟨group, 0⟩ _) fun progress => ?_
  exact Follows.bind (follows_unplaced (only_finish (fun _ _ => rfl) setting _ _)) fun loose =>
    follows_pure _

theorem follows_dataModel (options : Options) (index : Index) (model : DataModel) :
    Follows (σ := σ) (Course.dataModel options index model)
      (Generation.dataModel options index model)
      (TablesAt (fun site => site.dataModel = model ∧ site.LiesAmong model.members)
        Site.context) := by
  rw [Course.dataModel, Generation.dataModel]
  have hroutines : ∀ kind modelName, (routines options kind model modelName).IsUnplaced :=
    fun kind modelName => only_routines (fun _ _ => rfl) (fun _ => rfl) options kind model modelName
  refine Follows.bind (follows_unplaced (hroutines _ _)) fun functions => ?_
  refine Follows.bind (follows_unplaced (hroutines _ _)) fun procedures => ?_
  cases Naming.schemaName model.toElement with
  | error fault =>
      exact Follows.bind (follows_unplaced (Plan.only_emit (List.forall_mem_singleton.2 rfl)))
        fun _ => follows_pure _
  | ok schema =>
      exact Follows.bind (follows_tables _ model) fun count => follows_pure _

theorem follows_dataModels (options : Options) (index : Index) (run : SchemaRun)
    (models : List DataModel) :
    Follows (σ := σ) (Course.dataModels options index run models)
      (Generation.dataModels options index run models)
      (TablesAt (fun site => site.dataModel ∈ models ∧ site.LiesAmong site.dataModel.members)
        fun site outer =>
          site.context (Log.Context.inside { dataModel := some site.dataModel.name } outer)) := by
  induction models generalizing run with
  | nil => exact follows_pure run
  | cons model models ih =>
      rw [dataModels_cons]
      refine Follows.bind ?_ fun generated => ?_
      · refine ((follows_dataModel options index model).inContext rfl).imp
          fun outer entry hentry => hentry.imp rfl ?_
        rintro ⟨_, diagram, entity⟩ ⟨rfl, hsite⟩
        exact ⟨⟨List.mem_cons_self, hsite⟩, rfl⟩
      · refine Follows.bind (follows_unplaced (Plan.isUnplaced_gather _ _ _ _)) fun scripts => ?_
        refine (ih _).imp fun outer entry hentry => hentry.imp rfl ?_
        rintro site ⟨hmodel, hsite⟩
        exact ⟨⟨List.mem_cons_of_mem _ hmodel, hsite⟩, rfl⟩

/-- What the generator does with a project is what the plan of the project says. -/
theorem follows_project (options : Options) (location : String) (project : Project) :
    Follows (σ := σ) (Course.project options location project)
      (projectPlan options location project)
      (TablesAt
        (fun site => site.dataModel ∈ project.dataModels ∧ site.LiesAmong site.dataModel.members)
        fun site outer =>
          site.context (Log.Context.inside { dataModel := some site.dataModel.name } outer)) := by
  rw [projectPlan_eq]
  refine Follows.bind (follows_unplaced (Plan.isUnplaced_database options project))
    fun valid => ?_
  refine Follows.bind (follows_unplaced (Plan.isUnplaced_databaseConclusion valid)) fun _ => ?_
  refine Follows.bind ?_ fun steps => ?_
  · refine Follows.bind (follows_unplaced (Plan.only_ofExcept _)) fun pair => ?_
    refine Follows.bind (follows_dataModels options _ _ project.dataModels) fun run => ?_
    exact Follows.bind (follows_unplaced (only_finishSchemas (fun _ _ => rfl) run.scripts options))
      fun step => follows_pure _
  · have hsteps : (Plan.emit (steps.map Event.conclude)).IsUnplaced :=
      Plan.only_emit (List.forall_mem_map.2 fun _ _ => rfl)
    refine Follows.bind (follows_unplaced hsteps) fun _ => ?_
    exact follows_unplaced (Plan.isUnplaced_progress _ _)

section Whole

variable (generator : Generator σ) (moment : Log.Moment) (project : Project)

/-- What happens after a failure, if there is one, in the given context. -/
def handled (context : Log.Context) : Option Failure → List Entry
  | none => []
  | some failure => (failureEvents project failure).map fun event =>
      { event := event.placed context, work := some (.handler failure) }

theorem handle_eq (failure : Option Failure) (stack : Log.Stack) (sink : σ) :
    handle project failure stack sink =
      ⟨handled project stack.current failure, stack, sink, .ok ()⟩ := by
  cases failure <;> rfl

theorem generateProject_eq (stack : Log.Stack) (sink : σ) :
    generateProject generator moment project stack sink =
      let inner := stack.push (Log.Context.inside { project := some project.name } stack.current)
      let body := Course.project generator.options (Storage.Sink.location generator.sink) project
        inner sink
      let events := body.entries.map (·.event) ++ body.failure?.elim [] (failureEvents project)
      let result := generator.conclusion moment events body.failure?
      { entries := { event := (Generator.startMark project).placed inner.current } ::
          (body.entries ++ (handled project body.stack.current body.failure? ++
            [{ event := (Generator.endMark result).placed body.stack.current }]))
        stack := body.stack.pop
        sink := body.sink
        outcome := .ok result } := by
  simp only [generateProject, inContext, bind_eq, bind, attempt, handle_eq]
  rfl

end Whole

end Course

end Generation
end ErdSql
