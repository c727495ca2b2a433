import ErdSql.Proofs.FailingSinks
import ErdSql.Proofs.LogRecords
import ErdSql.Proofs.NestedRuns

/-!
# What log records say about the work at hand

A log record carries the context in which it is written.  While the table of an entity is
generated, that is the entity, its diagram if it is in one, its data model and the project,
whatever has been generated before.  After a failure it is the project alone, within what has
surrounded the run.  A run leaves the contexts as they were, and that a program has a stack of
them changes nothing about what the run does.
-/

namespace ErdSql

/-- No data model, diagram or entity is named, and no other value is attached. -/
structure Log.Context.NamesNoElement (context : Log.Context) : Prop where
  dataModel : context.dataModel = none
  diagram : context.diagram = none
  entity : context.entity = none
  extra : context.extra = []

namespace Generation

/-- The entity is one of the project, in the diagram and the data model of the site. -/
def Site.LiesIn (site : Site) (project : Project) : Prop :=
  site.dataModel ∈ project.dataModels ∧ site.LiesAmong site.dataModel.members

/-- The context in which the table of an entity of a project is generated, where no element of
the project is named in what surrounds the run. -/
theorem Site.context_eq (site : Site) (project : Project) {outer : Log.Context}
    (h : outer.NamesNoElement) :
    site.context (Log.Context.inside { dataModel := some site.dataModel.name }
        (Log.Context.inside { project := some project.name } outer)) =
      { outer with
        project := some project.name
        dataModel := some site.dataModel.name
        diagram := site.diagram.map (·.name)
        entity := some site.entity.name } := by
  unfold Site.context
  cases site.diagram with
  | none => simp [Log.Context.inside, Json.overwrite, h.diagram]
  | some diagram => simp [Log.Context.inside, Json.overwrite]

section Whole

variable {σ : Type} [Storage.Sink σ] (generator : Generator σ) (moment : Log.Moment)
  (project : Project)

/-- What a run comes to does not depend on the contexts. -/
theorem Generator.conclusion_map_within (context : Log.Context) (done added : List Event)
    (failure : Option Failure) :
    generator.conclusion moment (done.map (Event.within context) ++ added) failure =
      generator.conclusion moment (done ++ added) failure := by
  have hview : ∀ {γ : Type} (view : Event → Option γ),
      (∀ event, view (event.within context) = view event) →
        (done.map (Event.within context) ++ added).filterMap view =
          (done ++ added).filterMap view := by
    intro γ view hwithin
    rw [List.filterMap_append, List.filterMap_append, Event.filterMap_map_within context hwithin]
  unfold conclusion keptWarnings Event.steps Event.files Event.diagnostics
  rw [hview Event.step? fun _ => rfl, hview Event.file? fun _ => rfl,
    hview Event.diagnostic? fun _ => rfl]

theorem Generator.result_eq_conclusion :
    (generator.generateProject moment project).result =
      generator.conclusion moment
        ((generator.delivery project).done ++ generator.afterFailure project)
        (generator.failure? project) := rfl

theorem Course.failure?_of_tells {α : Type} {plan : Plan α}
    {place : Log.Context → Entry → Prop} {stack : Log.Stack} {sink : σ} {trail : Trail σ α}
    (h : Tells plan place stack sink trail) :
    trail.failure? = (((deliver sink plan.events).fault.map Failure.storage) <|>
      (plan.fault?.map Failure.build)) := by
  unfold Trail.failure?
  rw [h.outcome_eq]
  cases (deliver sink plan.events).fault with
  | some fault => rfl
  | none =>
      unfold Plan.ending Plan.fault?
      cases plan.outcome <;> rfl

/-- The context of a run on a project. -/
abbrev Course.projectContext (outer : Log.Context) : Log.Context :=
  Log.Context.inside { project := some project.name } outer

theorem context_of_mem_failureEvents {failure : Failure} {event : Event}
    (h : event ∈ failureEvents project failure) : event.context = {} := by
  simp only [failureEvents, List.mem_cons, List.not_mem_nil, or_false] at h
  rcases h with rfl | rfl | rfl
  · rfl
  · rfl
  · rfl

theorem Generator.context_of_mem_afterFailure {event : Event}
    (h : event ∈ generator.afterFailure project) : event.context = {} := by
  unfold afterFailure at h
  split at h
  · exact context_of_mem_failureEvents project h
  · cases h

theorem Course.map_event_handled (context : Log.Context) :
    (handled project context (generator.failure? project)).map (·.event) =
      (generator.afterFailure project).map (Event.within context) := by
  rw [Generator.afterFailure_eq_elim]
  cases generator.failure? project with
  | none => rfl
  | some failure =>
      rw [handled, List.map_map]
      exact List.map_congr_left fun event hevent =>
        (Event.within_eq_placed (context_of_mem_failureEvents project hevent) context).symm

/-- The events of a run, within what surrounds it. -/
theorem Generator.events_within (outer : Log.Context) :
    (generator.generateProject moment project).events.map (Event.within outer) =
      (startMark project :: (generator.delivery project).done ++ generator.afterFailure project ++
        [endMark (generator.generateProject moment project).result]).map
          (Event.within (Course.projectContext project outer)) := by
  have hplan := (Course.follows_project (σ := σ) generator.options
    (Storage.Sink.location generator.sink) project).extra
  have hdone := deliver_done_prefix generator.sink (generator.plan project).events
  rw [events_generateProject, List.map_map]
  refine List.map_congr_left fun event hevent => Event.within_within ?_ _ outer
  rcases List.mem_append.1 hevent with hevent | hevent
  · rcases List.mem_append.1 hevent with hevent | hevent
    · rcases List.mem_cons.1 hevent with rfl | hevent
      · rfl
      · exact hplan event (hdone.subset hevent)
    · rw [context_of_mem_afterFailure generator project hevent]
  · rw [List.mem_singleton.1 hevent]
    rfl

/-- A run leaves the contexts as they were, and does what the run does that puts the contexts
around the events. -/
theorem Course.generateProject_refines (stack : Log.Stack) :
    let trail := Course.generateProject generator moment project stack generator.sink
    let run := generator.generateProject moment project
    trail.stack = stack ∧ trail.outcome = .ok run.result ∧ trail.sink = run.sink ∧
      trail.entries.map (·.event) = run.events.map (Event.within stack.current) := by
  have hbody := (follows_project generator.options (Storage.Sink.location generator.sink)
    project).tells (stack.push (projectContext project stack.current)) generator.sink
  have hfailure := failure?_of_tells hbody
  obtain ⟨hstack, hevents, hsink, -, -⟩ := hbody
  -- the attempt ends as the delivery does, and leaves the context of the project to be left
  change _ = generator.failure? project at hfailure
  change _ = (generator.delivery project).sink at hsink
  change _ = (generator.delivery project).done.map
    (Event.within (projectContext project stack.current)) at hevents
  have hresult := Generator.conclusion_map_within generator moment
    (projectContext project stack.current) (generator.delivery project).done
    (generator.afterFailure project) (generator.failure? project)
  rw [← Generator.result_eq_conclusion] at hresult
  simp only [generateProject_eq, hfailure, hevents, hstack, hsink,
    ← Generator.afterFailure_eq_elim, hresult]
  refine ⟨rfl, trivial, rfl, ?_⟩
  have hcurrent : (stack.push (projectContext project stack.current)).current =
      projectContext project stack.current := rfl
  rw [Generator.events_within, hcurrent]
  simp only [List.map_cons, List.map_append, hevents, map_event_handled, List.map_nil,
    List.cons_append, List.append_assoc]
  rw [Event.within_eq_placed rfl, Event.within_eq_placed rfl]

/-- What happens in the course of a run, by the work in the course of which it happens. -/
theorem Course.entry_of_mem_generateProject {stack : Log.Stack} {entry : Entry}
    (h : entry ∈ (generateProject generator moment project stack generator.sink).entries) :
    (∀ site, entry.work = some (.table site) →
      site.LiesIn project ∧ entry.event.isTalk = true ∧
        entry.event.context = site.context (Log.Context.inside
          { dataModel := some site.dataModel.name } (projectContext project stack.current))) ∧
    (∀ failure, entry.work = some (.handler failure) →
      ∃ event ∈ failureEvents project failure,
        entry.event = event.placed (projectContext project stack.current)) ∧
    ((∀ site, entry.work ≠ some (.table site)) →
      entry.event.context.entity = stack.current.entity) := by
  have hbody := (follows_project generator.options (Storage.Sink.location generator.sink)
    project).tells (stack.push (projectContext project stack.current)) generator.sink
  have hfailure := failure?_of_tells hbody
  have hplace := hbody.place_of_mem
  rw [generateProject_eq] at h
  simp only [hfailure, hbody.stack_eq, List.mem_cons, List.mem_append, List.not_mem_nil,
    or_false] at h
  rcases h with rfl | h | h | rfl
  · exact ⟨nofun, nofun, fun _ => rfl⟩
  · have hentry := hplace entry h
    unfold TablesAt at hentry
    refine ⟨fun site hwork => ?_, fun failure hwork => ?_, fun hwork => ?_⟩
    · rw [hwork] at hentry
      exact hentry
    · rw [hwork] at hentry
      exact hentry.elim
    · split at hentry
      · exact hentry
      · exact absurd ‹_› (hwork _)
      · exact hentry.elim
  · unfold handled at h
    split at h
    · cases h
    · obtain ⟨event, hevent, rfl⟩ := List.mem_map.1 h
      refine ⟨nofun, fun failure hwork => ?_, fun _ => rfl⟩
      cases hwork
      exact ⟨event, hevent, rfl⟩
  · exact ⟨nofun, nofun, fun _ => rfl⟩

section Records

variable {shownAt : Log.Moment} {written : String → String → String} {followsReports : Bool}
  {record : Log.Record}

/-- While a table is generated, records name its entity, diagram, data model and project. -/
theorem Course.record_of_table {stack : Log.Stack} (hstack : stack.current.NamesNoElement)
    {entry : Entry}
    (h : entry ∈ (generateProject generator moment project stack generator.sink).entries)
    {site : Site} (hwork : entry.work = some (.table site))
    (hrecord : entry.event.record? shownAt written followsReports = some record) :
    site.LiesIn project ∧
      record.context = { stack.current with
        project := some project.name
        dataModel := some site.dataModel.name
        diagram := site.diagram.map (·.name)
        entity := some site.entity.name } ∧
      record.value? "project" = some (.string project.name) ∧
      record.value? "data_model" = some (.string site.dataModel.name) ∧
      record.value? "diagram" = site.diagram.map (fun diagram => .string diagram.name) ∧
      record.value? "entity" = some (.string site.entity.name) := by
  obtain ⟨hsite, htalk, hcontext⟩ := (entry_of_mem_generateProject _ _ _ h).1 site hwork
  rw [Site.context_eq site project hstack] at hcontext
  have hvalue : ∀ field : Log.Field, record.value? field.name =
      (entry.event.context.get field).map .string := by
    intro field
    have hname : field.name ≠ "element" := by cases field <;> decide
    have hextra : entry.event.context.extra = [] := by
      rw [hcontext]
      exact hstack.extra
    exact (Event.value?_of_isTalk htalk hrecord hname).trans
      (Log.Context.member?_members hextra field)
  rw [hcontext] at hvalue
  refine ⟨hsite, (Event.context_of_record? hrecord).trans hcontext, hvalue .project,
    hvalue .dataModel, ?_, hvalue .entity⟩
  refine (hvalue .diagram).trans ?_
  cases site.diagram <;> rfl

/-- After a failure, records name the project, and nothing else that the run has set. -/
theorem Course.record_of_handler {stack : Log.Stack} {entry : Entry}
    (h : entry ∈ (generateProject generator moment project stack generator.sink).entries)
    {failure : Failure} (hwork : entry.work = some (.handler failure))
    (hrecord : entry.event.record? shownAt written followsReports = some record) :
    record.context = { stack.current with project := some project.name } ∧
      ∀ name, record.value? name = Json.member? name record.context.members := by
  obtain ⟨event, hevent, hentry⟩ := (entry_of_mem_generateProject _ _ _ h).2.1 failure hwork
  rw [hentry] at hrecord
  simp only [failureEvents, List.mem_cons, List.not_mem_nil, or_false] at hevent
  rcases hevent with rfl | rfl | rfl
  · cases hrecord
    exact ⟨rfl, fun name => Log.Record.value?_inContext _ _ _ _ _ _ List.not_mem_nil⟩
  · cases followsReports with
    | false => cases hrecord
    | true =>
        cases hrecord
        exact ⟨rfl, fun name => Log.Record.value?_inContext _ _ _ _ _ _ List.not_mem_nil⟩
  · cases hrecord

end Records

/-- A run that fails comes to its failure, and records it. -/
theorem Course.exists_entry_of_failure (stack : Log.Stack)
    (h : (generator.generateProject moment project).result.success = false) :
    ∃ failure, ∃ entry ∈ (generateProject generator moment project stack generator.sink).entries,
      entry.work = some (.handler failure) ∧
        entry.event.action = .note .error loggerName
          ("Project generation failed for " ++ project.name) (some failure.cause) := by
  have hbody := (follows_project generator.options (Storage.Sink.location generator.sink)
    project).tells (stack.push (projectContext project stack.current)) generator.sink
  have hfailure := failure?_of_tells hbody
  change _ = generator.failure? project at hfailure
  have hsome : (generator.failure? project).isNone = false := h
  rw [generateProject_eq]
  simp only [hfailure]
  cases hfault : generator.failure? project with
  | none => simp [hfault] at hsome
  | some failure =>
      refine ⟨failure, _, List.mem_cons_of_mem _ (List.mem_append_right _
        (List.mem_append_left _ List.mem_cons_self)), rfl, rfl⟩

theorem Course.generate_refines (root : Option Node) (stack : Log.Stack) :
    let trail := Course.generate generator moment root stack generator.sink
    let run := generator.generate moment root
    trail.stack = stack ∧ trail.outcome = .ok run.result ∧ trail.sink = run.sink ∧
      trail.entries.map (·.event) = run.events.map (Event.within stack.current) := by
  have hrefused : [(Event.report ⟨.error, Generator.noProjectMessage, none⟩).placed stack.current] =
      (generator.refuse moment).events.map (Event.within stack.current) :=
    congrArg (fun event => [event]) (Event.within_eq_placed rfl stack.current).symm
  cases root with
  | none => exact ⟨rfl, rfl, rfl, hrefused⟩
  | some node =>
      cases node with
      | project project => exact generateProject_refines generator moment project stack
      | dataModel dataModel => exact ⟨rfl, rfl, rfl, hrefused⟩
      | diagram diagram => exact ⟨rfl, rfl, rfl, hrefused⟩
      | entity entity => exact ⟨rfl, rfl, rfl, hrefused⟩
      | column column => exact ⟨rfl, rfl, rfl, hrefused⟩

/-- A run leaves the contexts as they were, whether it comes to its end or to a failure, and a
program with a stack of them does what the run does, in the innermost context.  If no element is
named in that context, a record that is written while a table is generated names the entity, its
data model and the project, and a diagram exactly if the entity is in it.  After a failure a record
names the project and shows, besides, what has surrounded the run and nothing else.  No other
record names an entity of the project. -/
theorem Course.generate_scopes (root : Option Node) (stack : Log.Stack) :
    let trail := Course.generate generator moment root stack generator.sink
    let run := generator.generate moment root
    (trail.stack = stack ∧ trail.outcome = .ok run.result ∧ trail.sink = run.sink ∧
      trail.entries.map (·.event) = run.events.map (Event.within stack.current)) ∧
    ∀ project, root = some (.project project) →
      (∀ entry ∈ trail.entries, ∀ (shownAt : Log.Moment) (written : String → String → String)
        (followsReports : Bool) (record : Log.Record),
        entry.event.record? shownAt written followsReports = some record →
          (∀ site, entry.work = some (.table site) → stack.current.NamesNoElement →
            site.LiesIn project ∧
              record.context = { stack.current with
                project := some project.name
                dataModel := some site.dataModel.name
                diagram := site.diagram.map (·.name)
                entity := some site.entity.name } ∧
              record.value? "project" = some (.string project.name) ∧
              record.value? "data_model" = some (.string site.dataModel.name) ∧
              record.value? "diagram" = site.diagram.map (fun diagram => .string diagram.name) ∧
              record.value? "entity" = some (.string site.entity.name)) ∧
          (∀ failure, entry.work = some (.handler failure) →
            record.context = { stack.current with project := some project.name } ∧
              ∀ name, record.value? name = Json.member? name record.context.members) ∧
          ((∀ site, entry.work ≠ some (.table site)) →
            record.context.entity = stack.current.entity)) ∧
      (run.result.success = false → ∃ failure, ∃ entry ∈ trail.entries,
        entry.work = some (.handler failure) ∧
          entry.event.action = .note .error loggerName
            ("Project generation failed for " ++ project.name) (some failure.cause)) := by
  intro trail run
  refine ⟨generate_refines generator moment root stack, ?_⟩
  rintro project rfl
  refine ⟨fun entry hentry shownAt written followsReports record hrecord => ⟨?_, ?_, ?_⟩, ?_⟩
  · intro site hwork hstack
    exact record_of_table generator moment project hstack hentry hwork hrecord
  · intro failure hwork
    exact record_of_handler generator moment project hentry hwork hrecord
  · intro hwork
    rw [Event.context_of_record? hrecord]
    exact (entry_of_mem_generateProject generator moment project hentry).2.2 hwork
  · exact exists_entry_of_failure generator moment project stack

end Whole

section Bookshop

/-- A project with a table in a diagram, and after it one that is in no diagram. -/
def bookshopProject : Project :=
  { name := "Bookshop"
    dataModels := [
      { name := "Sales"
        members := [
          .diagram { name := "Orders", entities := [{ name := "Item" }] },
          .entity { name := "Remark" }] }] }

/-- The sink has no room for the file of the tables that are in no diagram. -/
def fifthFails : Generator (Storage.Faulty Storage.Memory) :=
  { sink := { sink := {}, failing := 5, fault := .full } }

/-- The contexts of a program that generates many projects. -/
def batchStack : Log.Stack :=
  ⟨[{ project := some "Batch", correlationId := some "b-7" }]⟩

/-- The entities and the diagrams of what happens while tables are generated. -/
def tableContexts (entries : List Entry) : List (Option String × Option String) :=
  entries.filterMap fun entry =>
    match entry.work with
    | some (.table _) => some (entry.event.context.entity, entry.event.context.diagram)
    | _ => none

/-- The second table shows no diagram, the failure shows neither table, and the contexts of the
program are as before. -/
theorem Course.generate_scopes_bookshop :
    let trail := Course.generate fifthFails Generator.newYear (some (.project bookshopProject))
      batchStack fifthFails.sink
    trail.stack = batchStack ∧
      tableContexts trail.entries = [(some "Item", some "Orders"), (some "Remark", none)] ∧
      (∀ entry ∈ trail.entries, ∀ site, entry.work = some (.table site) →
        ∀ record, entry.event.record? Generator.newYear (fun _ _ => "") true = some record →
          record.value? "project" = some (.string "Bookshop") ∧
            record.value? "diagram" = site.diagram.map (fun diagram => .string diagram.name)) ∧
      ∃ failure, ∃ entry ∈ trail.entries, entry.work = some (.handler failure) ∧
        ∀ record, entry.event.record? Generator.newYear (fun _ _ => "") true = some record →
          record.context = { project := some "Bookshop", correlationId := some "b-7" } := by
  intro trail
  have hbatch : batchStack.current.NamesNoElement := ⟨rfl, rfl, rfl, rfl⟩
  obtain ⟨⟨hstack, -⟩, hproject⟩ := generate_scopes fifthFails Generator.newYear
    (some (.project bookshopProject)) batchStack
  obtain ⟨hrecords, hfails⟩ := hproject bookshopProject rfl
  obtain ⟨failure, entry, hentry, hwork, -⟩ := hfails (by decide +kernel)
  refine ⟨hstack, by decide +kernel, ?_, failure, entry, hentry, hwork, ?_⟩
  · intro entry hentry site hwork record hrecord
    obtain ⟨-, -, hname, -, hdiagram, -⟩ :=
      (hrecords entry hentry _ _ _ record hrecord).1 site hwork hbatch
    exact ⟨hname, hdiagram⟩
  · intro record hrecord
    exact ((hrecords entry hentry _ _ _ record hrecord).2.1 failure hwork).1

end Bookshop

end Generation
end ErdSql
