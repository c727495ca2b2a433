import ErdSql.Proofs.Notices
import ErdSql.Proofs.Outcomes

/-!
# Results that agree with themselves

What a run reports of itself is told in several places: in its success, in its errors, in its steps,
in the diagnostics, and in the summary.  They agree however the run ends, also where it is refused
or where a fault ends it early, and the files are those whose writes were completed.
-/

namespace ErdSql

namespace Storage

/-- A sink with a record of the writes that were completed. -/
structure Recorder (σ : Type) where
  sink : σ
  completed : List (String × String) := []

variable {σ : Type} [Sink σ]

def Recorder.write (recorder : Recorder σ) (path text : String) : Recorder σ × Option Fault :=
  let (sink, fault) := Sink.write recorder.sink path text
  let completed :=
    if fault.isSome then recorder.completed else recorder.completed ++ [(path, text)]
  (⟨sink, completed⟩, fault)

instance : Sink (Recorder σ) where
  location recorder := Sink.location recorder.sink
  write := Recorder.write
  noted recorder := Sink.noted recorder.sink

section Writes

variable {sink : σ} (completed : List (String × String)) {path text : String}

theorem Recorder.write_eq :
    Sink.write (Recorder.mk sink completed) path text =
      (⟨(Sink.write sink path text).1,
        if (Sink.write sink path text).2.isSome then completed
        else completed ++ [(path, text)]⟩, (Sink.write sink path text).2) :=
  rfl

theorem Recorder.write_of_fault {fault : Fault} (h : (Sink.write sink path text).2 = some fault) :
    Sink.write (Recorder.mk sink completed) path text =
      (⟨(Sink.write sink path text).1, completed⟩, some fault) := by
  rw [Recorder.write_eq, h]
  rfl

theorem Recorder.write_of_completed (h : (Sink.write sink path text).2 = none) :
    Sink.write (Recorder.mk sink completed) path text =
      (⟨(Sink.write sink path text).1, completed ++ [(path, text)]⟩, none) := by
  rw [Recorder.write_eq, h]
  rfl

end Writes

end Storage

namespace StepResult

/-- The step ended in one of the ways that a result counts. -/
def IsCounted (step : StepResult) : Prop :=
  step.status = .success ∨ step.status = .failed ∨ step.status = .skipped

theorem count_add_count {steps : List StepResult} (h : ∀ step ∈ steps, step.IsCounted) :
    count .success steps + count .failed steps + count .skipped steps = steps.length := by
  induction steps with
  | nil => rfl
  | cons step steps ih =>
      rw [List.forall_mem_cons] at h
      have hrest := ih h.2
      unfold count at *
      rw [List.length_cons]
      rcases h.1 with hstatus | hstatus | hstatus
      · simp [hstatus]
        omega
      · simp [hstatus]
        omega
      · simp [hstatus]
        omega

end StepResult

namespace Generation

open Plan Storage

section Steps

variable {options : Options}

theorem isCounted_of_mem_schemas {project : Project} {steps : List StepResult}
    (h : (schemas options project).outcome = .ok steps) : ∀ step ∈ steps, step.IsCounted := by
  obtain ⟨⟨unit, hunit⟩, -⟩ := (shows_schemas options project).gives_of_ok h
  rw [endsWith_schemas hunit project] at h
  obtain ⟨-, rfl⟩ := Sql.ifWritable_eq_ok h
  rw [List.forall_mem_append, List.forall_mem_map, List.forall_mem_singleton]
  constructor
  · intro model _
    unfold dataModelStep
    cases Naming.schemaName model.toElement with
    | error fault => exact Or.inr (Or.inr rfl)
    | ok schema => exact Or.inl rfl
  · unfold schemasStep
    simp only
    split
    · exact Or.inr (Or.inr rfl)
    · exact Or.inl rfl

theorem forall_steps_bind {α β : Type} {plan : Plan α} {next : α → Plan β}
    {P : StepResult → Prop} (h : ∀ step ∈ Event.steps plan.events, P step)
    (hnext : ∀ a, plan.outcome = .ok a → ∀ step ∈ Event.steps (next a).events, P step) :
    ∀ step ∈ Event.steps (plan.bind next).events, P step := by
  cases houtcome : plan.outcome with
  | error fault =>
      unfold Plan.bind
      rw [houtcome]
      exact h
  | ok a =>
      rw [bind_events_of_ok houtcome, Event.steps_append]
      exact List.forall_mem_append.2 ⟨h, hnext a houtcome⟩

theorem steps_emit_conclude (steps : List StepResult) :
    Event.steps (Plan.emit (steps.map .conclude)).events = steps :=
  (shows_conclude steps).eq_of_ok rfl

/-- Each step that the plan of a project concludes is counted. -/
theorem isCounted_of_mem_projectPlan (options : Options) (location : String) (project : Project) :
    ∀ step ∈ Event.steps (projectPlan options location project).events, step.IsCounted := by
  have hnone : ∀ {α : Type} {plan : Plan α} {files : List (String × Sql.Script)}
      {Gives : α → Prop}, Shows Event.output? plan (Event.written files) Gives →
        ∀ step ∈ Event.steps plan.events, step.IsCounted := by
    intro α plan files Gives hplan
    have hsteps := List.eq_nil_of_prefix_nil (shows_steps hplan).isPrefix
    unfold Event.steps
    rw [hsteps]
    exact List.forall_mem_nil _
  rw [projectPlan_eq]
  refine forall_steps_bind (hnone (shows_database options ⟨[]⟩ project)) fun valid _ => ?_
  refine forall_steps_bind ?_ fun _ _ => ?_
  · cases valid with
    | false => exact List.forall_mem_singleton.2 (Or.inr (Or.inr rfl))
    | true => exact List.forall_mem_singleton.2 (Or.inl rfl)
  · refine forall_steps_bind (hnone (shows_schemas options project)) fun steps hsteps => ?_
    refine forall_steps_bind ?_ fun _ _ => List.forall_mem_nil _
    rw [steps_emit_conclude]
    exact isCounted_of_mem_schemas hsteps

end Steps

section Told

/-- Whether an error is one of the run itself, and not of a name in the model. -/
def tellsOfRun (d : Diagnostic) : Bool :=
  d.severity = .error && (d.message = Generator.noProjectMessage ||
    "Project generation failed: ".toList.isPrefixOf d.message.toList)

theorem tellsOfRun_noProjectMessage :
    tellsOfRun ⟨.error, Generator.noProjectMessage, none⟩ = true := by
  unfold tellsOfRun
  rw [Bool.and_eq_true, Bool.or_eq_true]
  exact ⟨rfl, Or.inl (decide_eq_true rfl)⟩

theorem tellsOfRun_failureMessage (failure : Failure) :
    tellsOfRun ⟨.error, failureMessage failure, none⟩ = true := by
  have hbegins : "Project generation failed: ".toList <+: (failureMessage failure).toList :=
    ⟨failure.message.toList, String.toList_append.symm⟩
  unfold tellsOfRun
  rw [Bool.and_eq_true, Bool.or_eq_true]
  exact ⟨rfl, Or.inr (List.isPrefixOf_iff_prefix.2 hbegins)⟩

theorem severity_of_tellsOfRun {d : Diagnostic} (h : tellsOfRun d = true) :
    d.severity = .error := by
  rw [tellsOfRun, Bool.and_eq_true] at h
  exact of_decide_eq_true h.1

/-- What tells of the run starts with its own letters. -/
theorem head?_of_tellsOfRun {d : Diagnostic} (h : tellsOfRun d = true) :
    d.message.toList.head? = some 'N' ∨ d.message.toList.head? = some 'P' := by
  rw [tellsOfRun, Bool.and_eq_true, Bool.or_eq_true] at h
  rcases h.2 with hmessage | hbegins
  · rw [of_decide_eq_true hmessage]
    simp [Generator.noProjectMessage]
  · obtain ⟨rest, hrest⟩ := List.isPrefixOf_iff_prefix.1 hbegins
    rw [← hrest]
    exact Or.inr rfl

/-- What is said about a name that cannot be used does not tell of the run. -/
theorem tellsOfRun_nameFault (fault : Naming.NameFault) : tellsOfRun fault.diagnostic = false := by
  refine Bool.eq_false_iff.2 fun h => ?_
  have hhead := head?_of_tellsOfRun h
  cases fault <;> simp [Naming.NameFault.diagnostic, String.toList_append] at hhead

theorem exists_nameFault_of_column {column : Column} {d : Diagnostic}
    (h : column.fault? = some d) : ∃ fault : Naming.NameFault, d = fault.diagnostic := by
  unfold Column.fault? at h
  cases hname : Naming.columnName column.toElement with
  | error fault =>
      rw [hname] at h
      exact ⟨fault, (Option.some.inj h).symm⟩
  | ok name =>
      rw [hname] at h
      cases h

theorem exists_nameFault_of_routine {tag : Tag} {d : Diagnostic}
    (h : tag.routineFault? = some d) : ∃ fault : Naming.NameFault, d = fault.diagnostic := by
  unfold Tag.routineFault? at h
  cases hname : Naming.routineName tag with
  | error fault =>
      rw [hname] at h
      exact ⟨fault, (Option.some.inj h).symm⟩
  | ok name =>
      rw [hname] at h
      cases h

theorem exists_nameFault_of_mem_entityFaults {options : Options} {tablePrefix : String}
    {entity : Entity} {d : Diagnostic} (h : d ∈ Table.entityFaults options tablePrefix entity) :
    ∃ fault : Naming.NameFault, d = fault.diagnostic := by
  unfold Table.entityFaults at h
  cases hname : Naming.prefixedTableName tablePrefix entity.toElement with
  | error fault =>
      rw [hname] at h
      exact ⟨fault, List.mem_singleton.1 h⟩
  | ok tableName =>
      rw [hname] at h
      rcases List.mem_append.1 h with h | h
      · obtain ⟨column, -, hcolumn⟩ := List.mem_filterMap.1 h
        exact exists_nameFault_of_column hcolumn
      · obtain ⟨tag, -, htag⟩ := List.mem_filterMap.1 h
        exact exists_nameFault_of_routine htag

theorem exists_nameFault_of_mem_modelFaults {options : Options} {model : DataModel}
    {d : Diagnostic} (h : d ∈ modelFaults options model) :
    ∃ fault : Naming.NameFault, d = fault.diagnostic := by
  rw [modelFaults, List.mem_append, List.mem_append] at h
  rcases h with (h | h) | h
  · obtain ⟨tag, -, htag⟩ := List.mem_filterMap.1 h
    exact exists_nameFault_of_routine htag
  · obtain ⟨tag, -, htag⟩ := List.mem_filterMap.1 h
    exact exists_nameFault_of_routine htag
  · obtain ⟨⟨tablePrefix, entity⟩, -, hentity⟩ := List.mem_flatMap.1 h
    exact exists_nameFault_of_mem_entityFaults hentity

/-- No diagnostic of the plan of a project tells of the run: its errors are faults of names. -/
theorem tellsOfRun_of_mem_projectPlan {options : Options} {location : String} {project : Project}
    {d : Diagnostic} (h : d ∈ Event.diagnostics (projectPlan options location project).events) :
    tellsOfRun d = false := by
  refine Bool.eq_false_iff.2 fun htells => ?_
  have hseverity := severity_of_tellsOfRun htells
  have hnotice : d ∈ projectNotices options location project := by
    refine (notices_projectPlan options location project).isPrefix.subset ?_
    rw [Event.filterMap_notice?]
    exact List.mem_filter.2 ⟨h, by simp [hseverity]⟩
  have hfault : d ∈ project.dataModels.flatMap (modelFaults options) := by
    rw [← errors_projectNotices options location project]
    exact List.mem_filter.2 ⟨hnotice, by simp [hseverity]⟩
  obtain ⟨model, -, hmodel⟩ := List.mem_flatMap.1 hfault
  obtain ⟨fault, rfl⟩ := exists_nameFault_of_mem_modelFaults hmodel
  cases htells.symm.trans (tellsOfRun_nameFault fault)

end Told

section Recorded

variable {σ : Type} [Sink σ]

/-- On a sink with a record the same is delivered, and the record has the files that were. -/
theorem deliver_recorder (sink : σ) (completed : List (String × String)) (events : List Event) :
    deliver (Recorder.mk sink completed) events =
      ⟨(deliver sink events).done,
        ⟨(deliver sink events).sink, completed ++ Event.files (deliver sink events).done⟩,
        (deliver sink events).fault⟩ := by
  induction events generalizing sink completed with
  | nil =>
      change (⟨[], ⟨sink, completed⟩, none⟩ : Delivery (Recorder σ)) =
        ⟨[], ⟨sink, completed ++ []⟩, none⟩
      rw [List.append_nil]
  | cons event events ih =>
      cases hfile : event.file? with
      | none =>
          rw [deliver_cons_of_file?_eq_none hfile, deliver_cons_of_file?_eq_none hfile, ih,
            files_cons_of_none hfile]
      | some file =>
          obtain ⟨path, text⟩ := file
          cases hwrite : (Sink.write sink path text).2 with
          | none =>
              have hrecorded := Recorder.write_of_completed completed hwrite
              rw [deliver_cons_of_written hfile (congrArg Prod.snd hrecorded),
                deliver_cons_of_written hfile hwrite, hrecorded, ih, files_cons_of_some hfile,
                List.append_assoc]
              rfl
          | some fault =>
              have hrecorded := Recorder.write_of_fault completed hwrite
              rw [deliver_cons_of_fault hfile (congrArg Prod.snd hrecorded),
                deliver_cons_of_fault hfile hwrite, hrecorded]
              change _ = (⟨[], ⟨_, completed ++ []⟩, _⟩ : Delivery (Recorder σ))
              rw [List.append_nil]

end Recorded

section Summaries

variable {result : Result}

theorem Result.totalSteps_summary : result.summary.totalSteps = result.steps.length :=
  rfl

theorem Result.filesWritten_summary : result.summary.filesWritten = result.files.length :=
  rfl

theorem Result.counts_summary (h : ∀ step ∈ result.steps, step.IsCounted) :
    result.summary.successful + result.summary.failed + result.summary.skipped =
      result.summary.totalSteps :=
  StepResult.count_add_count h

end Summaries

/-- What a run reports of itself agrees. -/
structure Run.IsConsistent {σ : Type} (run : Run σ) : Prop where
  success_iff_errors : run.result.success = true ↔ run.result.errors = []
  success_iff_steps :
    run.result.success = true ↔ ∀ step ∈ run.result.steps, step.status ≠ .failed
  /-- A run that fails has one error, and one failed step, its last. -/
  failure : run.result.success = false → run.result.errors.length = 1 ∧
    ∃ (steps : List StepResult) (last : StepResult),
      run.result.steps = steps ++ [last] ∧ last.status = .failed ∧
        ∀ step ∈ steps, step.status ≠ .failed
  /-- The diagnostics that tell of the run are its errors. -/
  told : ((Event.diagnostics run.events).filter tellsOfRun).map (·.message) = run.result.errors
  totalSteps : run.result.summary.totalSteps = run.result.steps.length
  counts : run.result.summary.successful + run.result.summary.failed +
    run.result.summary.skipped = run.result.summary.totalSteps
  filesWritten : run.result.summary.filesWritten = run.result.files.length

namespace Generator

variable {σ : Type} [Sink σ] (generator : Generator σ) (moment : Log.Moment)

theorem isConsistent_refuse : (generator.refuse moment).IsConsistent where
  success_iff_errors := by simp [refuse]
  success_iff_steps := by simp [refuse]
  failure _ := ⟨rfl, [], _, rfl, rfl, List.forall_mem_nil _⟩
  told := by
    change ([⟨.error, noProjectMessage, none⟩].filter tellsOfRun).map Diagnostic.message = _
    rw [List.filter_cons_of_pos tellsOfRun_noProjectMessage]
    rfl
  totalSteps := rfl
  counts := rfl
  filesWritten := rfl

section Project

variable (project : Project)

/-- Of the run only its failure tells. -/
theorem diagnostics_filter_tellsOfRun :
    (Event.diagnostics (generator.generateProject moment project).events).filter tellsOfRun =
      ((generator.failure? project).map fun failure =>
        ⟨.error, failureMessage failure, none⟩).toList := by
  have hdiagnostics : Event.diagnostics (generator.generateProject moment project).events =
      Event.diagnostics (generator.delivery project).done ++
        Event.diagnostics (generator.afterFailure project) :=
    filterMap_events generator moment project (fun _ _ => rfl) fun _ _ => rfl
  have hdone : (Event.diagnostics (generator.delivery project).done).filter tellsOfRun = [] := by
    have hbegins := deliver_done_prefix generator.sink (generator.plan project).events
    refine List.filter_eq_nil_iff.2 fun d hd => Bool.eq_false_iff.1 ?_
    exact tellsOfRun_of_mem_projectPlan ((hbegins.filterMap Event.diagnostic?).subset hd)
  rw [hdiagnostics, List.filter_append, hdone, List.nil_append, afterFailure_eq_elim]
  cases generator.failure? project with
  | none => rfl
  | some failure =>
      change [_].filter tellsOfRun = [_]
      rw [List.filter_cons_of_pos (tellsOfRun_failureMessage failure), List.filter_nil]

theorem isConsistent_generateProject :
    (generator.generateProject moment project).IsConsistent := by
  have hbegins := deliver_done_prefix generator.sink (generator.plan project).events
  have hdone := (hbegins.filterMap Event.step?).subset
  have hunfailed : ∀ step ∈ Event.steps (generator.delivery project).done,
      step.status ≠ .failed :=
    fun step hstep => status_ne_failed_of_mem_steps_projectPlan (hdone hstep)
  have hcounted : ∀ step ∈ Event.steps (generator.delivery project).done, step.IsCounted :=
    fun step hstep => isCounted_of_mem_projectPlan _ _ project step (hdone hstep)
  have hsuccess : (generator.generateProject moment project).result.success =
      (generator.failure? project).isNone := rfl
  have herrors : (generator.generateProject moment project).result.errors =
      ((generator.failure? project).map failureMessage).toList := rfl
  have hsteps := steps_result generator moment project
  have htold := diagnostics_filter_tellsOfRun generator moment project
  rw [steps_afterFailure] at hsteps
  have hall : ∀ step ∈ (generator.generateProject moment project).result.steps,
      step.IsCounted := by
    rw [hsteps, List.forall_mem_append]
    refine ⟨hcounted, ?_⟩
    cases generator.failure? project with
    | none => exact List.forall_mem_nil _
    | some failure => exact List.forall_mem_singleton.2 (Or.inr (Or.inl rfl))
  refine ⟨?_, ?_, ?_, ?_, Result.totalSteps_summary, Result.counts_summary hall,
    Result.filesWritten_summary⟩
  · rw [hsuccess, herrors]
    cases generator.failure? project <;> simp
  · rw [hsuccess, hsteps]
    cases generator.failure? project with
    | none => simpa using hunfailed
    | some failure => simp [failureStep]
  · rw [hsuccess, hsteps, herrors]
    cases generator.failure? project with
    | none => nofun
    | some failure => exact fun _ => ⟨rfl, _, failureStep failure, rfl, rfl, hunfailed⟩
  · rw [htold, herrors]
    cases generator.failure? project <;> rfl

theorem result_generateProject :
    (generator.generateProject moment project).result =
      { outputPath := Sink.location generator.sink
        timestamp := moment.precise
        success := (generator.failure? project).isNone
        steps :=
          Event.steps ((generator.delivery project).done ++ generator.afterFailure project)
        files :=
          (Event.files ((generator.delivery project).done ++ generator.afterFailure project)).map
            (·.1)
        errors := ((generator.failure? project).map failureMessage).toList
        warnings := generator.keptWarnings
          ((generator.delivery project).done ++ generator.afterFailure project) } := by
  unfold generateProject
  rfl

end Project

/-- The generator with a record of the writes that its sink completes. -/
def recorded : Generator (Recorder σ) where
  options := generator.options
  sink := { sink := generator.sink }
  history := generator.history

/-- On a sink with a record a run has the same result, and its files are those of the record. -/
theorem generateProject_recorded (project : Project) :
    (generator.recorded.generateProject moment project).result =
        (generator.generateProject moment project).result ∧
      (generator.recorded.generateProject moment project).sink =
        ⟨(generator.generateProject moment project).sink,
          Event.files (generator.delivery project).done⟩ := by
  have hdelivery : generator.recorded.delivery project =
      ⟨(generator.delivery project).done,
        ⟨(generator.delivery project).sink, Event.files (generator.delivery project).done⟩,
        (generator.delivery project).fault⟩ :=
    deliver_recorder generator.sink [] (generator.plan project).events
  have hfailure : generator.recorded.failure? project = generator.failure? project := by
    unfold failure?
    rw [hdelivery]
    rfl
  constructor
  · rw [result_generateProject, result_generateProject, afterFailure_eq_elim,
      afterFailure_eq_elim, hfailure, hdelivery]
    rfl
  · change (generator.recorded.delivery project).sink = _
    rw [hdelivery]
    rfl

/-- Whatever is asked for, and wherever a fault ends it, what a run reports of itself agrees, and it
has a file for each write that was completed. -/
theorem generate_isConsistent (root : Option Node) :
    (generator.generate moment root).IsConsistent ∧
      (generator.recorded.generate moment root).result =
        (generator.generate moment root).result ∧
      (generator.recorded.generate moment root).sink.sink =
        (generator.generate moment root).sink ∧
      (generator.recorded.generate moment root).sink.completed.map (·.1) =
        (generator.generate moment root).result.files := by
  have hrefused : (generator.refuse moment).IsConsistent ∧
      (generator.recorded.refuse moment).result = (generator.refuse moment).result ∧
      (generator.recorded.refuse moment).sink.sink = (generator.refuse moment).sink ∧
      (generator.recorded.refuse moment).sink.completed.map (·.1) =
        (generator.refuse moment).result.files :=
    ⟨isConsistent_refuse generator moment, rfl, rfl, rfl⟩
  cases root with
  | none => exact hrefused
  | some node =>
      cases node with
      | project project =>
          obtain ⟨hresult, hsink⟩ := generateProject_recorded generator moment project
          refine ⟨isConsistent_generateProject generator moment project, hresult, ?_, ?_⟩
          · exact congrArg Recorder.sink hsink
          · change (generator.recorded.generateProject moment project).sink.completed.map _ =
              (generator.generateProject moment project).result.files
            rw [hsink, files_result]
      | dataModel _ => exact hrefused
      | diagram _ => exact hrefused
      | entity _ => exact hrefused
      | column _ => exact hrefused

end Generator

end Generation
end ErdSql
