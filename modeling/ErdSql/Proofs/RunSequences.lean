import ErdSql.Proofs.FailingSinks

/-!
# Runs one after the other

A generator may be given several roots, one after the other.  The runs share the sink and the
diagnostics that are kept, and nothing else.  The files of a result are those of its run; its
warnings are all that have been kept up to its end, so that they are those of its run only if
none were kept before.  A root that is no project is told no warnings at all.
-/

namespace ErdSql

theorem Diagnostic.warnings_append (earlier later : List Diagnostic) :
    warnings (earlier ++ later) = warnings earlier ++ warnings later := by
  simp [warnings, messages]

/-- The warnings among what a list of events reports. -/
def Event.warnings (events : List Event) : List String :=
  Diagnostic.warnings (Event.diagnostics events)

/-- Whether the root of a model is a project. -/
def Node.isProject? : Option Node → Bool
  | some (.project _) => true
  | _ => false

namespace Generation
namespace Generator

variable {σ : Type} [Storage.Sink σ]

/-- The runs of a generator for roots that are given one after the other, each at its time. -/
def runs (generator : Generator σ) : List (Log.Moment × Option Node) → List (Run σ)
  | [] => []
  | (moment, root) :: later =>
      let run := generator.generate moment root
      run :: (generator.after run).runs later

variable {generator : Generator σ} {kept : List Diagnostic}

omit [Storage.Sink σ] in
theorem history_after (hkept : generator.history = some kept) (run : Run σ) :
    (generator.after run).history = some (kept ++ Event.diagnostics run.events) := by
  simp [after, hkept]

/-- What a run on a project reports was reported on the way or because of its failure. -/
theorem diagnostics_generateProject (generator : Generator σ) (moment : Log.Moment)
    (project : Project) :
    Event.diagnostics (generator.generateProject moment project).events =
      Event.diagnostics
        ((generator.delivery project).done ++ generator.afterFailure project) := by
  rw [Event.diagnostics_append]
  exact filterMap_events generator moment project (fun _ _ => rfl) fun _ _ => rfl

/-- The warnings of one result: those kept before, and those of the run. -/
theorem warnings_generate (hkept : generator.history = some kept) (moment : Log.Moment)
    (root : Option Node) :
    (generator.generate moment root).result.warnings =
      if Node.isProject? root then
        Diagnostic.warnings kept ++ Event.warnings (generator.generate moment root).events
      else [] := by
  cases root with
  | none => rfl
  | some node =>
      cases node with
      | project project =>
          change generator.keptWarnings
              ((generator.delivery project).done ++ generator.afterFailure project) =
            Diagnostic.warnings kept ++
              Event.warnings (generator.generateProject moment project).events
          rw [Event.warnings, diagnostics_generateProject, keptWarnings, hkept,
            ← Diagnostic.warnings_append]
      | dataModel dataModel => rfl
      | diagram diagram => rfl
      | entity entity => rfl
      | column column => rfl

theorem files_generate (generator : Generator σ) (moment : Log.Moment) (root : Option Node) :
    (generator.generate moment root).result.files =
      (Event.files (generator.generate moment root).events).map (·.1) := by
  cases root with
  | none => rfl
  | some node =>
      cases node with
      | project project =>
          change (generator.generateProject moment project).result.files =
            (Event.files (generator.generateProject moment project).events).map (·.1)
          rw [files_result, files_generateProject]
      | dataModel dataModel => rfl
      | diagram diagram => rfl
      | entity entity => rfl
      | column column => rfl

/-- A root that is no project leads to an error, and to no warning. -/
theorem warnings_events_of_not_isProject (generator : Generator σ) (moment : Log.Moment)
    {root : Option Node} (hroot : Node.isProject? root = false) :
    Event.warnings (generator.generate moment root).events = [] := by
  cases root with
  | none => rfl
  | some node =>
      cases node with
      | project project => cases hroot
      | dataModel dataModel => rfl
      | diagram diagram => rfl
      | entity entity => rfl
      | column column => rfl

/-- The warnings that are kept when a run begins: those from before the first run, and those of
the runs before it. -/
def warningsBefore (kept : List Diagnostic) (earlier : List (Run σ)) : List String :=
  Diagnostic.warnings kept ++ earlier.flatMap fun run => Event.warnings run.events

omit [Storage.Sink σ] in
theorem warningsBefore_cons (kept : List Diagnostic) (run : Run σ) (earlier : List (Run σ)) :
    warningsBefore kept (run :: earlier) =
      warningsBefore (kept ++ Event.diagnostics run.events) earlier := by
  simp [warningsBefore, Diagnostic.warnings_append, Event.warnings]

/-- What the result of each run of a sequence tells of its own run. -/
theorem result_runs (hkept : generator.history = some kept)
    {roots : List (Log.Moment × Option Node)} {k : Nat} {moment : Log.Moment}
    {root : Option Node} {run : Run σ} (hroot : roots[k]? = some (moment, root))
    (hrun : (generator.runs roots)[k]? = some run) :
    run.result.files = (Event.files run.events).map (·.1) ∧
      run.result.warnings =
        (if Node.isProject? root then
          warningsBefore kept ((generator.runs roots).take k) ++ Event.warnings run.events
        else []) ∧
      (Node.isProject? root = false → Event.warnings run.events = []) := by
  induction roots generalizing generator kept k with
  | nil => simp at hroot
  | cons first later ih =>
      obtain ⟨moment', root'⟩ := first
      cases k with
      | zero =>
          simp only [List.getElem?_cons_zero, Option.some.injEq, Prod.mk.injEq] at hroot
          obtain ⟨rfl, rfl⟩ := hroot
          simp only [runs, List.getElem?_cons_zero, Option.some.injEq] at hrun
          subst hrun
          refine ⟨files_generate generator moment' root', ?_,
            warnings_events_of_not_isProject generator moment'⟩
          rw [warnings_generate hkept]
          simp [warningsBefore]
      | succ k =>
          simp only [List.getElem?_cons_succ] at hroot
          simp only [runs, List.getElem?_cons_succ] at hrun
          have hnext := ih (history_after hkept (generator.generate moment' root')) hroot hrun
          rw [runs, List.take_succ_cons, warningsBefore_cons]
          exact hnext

/-- The warnings of the result of a run are those that the run reports exactly if the root is no
project or no warning was kept before; its files are always those of the run. -/
theorem warnings_runs_eq_iff (generator : Generator σ) (kept : List Diagnostic)
    (hkept : generator.history = some kept) (roots : List (Log.Moment × Option Node)) (k : Nat)
    (moment : Log.Moment) (root : Option Node) (run : Run σ)
    (hroot : roots[k]? = some (moment, root)) (hrun : (generator.runs roots)[k]? = some run) :
    run.result.files = (Event.files run.events).map (·.1) ∧
      run.result.warnings =
        (if Node.isProject? root then
          warningsBefore kept ((generator.runs roots).take k) ++ Event.warnings run.events
        else []) ∧
      (run.result.warnings = Event.warnings run.events ↔
        Node.isProject? root = false ∨
          warningsBefore kept ((generator.runs roots).take k) = []) := by
  obtain ⟨hfiles, hwarnings, hnone⟩ := result_runs hkept hroot hrun
  refine ⟨hfiles, hwarnings, ?_⟩
  rw [hwarnings]
  cases hproject : Node.isProject? root with
  | true => simp
  | false => simp [hnone hproject]

/-- A project with a data model whose schema has no name that can be used. -/
def misnamedSchemaProject : Project :=
  { name := "Shop", dataModels := [{ name := "Sales", tags := [.ofString "schema" "sales-2"] }] }

/-- The project, given twice. -/
def misnamedSchemaTwice : List (Log.Moment × Option Node) :=
  [(newYear, some (.project misnamedSchemaProject)),
    (newYear, some (.project misnamedSchemaProject))]

/-- The second run reports one warning, and its result tells two. -/
theorem warnings_runs_eq_iff_misnamedSchema :
    ∃ run, (memoryGenerator.runs misnamedSchemaTwice)[1]? = some run ∧
      run.result.files = ["db_create.sql", "db_drop.sql"] ∧
      Event.warnings run.events = ["Schema name not valid: sales-2"] ∧
      run.result.warnings =
        ["Schema name not valid: sales-2", "Schema name not valid: sales-2"] ∧
      run.result.warnings ≠ Event.warnings run.events := by
  let again := (memoryGenerator.after
    (memoryGenerator.generate newYear (some (.project misnamedSchemaProject)))).generate newYear
      (some (.project misnamedSchemaProject))
  have hrun : (memoryGenerator.runs misnamedSchemaTwice)[1]? = some again := rfl
  obtain ⟨hfiles, -, hiff⟩ := warnings_runs_eq_iff memoryGenerator [] rfl misnamedSchemaTwice 1
    newYear (some (.project misnamedSchemaProject)) again rfl hrun
  have hbefore : warningsBefore [] ((memoryGenerator.runs misnamedSchemaTwice).take 1) ≠ [] := by
    decide +kernel
  refine ⟨again, hrun, ?_, by decide +kernel, by decide +kernel, ?_⟩
  · rw [hfiles]
    decide +kernel
  · rw [Ne, hiff]
    simp [hbefore, Node.isProject?]

end Generator
end Generation
end ErdSql
