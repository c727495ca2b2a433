import ErdSql.Proofs.ForeignKeyFiles
import ErdSql.Proofs.QuotedTexts
import ErdSql.Proofs.SoundScripts

/-!
# Fidelity of texts

What a server reads where a script writes a text of the modeller is the text itself.  Every script
that is handed to the sink holds the quotations of its artifact and can be read, for it is sound
and they stand at its outermost level.  A text without a literal ends the run before the script
that would hold it is handed to the sink.
-/

namespace ErdSql
namespace Generation

open Storage

/-- The texts of the model can be read where they are written.  The sink is handed the scripts of
artifacts, each with the quotations of its artifact, and after a run that succeeds none of them is
missing; a text with a null character ends the run before its artifact is written. -/
structure Run.IsFaithful {σ : Type} [Sink σ] (run : Run σ) (generator : Generator σ)
    (project : Project) (handed : List (String × Sql.Script)) : Prop where
  sink : run.sink = written generator.sink
    (handed.map fun (path, script) => (path, script.text))
  quotes : ∀ path script, (path, script) ∈ handed →
    ∃ artifact ∈ artifacts project, artifact.isWritten generator.options = true ∧
      (path = createPath artifact.stem ∧ script.Quotes (artifact.quotations generator.options) ∨
        path = dropPath artifact.stem ∧ script.Quotes [])
  complete : run.result.success = true →
    ∀ artifact ∈ artifacts project, artifact.isWritten generator.options = true →
      ∃ script, (createPath artifact.stem, script) ∈ handed ∧
        script.Quotes (artifact.quotations generator.options)
  stops : ∀ before artifact after, artifacts project = before ++ artifact :: after →
    artifact.isWritten generator.options = true →
      ∀ value ∈ artifact.literals generator.options, Sql.nullChar ∈ value.toList →
        run.result.success = false ∧
          handed <+: before.flatMap (Artifact.files generator.options (.ofProject project))

theorem prefix_of_not_mem {α : Type} {before after list : List α} {a : α}
    (h : list <+: before ++ a :: after) (ha : a ∉ list) : list <+: before := by
  have hbefore := List.prefix_append before (a :: after)
  rcases List.prefix_or_prefix_of_prefix h hbefore with hlist | ⟨rest, rfl⟩
  · exact hlist
  · cases rest with
    | nil => exact (List.append_nil before).symm ▸ List.prefix_refl _
    | cons b rest =>
        obtain ⟨rfl, -⟩ := List.cons_prefix_cons.1 ((List.prefix_append_right_inj before).1 h)
        exact absurd (List.mem_append_right _ (List.mem_cons_self ..)) ha

namespace Artifact

variable {options : Options} {index : Index} {artifact : Artifact}

/-- A sound script of an artifact quotes what the artifact does if it creates the artifact, and
nothing if it drops it. -/
theorem quotes_of_mem_files {path : String} {script : Sql.Script}
    (h : (path, script) ∈ artifact.files options index) (hsound : script.isSound = true) :
    path = createPath artifact.stem ∧ script.Quotes (artifact.quotations options) ∨
      path = dropPath artifact.stem ∧ script.Quotes [] := by
  obtain ⟨-, ⟨hpath, hitems⟩ | ⟨hpath, hitems⟩⟩ := eq_of_mem_files h
  · refine Or.inl ⟨hpath, Sql.Script.quotes_of_filterMap hsound ?_⟩
    rw [hitems, quotation?_createItems]
  · refine Or.inr ⟨hpath, Sql.Script.quotes_of_filterMap hsound ?_⟩
    rw [hitems, quotation?_dropItems]
    rfl

theorem not_isSound_of_nullChar {unit value : String} (hvalue : value ∈ artifact.literals options)
    (hnull : Sql.nullChar ∈ value.toList) :
    (artifact.scripts unit options index).create.isSound = false := by
  refine Bool.eq_false_iff.2 fun hsound => ?_
  have hliteral := hasLiteral_of_mem_literals hsound hvalue
  exact (Sql.hasLiteral_iff value).1 hliteral hnull

end Artifact

namespace Generator

variable {σ : Type} [Sink σ] (generator : Generator σ) (moment : Log.Moment) (project : Project)

theorem isSound_of_mem_attempts {file : String × Sql.Script}
    (h : file ∈ generator.attempts project) : file.2.isSound = true :=
  isSound_of_mem_scripts ((Generation.attempts_isPrefix _ _).subset h)

theorem attempts_of_success
    (h : (generator.generateProject moment project).result.success = true) :
    generator.attempts project = projectFiles generator.options project := by
  obtain ⟨hfault, -⟩ := (success_iff generator moment project).1 h
  rw [attempts, attempts_of_fault_eq_none hfault]
  exact (shows_projectPlan generator.options _ project).eq_of_ok
    (outcome_of_success generator moment project h)

/-- A run that succeeds hands over the script of every artifact that is to be written. -/
theorem exists_mem_attempts_of_success
    (h : (generator.generateProject moment project).result.success = true) {artifact : Artifact}
    (hartifact : artifact ∈ artifacts project)
    (hwritten : artifact.isWritten generator.options = true) :
    ∃ unit, (createPath artifact.stem,
      (artifact.scripts unit generator.options (.ofProject project)).create) ∈
        generator.attempts project := by
  obtain ⟨unit, hunit⟩ := exists_indentUnit_of_success generator moment project h
  rw [attempts_of_success generator moment project h]
  refine ⟨unit, List.mem_flatMap.2 ⟨artifact, hartifact, ?_⟩⟩
  rw [Artifact.files_of_indentUnit hunit, if_pos hwritten]
  exact List.mem_cons_self ..

/-- A text with a null character in an artifact that is to be written keeps the run from the
scripts of the artifact and of all that come after it. -/
theorem attempts_isPrefix_of_nullChar {before after : List Artifact} {artifact : Artifact}
    (hartifacts : artifacts project = before ++ artifact :: after)
    (hwritten : artifact.isWritten generator.options = true) {value : String}
    (hvalue : value ∈ artifact.literals generator.options)
    (hnull : Sql.nullChar ∈ value.toList) :
    generator.attempts project <+:
      before.flatMap (Artifact.files generator.options (.ofProject project)) := by
  have hprefix := attempts_isPrefix generator project
  cases hunit : generator.options.indentUnit with
  | error fault =>
      have hnone : projectFiles generator.options project = [] := by
        refine List.flatMap_eq_nil_iff.2 fun artifact _ => ?_
        rw [Artifact.files, hunit]
      rw [hnone] at hprefix
      exact hprefix.trans List.nil_prefix
  | ok unit =>
      rw [projectFiles, hartifacts, List.flatMap_append, List.flatMap_cons,
        Artifact.files_of_indentUnit hunit artifact, if_pos hwritten, ScriptPair.files,
        List.cons_append] at hprefix
      refine prefix_of_not_mem hprefix fun hmem => ?_
      have hsound := isSound_of_mem_attempts generator project hmem
      rw [Artifact.not_isSound_of_nullChar hvalue hnull] at hsound
      cases hsound

/-- What a run writes can be read: every literal gives back the text of the model that it stands
for, and reading stops where the literal ends. -/
theorem generate_isFaithful :
    (generator.generate moment (some (.project project))).IsFaithful generator project
      (generator.attempts project) := by
  change (generator.generateProject moment project).IsFaithful generator project
    (generator.attempts project)
  refine ⟨sink_generateProject generator moment project, ?_, ?_, ?_⟩
  · intro path script hfile
    obtain ⟨artifact, hartifact, hmem⟩ :=
      List.mem_flatMap.1 ((attempts_isPrefix generator project).subset hfile)
    exact ⟨artifact, hartifact, (Artifact.eq_of_mem_files hmem).1,
      Artifact.quotes_of_mem_files hmem (isSound_of_mem_attempts generator project hfile)⟩
  · intro hsuccess artifact hartifact hwritten
    obtain ⟨unit, hfile⟩ :=
      exists_mem_attempts_of_success generator moment project hsuccess hartifact hwritten
    exact ⟨_, hfile, Sql.Script.quotes_of_filterMap
      (isSound_of_mem_attempts generator project hfile)
      (Artifact.quotation?_createItems generator.options _ artifact)⟩
  · intro before artifact after hartifacts hwritten value hvalue hnull
    refine ⟨Bool.eq_false_iff.2 fun hsuccess => ?_,
      attempts_isPrefix_of_nullChar generator project hartifacts hwritten hvalue hnull⟩
    have hartifact : artifact ∈ artifacts project :=
      hartifacts ▸ List.mem_append_right _ (List.mem_cons_self ..)
    obtain ⟨unit, hfile⟩ :=
      exists_mem_attempts_of_success generator moment project hsuccess hartifact hwritten
    have hsound := isSound_of_mem_attempts generator project hfile
    rw [Artifact.not_isSound_of_nullChar hvalue hnull] at hsound
    cases hsound

end Generator

end Generation
end ErdSql
