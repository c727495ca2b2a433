import ErdSql.Proofs.Fidelity

/-!
# Scripts handed to the sink

What holds of the scripts of each artifact holds of the scripts that a run hands to the sink: each
of them is the script of an artifact, and after a run that succeeds none is missing.
-/

namespace ErdSql
namespace Generation

open Storage

/-- The sink is handed scripts of artifacts: those that create an artifact are of the one kind,
those that drop it of the other.  After a run that succeeds every artifact that is to be written
has been handed over. -/
structure Run.Hands {σ : Type} [Sink σ] (run : Run σ) (generator : Generator σ)
    (project : Project) (Creates Drops : Artifact → Sql.Script → Prop) : Prop where
  sink : run.sink = written generator.sink
    ((generator.attempts project).map fun (path, script) => (path, script.text))
  each : ∀ path script, (path, script) ∈ generator.attempts project →
    ∃ artifact ∈ artifacts project, artifact.isWritten generator.options = true ∧
      (path = createPath artifact.stem ∧ Creates artifact script ∨
        path = dropPath artifact.stem ∧ Drops artifact script)
  complete : run.result.success = true →
    ∀ artifact ∈ artifacts project, artifact.isWritten generator.options = true →
      ∃ script, (createPath artifact.stem, script) ∈ generator.attempts project ∧
        Creates artifact script

theorem Artifact.eq_scripts_of_mem_files {options : Options} {index : Index}
    {artifact : Artifact} {path : String} {script : Sql.Script}
    (h : (path, script) ∈ artifact.files options index) :
    artifact.isWritten options = true ∧ ∃ unit, options.indentUnit = .ok unit ∧
      (path = createPath artifact.stem ∧ script = (artifact.scripts unit options index).create ∨
        path = dropPath artifact.stem ∧ script = (artifact.scripts unit options index).drop) := by
  cases hunit : options.indentUnit with
  | error fault =>
      rw [files, hunit] at h
      cases h
  | ok unit =>
      rw [files_of_indentUnit hunit] at h
      split at h
      · rename_i hwritten
        refine ⟨hwritten, unit, rfl, ?_⟩
        rcases List.mem_cons.1 h with h | h
        · exact Or.inl (Prod.mk.inj h)
        · split at h
          · exact Or.inr (Prod.mk.inj (List.mem_singleton.1 h))
          · cases h
      · cases h

namespace Generator

variable {σ : Type} [Sink σ] (generator : Generator σ) (moment : Log.Moment) (project : Project)

/-- A run hands over what its artifacts are made of. -/
theorem generateProject_hands {Creates Drops : Artifact → Sql.Script → Prop}
    (hcreate : ∀ unit, generator.options.indentUnit = .ok unit → ∀ artifact,
      Creates artifact (artifact.scripts unit generator.options (.ofProject project)).create)
    (hdrop : ∀ unit, generator.options.indentUnit = .ok unit → ∀ artifact,
      Drops artifact (artifact.scripts unit generator.options (.ofProject project)).drop) :
    (generator.generateProject moment project).Hands generator project Creates Drops := by
  refine ⟨sink_generateProject generator moment project, ?_, ?_⟩
  · intro path script hfile
    obtain ⟨artifact, hartifact, hmem⟩ :=
      List.mem_flatMap.1 ((attempts_isPrefix generator project).subset hfile)
    obtain ⟨hwritten, unit, hunit, ⟨hpath, rfl⟩ | ⟨hpath, rfl⟩⟩ :=
      Artifact.eq_scripts_of_mem_files hmem
    · exact ⟨artifact, hartifact, hwritten, Or.inl ⟨hpath, hcreate unit hunit artifact⟩⟩
    · exact ⟨artifact, hartifact, hwritten, Or.inr ⟨hpath, hdrop unit hunit artifact⟩⟩
  · intro hsuccess artifact hartifact hwritten
    obtain ⟨unit, hunit⟩ := exists_indentUnit_of_success generator moment project hsuccess
    rw [attempts_of_success generator moment project hsuccess]
    refine ⟨_, List.mem_flatMap.2 ⟨artifact, hartifact, ?_⟩, hcreate unit hunit artifact⟩
    rw [Artifact.files_of_indentUnit hunit, if_pos hwritten]
    exact List.mem_cons_self ..

end Generator

end Generation
end ErdSql
