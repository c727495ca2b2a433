import ErdSql.Proofs.Artifacts
import ErdSql.Proofs.ScriptText

/-!
# Pairs of scripts

How the scripts of an artifact come about.  A pair that is made of lines has the lines as its
items unless one of them cannot be written, and the script that creates an artifact has content
exactly if the artifact is written.
-/

namespace ErdSql
namespace Sql

/-- The value if all that is written can be written, and the fault of a text without a literal
otherwise. -/
def ifWritable {α : Type} (writable : Bool) (a : α) : Except BuildFault α :=
  if writable then .ok a else .error .nullCharacter

theorem ifWritable_eq_ok {α : Type} {writable : Bool} {a b : α}
    (h : ifWritable writable a = .ok b) : writable = true ∧ a = b := by
  cases writable with
  | false => cases h
  | true => exact ⟨rfl, Except.ok.inj h⟩

end Sql

namespace Generation

section Scripts

/-- Adding lines at the outermost level fails exactly at a line that is not writable. -/
theorem extend_eq {script : Sql.Script} (hlevel : script.level = 0) (lines : List PlacedLine) :
    extend script lines =
      Sql.ifWritable (lines.all (·.line.isWritable))
        { script with items := script.items ++ lines.map (·.item) } := by
  induction lines generalizing script with
  | nil => simp [extend, Sql.ifWritable]
  | cons placed lines ih =>
      cases hwritable : placed.line.isWritable with
      | false => simp [extend, Sql.Script.write, hwritable, Sql.ifWritable]
      | true =>
          have hnext : (script.addAt placed.depth placed.line).level = 0 := hlevel
          have hstep : extend script (placed :: lines) =
              extend (script.addAt placed.depth placed.line) lines := by
            simp [extend, Sql.Script.write, hwritable]
          rw [hstep, ih hnext]
          simp [hwritable, Sql.Script.addAt, PlacedLine.item, hlevel]

/-- A pair of scripts without lines. -/
def ScriptPair.ofUnit (unit : String) : ScriptPair :=
  ⟨.empty unit, .empty unit⟩

/-- The pair with items added to both scripts. -/
def ScriptPair.withItems (pair : ScriptPair) (create drop : List Sql.ScriptItem) : ScriptPair :=
  ⟨{ pair.create with items := pair.create.items ++ create },
    { pair.drop with items := pair.drop.items ++ drop }⟩

theorem ScriptPair.empty_ok {options : Options} {pair : ScriptPair}
    (h : ScriptPair.empty options = .ok pair) :
    ∃ unit, options.indentUnit = .ok unit ∧ pair = .ofUnit unit := by
  unfold ScriptPair.empty at h
  cases hunit : options.indentUnit with
  | error fault =>
      rw [hunit] at h
      cases h
  | ok unit =>
      rw [hunit] at h
      cases h
      exact ⟨unit, rfl, rfl⟩

theorem ScriptPair.extend_eq {pair : ScriptPair} (hcreate : pair.create.level = 0)
    (hdrop : pair.drop.level = 0) (create drop : List PlacedLine) :
    pair.extend create drop =
      Sql.ifWritable (create.all (·.line.isWritable) && drop.all (·.line.isWritable))
        (pair.withItems (create.map (·.item)) (drop.map (·.item))) := by
  unfold ScriptPair.extend
  rw [Generation.extend_eq hcreate, Generation.extend_eq hdrop]
  cases create.all (·.line.isWritable) <;> cases drop.all (·.line.isWritable) <;> rfl

theorem ScriptPair.extend_ok {pair extended : ScriptPair} {create drop : List PlacedLine}
    (hcreate : pair.create.level = 0) (hdrop : pair.drop.level = 0)
    (h : pair.extend create drop = .ok extended) :
    extended = pair.withItems (create.map (·.item)) (drop.map (·.item)) := by
  rw [ScriptPair.extend_eq hcreate hdrop] at h
  exact (Sql.ifWritable_eq_ok h).2.symm

theorem Artifact.scripts_eq_withItems (unit : String) (options : Options) (index : Index)
    (artifact : Artifact) :
    artifact.scripts unit options index =
      (ScriptPair.ofUnit unit).withItems (artifact.createItems options index)
        (artifact.dropItems options index) := by
  simp [scripts, ScriptPair.withItems, ScriptPair.ofUnit, Sql.Script.empty]

end Scripts

section Content

variable (unit : String) (options : Options) (index : Index)

/-- The scripts of routines have content if one of the routines has a name. -/
theorem hasContent_routines (kind : Sql.RoutineKind) (dataModel : DataModel) :
    ((Artifact.routines kind dataModel).scripts unit options index).create.hasContent =
      (Artifact.routines kind dataModel).isWritten options := by
  simp only [Artifact.isWritten]
  cases hnamed : namedRoutines (dataModel.tags.pointingAt (routineMarker options kind)) with
  | nil =>
      refine Sql.Script.hasContent_of_items_eq_nil ?_
      simp only [Artifact.scripts, Artifact.createItems, hnamed]
      rfl
  | cons routine rest =>
      have hmem : (PlacedLine.ofStatement (.createRoutine kind routine.name)).item ∈
          ((Artifact.routines kind dataModel).scripts unit options index).create.items := by
        simp only [Artifact.scripts, Artifact.createItems, hnamed]
        simp [createRoutineLines]
      refine Sql.Script.hasContent_of_mem hmem ?_
      change Text.isAllBlank ("CREATE OR REPLACE " ++ kind.keyword ++ " " ++ routine.name) = false
      simp only [Text.isAllBlank_append]
      rfl

theorem hasContent_schemas (project : Project) :
    ((Artifact.schemas project).scripts unit options index).create.hasContent =
      (Artifact.schemas project).isWritten options := by
  simp only [Artifact.isWritten]
  cases hnew : newSchemas [] project.dataModels with
  | nil =>
      refine Sql.Script.hasContent_of_items_eq_nil ?_
      simp only [Artifact.scripts, Artifact.createItems, hnew]
      rfl
  | cons new rest =>
      have hmem : (PlacedLine.ofStatement (.createSchema new.2 options.owner)).item ∈
          ((Artifact.schemas project).scripts unit options index).create.items := by
        simp only [Artifact.scripts, Artifact.createItems, hnew]
        simp [schemaLines]
      refine Sql.Script.hasContent_of_mem hmem ?_
      change Text.isAllBlank ("CREATE SCHEMA " ++ new.2 ++ " AUTHORIZATION " ++ options.owner ++
        ";") = false
      simp only [Text.isAllBlank_append]
      rfl

theorem hasContent_tables (schema : String) (file : TableFile) :
    ((Artifact.tables schema file).scripts unit options index).create.hasContent =
      (Artifact.tables schema file).isWritten options := by
  simp only [Artifact.isWritten]
  cases hgenerated : file.isGenerated with
  | false =>
      refine Sql.Script.hasContent_of_items_eq_nil ?_
      exact TableFile.createItems_eq_nil options index schema hgenerated
  | true =>
      obtain ⟨entity, hentity, hname⟩ := List.any_eq_true.1 hgenerated
      obtain ⟨tableName, hname⟩ := Table.exists_tableName hname
      have hblock := TableFile.tableItems_infix options index schema hentity hname
      have hmem := hblock.subset (List.mem_append_left _ (List.mem_cons_self ..))
      refine Sql.Script.hasContent_of_mem hmem ?_
      change Text.isAllBlank ("CREATE TABLE " ++ (schema ++ "." ++ tableName) ++ " (") = false
      simp only [Text.isAllBlank_append]
      rfl

end Content

end Generation
end ErdSql
