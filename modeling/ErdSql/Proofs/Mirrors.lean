import ErdSql.Proofs.FailingSinks
import ErdSql.Proofs.TableBlocks

/-!
# Scripts that mirror each other

The script that drops an artifact drops what the script beside it creates.  For tables this holds
block by block: each table is dropped before its types, which are created before it.  Routines and
schemas are dropped in the order in which they are created.
-/

namespace ErdSql
namespace Generation

/-- The entities of the file that become tables, each behind the name of its table. -/
def TableFile.generated (schema : String) (file : TableFile) : List (String × Entity) :=
  file.entities.filterMap fun entity =>
    (Naming.prefixedTableName file.tablePrefix entity.toElement).toOption.map fun name =>
      (schema ++ "." ++ name, entity)

/-- The second script drops these things one after the other, and does nothing else. -/
structure ScriptPair.Drops (pair : ScriptPair) (creations : List Sql.Creation) : Prop where
  items : pair.drop.items = creations.map (·.dropItem)
  text : pair.drop.text = String.join (creations.map (·.dropStatement.text ++ "\n"))

/-- The first script is made of one block for each table and the foreign keys after them all;
the second one drops the tables in the same order, each with its types. -/
def TableFile.Mirrors (schema : String) (file : TableFile) (pair : ScriptPair) : Prop :=
  ∃ (blocks : List (List Sql.ScriptItem)) (keys : List Sql.ScriptItem),
    List.Forall₂ (fun named block => Table.IsBlock named.1 named.2 block)
        (file.generated schema) blocks ∧
      pair.create.items = blocks.flatten ++ keys ∧
      (∀ item ∈ keys, item.line.isForeignKey = true) ∧
      pair.Drops ((file.generated schema).flatMap fun named => Table.creations named.1 named.2)

/-- The second script drops what the first one creates: tables block by block, and everything
else in the same order. -/
def Artifact.Mirrors (pair : ScriptPair) : Artifact → Prop
  | .tables schema file => file.Mirrors schema pair
  | _ => pair.Drops (pair.create.items.filterMap (·.line.created?))

section Scripts

theorem ScriptPair.drops_of_items {pair : ScriptPair} {creations : List Sql.Creation}
    (h : pair.drop.items = creations.map (·.dropItem)) : pair.Drops creations := by
  refine ⟨h, ?_⟩
  have htext := Sql.Script.text_append { pair.drop with items := [] }
    (creations.map fun creation => .statement creation.dropStatement)
  have hitems : pair.drop = { pair.drop with
      items := [] ++ (creations.map fun creation =>
        Sql.Line.statement creation.dropStatement).map fun line => ⟨0, line⟩ } := by
    rw [List.nil_append, List.map_map]
    exact congrArg (fun items => { pair.drop with items := items }) h
  rw [hitems, htext, List.map_map]
  exact String.empty_append

variable (options : Options) (index : Index)

theorem created_databaseLines (project : Project) (name : String) :
    ((databaseLines options project name).map (·.item)).filterMap (·.line.created?) =
      [.database name] := by
  have hstatements : ∀ collation : Option String,
      ((staircase (Sql.createDatabase name options.owner options.encoding options.tablespace
        collation)).map (·.item)).filterMap (·.line.created?) = [.database name] := by
    intro collation
    unfold Sql.createDatabase
    cases collation with
    | none => rfl
    | some collation =>
        simp only
        split <;> rfl
  unfold databaseLines
  rw [List.map_append, List.map_append, List.filterMap_append, List.filterMap_append, hstatements]
  split <;> rfl

theorem created_routines (kind : Sql.RoutineKind) (named : List NamedRoutine) :
    ((named.flatMap fun routine => createRoutineLines kind routine.name routine.tag).map
      (·.item)).filterMap (·.line.created?) = named.map fun routine => .routine kind routine.name := by
  induction named with
  | nil => rfl
  | cons routine named ih =>
      rw [List.flatMap_cons, List.map_append, List.filterMap_append, ih]
      rfl

theorem created_schemaLines (new : List (DataModel × String)) :
    ((new.flatMap fun (dataModel, schema) => schemaLines options dataModel schema).map
      (·.item)).filterMap (·.line.created?) = new.map fun (_, schema) => .schema schema := by
  induction new with
  | nil => rfl
  | cons entry new ih =>
      obtain ⟨dataModel, schema⟩ := entry
      rw [List.flatMap_cons, List.map_append, List.filterMap_append, ih]
      simp only [schemaLines]
      split <;> rfl

/-- The tables of a file one after the other, in both scripts. -/
theorem exists_blocks_edits (schema : String) (file : TableFile) :
    ∃ blocks : List (List Sql.ScriptItem),
      List.Forall₂ (fun named block => Table.IsBlock named.1 named.2 block)
          (file.generated schema) blocks ∧
        (file.edits options index schema).filterMap Table.Edit.createItem? = blocks.flatten ∧
        (file.edits options index schema).filterMap Table.Edit.dropItem? =
          ((file.generated schema).flatMap fun named =>
            Table.creations named.1 named.2).map (·.dropItem) := by
  unfold TableFile.edits TableFile.generated
  induction file.entities with
  | nil => exact ⟨[], .nil, rfl, rfl⟩
  | cons entity entities ih =>
      obtain ⟨blocks, hblocks, hcreate, hdrop⟩ := ih
      simp only [List.flatMap_cons, List.filterMap_append, List.filterMap_cons, hcreate, hdrop]
      cases hname : Naming.prefixedTableName file.tablePrefix entity.toElement with
      | error fault =>
          rw [Table.entityEdits_of_error _ _ _ _ _ hname]
          exact ⟨blocks, hblocks, rfl, rfl⟩
      | ok tableName =>
          refine ⟨_ :: blocks, .cons (Table.isBlock_createItems options index schema
            file.tablePrefix entity hname) hblocks, rfl, ?_⟩
          rw [Table.dropItems_entityEdits _ _ _ _ _ hname, ← List.map_append]
          rfl

theorem isForeignKey_of_mem_keys {schema : String} {file : TableFile} {item : Sql.ScriptItem}
    (h : item ∈ ((file.edits options index schema).filterMap Table.Edit.key?).map
      fun key => ⟨0, .statement key.statement⟩) : item.line.isForeignKey = true := by
  obtain ⟨key, hkey, rfl⟩ := List.mem_map.1 h
  cases hon : options.foreignKeys with
  | false =>
      rw [TableFile.keys_edits_of_off hon] at hkey
      cases hkey
  | true =>
      rw [TableFile.keys_edits hon] at hkey
      obtain ⟨foreignKey, -, rfl⟩ := List.mem_map.1 hkey
      rfl

/-- The scripts of an artifact mirror each other. -/
theorem Artifact.mirrors_scripts (unit : String) (artifact : Artifact) :
    artifact.Mirrors (artifact.scripts unit options index) := by
  cases artifact with
  | database project =>
      refine ScriptPair.drops_of_items ?_
      exact (congrArg (List.map Sql.Creation.dropItem)
        (created_databaseLines options project _)).symm
  | routines kind dataModel =>
      refine ScriptPair.drops_of_items ?_
      refine Eq.trans ?_ (congrArg (List.map Sql.Creation.dropItem)
        (created_routines kind _)).symm
      rw [List.map_map]
      rfl
  | schemas project =>
      refine ScriptPair.drops_of_items ?_
      refine Eq.trans ?_ (congrArg (List.map Sql.Creation.dropItem)
        (created_schemaLines options _)).symm
      rw [List.map_map]
      rfl
  | tables schema file =>
      obtain ⟨blocks, hblocks, hcreate, hdrop⟩ := exists_blocks_edits options index schema file
      refine ⟨blocks, _, hblocks, congrArg (· ++ _) hcreate, ?_, ?_⟩
      · exact fun item hitem => isForeignKey_of_mem_keys options index hitem
      · exact ScriptPair.drops_of_items hdrop

end Scripts

/-- The files of a project in pairs. -/
theorem projectFiles_eq_flatMap {options : Options} {unit : String}
    (hunit : options.indentUnit = .ok unit) (hdrop : options.dropStatements = true)
    (project : Project) :
    projectFiles options project =
      ((artifacts project).filter (·.isWritten options)).flatMap fun artifact =>
        [(createPath artifact.stem, (artifact.scripts unit options (.ofProject project)).create),
          (dropPath artifact.stem, (artifact.scripts unit options (.ofProject project)).drop)] := by
  unfold projectFiles
  induction artifacts project with
  | nil => rfl
  | cons artifact rest ih =>
      rw [List.flatMap_cons, ih, Artifact.files_of_indentUnit hunit]
      cases hwritten : artifact.isWritten options with
      | false =>
          rw [List.filter_cons_of_neg (by simp [hwritten])]
          rfl
      | true =>
          rw [List.filter_cons_of_pos hwritten, List.flatMap_cons, if_pos rfl, ScriptPair.files,
            hdrop]
          rfl

namespace Generator

/-- A run that succeeds writes the scripts of its artifacts in pairs, each of which mirror each
other. -/
theorem generate_mirrors {σ : Type} [Storage.Sink σ] (generator : Generator σ)
    (moment : Log.Moment) (project : Project) (hdrop : generator.options.dropStatements = true)
    (hsuccess :
      (generator.generate moment (some (.project project))).result.success = true) :
    ∃ pairs : List (Artifact × ScriptPair),
      pairs.map (·.1) = (artifacts project).filter (·.isWritten generator.options) ∧
        Event.scripts (generator.generate moment (some (.project project))).events =
          pairs.flatMap (fun written =>
            [(createPath written.1.stem, written.2.create),
              (dropPath written.1.stem, written.2.drop)]) ∧
        ∀ written ∈ pairs, written.1.Mirrors written.2 := by
  obtain ⟨unit, hunit⟩ := exists_indentUnit_of_success generator moment project hsuccess
  have hscripts : Event.scripts (generator.generate moment (some (.project project))).events =
      projectFiles generator.options project :=
    scripts_of_success generator moment project hsuccess
  refine ⟨((artifacts project).filter (·.isWritten generator.options)).map fun artifact =>
    (artifact, artifact.scripts unit generator.options (.ofProject project)), ?_, ?_, ?_⟩
  · rw [List.map_map]
    exact List.map_id _
  · rw [hscripts, projectFiles_eq_flatMap hunit hdrop, List.flatMap_map]
  · intro written hwritten
    obtain ⟨artifact, -, rfl⟩ := List.mem_map.1 hwritten
    exact artifact.mirrors_scripts generator.options _ unit

/-- A project with a table that has two types of its own; a column without labels, and one
without a name, have none. -/
def wardrobeProject : Project :=
  { name := "Wardrobe"
    dataModels := [{
      name := "Clothes"
      members := [.entity {
        name := "Shirt"
        columns := [
          { name := "color", type := "ENUM", tags := [.ofString "enum" "red, blue"] },
          { name := "fabric", type := "enum", tags := [.ofString "enum" " , "] },
          { name := "2nd color", type := "enum", tags := [.ofString "enum" "red"] },
          { name := "size", type := "enum", tags := [.ofString "enum" "S\nM\nL"] }] }] }] }

/-- The table is dropped first, and then its two types in the order in which they are created. -/
theorem generate_mirrors_wardrobe :
    (∃ pairs : List (Artifact × ScriptPair),
      pairs.map (·.1) = (artifacts wardrobeProject).filter (·.isWritten memoryGenerator.options) ∧
        Event.scripts (memoryGenerator.generate newYear (some (.project wardrobeProject))).events =
          pairs.flatMap (fun written =>
            [(createPath written.1.stem, written.2.create),
              (dropPath written.1.stem, written.2.drop)]) ∧
        ∀ written ∈ pairs, written.1.Mirrors written.2) ∧
      (Event.files (memoryGenerator.generate newYear (some (.project wardrobeProject))).events)[3]? =
        some ("clothes_table_drop.sql",
          "DROP TABLE IF EXISTS public.shirt CASCADE;\n" ++
            "DROP TYPE public.shirt_color CASCADE;\n" ++
            "DROP TYPE public.shirt_size CASCADE;\n") := by
  have hsuccess :
      (memoryGenerator.generate newYear (some (.project wardrobeProject))).result.success = true := by
    decide +kernel
  exact ⟨generate_mirrors memoryGenerator newYear wardrobeProject rfl hsuccess,
    by decide +kernel⟩

end Generator

end Generation
end ErdSql
