import ErdSql.Proofs.Mirrors

/-!
# Texts that scripts hold as they are

Some texts of the modeller are written neither as names nor as literals: headings, which say what
a statement is about, the defaults of columns, and the bodies of routines and triggers.  A reader
of a script can tell them by the line above: a text below a statement that goes on is a part of
that statement, and any other text is a heading.  Which of them a script holds, and at which
levels, is known from the model; a script that drops something holds none.
-/

namespace ErdSql

namespace Sql

/-- A text of the modeller that a script holds as it is. -/
inductive RawText where
  | heading (shown : String)
  /-- The default of a column, after the line of the column up to the keyword. -/
  | default (opening value : String)
  /-- The text below the first line of a routine or a trigger. -/
  | body (header : Statement) (text : String)
deriving DecidableEq, Repr

/-- Whether the statement goes on in the lines below it. -/
def Statement.goesOn : Statement → Bool
  | .createTable _ => true
  | .tableEntry _ _ => true
  | .createTrigger _ _ _ => true
  | .createRoutine _ _ => true
  | .createDatabase _ => true
  | .databaseOwner _ => true
  | .databaseEncoding _ => true
  | .databaseTablespace _ => true
  | .databaseCollation _ => true
  | .databaseCharacterType _ => true
  | _ => false

/-- The statement of the line, if it goes on below. -/
def Line.unfinished? : Line → Option Statement
  | .statement s => if s.goesOn then some s else none
  | _ => none

/-- The line of a column up to the keyword that its default follows. -/
def defaultOpening (name sqlType : String) (notNull : Bool) : String :=
  (TableEntry.column name sqlType notNull none).text ++ " DEFAULT "

/-- The default that an entry of a table shows. -/
def TableEntry.default? : TableEntry → Option RawText
  | .column name sqlType notNull (some value) =>
      if value = "" then none else some (.default (defaultOpening name sqlType notNull) value)
  | _ => none

def Statement.default? : Statement → Option RawText
  | .tableEntry entry _ => entry.default?
  | _ => none

/-- What a text is below a statement that goes on: below a routine or a trigger its body, below
the lines of a table its end. -/
def Statement.body? (above : Statement) (text : String) : Option RawText :=
  match above with
  | .createRoutine _ _ => some (.body above text)
  | .createTrigger _ _ _ => some (.body above text)
  | _ => none

/-- The text that a line holds as it is, below a statement that goes on or below none. -/
def Line.rawText? (above : Option Statement) : Line → Option RawText
  | .blank => none
  | .statement s => s.default?
  | .text s =>
      match above with
      | none => some (.heading s)
      | some header => header.body? s

/-- The texts that lines hold as they are, with their levels. -/
def rawTexts (above : Option Statement) : List ScriptItem → List (Nat × RawText)
  | [] => []
  | item :: items =>
      ((item.line.rawText? above).map fun raw => (item.level, raw)).toList ++
        rawTexts item.line.unfinished? items

/-- The statement that goes on below the lines. -/
def unfinishedAfter (above : Option Statement) (items : List ScriptItem) : Option Statement :=
  items.foldl (fun _ item => item.line.unfinished?) above

theorem rawTexts_append (above : Option Statement) (items items' : List ScriptItem) :
    rawTexts above (items ++ items') =
      rawTexts above items ++ rawTexts (unfinishedAfter above items) items' := by
  induction items generalizing above with
  | nil => rfl
  | cons item items ih =>
      rw [List.cons_append, rawTexts, rawTexts, ih, List.append_assoc]
      rfl

theorem unfinishedAfter_append (above : Option Statement) (items items' : List ScriptItem) :
    unfinishedAfter above (items ++ items') =
      unfinishedAfter (unfinishedAfter above items) items' :=
  List.foldl_append

/-- What a line can hold: a heading if nothing goes on above it, the body of the statement that
does, or the default of a column. -/
theorem Line.rawText?_cases {above : Option Statement} {line : Line} {raw : RawText}
    (h : line.rawText? above = some raw) :
    (∃ shown, above = none ∧ line = .text shown ∧ raw = .heading shown) ∨
      (∃ header shown, above = some header ∧ line = .text shown ∧ raw = .body header shown) ∨
        ∃ name sqlType notNull value last,
          line = .statement (.tableEntry (.column name sqlType notNull (some value)) last) ∧
            value ≠ "" ∧ raw = .default (defaultOpening name sqlType notNull) value := by
  cases line with
  | blank => cases h
  | text shown =>
      cases above with
      | none => exact Or.inl ⟨shown, rfl, rfl, (Option.some.inj h).symm⟩
      | some header =>
          refine Or.inr (Or.inl ⟨header, shown, rfl, rfl, ?_⟩)
          cases header <;> first | exact (Option.some.inj h).symm | cases h
  | statement s =>
      refine Or.inr (Or.inr ?_)
      cases s with
      | tableEntry entry last =>
          cases entry with
          | primaryKey columns => cases h
          | column name sqlType notNull default =>
              cases default with
              | none => cases h
              | some value =>
                  simp only [Line.rawText?, Statement.default?, TableEntry.default?] at h
                  split at h
                  · cases h
                  · rename_i hvalue
                    exact ⟨name, sqlType, notNull, value, last, rfl, hvalue,
                      (Option.some.inj h).symm⟩
      | _ => cases h

/-- A text stands in a line between others, and what goes on above it is known. -/
theorem exists_items_of_mem_rawTexts {above : Option Statement} {items : List ScriptItem}
    {level : Nat} {raw : RawText} (h : (level, raw) ∈ rawTexts above items) :
    ∃ earlier line later, items = earlier ++ ⟨level, line⟩ :: later ∧
      line.rawText? (unfinishedAfter above earlier) = some raw := by
  induction items generalizing above with
  | nil => cases h
  | cons item items ih =>
      rcases List.mem_append.1 h with h | h
      · obtain ⟨found, hfound, heq⟩ := Option.map_eq_some_iff.1 (Option.mem_toList.1 h)
        cases heq
        exact ⟨[], item.line, items, rfl, hfound⟩
      · obtain ⟨earlier, line, later, rfl, hraw⟩ := ih h
        exact ⟨item :: earlier, line, later, rfl, hraw⟩

/-- The statement that goes on is in the last line. -/
theorem exists_of_unfinishedAfter {items : List ScriptItem} {header : Statement}
    (h : unfinishedAfter none items = some header) :
    ∃ earlier level, items = earlier ++ [⟨level, .statement header⟩] := by
  rcases List.eq_nil_or_concat' items with rfl | ⟨earlier, ⟨level, line⟩, rfl⟩
  · cases h
  · rw [unfinishedAfter_append] at h
    cases line with
    | blank => cases h
    | text shown => cases h
    | statement s =>
        obtain ⟨-, hstatement⟩ := Option.ite_none_right_eq_some.1 h
        cases hstatement
        exact ⟨earlier, level, rfl⟩

/-- The lines hold these texts as they are, and leave no statement unfinished. -/
structure Carries (items : List ScriptItem) (raws : List (Nat × RawText)) : Prop where
  rawTexts : rawTexts none items = raws
  finished : unfinishedAfter none items = none

section Carries

variable {items items' : List ScriptItem} {raws raws' : List (Nat × RawText)}

theorem carries_nil : Carries [] [] :=
  ⟨rfl, rfl⟩

theorem Carries.append (h : Carries items raws) (h' : Carries items' raws') :
    Carries (items ++ items') (raws ++ raws') := by
  constructor
  · rw [rawTexts_append, h.rawTexts, h.finished, h'.rawTexts]
  · rw [unfinishedAfter_append, h.finished, h'.finished]

theorem carries_flatMap {α : Type} {list : List α} {f : α → List ScriptItem}
    {g : α → List (Nat × RawText)} (h : ∀ a ∈ list, Carries (f a) (g a)) :
    Carries (list.flatMap f) (list.flatMap g) := by
  induction list with
  | nil => exact carries_nil
  | cons a list ih =>
      rw [List.flatMap_cons, List.flatMap_cons]
      exact (h a (List.mem_cons_self ..)).append
        (ih fun b hb => h b (List.mem_cons_of_mem _ hb))

/-- Whether the line is no text and leaves no statement unfinished. -/
def Line.isSilent : Line → Bool
  | .blank => true
  | .text _ => false
  | .statement s => !s.goesOn

theorem carries_singleton_of_isSilent {item : ScriptItem} (h : item.line.isSilent = true) :
    Carries [item] [] := by
  obtain ⟨level, line⟩ := item
  cases line with
  | blank => exact ⟨rfl, rfl⟩
  | text s => cases h
  | statement statement =>
      have hgoesOn : statement.goesOn = false := by simpa [Line.isSilent] using h
      constructor
      · cases statement <;> first | rfl | cases hgoesOn
      · simp [unfinishedAfter, Line.unfinished?, hgoesOn]

theorem carries_of_isSilent (h : ∀ item ∈ items, item.line.isSilent = true) :
    Carries items [] := by
  induction items with
  | nil => exact carries_nil
  | cons item items ih =>
      rw [List.forall_mem_cons] at h
      exact (carries_singleton_of_isSilent h.1).append (ih h.2)

end Carries
end Sql

namespace Table

open Sql

/-- The default that the line of a column shows: the value of its first `default` tag, unless the
column has no name or its type numbers itself. -/
def rawDefault? (table : String) (column : Column) : Option (Nat × RawText) :=
  match Naming.columnName column.toElement with
  | .error _ => none
  | .ok name =>
      let sqlType := ((enumOf? table column).map (·.1)).getD (dataType column)
      let value := column.tags.valueOf "default"
      if value = "" ∨ isAutoIncrementType sqlType = true then none
      else some (1, .default (defaultOpening name sqlType (isRequired column)) value)

/-- The names of the indexes that the columns ask for, each once: the values of the `index` tags
of the columns that have a name. -/
def indexNames (entity : Entity) : List String :=
  firstOccurrences (entity.columns.flatMap fun column =>
    match Naming.columnName column.toElement with
    | .error _ => []
    | .ok _ => (column.tags.named "index").map (·.value))

/-- What is written above an index. -/
def indexHeading (name : String) : String :=
  "-- Index: " ++ name

/-- The body of a trigger below its header, unless its name cannot be used. -/
def rawTrigger? (table tableName : String) (tag : Tag) : Option (Nat × RawText) :=
  (Naming.routineName tag).toOption.map fun routine =>
    (1, .body (.createTrigger (tableName ++ "_" ++ routine) tag.referenceValue table) tag.value)

theorem exists_of_rawDefault?_eq_some {table : String} {column : Column} {raw : Nat × RawText}
    (h : rawDefault? table column = some raw) :
    ∃ opening value, raw = (1, .default opening value) := by
  unfold rawDefault? at h
  split at h
  · cases h
  · simp only at h
    split at h
    · cases h
    · exact ⟨_, _, (Option.some.inj h).symm⟩

theorem exists_of_rawTrigger?_eq_some {table tableName : String} {tag : Tag}
    {raw : Nat × RawText} (h : rawTrigger? table tableName tag = some raw) :
    ∃ header, raw = (1, .body header tag.value) := by
  obtain ⟨routine, -, rfl⟩ := Option.map_eq_some_iff.1 h
  exact ⟨_, rfl⟩

/-- The texts that the block of a table holds as they are. -/
def rawTexts (options : Options) (table tableName : String) (entity : Entity) :
    List (Nat × RawText) :=
  entity.columns.filterMap (rawDefault? table) ++
    (indexNames entity).map (fun name => (0, .heading (indexHeading name))) ++
    (entity.tags.pointingThrough options.triggerMarker).filterMap (rawTrigger? table tableName)

section Segments

variable (options : Options) (table tableName : String) (entity : Entity)

/-- The lines of columns hold their defaults, and their table goes on below them. -/
theorem rawTexts_entryStatements (above : Option Statement) (entries : List TableEntry) :
    Sql.rawTexts above ((entryStatements entries).map fun s => ⟨1, .statement s⟩) =
      entries.filterMap fun entry => entry.default?.map fun raw => (1, raw) := by
  induction entries using entryStatements.induct generalizing above with
  | case1 => rfl
  | case2 entry =>
      rw [entryStatements, List.map_singleton, Sql.rawTexts]
      simp only [Line.rawText?, Statement.default?, List.filterMap_cons]
      cases entry.default? <;> rfl
  | case3 entry next rest ih =>
      rw [entryStatements, List.map_cons, Sql.rawTexts, ih]
      simp only [Line.rawText?, Statement.default?]
      cases hdefault : entry.default? with
      | none =>
          rw [List.filterMap_cons_none (a := entry) (by rw [hdefault]; rfl)]
          rfl
      | some raw =>
          rw [List.filterMap_cons_some (a := entry) (by rw [hdefault]; rfl)]
          rfl

theorem body?_unfinishedAfter_entryStatements (entries : List TableEntry) {above : Statement}
    (habove : above.body? = fun _ => none) :
    ∃ statement, unfinishedAfter (some above)
        ((entryStatements entries).map fun s => ⟨1, .statement s⟩) = some statement ∧
      statement.body? = fun _ => none := by
  induction entries using entryStatements.induct generalizing above with
  | case1 => exact ⟨above, rfl, habove⟩
  | case2 entry => exact ⟨.tableEntry entry true, rfl, rfl⟩
  | case3 entry next rest ih =>
      have hentry : (Statement.tableEntry entry false).body? = fun _ => none := rfl
      exact ih hentry

/-- The body of a table holds the defaults of its columns. -/
theorem carries_tableItems (columns : List NamedColumn) :
    Carries (tableItems table columns ++ [⟨0, .blank⟩])
      ((tableEntries columns).filterMap fun entry =>
        entry.default?.map fun raw => (1, raw)) := by
  have hcreate : (Statement.createTable table).body? = fun _ => none := rfl
  obtain ⟨statement, hunfinished, hbody⟩ :=
    body?_unfinishedAfter_entryStatements (tableEntries columns) hcreate
  have hsplit : tableItems table columns ++ [⟨0, .blank⟩] =
      ⟨0, .statement (.createTable table)⟩ ::
        (((entryStatements (tableEntries columns)).map fun s => ⟨1, .statement s⟩) ++
          [⟨0, .text ");"⟩, ⟨0, .blank⟩]) := by
    simp [tableItems]
  rw [hsplit]
  constructor
  · rw [Sql.rawTexts, rawTexts_append, rawTexts_entryStatements]
    -- the end of the table is a text, but it stands below a line of the table
    have hend : Sql.rawTexts (some statement) [⟨0, .text ");"⟩, ⟨0, .blank⟩] = [] := by
      simp [Sql.rawTexts, Line.rawText?, hbody]
    have hfirst : (Line.statement (.createTable table)).unfinished? =
        some (.createTable table) := rfl
    rw [hfirst, hunfinished, hend, List.append_nil]
    rfl
  · rw [← List.cons_append, unfinishedAfter_append]
    rfl

theorem filterMap_tableEntries :
    ((tableEntries (tableColumns table entity)).filterMap fun entry =>
        entry.default?.map fun raw => (1, raw)) =
      entity.columns.filterMap (rawDefault? table) := by
  have hkeys : ∀ keys : List String,
      (if keys.isEmpty then [] else [TableEntry.primaryKey keys]).filterMap
        (fun entry => entry.default?.map fun raw => (1, raw)) = [] := by
    intro keys
    split <;> rfl
  unfold tableEntries
  rw [tableColumns_eq, List.filterMap_append, hkeys, List.append_nil, List.filterMap_map,
    List.filterMap_filterMap]
  refine List.filterMap_congr fun column _ => ?_
  rw [rawDefault?]
  cases Naming.columnName column.toElement with
  | error fault => rfl
  | ok name =>
      simp only [Except.toOption, Option.map_some, Option.bind_some, Function.comp_apply,
        columnEntry, effectiveDefault, default_resolveColumn, ← sqlType_resolveColumn]
      by_cases hauto : isAutoIncrementType (resolveColumn table column).sqlType = true
      · simp [hauto, TableEntry.default?]
      · by_cases hvalue : column.tags.valueOf "default" = ""
        · simp [hvalue, TableEntry.default?]
        · simp [hauto, hvalue, TableEntry.default?, column_resolveColumn]

theorem map_index_indexEntries :
    firstOccurrences ((indexEntries (tableColumns table entity)).map (·.index)) =
      indexNames entity := by
  unfold indexNames indexEntries
  congr 1
  rw [tableColumns_eq, List.map_flatMap]
  induction entity.columns with
  | nil => rfl
  | cons column columns ih =>
      rw [List.filterMap_cons, List.flatMap_cons]
      cases Naming.columnName column.toElement with
      | error fault => exact ih
      | ok name =>
          simp only [Except.toOption, Option.map_some]
          rw [List.flatMap_cons, List.map_map]
          exact congrArg _ ih

/-- Above each index that the modeller asked for stands its name. -/
theorem carries_userIndexEdits :
    Carries ((userIndexEdits table (tableColumns table entity)).filterMap Edit.createItem?)
      ((indexNames entity).map fun name => (0, .heading (indexHeading name))) := by
  have hnames : (indexNames entity).map (fun name => (0, RawText.heading (indexHeading name))) =
      (indexNames entity).flatMap fun name => [(0, RawText.heading (indexHeading name))] :=
    List.map_eq_flatMap
  rw [userIndexEdits, List.filterMap_flatMap, map_index_indexEntries, hnames]
  exact carries_flatMap fun name _ => ⟨rfl, rfl⟩

/-- Below the header of each trigger stands its body. -/
theorem carries_triggerEdits :
    Carries ((triggerEdits options entity table tableName).filterMap Edit.createItem?)
      ((entity.tags.pointingThrough options.triggerMarker).filterMap
        (rawTrigger? table tableName)) := by
  rw [triggerEdits, List.filterMap_flatMap, List.filterMap_eq_flatMap_toList]
  refine carries_flatMap fun tag _ => ?_
  unfold rawTrigger?
  cases Naming.routineName tag with
  | error fault => exact carries_nil
  | ok routine => exact ⟨rfl, rfl⟩

/-- Whether all lines that a change adds to the creating script are silent. -/
def Edit.isSilent (edit : Edit) : Bool :=
  edit.createItem?.all (·.line.isSilent)

theorem carries_of_all_isSilent {edits : List Edit} (h : edits.all Edit.isSilent = true) :
    Carries (edits.filterMap Edit.createItem?) [] := by
  refine carries_of_isSilent fun item hitem => ?_
  obtain ⟨edit, hedit, hitem⟩ := List.mem_filterMap.1 hitem
  have hsilent := List.all_eq_true.1 h edit hedit
  rw [Edit.isSilent, hitem] at hsilent
  exact hsilent

/-- What comes after the body of a table holds the names of its indexes and the bodies of its
triggers. -/
theorem carries_furtherEdits :
    Carries ((furtherEdits options table tableName entity).filterMap Edit.createItem?)
      ((indexNames entity).map (fun name => (0, .heading (indexHeading name))) ++
        (entity.tags.pointingThrough options.triggerMarker).filterMap
          (rawTrigger? table tableName)) := by
  have hblank : Edit.isSilent blankLine = true := rfl
  have hunique := carries_of_all_isSilent
    (all_uniqueEdits table hblank (fun _ => rfl) (tableColumns table entity))
  have hforeign := carries_of_all_isSilent
    (all_foreignIndexEdits table hblank (fun _ => rfl) (tableColumns table entity))
  have hcomments := carries_of_all_isSilent (all_commentEdits table hblank (fun _ _ _ => rfl)
    (documentationMode options entity) entity (tableColumns table entity))
  have hseeds : Carries ((if documentationMode options entity = .seedInserts then
      seedEdits table entity (entity.columns.map (resolveColumn table)) else []).filterMap
        Edit.createItem?) [] := by
    split
    · exact carries_of_all_isSilent (all_seedEdits table hblank (fun _ _ => rfl) entity _)
    · exact carries_nil
  have hcomplete : Carries ([Edit.complete table].filterMap Edit.createItem?) [] := carries_nil
  have hall := ((((hunique.append hforeign).append (carries_userIndexEdits table entity)).append
    hcomments).append (carries_triggerEdits options table tableName entity)).append
      (hseeds.append hcomplete)
  simpa only [furtherEdits, tableColumns, List.filterMap_append, List.append_assoc,
    List.nil_append, List.append_nil] using hall

/-- An entity whose table has a name adds the texts of its table. -/
theorem carries_entityEdits (index : Index) {schema tablePrefix : String}
    (h : Naming.prefixedTableName tablePrefix entity.toElement = .ok tableName) :
    Carries ((entityEdits options index schema tablePrefix entity).filterMap Edit.createItem?)
      (rawTexts options (schema ++ "." ++ tableName) tableName entity) := by
  rw [entityEdits_of_ok _ _ _ _ _ h]
  generalize schema ++ "." ++ tableName = table
  have htypes : Carries (typeItems (enumsOf table entity)) [] := by
    refine carries_of_isSilent fun item hitem => ?_
    obtain ⟨type, -, hitem⟩ := List.mem_flatMap.1 hitem
    simp only [List.mem_cons, List.not_mem_nil, or_false] at hitem
    rcases hitem with rfl | rfl | rfl | rfl <;> rfl
  have hall := htypes.append ((carries_tableItems table (tableColumns table entity)).append
    (carries_furtherEdits options table tableName entity))
  rw [filterMap_tableEntries] at hall
  simpa only [List.filterMap_append, createItems_openingEdits, createItems_referenceEdits,
    closingEdits_eq, createItems_bodyEdits, rawTexts, List.nil_append, List.append_assoc] using hall

end Segments
end Table

namespace Generation

open Sql

namespace Artifact

/-- The texts that the script that creates the artifact holds as they are, with their levels. -/
def rawTexts (options : Options) : Artifact → List (Nat × RawText)
  | database project =>
      [(0, .heading ("-- Database: " ++ project.name)),
        (0, .heading ("-- Author: " ++ project.author))]
  | routines kind dataModel =>
      (namedRoutines (dataModel.tags.pointingAt (routineMarker options kind))).map fun routine =>
        (0, .body (.createRoutine kind routine.name) routine.tag.value)
  | tables schema file =>
      file.entities.flatMap fun entity =>
        match Naming.prefixedTableName file.tablePrefix entity.toElement with
        | .error _ => []
        | .ok name => Table.rawTexts options (schema ++ "." ++ name) name entity
  | schemas project =>
      (newSchemas [] project.dataModels).map fun (dataModel, _) =>
        (0, .heading ("-- Schema for: " ++ dataModel.name))

variable (options : Options) (index : Index)

theorem carries_databaseLines (project : Project) (name : String) :
    Carries ((databaseLines options project name).map (·.item))
      [(0, .heading ("-- Database: " ++ project.name)),
        (0, .heading ("-- Author: " ++ project.author))] := by
  have hstatements : ∀ collation : Option String,
      Carries ((staircase (Sql.createDatabase name options.owner options.encoding
        options.tablespace collation)).map (·.item)) [] := by
    intro collation
    unfold Sql.createDatabase
    cases collation with
    | none => exact ⟨rfl, rfl⟩
    | some collation =>
        simp only
        split <;> exact ⟨rfl, rfl⟩
  have hheadings : Carries ([PlacedLine.ofText ("-- Database: " ++ project.name),
      .ofText ("-- Author: " ++ project.author)].map (·.item))
        [(0, .heading ("-- Database: " ++ project.name)),
          (0, .heading ("-- Author: " ++ project.author))] := ⟨rfl, rfl⟩
  have hcomment : Carries ((if project.documentation = "" then []
      else [PlacedLine.blank, .ofStatement (.comment .database name project.documentation)]).map
        (·.item)) [] := by
    split <;> exact ⟨rfl, rfl⟩
  have hall := (hheadings.append (hstatements options.collation?)).append hcomment
  rw [← List.map_append, ← List.map_append] at hall
  exact hall

theorem carries_schemaLines (dataModel : DataModel) (schema : String) :
    Carries ((schemaLines options dataModel schema).map (·.item))
      [(0, .heading ("-- Schema for: " ++ dataModel.name))] := by
  unfold schemaLines
  split <;> exact ⟨rfl, rfl⟩

/-- The texts of an artifact stand in the script that creates it. -/
theorem carries_createItems (artifact : Artifact) :
    Carries (artifact.createItems options index) (artifact.rawTexts options) := by
  cases artifact with
  | database project => exact carries_databaseLines options project _
  | routines kind dataModel =>
      rw [createItems, rawTexts, List.map_flatMap, List.map_eq_flatMap]
      exact carries_flatMap fun routine _ => ⟨rfl, rfl⟩
  | schemas project =>
      rw [createItems, rawTexts, List.map_flatMap, List.map_eq_flatMap]
      exact carries_flatMap fun new _ => carries_schemaLines options new.1 new.2
  | tables schema file =>
      have hkeys : Carries (((file.edits options index schema).filterMap Table.Edit.key?).map
          fun key => ⟨0, .statement key.statement⟩) [] := by
        refine carries_of_isSilent fun item hitem => ?_
        obtain ⟨key, -, rfl⟩ := List.mem_map.1 hitem
        cases key <;> rfl
      have hedits : Carries ((file.edits options index schema).filterMap Table.Edit.createItem?)
          ((tables schema file).rawTexts options) := by
        rw [TableFile.edits, List.filterMap_flatMap, rawTexts]
        refine carries_flatMap fun entity _ => ?_
        cases hname : Naming.prefixedTableName file.tablePrefix entity.toElement with
        | error fault =>
            rw [Table.entityEdits_of_error _ _ _ _ _ hname]
            exact carries_nil
        | ok name => exact Table.carries_entityEdits options name entity index hname
      have hall := hedits.append hkeys
      rwa [List.append_nil] at hall

/-- The script that drops an artifact holds no text as it is. -/
theorem carries_dropItems (artifact : Artifact) :
    Carries (artifact.dropItems options index) [] := by
  have hcreations : ∀ (items : List ScriptItem) (creations : List Sql.Creation),
      items = creations.map (·.dropItem) → Carries items [] := by
    rintro items creations rfl
    refine carries_of_isSilent fun item hitem => ?_
    obtain ⟨creation, -, rfl⟩ := List.mem_map.1 hitem
    cases creation <;> rfl
  have hmirrors := artifact.mirrors_scripts options index ""
  cases artifact with
  | database project => exact hcreations _ _ hmirrors.items
  | routines kind dataModel => exact hcreations _ _ hmirrors.items
  | schemas project => exact hcreations _ _ hmirrors.items
  | tables schema file =>
      obtain ⟨-, -, -, -, -, hdrops⟩ := hmirrors
      exact hcreations _ _ hdrops.items

end Artifact
end Generation
end ErdSql
