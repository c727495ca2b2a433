import ErdSql.Proofs.Inventory
import Mathlib.Data.List.Pairwise

/-!
# Names of types

A column of the type `enum` has a type of its own, which is named after its table and itself with
one underscore between them.  Names may hold underscores themselves, so the types of two columns
can have one name, and a type can have the name of a table.  If tables and columns have different
names, this happens exactly if the name of a table is that of another one, an underscore and a
rest, and a column of the other one is named by that rest, alone or before an underscore and the
name of a column of the first.
-/

namespace ErdSql

namespace Text

/-- Where two ways to put a text together cut it. -/
theorem exists_of_append_eq_append {s t s' t' : String} (h : s ++ t = s' ++ t') :
    (∃ between, s' = s ++ between ∧ t = between ++ t') ∨
      ∃ between, s = s' ++ between ∧ t' = between ++ t := by
  have hlists : s.toList ++ t.toList = s'.toList ++ t'.toList := by
    rw [← String.toList_append, ← String.toList_append, h]
  rcases List.append_eq_append_iff.1 hlists with ⟨between, hs, ht⟩ | ⟨between, hs, ht⟩
  · refine Or.inl ⟨String.ofList between, ?_, ?_⟩ <;> apply String.toList_inj.1
    · simpa using hs
    · simpa using ht
  · refine Or.inr ⟨String.ofList between, ?_, ?_⟩ <;> apply String.toList_inj.1
    · simpa using hs
    · simpa using ht

/-- A text that begins with an underscore, cut at a place after its beginning. -/
theorem exists_of_underscore_append_eq {s between t : String} (h : "_" ++ s = between ++ t)
    (hne : between ≠ "") : ∃ part, between = "_" ++ part ∧ s = part ++ t := by
  have hlists : '_' :: s.toList = between.toList ++ t.toList := by
    rw [← String.toList_append, ← h, String.toList_append]
    rfl
  rcases List.cons_eq_append_iff.1 hlists with ⟨hnil, -⟩ | ⟨part, hbetween, hs⟩
  · exact absurd (String.toList_eq_nil_iff.1 hnil) hne
  · refine ⟨String.ofList part, ?_, ?_⟩ <;> apply String.toList_inj.1
    · simpa using hbetween
    · simpa using hs

/-- A name that goes on where another one ends, with an underscore after both of them. -/
theorem exists_part_of_underscore_append {s s' between t t' : String} (hne : s ≠ s')
    (hs : s' = s ++ between) (ht : "_" ++ t = between ++ ("_" ++ t')) :
    ∃ part, s' = s ++ "_" ++ part ∧ t = part ++ "_" ++ t' := by
  have hbetween : between ≠ "" := by
    rintro rfl
    exact hne (by rw [hs, String.append_empty])
  obtain ⟨part, rfl, hpart⟩ := exists_of_underscore_append_eq ht hbetween
  exact ⟨part, by rw [hs, String.append_assoc], by rw [hpart, String.append_assoc]⟩

/-- Two names joined by an underscore tell where it is, unless one of the names before it goes
on where the other one ends. -/
theorem exists_of_join_eq_join {s t s' t' : String} (hne : s ≠ s')
    (h : s ++ "_" ++ t = s' ++ "_" ++ t') :
    (∃ part, s' = s ++ "_" ++ part ∧ t = part ++ "_" ++ t') ∨
      ∃ part, s = s' ++ "_" ++ part ∧ t' = part ++ "_" ++ t := by
  rw [String.append_assoc, String.append_assoc] at h
  rcases exists_of_append_eq_append h with ⟨between, hs, ht⟩ | ⟨between, hs, ht⟩
  · exact Or.inl (exists_part_of_underscore_append hne hs ht)
  · exact Or.inr (exists_part_of_underscore_append hne.symm hs ht)

end Text

namespace Sql.Creation

def table? : Creation → Option String
  | .table name => some name
  | _ => none

def enumeration? : Creation → Option String
  | .enumeration name => some name
  | _ => none

end Sql.Creation

namespace Table

/-- Whether a type is created for the column, if it has a name. -/
def hasOwnType (column : Column) : Bool :=
  Text.lower (Sql.dataType column) = "enum" ∧ enumLabels (column.tags.valueOf "enum") ≠ []

/-- The names of the columns of an entity for which types are created. -/
def enumColumns (entity : Entity) : List String :=
  columnNames (entity.columns.filter hasOwnType)

/-- The name of the type of a column. -/
def typeName (table column : String) : String :=
  table ++ "_" ++ column

/-- The name of the second table is that of the first one, an underscore and a part by which a
column of the first table is named: by the part alone, so that its type has the name of the second
table, or by the part, an underscore and a column of the second table, so that the two columns
have types of one name. -/
def Overlaps (named other : String × Entity) : Prop :=
  ∃ part, other.1 = typeName named.1 part ∧
    (part ∈ enumColumns named.2 ∨
      ∃ column ∈ enumColumns other.2, part ++ "_" ++ column ∈ enumColumns named.2)

theorem map_fst_enumsOf (table : String) (entity : Entity) :
    (enumsOf table entity).map (·.1) = (enumColumns entity).map (typeName table) := by
  unfold enumsOf enumColumns columnNames
  rw [List.map_filterMap, List.map_filterMap, List.filterMap_filter]
  refine List.filterMap_congr fun column _ => ?_
  unfold enumOf? hasOwnType
  cases Naming.columnName column.toElement with
  | error fault => simp [Except.toOption]
  | ok name =>
      by_cases h : Text.lower (Sql.dataType column) = "enum" ∧
          enumLabels (column.tags.valueOf "enum") ≠ []
      · simp [h, Except.toOption, typeName]
      · simp [h]

theorem nodup_enumColumns {entity : Entity} (h : (columnNames entity.columns).Nodup) :
    (enumColumns entity).Nodup :=
  h.sublist (List.filter_sublist.filterMap _)

theorem typeName_inj {table column column' : String}
    (h : typeName table column = typeName table column') : column = column' :=
  String.append_right_inj _ |>.1 h

/-- Tables of different names that have a type in common overlap. -/
theorem overlaps_of_mem {named other : String × Entity} {type : String}
    (hne : named.1 ≠ other.1) (h : type ∈ (enumColumns named.2).map (typeName named.1))
    (h' : type ∈ (enumColumns other.2).map (typeName other.1)) :
    Overlaps named other ∨ Overlaps other named := by
  obtain ⟨column, hcolumn, rfl⟩ := List.mem_map.1 h
  obtain ⟨column', hcolumn', heq⟩ := List.mem_map.1 h'
  rcases Text.exists_of_join_eq_join hne heq.symm with ⟨part, hname, rfl⟩ | ⟨part, hname, rfl⟩
  · exact Or.inl ⟨part, hname, Or.inr ⟨column', hcolumn', hcolumn⟩⟩
  · exact Or.inr ⟨part, hname, Or.inr ⟨column, hcolumn, hcolumn'⟩⟩

theorem ne_of_overlaps {named other : String × Entity} (h : Overlaps named other) :
    named.1 ≠ other.1 := by
  obtain ⟨part, hname, -⟩ := h
  intro heq
  have hlength := congrArg String.length (heq.trans hname)
  simp only [typeName, String.length_append] at hlength
  have hunderscore : "_".length = 1 := rfl
  omega

end Table

namespace Generation

open Table

/-- The names of the types of tables. -/
def typeNames (tables : List (String × Entity)) : List String :=
  tables.flatMap fun named => (enumColumns named.2).map (typeName named.1)

/-- The names of types differ from each other and from those of tables exactly if no two tables
overlap. -/
theorem nodup_typeNames_iff {tables : List (String × Entity)} (htables : (tables.map (·.1)).Nodup)
    (hcolumns : ∀ named ∈ tables, (columnNames named.2.columns).Nodup) :
    ((typeNames tables).Nodup ∧ ∀ type ∈ typeNames tables, type ∉ tables.map (·.1)) ↔
      ∀ named ∈ tables, ∀ other ∈ tables, ¬ Overlaps named other := by
  have hnames : tables.Pairwise fun named other => named.1 ≠ other.1 := List.pairwise_map.1 htables
  unfold typeNames
  rw [List.nodup_flatMap]
  constructor
  · rintro ⟨⟨-, hdisjoint⟩, hfresh⟩ named hnamed other hother hoverlaps
    have hne : named ≠ other := fun heq => ne_of_overlaps hoverlaps (congrArg Prod.fst heq)
    obtain ⟨part, hname, hpart | ⟨column, hcolumn, hpart⟩⟩ := hoverlaps
    · refine hfresh (typeName named.1 part)
        (List.mem_flatMap.2 ⟨named, hnamed, List.mem_map_of_mem hpart⟩) ?_
      rw [← hname]
      exact List.mem_map_of_mem hother
    · -- the two columns have one name for their types, which the lists of both tables hold
      have hshared : typeName other.1 column = typeName named.1 (part ++ "_" ++ column) := by
        simp only [hname, typeName, String.append_assoc]
      have hsymm : Std.Symm (Function.onFun List.Disjoint fun named : String × Entity =>
          (enumColumns named.2).map (typeName named.1)) := ⟨fun _ _ h _ hx hx' => h hx' hx⟩
      refine hdisjoint.forall hnamed hother hne (List.mem_map_of_mem hpart) ?_
      rw [← hshared]
      exact List.mem_map_of_mem hcolumn
  · intro hnone
    refine ⟨⟨fun named hnamed => ?_, ?_⟩, ?_⟩
    · exact (nodup_enumColumns (hcolumns named hnamed)).map fun _ _ => typeName_inj
    · refine hnames.imp_of_mem fun {named other} hnamed hother hne type htype htype' => ?_
      exact (overlaps_of_mem hne htype htype').elim (hnone named hnamed other hother)
        (hnone other hother named hnamed)
    · intro type htype htable
      obtain ⟨named, hnamed, htype⟩ := List.mem_flatMap.1 htype
      obtain ⟨column, hcolumn, rfl⟩ := List.mem_map.1 htype
      obtain ⟨other, hother, hname⟩ := List.mem_map.1 htable
      exact hnone named hnamed other hother ⟨column, hname, Or.inl hcolumn⟩

/-- The tables of an artifact, each with its entity. -/
def Artifact.generated : Artifact → List (String × Entity)
  | tables schema file => file.generated schema
  | _ => []

/-- The tables of a project, each with its entity. -/
def generatedTables (project : Project) : List (String × Entity) :=
  (artifacts project).flatMap Artifact.generated

/-- What is created with a table: its types and then the table. -/
def createdWith (named : String × Entity) : List Sql.Creation :=
  (enumsOf named.1 named.2).map (fun (type, _) => .enumeration type) ++ [.table named.1]

/-- The names of the tables that the files create. -/
def tablesIn (files : List (String × Sql.Script)) : List String :=
  (createdIn files).filterMap (·.table?)

/-- The names of the types that the files create. -/
def typesIn (files : List (String × Sql.Script)) : List String :=
  (createdIn files).filterMap (·.enumeration?)

section Created

variable {options : Options} {unit : String} (hunit : options.indentUnit = .ok unit)

include hunit

/-- Whatever is no table and no type is of no account here. -/
theorem filterMap_createdIn_files {f : Sql.Creation → Option String}
    (hdatabase : ∀ name, f (.database name) = none)
    (hroutine : ∀ kind name, f (.routine kind name) = none)
    (hschema : ∀ name, f (.schema name) = none) (index : Index) (artifact : Artifact) :
    (createdIn (artifact.files options index)).filterMap f =
      artifact.generated.flatMap fun named => (createdWith named).filterMap f := by
  cases artifact with
  | database project =>
      rw [createdIn_files index hunit rfl, Artifact.createItems, created_databaseLines]
      split
      · exact List.filterMap_cons_none (hdatabase _)
      · rfl
  | routines kind dataModel =>
      rw [createdIn_routines index hunit, List.filterMap_map]
      exact List.filterMap_eq_nil_iff.2 fun _ _ => hroutine _ _
  | tables schema file =>
      rw [createdIn_tables index hunit, List.filterMap_flatMap]
      rfl
  | schemas project =>
      have hdrop : ((Artifact.schemas project).dropItems options index).filterMap
          (·.line.created?) = [] := by
        rw [Artifact.dropItems, List.filterMap_map]
        exact List.filterMap_eq_nil_iff.2 fun _ _ => rfl
      rw [createdIn_files index hunit hdrop, Artifact.createItems, created_schemaLines]
      split
      · rw [List.filterMap_map]
        exact List.filterMap_eq_nil_iff.2 fun _ _ => hschema _
      · rfl

theorem tablesIn_projectFiles (project : Project) :
    tablesIn (projectFiles options project) = (generatedTables project).map (·.1) := by
  rw [tablesIn, projectFiles, createdIn_flatMap, List.filterMap_flatMap, generatedTables,
    List.map_flatMap]
  refine List.flatMap_congr fun artifact _ => ?_
  rw [filterMap_createdIn_files hunit (fun _ => rfl) (fun _ _ => rfl) (fun _ => rfl),
    List.map_eq_flatMap]
  refine List.flatMap_congr fun named _ => ?_
  rw [createdWith, List.filterMap_append, List.filterMap_map]
  exact congrArg (· ++ [named.1]) (List.filterMap_eq_nil_iff.2 fun _ _ => rfl)

theorem typesIn_projectFiles (project : Project) :
    typesIn (projectFiles options project) = typeNames (generatedTables project) := by
  rw [typesIn, projectFiles, createdIn_flatMap, List.filterMap_flatMap, generatedTables,
    typeNames, List.flatMap_assoc]
  refine List.flatMap_congr fun artifact _ => ?_
  rw [filterMap_createdIn_files hunit (fun _ => rfl) (fun _ _ => rfl) (fun _ => rfl)]
  refine List.flatMap_congr fun named _ => ?_
  rw [createdWith, List.filterMap_append, List.filterMap_map, ← map_fst_enumsOf]
  exact (List.append_nil _).trans (congrFun List.filterMap_eq_map _)

end Created

namespace Generator

open Storage

/-- A run that succeeds creates the tables of the project, and a type for each of their columns of
the type `enum`.  If its tables have different names, and so have the columns of each table, then
the types have names of their own exactly if no two tables overlap. -/
theorem generate_nodup_types_iff {σ : Type} [Sink σ] (generator : Generator σ)
    (moment : Log.Moment) (project : Project)
    (hsuccess : (generator.generate moment (some (.project project))).result.success = true)
    (htables : (tablesIn (Event.scripts
      (generator.generate moment (some (.project project))).events)).Nodup)
    (hcolumns : ∀ named ∈ generatedTables project, (columnNames named.2.columns).Nodup) :
    tablesIn (Event.scripts (generator.generate moment (some (.project project))).events) =
        (generatedTables project).map (·.1) ∧
      typesIn (Event.scripts (generator.generate moment (some (.project project))).events) =
        typeNames (generatedTables project) ∧
      (((typesIn (Event.scripts
          (generator.generate moment (some (.project project))).events)).Nodup ∧
        ∀ type ∈ typesIn (Event.scripts
            (generator.generate moment (some (.project project))).events),
          type ∉ tablesIn (Event.scripts
            (generator.generate moment (some (.project project))).events)) ↔
        ∀ named ∈ generatedTables project, ∀ other ∈ generatedTables project,
          ¬ Overlaps named other) := by
  obtain ⟨unit, hunit⟩ := exists_indentUnit_of_success generator moment project hsuccess
  have hscripts : Event.scripts (generator.generate moment (some (.project project))).events =
      projectFiles generator.options project :=
    scripts_of_success generator moment project hsuccess
  rw [hscripts, tablesIn_projectFiles hunit] at htables
  rw [hscripts, tablesIn_projectFiles hunit, typesIn_projectFiles hunit]
  exact ⟨rfl, rfl, nodup_typeNames_iff htables hcolumns⟩

/-- A column with a type of its own. -/
def enumColumn (name labels : String) : Column :=
  { name := name, type := "enum", tags := [.ofString "enum" labels] }

/-- A project with two tables that overlap: `order` with a column `item_state`, and `order_item`
with a column `state`. -/
def itemStateProject : Project :=
  { name := "Shop"
    dataModels := [{
      name := "Sales"
      members := [
        .entity { name := "Order", columns := [enumColumn "item_state" "new,done"] },
        .entity { name := "Order_Item", columns := [enumColumn "state" "open,closed"] }] }] }

/-- The run succeeds and no name occurs twice, but the types of the two columns have one name. -/
theorem generate_nodup_types_iff_item_state :
    (memoryGenerator.generate newYear (some (.project itemStateProject))).result.success = true ∧
      typesIn (Event.scripts
          (memoryGenerator.generate newYear (some (.project itemStateProject))).events) =
        ["public.order_item_state", "public.order_item_state"] ∧
      ∃ named ∈ generatedTables itemStateProject, ∃ other ∈ generatedTables itemStateProject,
        Overlaps named other := by
  have hsuccess : (memoryGenerator.generate newYear
      (some (.project itemStateProject))).result.success = true := by decide +kernel
  have htypes : typesIn (Event.scripts
      (memoryGenerator.generate newYear (some (.project itemStateProject))).events) =
        ["public.order_item_state", "public.order_item_state"] := by decide +kernel
  obtain ⟨-, -, hdistinct⟩ := generate_nodup_types_iff memoryGenerator newYear itemStateProject
    hsuccess (by decide +kernel) (by decide +kernel)
  refine ⟨hsuccess, htypes, ?_⟩
  by_contra hnone
  have hnodup := (hdistinct.2 fun named hnamed other hother hoverlaps =>
    hnone ⟨named, hnamed, other, hother, hoverlaps⟩).1
  rw [htypes] at hnodup
  exact absurd hnodup (by decide)

end Generator

end Generation
end ErdSql
