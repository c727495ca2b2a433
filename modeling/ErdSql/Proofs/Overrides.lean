import ErdSql.Proofs.SchemaCoverage

/-!
# Tags that override

Names, prefixes, defaults and labels are looked up in the tags of an element, each under a key of
its own.  The first tag that has the key as its name decides, of whatever kind it is: a tag that is
put among the others and comes first under its name is read like a string tag of that name and
value, also where it is the carrier of a routine and its value is SQL.  All other lookups are left
as they were.
-/

namespace ErdSql

namespace Tags

/-- The tags with one more at a position; it comes last if there are not as many tags. -/
def inserted (tags : Tags) (position : Nat) (tag : Tag) : Tags :=
  tags.take position ++ tag :: tags.drop position

theorem find?_inserted (tags : Tags) (position : Nat) (tag : Tag) (name : String) :
    (tags.inserted position tag).find? name =
      if tag.name = name ∧ Tags.find? (tags.take position) name = none then some tag
      else tags.find? name := by
  have hsplit : tags.find? name =
      (Tags.find? (tags.take position) name).or (Tags.find? (tags.drop position) name) := by
    unfold Tags.find?
    rw [← List.find?_append, List.take_append_drop]
  have hinserted : (tags.inserted position tag).find? name =
      (Tags.find? (tags.take position) name).or (Tags.find? (tag :: tags.drop position) name) :=
    List.find?_append
  rw [hinserted, hsplit]
  cases hbefore : Tags.find? (tags.take position) name with
  | some first =>
      rw [if_neg (fun h => nomatch h.2)]
      rfl
  | none =>
      rw [Option.none_or, Option.none_or]
      by_cases hname : tag.name = name
      · rw [if_pos ⟨hname, rfl⟩]
        exact List.find?_cons_of_pos (beq_iff_eq.2 hname)
      · rw [if_neg fun h => hname h.1]
        exact List.find?_cons_of_neg fun h => hname (beq_iff_eq.1 h)

/-- The lists of tags are read alike under a key. -/
structure ReadAlike (key : String) (tags tags' : Tags) : Prop where
  valueOf : tags.valueOf key = tags'.valueOf key
  isSome : (tags.find? key).isSome = (tags'.find? key).isSome

theorem readAlike_of_find?_eq {key : String} {tags tags' : Tags}
    (h : tags.find? key = tags'.find? key) : ReadAlike key tags tags' where
  valueOf := by rw [Tags.valueOf, h, Tags.valueOf]
  isSome := by rw [h]

/-- A tag is read by its value alone. -/
theorem readAlike_ofString {tag : Tag} {tags : Tags} (h : tags.find? tag.name = some tag) :
    ReadAlike tag.name tags [Tag.ofString tag.name tag.value] := by
  have hone : Tags.find? [Tag.ofString tag.name tag.value] tag.name =
      some (Tag.ofString tag.name tag.value) := List.find?_cons_of_pos (beq_self_eq_true _)
  constructor
  · rw [Tags.valueOf, Tags.valueOf, h, hone]
    rfl
  · rw [h, hone]
    rfl

end Tags

namespace Element

/-- The element with one more tag at a position. -/
def inserted (element : Element) (position : Nat) (tag : Tag) : Element :=
  { element with tags := element.tags.inserted position tag }

/-- The element with no tag but a string tag of the same name and value. -/
def overridden (element : Element) (tag : Tag) : Element :=
  { element with tags := [Tag.ofString tag.name tag.value] }

end Element

namespace Naming

section ReadAlike

variable {element element' : Element} (hname : element.name = element'.name)

include hname

theorem candidate_of_readAlike {key : String} (h : Tags.ReadAlike key element.tags element'.tags) :
    candidate key element = candidate key element' := by
  unfold candidate
  rw [hname, h.valueOf]

theorem tableName_of_readAlike (h : Tags.ReadAlike "table" element.tags element'.tags) :
    tableName element = tableName element' := by
  unfold tableName
  rw [hname, candidate_of_readAlike hname h]

theorem prefixedTableName_of_readAlike (tablePrefix : String)
    (h : Tags.ReadAlike "table" element.tags element'.tags) :
    prefixedTableName tablePrefix element = prefixedTableName tablePrefix element' := by
  unfold prefixedTableName
  rw [hname, tableName_of_readAlike hname h]

theorem columnName_of_readAlike (h : Tags.ReadAlike "column" element.tags element'.tags) :
    columnName element = columnName element' := by
  unfold columnName
  rw [hname, candidate_of_readAlike hname h]

theorem schemaName_of_readAlike (h : Tags.ReadAlike "schema" element.tags element'.tags) :
    schemaName element = schemaName element' := by
  unfold schemaName
  rw [hname, h.valueOf]

/-- Whether a database is assigned a tag depends on whether there is one, also if it is empty. -/
theorem databaseName_of_readAlike (h : Tags.ReadAlike "database" element.tags element'.tags) :
    databaseName element = databaseName element' := by
  unfold databaseName
  rw [hname, candidate_of_readAlike hname h, h.isSome]

end ReadAlike

end Naming

namespace Table

theorem labels_resolveColumn (table : String) (column : Column) :
    (resolveColumn table column).labels =
      if isEnumType (Sql.dataType column) then enumLabels (column.tags.valueOf "enum") else [] :=
  rfl

end Table

/-- What is looked up in the tags of an element. -/
inductive Lookup where
  | tableName
  | prefixedTableName (tablePrefix : String)
  | columnName
  | schemaName
  | databaseName
  /-- The prefix that a diagram gives to its tables. -/
  | diagramPrefix
  /-- The default of a column of a table. -/
  | default (table : String) (column : Column)
  /-- The labels of a column of a table. -/
  | labels (table : String) (column : Column)

namespace Lookup

def Result : Lookup → Type
  | .tableName | .prefixedTableName _ | .columnName | .schemaName =>
      Except Naming.NameFault String
  | .databaseName => Naming.DatabaseName
  | .diagramPrefix => String
  | .default _ _ => Option String
  | .labels _ _ => List String

/-- What is found in an element; the element of a column is put in the place of its own. -/
def result : (lookup : Lookup) → Element → lookup.Result
  | .tableName, element => Naming.tableName element
  | .prefixedTableName tablePrefix, element => Naming.prefixedTableName tablePrefix element
  | .columnName, element => Naming.columnName element
  | .schemaName, element => Naming.schemaName element
  | .databaseName, element => Naming.databaseName element
  | .diagramPrefix, element => Table.prefixOf (some (.diagram { element with }))
  | .default table column, element =>
      (Table.resolveColumn table { column with toElement := element }).default
  | .labels table column, element =>
      (Table.resolveColumn table { column with toElement := element }).labels

/-- The name of the tags that are asked for.  Only columns of an enumeration have labels. -/
def key? : Lookup → Option String
  | .tableName | .prefixedTableName _ => some "table"
  | .columnName => some "column"
  | .schemaName => some "schema"
  | .databaseName => some "database"
  | .diagramPrefix => some "prefix"
  | .default _ _ => some "default"
  | .labels _ column => if Table.isEnumType (Sql.dataType column) then some "enum" else none

/-- What is found depends on the name of the element and on what is read under the key. -/
theorem result_of_readAlike (lookup : Lookup) {element element' : Element}
    (hname : element.name = element'.name)
    (h : ∀ key, lookup.key? = some key → Tags.ReadAlike key element.tags element'.tags) :
    lookup.result element = lookup.result element' := by
  cases lookup with
  | tableName => exact Naming.tableName_of_readAlike hname (h _ rfl)
  | prefixedTableName tablePrefix =>
      exact Naming.prefixedTableName_of_readAlike hname tablePrefix (h _ rfl)
  | columnName => exact Naming.columnName_of_readAlike hname (h _ rfl)
  | schemaName => exact Naming.schemaName_of_readAlike hname (h _ rfl)
  | databaseName => exact Naming.databaseName_of_readAlike hname (h _ rfl)
  | diagramPrefix => exact (h _ rfl).valueOf
  | default table column =>
      change (Table.resolveColumn _ _).default = (Table.resolveColumn _ _).default
      rw [Table.default_resolveColumn, Table.default_resolveColumn, (h _ rfl).valueOf]
  | labels table column =>
      change (Table.resolveColumn _ _).labels = (Table.resolveColumn _ _).labels
      rw [Table.labels_resolveColumn, Table.labels_resolveColumn]
      by_cases henum : Table.isEnumType (Sql.dataType column) = true
      · rw [(h "enum" (if_pos henum)).valueOf]
        rfl
      · exact (if_neg henum).trans (if_neg henum).symm

/-- A tag that is inserted is read like a string tag of its name and value where no tag before it
has its name, and it is not read at all otherwise. -/
theorem result_inserted (lookup : Lookup) (element : Element) (position : Nat) (tag : Tag) :
    lookup.result (element.inserted position tag) =
      if lookup.key? = some tag.name ∧ Tags.find? (element.tags.take position) tag.name = none then
        lookup.result (element.overridden tag)
      else lookup.result element := by
  split
  · rename_i hread
    obtain ⟨hkey, hfirst⟩ := hread
    refine result_of_readAlike lookup rfl fun key h => ?_
    obtain rfl : tag.name = key := Option.some.inj (hkey.symm.trans h)
    refine Tags.readAlike_ofString ?_
    exact (Tags.find?_inserted ..).trans (if_pos ⟨rfl, hfirst⟩)
  · rename_i hunread
    refine result_of_readAlike lookup rfl fun key h => Tags.readAlike_of_find?_eq ?_
    refine (Tags.find?_inserted ..).trans (if_neg ?_)
    rintro ⟨rfl, hfirst⟩
    exact hunread ⟨h, hfirst⟩

/-- Every lookup tells two tags with its key from each other. -/
theorem result_ne {lookup : Lookup} {key : String} (h : lookup.key? = some key) :
    lookup.result { tags := [Tag.ofString key "a"] } ≠
      lookup.result { tags := [Tag.ofString key "!"] } := by
  cases lookup with
  | tableName =>
      cases h
      exact fun heq => nomatch heq
  | prefixedTableName tablePrefix =>
      cases h
      have hletter : Naming.tableName { tags := [Tag.ofString "table" "a"] } = .ok "a" := rfl
      have hmark : Naming.tableName { tags := [Tag.ofString "table" "!"] } =
          .error (.table "!" "") := rfl
      -- with the prefix it may be no identifier any more, but that is another fault
      change Naming.prefixedTableName tablePrefix { tags := [Tag.ofString "table" "a"] } ≠
        Naming.prefixedTableName tablePrefix { tags := [Tag.ofString "table" "!"] }
      unfold Naming.prefixedTableName
      rw [hletter, hmark]
      dsimp only
      split <;> exact fun heq => nomatch heq
  | columnName =>
      cases h
      exact fun heq => nomatch heq
  | schemaName =>
      cases h
      exact fun heq => nomatch heq
  | databaseName =>
      cases h
      intro heq
      exact absurd (congrArg Naming.DatabaseName.name heq) (by decide)
  | diagramPrefix =>
      cases h
      change "a" ≠ "!"
      decide
  | default table column =>
      cases h
      change some "a" ≠ some "!"
      decide
  | labels table column =>
      change (Table.resolveColumn _ _).labels ≠ (Table.resolveColumn _ _).labels
      rw [Table.labels_resolveColumn, Table.labels_resolveColumn]
      by_cases henum : Table.isEnumType (Sql.dataType column) = true
      · obtain rfl : "enum" = key := Option.some.inj ((if_pos henum).symm.trans h)
        have hne : Table.enumLabels "a" ≠ Table.enumLabels "!" := by decide
        intro heq
        exact hne ((if_pos henum).symm.trans (heq.trans (if_pos henum)))
      · exact nomatch (if_neg henum).symm.trans h

/-- What a tag overrides is decided by its name and its value.  Where it comes first under its
name, it is read like a string tag; the one way to leave a lookup alone at every position of every
element is to have another name than its key. -/
theorem inserted_overrides (lookup : Lookup) (tag : Tag) :
    (∀ (element : Element) (position : Nat),
        lookup.result (element.inserted position tag) =
          if lookup.key? = some tag.name ∧
              Tags.find? (element.tags.take position) tag.name = none then
            lookup.result (element.overridden tag)
          else lookup.result element) ∧
      ((∀ (element : Element) (position : Nat),
          lookup.result (element.inserted position tag) = lookup.result element) ↔
        lookup.key? ≠ some tag.name) := by
  refine ⟨fun element position => result_inserted lookup element position tag, ?_, ?_⟩
  · intro hkept hkey
    -- in front of all others the tag hides them, so they would all have to be read alike
    have hread : ∀ element : Element,
        lookup.result (element.overridden tag) = lookup.result element := fun element => by
      have hfirst := result_inserted lookup element 0 tag
      rw [if_pos ⟨hkey, rfl⟩] at hfirst
      exact hfirst.symm.trans (hkept element 0)
    have hletter := hread { tags := [Tag.ofString tag.name "a"] }
    have hmark := hread { tags := [Tag.ofString tag.name "!"] }
    exact result_ne hkey (hletter.symm.trans hmark)
  · intro hkey element position
    rw [result_inserted, if_neg fun h => hkey h.1]

open Generation Generation.Generator

/-- A function with the name of the schema key. -/
def schemaFunction : Tag :=
  { name := "schema"
    kind := .reference
    value := "() RETURNS name LANGUAGE sql AS 'SELECT current_schema'"
    reference := some { name := "function", kind := .hidden } }

/-- A project whose only data model has the function and a table. -/
def schemaFunctionProject : Project :=
  { name := "Shop"
    dataModels := [{
      toElement := Element.inserted { name := "Sales" } 0 schemaFunction
      members := [.entity { name := "Purchase" }] }] }

/-- The SQL of the function is read as the schema of its data model, so the run, which succeeds,
writes the function and no table. -/
theorem inserted_overrides_schemaFunction :
    Naming.schemaName { name := "Sales" } = .ok "public" ∧
      Naming.schemaName (Element.inserted { name := "Sales" } 0 schemaFunction) =
        .error (.schema schemaFunction.value "Sales") ∧
      (¬ ∀ (element : Element) (position : Nat),
        Naming.schemaName (element.inserted position schemaFunction) =
          Naming.schemaName element) ∧
      (memoryGenerator.generate newYear
          (some (.project schemaFunctionProject))).result.success = true ∧
      (Event.scripts (memoryGenerator.generate newYear
          (some (.project schemaFunctionProject))).events).map (·.1) =
        ["db_create.sql", "db_drop.sql", "sales_function_create.sql",
          "sales_function_drop.sql"] := by
  obtain ⟨hread, hharmless⟩ := inserted_overrides .schemaName schemaFunction
  refine ⟨rfl, ?_, fun hall => hharmless.1 hall rfl, by decide +kernel, by decide +kernel⟩
  exact (hread { name := "Sales" } 0).trans rfl

end Lookup

namespace Generation

/-- A data model that is led by a routine with the name of the schema key has no tables, unless the
SQL of the routine could be the name of a schema. -/
theorem onlyRoutines_of_routine_named_schema {options : Options} {unit : String}
    (hunit : options.indentUnit = .ok unit) (project : Project) {model : DataModel}
    {element : Element} {position : Nat} {routine : Tag}
    (hmodel : model.toElement = element.inserted position routine)
    (hname : routine.name = "schema")
    (hfirst : Tags.find? (element.tags.take position) routine.name = none)
    (hvalue : routine.value ≠ "") (hsql : Naming.isIdentifier routine.value = false) :
    OnlyRoutines options model
      ((dataModelArtifacts model).flatMap (Artifact.files options (.ofProject project))) := by
  have hread : Naming.schemaName (element.inserted position routine) =
      Naming.schemaName (element.overridden routine) :=
    (Lookup.result_inserted .schemaName element position routine).trans
      (if_pos ⟨by rw [hname]; rfl, hfirst⟩)
  have hschema : (element.overridden routine).tags.valueOf "schema" = routine.value := by
    unfold Element.overridden Tags.valueOf
    rw [hname]
    rfl
  have hfault : Naming.schemaName model.toElement =
      .error (.schema routine.value element.name) := by
    rw [hmodel, hread, Naming.schemaName, hschema, if_neg hvalue, if_neg (by simp [hsql])]
    rfl
  exact onlyRoutines_dataModelArtifacts hunit project hfault

end Generation
end ErdSql
