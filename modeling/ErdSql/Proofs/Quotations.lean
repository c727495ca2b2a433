import ErdSql.Proofs.LiteralReading
import ErdSql.Proofs.ScriptText
import Mathlib.Data.List.Basic

/-!
# Quotations

A statement that writes texts of the modeller as literals is an opening, the literals with commas
between them, and a closing.  In a sound script such statements stand at the outermost level, so
that nothing is put into the lines of a literal: where a quotation stands, the text of the script
is read as its values, and the reading stops at its closing.
-/

namespace ErdSql
namespace Sql

/-- Values that are written as literals, what stands before them, and what ends them. -/
structure Quotation where
  opening : String
  values : List (Option String)
  closing : String
deriving DecidableEq, Repr

namespace Quotation

/-- The labels of a type. -/
def ofLabels (type : String) (labels : List String) : Quotation where
  opening := "CREATE TYPE " ++ type ++ " AS ENUM("
  values := labels.map some
  closing := ");"

/-- The text of a comment. -/
def ofComment (target : CommentTarget) (name text : String) : Quotation where
  opening := "COMMENT ON " ++ target.keyword ++ " " ++ name ++ " IS "
  values := [some text]
  closing := ";"

/-- The values of a row. -/
def ofRow (table : String) (fields : List (String × Option String)) : Quotation where
  opening := "INSERT INTO " ++ table ++ " (" ++ nameList (fields.map (·.1)) ++ ") VALUES ("
  values := fields.map (·.2)
  closing := ");"

/-- The values as literals, with commas between them. -/
def body (quotation : Quotation) : String :=
  String.intercalate ", " (quotation.values.map literal)

theorem body_ofLabels (type : String) (labels : List String) :
    (ofLabels type labels).body =
      String.intercalate ", " (labels.map fun label => literal (some label)) :=
  congrArg (String.intercalate ", ") List.map_map

theorem body_ofComment (target : CommentTarget) (name text : String) :
    (ofComment target name text).body = literal (some text) :=
  String.intercalate_singleton

end Quotation

/-- The texts of the modeller that the statement writes as literals, with what is around them. -/
def Statement.quotation? : Statement → Option Quotation
  | .createEnum type labels => some (.ofLabels type labels)
  | .comment target name text => some (.ofComment target name text)
  | .insert table columns values =>
      some {
        opening := "INSERT INTO " ++ table ++ " (" ++ nameList columns ++ ") VALUES ("
        values := values
        closing := ");" }
  | _ => none

def Line.quotation? : Line → Option Quotation
  | .statement s => s.quotation?
  | _ => none

/-- The quotation of a line, with the level of the line. -/
def ScriptItem.quotation? (item : ScriptItem) : Option (Nat × Quotation) :=
  item.line.quotation?.map fun quotation => (item.level, quotation)

section Lines

variable {line : Line} {quotation : Quotation} (h : line.quotation? = some quotation)

include h

theorem Line.exists_statement_of_quotation? :
    ∃ statement, line = .statement statement ∧ statement.quotation? = some quotation := by
  cases line with
  | blank => cases h
  | text s => cases h
  | statement statement => exact ⟨statement, rfl, h⟩

theorem Line.shown_of_quotation? :
    line.shown = quotation.opening ++ quotation.body ++ quotation.closing := by
  obtain ⟨statement, rfl, h⟩ := Line.exists_statement_of_quotation? h
  cases statement with
  | createEnum type labels =>
      cases h
      simp only [Quotation.body_ofLabels]
      rfl
  | comment target name text =>
      cases h
      simp only [Quotation.body_ofComment]
      rfl
  | insert table columns values =>
      cases h
      rfl
  | _ => cases h

theorem Line.hasLiteral_of_quotation? (hwritable : line.isWritable = true) :
    ∀ s, some s ∈ quotation.values → hasLiteral s = true := by
  obtain ⟨statement, rfl, h⟩ := Line.exists_statement_of_quotation? h
  have hliterals : ∀ s ∈ statement.literals, hasLiteral s = true := List.all_eq_true.1 hwritable
  intro s hs
  refine hliterals s ?_
  cases statement with
  | createEnum type labels =>
      cases h
      obtain ⟨label, hlabel, heq⟩ := List.mem_map.1 hs
      exact Option.some.inj heq ▸ hlabel
  | comment target name text =>
      cases h
      exact List.mem_singleton.2 (Option.some.inj (List.mem_singleton.1 hs))
  | insert table columns values =>
      cases h
      exact List.mem_filterMap.2 ⟨some s, hs, rfl⟩
  | _ => cases h

/-- The closing of a quotation ends its last value. -/
theorem Line.endsValue_of_quotation? (rest : List Char) :
    endsValue (quotation.closing.toList ++ rest) = true := by
  obtain ⟨statement, rfl, h⟩ := Line.exists_statement_of_quotation? h
  have hparenthesis : endsValue (");".toList ++ rest) = true := by
    rw [show ");".toList = [')', ';'] from rfl]
    rfl
  have hsemicolon : endsValue (";".toList ++ rest) = true := by
    rw [show ";".toList = [';'] from rfl]
    rfl
  cases statement with
  | createEnum type labels =>
      cases h
      exact hparenthesis
  | comment target name text =>
      cases h
      exact hsemicolon
  | insert table columns values =>
      cases h
      exact hparenthesis
  | _ => cases h

end Lines

namespace Script

/-- The script with these items only. -/
def only (script : Script) (items : List ScriptItem) : Script :=
  { script with items := items }

theorem text_only_append (script : Script) (earlier later : List ScriptItem) :
    (script.only (earlier ++ later)).text =
      (script.only earlier).text ++ (script.only later).text := by
  simp only [text, textLines, only, List.flatMap_append, List.map_append,
    String.join_append]

theorem text_only_singleton (script : Script) (line : Line) :
    (script.only [⟨0, line⟩]).text = line.shown ++ "\n" := by
  simp only [text, textLines, only, List.flatMap_singleton]
  exact ScriptItem.join_textLines script.indentUnit line

/-- The quotations of the script are these, in this order.  Each stands at the outermost level
after the text of the lines before it, and what follows its opening is read as its values up to
its closing, which the text of the lines after it follows. -/
structure Quotes (script : Script) (quotations : List Quotation) : Prop where
  all : script.items.filterMap (·.line.quotation?) = quotations
  read : ∀ (earlier later : List ScriptItem) (item : ScriptItem) (quotation : Quotation),
    script.items = earlier ++ item :: later → item.line.quotation? = some quotation →
      item.level = 0 ∧ ∃ rest,
        script.text = (script.only earlier).text ++ quotation.opening ++ rest ∧
          readValues quotation.values.length rest.toList =
            some (quotation.values,
              (quotation.closing ++ "\n" ++ (script.only later).text).toList)

/-- The text of a script around one of its lines at the outermost level. -/
theorem text_eq_of_items {script : Script} {earlier later : List ScriptItem} {line : Line}
    (h : script.items = earlier ++ ⟨0, line⟩ :: later) :
    script.text =
      (script.only earlier).text ++ (line.shown ++ "\n" ++ (script.only later).text) := by
  rw [← text_only_singleton script, ← text_only_append, ← text_only_append, List.singleton_append,
    ← h]
  rfl

/-- What stands in a line of literals is read as its values, up to its closing. -/
theorem readValues_quotation {line : Line} {quotation : Quotation}
    (h : line.quotation? = some quotation) (hwritable : line.isWritable = true) (rest : String) :
    readValues quotation.values.length (quotation.body ++ (quotation.closing ++ rest)).toList =
      some (quotation.values, (quotation.closing ++ rest).toList) := by
  have hends := Line.endsValue_of_quotation? h rest.toList
  have hread := readValues_literals (Line.hasLiteral_of_quotation? h hwritable) hends
  rwa [← String.toList_append, ← Quotation.body, ← String.toList_append] at hread

theorem quotation?_of_filterMap {items : List ScriptItem} {quotations : List Quotation}
    (h : items.filterMap (·.quotation?) = quotations.map fun quotation => (0, quotation)) :
    items.filterMap (·.line.quotation?) = quotations := by
  have hsecond := congrArg (List.map (·.2)) h
  rw [List.map_map, List.map_filterMap] at hsecond
  refine Eq.trans ?_ (hsecond.trans (List.map_id _))
  refine List.filterMap_congr fun item _ => ?_
  unfold ScriptItem.quotation?
  cases item.line.quotation? <;> rfl

theorem level_eq_zero_of_filterMap {items : List ScriptItem} {quotations : List Quotation}
    (h : items.filterMap (·.quotation?) = quotations.map fun quotation => (0, quotation))
    {item : ScriptItem} (hitem : item ∈ items) {quotation : Quotation}
    (hquotation : item.line.quotation? = some quotation) : item.level = 0 := by
  have hplaced : item.quotation? = some (item.level, quotation) := by
    rw [ScriptItem.quotation?, hquotation]
    rfl
  have hmem := List.mem_filterMap.2 ⟨item, hitem, hplaced⟩
  rw [h] at hmem
  obtain ⟨_, -, heq⟩ := List.mem_map.1 hmem
  exact (congrArg (·.1) heq).symm

/-- A sound script whose quotations stand at the outermost level is read back. -/
theorem quotes_of_filterMap {script : Script} {quotations : List Quotation}
    (hwritable : script.items.all (·.line.isWritable) = true)
    (h : script.items.filterMap (·.quotation?) = quotations.map fun quotation => (0, quotation)) :
    script.Quotes quotations := by
  refine ⟨quotation?_of_filterMap h, fun earlier later item quotation hitems hquotation => ?_⟩
  have hmem : item ∈ script.items := hitems ▸ List.mem_append_right _ (List.mem_cons_self ..)
  have hlevel := level_eq_zero_of_filterMap h hmem hquotation
  have hitem : item = ⟨0, item.line⟩ := by rw [← hlevel]
  rw [hitem] at hitems
  refine ⟨hlevel, quotation.body ++ (quotation.closing ++ ("\n" ++ (script.only later).text)),
    ?_, ?_⟩
  · rw [text_eq_of_items hitems, Line.shown_of_quotation? hquotation]
    simp only [String.append_assoc]
  · rw [readValues_quotation hquotation (List.all_eq_true.1 hwritable item hmem),
      ← String.append_assoc]

end Script
end Sql
end ErdSql
