import ErdSql.Proofs.HandedScripts
import ErdSql.Proofs.Indentation
import ErdSql.Proofs.RawTexts

/-!
# Opaque texts

The defaults of columns and the bodies of routines and triggers are SQL of the modeller, and
scripts should hold them as they are.  They begin where they should: a default after its keyword,
a body below its header.  But the indentation of its level is put into the further lines of each
of them.  The bodies of routines stand at the outermost level, so they are kept; defaults and the
bodies of triggers stand one level deeper, and are kept exactly if there is no indentation or if
their further lines are empty.
-/

namespace ErdSql

namespace Sql

namespace RawText

/-- Whether the text is SQL of the modeller. -/
def isOpaque : RawText → Bool
  | .heading _ => false
  | _ => true

def text : RawText → String
  | .heading shown => shown
  | .default _ value => value
  | .body _ text => text

/-- What stands in the text of a script where it holds an opaque text.  A default hangs on to the
line of its column, up to a comma; a body follows its header, up to the indentation of its first
line. -/
def StandsIn (script : Script) (level : Nat) : RawText → Prop
  | .heading _ => False
  | .default opening value =>
      ∃ (earlier later : List ScriptItem) (line : Line) (closing : String),
        script.items = earlier ++ ⟨level, line⟩ :: later ∧
          script.text = (script.only earlier).text ++
            (Text.indent (indentation script.indentUnit level) opening ++
              Text.hang (indentation script.indentUnit level) value ++ closing ++ "\n" ++
                (script.only later).text) ∧
          closing ∈ ["", ",", indentation script.indentUnit level ++ ","]
  | .body header text =>
      ∃ (earlier later : List ScriptItem) (headerLevel : Nat) (lead : String),
        script.items = earlier ++ ⟨headerLevel, .statement header⟩ :: ⟨level, .text text⟩ :: later ∧
          script.text = (script.only earlier).text ++
            (Text.indent (indentation script.indentUnit headerLevel) header.text ++ "\n" ++ lead ++
              Text.hang (indentation script.indentUnit level) text ++ "\n" ++
                (script.only later).text) ∧
          lead ∈ ["", indentation script.indentUnit level]

end RawText

namespace Script

/-- The opaque texts that the script holds, with their levels. -/
def opaqueTexts (script : Script) : List (Nat × RawText) :=
  (rawTexts none script.items).filter (·.2.isOpaque)

/-- The opaque texts of the script are these.  Each stands where it should, and it stands there
as it is exactly if it is not indented or has nothing in its further lines. -/
structure Embeds (script : Script) (opaques : List (Nat × RawText)) : Prop where
  all : script.opaqueTexts = opaques
  standsIn : ∀ level raw, (level, raw) ∈ opaques → raw.StandsIn script level
  verbatim_iff : ∀ level raw, (level, raw) ∈ opaques →
    (Text.hang (indentation script.indentUnit level) raw.text = raw.text ↔
      (level = 0 ∨ script.indentUnit = "") ∨
        ∀ line ∈ (Text.splitAt '\n' raw.text).tail, line = "")

end Script

section Places

variable {script : Script} {earlier later : List ScriptItem} {level : Nat}

/-- The line of a column with a default is its part up to the keyword, the default and a comma
unless it is the last line. -/
theorem exists_text_column (name sqlType : String) (notNull : Bool) {value : String}
    (h : value ≠ "") (last : Bool) :
    ∃ ending ∈ ["", ","],
      (Statement.tableEntry (.column name sqlType notNull (some value)) last).text =
        defaultOpening name sqlType notNull ++ (value ++ ending) := by
  have hentry : (TableEntry.column name sqlType notNull (some value)).text =
      defaultOpening name sqlType notNull ++ value := by
    simp [TableEntry.text, defaultOpening, h, String.append_assoc]
  generalize TableEntry.column name sqlType notNull (some value) = entry at hentry ⊢
  have htext : (Statement.tableEntry entry last).text =
      if last then entry.text else entry.text ++ "," := rfl
  rw [htext, hentry]
  cases last
  · exact ⟨",", List.mem_cons_of_mem _ (List.mem_cons_self ..), String.append_assoc⟩
  · refine ⟨"", List.mem_cons_self .., ?_⟩
    rw [if_pos rfl, String.append_empty]

/-- The part of a line up to a default ends within the line. -/
theorem freshAfter_defaultOpening (name sqlType : String) (notNull : Bool) :
    Text.freshAfter true (defaultOpening name sqlType notNull).toList = false := by
  have hkeyword : " DEFAULT ".toList = " DEFAULT".toList ++ [' '] := rfl
  rw [defaultOpening, String.toList_append, hkeyword, ← List.append_assoc, Text.freshAfter,
    List.foldl_append, List.foldl_cons, List.foldl_nil]
  rfl

theorem standsIn_default {name sqlType value : String} {notNull last : Bool}
    (hitems : script.items = earlier ++
      ⟨level, .statement (.tableEntry (.column name sqlType notNull (some value)) last)⟩ :: later)
    (hvalue : value ≠ "") :
    (RawText.default (defaultOpening name sqlType notNull) value).StandsIn script level := by
  obtain ⟨ending, hending, htext⟩ := exists_text_column name sqlType notNull hvalue last
  obtain ⟨closing, hclosing, hhang⟩ :=
    Text.exists_hang_append (indentation script.indentUnit level) value hending
  have hline : Text.indent (indentation script.indentUnit level)
      (Statement.tableEntry (.column name sqlType notNull (some value)) last).text =
        Text.indent (indentation script.indentUnit level) (defaultOpening name sqlType notNull) ++
          (Text.hang (indentation script.indentUnit level) value ++ closing) := by
    rw [htext, Text.indent_append _ (freshAfter_defaultOpening ..), hhang]
  refine ⟨earlier, later, _, closing, hitems, ?_, hclosing⟩
  rw [Script.text_around [_] hitems]
  simp only [List.map_cons, List.map_nil, String.join_cons, String.join_nil, String.append_empty,
    Line.shown, hline, String.append_assoc]

theorem standsIn_body {header : Statement} {text : String} {headerLevel : Nat}
    (hitems : script.items =
      earlier ++ ⟨headerLevel, .statement header⟩ :: ⟨level, .text text⟩ :: later) :
    (RawText.body header text).StandsIn script level := by
  obtain ⟨lead, hlead, hindent⟩ :=
    Text.exists_indent_eq (indentation script.indentUnit level) text
  refine ⟨earlier, later, headerLevel, lead, hitems, ?_, hlead⟩
  rw [Script.text_around [_, _] hitems]
  simp only [List.map_cons, List.map_nil, String.join_cons, String.join_nil, String.append_empty,
    Line.shown, hindent, String.append_assoc]

/-- Each opaque text of a script stands where it should. -/
theorem standsIn_of_mem_opaqueTexts {raw : RawText} (h : (level, raw) ∈ script.opaqueTexts) :
    raw.StandsIn script level := by
  obtain ⟨hmem, hopaque⟩ := List.mem_filter.1 h
  obtain ⟨earlier, line, later, hitems, hraw⟩ := exists_items_of_mem_rawTexts hmem
  obtain ⟨shown, -, -, rfl⟩ | ⟨header, shown, habove, rfl, rfl⟩ |
    ⟨name, sqlType, notNull, value, last, rfl, hvalue, rfl⟩ := Line.rawText?_cases hraw
  · cases hopaque
  · -- the statement that goes on above the text is in the line just before it
    obtain ⟨earlier, headerLevel, rfl⟩ := exists_of_unfinishedAfter habove
    exact standsIn_body (by rw [hitems, List.append_assoc]; rfl)
  · exact standsIn_default hitems hvalue

theorem Script.embeds_of_opaqueTexts {opaques : List (Nat × RawText)}
    (h : script.opaqueTexts = opaques) : script.Embeds opaques := by
  refine ⟨h, ?_, ?_⟩
  · rintro level raw hraw
    exact standsIn_of_mem_opaqueTexts (h ▸ hraw)
  · intro level raw _
    rw [Text.hang_eq_self_iff, indentation_eq_empty_iff]

end Places
end Sql

namespace Generation

open Sql

namespace Artifact

/-- The opaque texts of an artifact, with the levels they are written at: the bodies of routines
at the outermost one, the defaults and the bodies of the triggers of each table one deeper. -/
def opaqueTexts (options : Options) : Artifact → List (Nat × RawText)
  | database _ => []
  | schemas _ => []
  | routines kind dataModel =>
      (namedRoutines (dataModel.tags.pointingAt (routineMarker options kind))).map fun routine =>
        (0, .body (.createRoutine kind routine.name) routine.tag.value)
  | tables schema file =>
      file.entities.flatMap fun entity =>
        match Naming.prefixedTableName file.tablePrefix entity.toElement with
        | .error _ => []
        | .ok name =>
            entity.columns.filterMap (Table.rawDefault? (schema ++ "." ++ name)) ++
              (entity.tags.pointingThrough options.triggerMarker).filterMap
                (Table.rawTrigger? (schema ++ "." ++ name) name)

theorem filter_rawTexts_table (options : Options) (table tableName : String) (entity : Entity) :
    (Table.rawTexts options table tableName entity).filter (·.2.isOpaque) =
      entity.columns.filterMap (Table.rawDefault? table) ++
        (entity.tags.pointingThrough options.triggerMarker).filterMap
          (Table.rawTrigger? table tableName) := by
  have hdefaults : ∀ raw ∈ entity.columns.filterMap (Table.rawDefault? table),
      raw.2.isOpaque = true := by
    intro raw hraw
    obtain ⟨column, -, hcolumn⟩ := List.mem_filterMap.1 hraw
    obtain ⟨opening, value, rfl⟩ := Table.exists_of_rawDefault?_eq_some hcolumn
    rfl
  have htriggers : ∀ raw ∈ (entity.tags.pointingThrough options.triggerMarker).filterMap
      (Table.rawTrigger? table tableName), raw.2.isOpaque = true := by
    intro raw hraw
    obtain ⟨tag, -, htag⟩ := List.mem_filterMap.1 hraw
    obtain ⟨header, rfl⟩ := Table.exists_of_rawTrigger?_eq_some htag
    rfl
  have hheadings : ((Table.indexNames entity).map fun name =>
      (0, RawText.heading (Table.indexHeading name))).filter (·.2.isOpaque) = [] := by
    rw [List.filter_map]
    exact List.map_eq_nil_iff.2 (List.filter_eq_nil_iff.2 fun _ _ => Bool.false_ne_true)
  rw [Table.rawTexts, List.filter_append, List.filter_append, hheadings, List.append_nil,
    List.filter_eq_self.2 hdefaults, List.filter_eq_self.2 htriggers]

theorem filter_rawTexts (options : Options) (artifact : Artifact) :
    (artifact.rawTexts options).filter (·.2.isOpaque) = artifact.opaqueTexts options := by
  cases artifact with
  | database project => rfl
  | routines kind dataModel =>
      rw [rawTexts, opaqueTexts, List.filter_eq_self]
      intro raw hraw
      obtain ⟨routine, -, rfl⟩ := List.mem_map.1 hraw
      rfl
  | schemas project =>
      rw [rawTexts, opaqueTexts, List.filter_map]
      exact List.map_eq_nil_iff.2 (List.filter_eq_nil_iff.2 fun _ _ => Bool.false_ne_true)
  | tables schema file =>
      rw [rawTexts, opaqueTexts, List.filter_flatMap]
      refine List.flatMap_congr fun entity _ => ?_
      cases Naming.prefixedTableName file.tablePrefix entity.toElement with
      | error fault => rfl
      | ok name => exact filter_rawTexts_table options _ name entity

end Artifact

namespace Generator

open Storage

/-- The scripts of a run embed the opaque texts of the model, each where it should be, and as it
is only as far as indentation leaves it; the scripts that drop something embed none. -/
theorem generate_embeds {σ : Type} [Sink σ] (generator : Generator σ) (moment : Log.Moment)
    (project : Project) :
    (generator.generate moment (some (.project project))).Hands generator project
      (fun artifact script => generator.options.indentUnit = .ok script.indentUnit ∧
        script.Embeds (artifact.opaqueTexts generator.options))
      (fun _ script => script.Embeds []) := by
  refine generateProject_hands generator moment project ?_ ?_
  · intro unit hunit artifact
    refine ⟨hunit, Script.embeds_of_opaqueTexts ?_⟩
    rw [Script.opaqueTexts, ← Artifact.filter_rawTexts generator.options]
    exact congrArg (List.filter _)
      (Artifact.carries_createItems generator.options _ artifact).rawTexts
  · intro unit _ artifact
    refine Script.embeds_of_opaqueTexts ?_
    exact congrArg (List.filter _)
      (Artifact.carries_dropItems generator.options _ artifact).rawTexts

/-- A data model with a default of two lines. -/
def noteModel : DataModel :=
  { name := "Sales"
    members := [.entity {
      name := "Note"
      columns := [{ name := "body", type := "TEXT", tags := [.ofString "default" "'a\nb'"] }] }] }

def noteProject : Project :=
  { name := "Shop", dataModels := [noteModel] }

/-- The default follows its keyword, but the second line of its literal is indented. -/
theorem generate_embeds_note :
    ∃ script, (createPath "sales_table", script) ∈ memoryGenerator.attempts noteProject ∧
      script.opaqueTexts = [(1, .default "body text DEFAULT " "'a\nb'")] ∧
      (RawText.default "body text DEFAULT " "'a\nb'").StandsIn script 1 ∧
      Text.hang (indentation script.indentUnit 1) "'a\nb'" = "'a\n    b'" := by
  have hsuccess : (memoryGenerator.generate newYear
      (some (.project noteProject))).result.success = true := by decide +kernel
  have hartifact : .tables "public" (.loose noteModel) ∈ artifacts noteProject :=
    Artifact.mem_artifacts_of_mem_dataModelArtifacts (List.mem_singleton.2 rfl)
      (Artifact.tables_mem_dataModelArtifacts (by decide +kernel)
        (TableFile.mem_tableFiles_loose noteModel))
  obtain ⟨script, hfile, hunit, hembeds⟩ :=
    (generate_embeds memoryGenerator newYear noteProject).complete hsuccess _ hartifact
      (by decide +kernel)
  have hopaques : script.opaqueTexts = [(1, .default "body text DEFAULT " "'a\nb'")] := by
    rw [hembeds.all]
    decide +kernel
  have hindent : script.indentUnit = "    " := by
    have hdefault : memoryGenerator.options.indentUnit = .ok "    " := by decide +kernel
    rw [hdefault] at hunit
    exact (Except.ok.inj hunit).symm
  refine ⟨script, hfile, hopaques, hembeds.standsIn _ _ ?_, ?_⟩
  · rw [← hembeds.all, hopaques]
    exact List.mem_singleton.2 rfl
  · rw [hindent]
    decide +kernel

end Generator

end Generation
end ErdSql
