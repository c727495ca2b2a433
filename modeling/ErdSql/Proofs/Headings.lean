import ErdSql.Proofs.HandedScripts
import ErdSql.Proofs.Pieces
import ErdSql.Proofs.RawTexts

/-!
# Headings

What a script says of its statements in comments: the name and the author of a project, the data
model of a schema, the name of an index.  The mark of a comment stands before the first line of
such a text only.  The other lines of the text come into the script as they are, so the headings
of a script are comments throughout exactly if each of those lines is one by itself; texts of one
line always are.
-/

namespace ErdSql

namespace Sql

/-- What headings are about. -/
inductive HeadingKind where
  | database
  | author
  | schema
  | index

/-- The mark before the text of a heading. -/
def HeadingKind.mark : HeadingKind → String
  | .database => "-- Database: "
  | .author => "-- Author: "
  | .schema => "-- Schema for: "
  | .index => "-- Index: "

/-- A text of the modeller in a heading. -/
structure Heading where
  kind : HeadingKind
  text : String

namespace Heading

def shown (heading : Heading) : String :=
  heading.kind.mark ++ heading.text

/-- The first line of the text. -/
def firstLine (heading : Heading) : String :=
  (Text.splitAt '\n' heading.text).headD ""

/-- The lines of the text after its first one. -/
def continuation (heading : Heading) : List String :=
  (Text.splitAt '\n' heading.text).tail

/-- The lines of the heading: the mark stands before the first one only. -/
def lines (heading : Heading) : List String :=
  (heading.kind.mark ++ heading.firstLine) :: heading.continuation

end Heading

/-- Whether the line is a comment, after indentation. -/
def IsComment (line : String) : Prop :=
  ['-', '-'] <+: line.toList.dropWhile fun c => c == ' ' || c == '\t'

instance : DecidablePred IsComment := fun _ => inferInstanceAs (Decidable (_ <+: _))

/-- The text of a heading. -/
def RawText.heading? : RawText → Option String
  | .heading shown => some shown
  | _ => none

/-- The headings in lines, with their levels. -/
def headingsIn (raws : List (Nat × RawText)) : List (Nat × String) :=
  raws.filterMap fun (level, raw) => raw.heading?.map fun shown => (level, shown)

namespace Script

/-- The headings of the script, with their levels. -/
def headings (script : Script) : List (Nat × String) :=
  headingsIn (rawTexts none script.items)

/-- The lines of the text of the script that belong to its headings. -/
def headingLines (script : Script) : List String :=
  script.headings.flatMap fun (level, shown) =>
    ScriptItem.textLines script.indentUnit ⟨level, .text shown⟩

/-- The headings of the script are these.  Their lines are lines of its text, and they are
comments exactly if the lines that continue them are. -/
structure HasHeadings (script : Script) (headings : List Heading) : Prop where
  all : script.headings = headings.map fun heading => (0, heading.shown)
  lines : script.headingLines = headings.flatMap Heading.lines
  sublist : script.headingLines.Sublist script.textLines
  isComment_iff : (∀ line ∈ script.headingLines, IsComment line) ↔
    ∀ heading ∈ headings, ∀ line ∈ heading.continuation, IsComment line
  /-- Texts of one line are comments throughout. -/
  oneLine : (∀ heading ∈ headings, '\n' ∉ heading.text.toList) →
    ∀ line ∈ script.headingLines, IsComment line

end Script

section Lines

theorem headingsIn_append (raws raws' : List (Nat × RawText)) :
    headingsIn (raws ++ raws') = headingsIn raws ++ headingsIn raws' :=
  List.filterMap_append

theorem headingsIn_map_heading {α : Type} (f : α → String) (list : List α) :
    headingsIn (list.map fun a => (0, .heading (f a))) = list.map fun a => (0, f a) := by
  rw [headingsIn, List.filterMap_map]
  exact congrFun List.filterMap_eq_map' list

/-- The lines of headings are among the lines of the text. -/
theorem headingLines_sublist (unit : String) (above : Option Statement)
    (items : List ScriptItem) :
    ((headingsIn (rawTexts above items)).flatMap fun (level, shown) =>
        ScriptItem.textLines unit ⟨level, .text shown⟩).Sublist
      (items.flatMap (ScriptItem.textLines unit)) := by
  induction items generalizing above with
  | nil => exact .slnil
  | cons item items ih =>
      rw [rawTexts, headingsIn_append, List.flatMap_append, List.flatMap_cons]
      refine List.Sublist.append ?_ (ih _)
      cases hraw : item.line.rawText? above with
      | none => exact List.nil_sublist _
      | some raw =>
          cases raw with
          | heading shown =>
              have hline : item.line = .text shown := by
                obtain ⟨_, -, h, hraw⟩ | ⟨_, _, -, -, hraw⟩ | ⟨_, _, _, _, _, -, -, hraw⟩ :=
                  Line.rawText?_cases hraw
                · cases hraw
                  exact h
                · cases hraw
                · cases hraw
              have hitem : item = ⟨item.level, .text shown⟩ := by rw [← hline]
              have hlines : (headingsIn [(item.level, .heading shown)]).flatMap
                  (fun (level, shown) => ScriptItem.textLines unit ⟨level, .text shown⟩) =
                    ScriptItem.textLines unit ⟨item.level, .text shown⟩ := List.append_nil _
              rw [hitem, Option.map_some, Option.toList_some, hlines]
          | default opening value => exact List.nil_sublist _
          | body header text => exact List.nil_sublist _

/-- The mark of a heading joins the first line of its text. -/
theorem textLines_heading (unit : String) (heading : Heading) :
    ScriptItem.textLines unit ⟨0, .text heading.shown⟩ = heading.lines := by
  have hmark : '\n' ∉ heading.kind.mark.toList := by
    cases heading.kind <;> decide
  obtain ⟨first, rest, hpieces⟩ : ∃ first rest,
      Text.splitChars (· == '\n') heading.text.toList = first :: rest :=
    List.exists_cons_of_ne_nil (Text.splitChars_ne_nil _ _)
  rw [ScriptItem.textLines_zero, Heading.lines, Heading.firstLine, Heading.continuation]
  simp only [Line.shown, Heading.shown, Text.splitAt, Text.splitAtAny, String.toList_append,
    Text.append_splitChars (Text.beq_eq_false_of_not_mem hmark) hpieces, hpieces, List.map_cons,
    List.headD_cons, List.tail_cons, String.ofList_append, String.ofList_toList]

/-- The first line of a heading is a comment. -/
theorem isComment_mark_append (kind : HeadingKind) (text : String) :
    IsComment (kind.mark ++ text) := by
  unfold IsComment
  rw [String.toList_append]
  cases kind <;> exact ⟨_, rfl⟩

theorem isComment_lines_iff (heading : Heading) :
    (∀ line ∈ heading.lines, IsComment line) ↔
      ∀ line ∈ heading.continuation, IsComment line := by
  rw [Heading.lines, List.forall_mem_cons]
  exact and_iff_right (isComment_mark_append _ _)

theorem continuation_eq_nil {heading : Heading} (h : '\n' ∉ heading.text.toList) :
    heading.continuation = [] := by
  have hpieces := Text.splitChars_of_not_sep (Text.beq_eq_false_of_not_mem h)
  rw [Heading.continuation, Text.splitAt, Text.splitAtAny, hpieces]
  rfl

/-- A script whose headings are known from the model. -/
theorem Script.hasHeadings_of_headings {script : Script} {headings : List Heading}
    (h : script.headings = headings.map fun heading => (0, heading.shown)) :
    script.HasHeadings headings := by
  have hlines : script.headingLines = headings.flatMap Heading.lines := by
    rw [headingLines, h, List.flatMap_map]
    exact List.flatMap_congr fun heading _ => textLines_heading _ heading
  have hcomments : (∀ line ∈ script.headingLines, IsComment line) ↔
      ∀ heading ∈ headings, ∀ line ∈ heading.continuation, IsComment line := by
    rw [hlines]
    simp only [List.forall_mem_flatMap]
    exact forall₂_congr fun heading _ => isComment_lines_iff heading
  refine ⟨h, hlines, headingLines_sublist script.indentUnit none script.items, hcomments, ?_⟩
  intro htexts
  refine hcomments.2 fun heading hheading line hline => ?_
  rw [continuation_eq_nil (htexts heading hheading)] at hline
  cases hline

end Lines
end Sql

namespace Generation

open Sql

namespace Artifact

/-- The headings of the script that creates the artifact, in order. -/
def headings : Artifact → List Heading
  | database project => [⟨.database, project.name⟩, ⟨.author, project.author⟩]
  | routines _ _ => []
  | tables _ file =>
      (file.entities.filter (Table.isGenerated file.tablePrefix)).flatMap fun entity =>
        (Table.indexNames entity).map fun name => ⟨.index, name⟩
  | schemas project =>
      (newSchemas [] project.dataModels).map fun (dataModel, _) => ⟨.schema, dataModel.name⟩

theorem headingsIn_rawTexts_table (options : Options) (table tableName : String)
    (entity : Entity) :
    headingsIn (Table.rawTexts options table tableName entity) =
      (Table.indexNames entity).map fun name => (0, Table.indexHeading name) := by
  have hdefaults : headingsIn (entity.columns.filterMap (Table.rawDefault? table)) = [] := by
    refine List.filterMap_eq_nil_iff.2 fun raw hraw => ?_
    obtain ⟨column, -, hcolumn⟩ := List.mem_filterMap.1 hraw
    obtain ⟨opening, value, rfl⟩ := Table.exists_of_rawDefault?_eq_some hcolumn
    rfl
  have htriggers : headingsIn ((entity.tags.pointingThrough options.triggerMarker).filterMap
      (Table.rawTrigger? table tableName)) = [] := by
    refine List.filterMap_eq_nil_iff.2 fun raw hraw => ?_
    obtain ⟨tag, -, htag⟩ := List.mem_filterMap.1 hraw
    obtain ⟨header, rfl⟩ := Table.exists_of_rawTrigger?_eq_some htag
    rfl
  rw [Table.rawTexts, headingsIn_append, headingsIn_append, hdefaults, htriggers,
    headingsIn_map_heading, List.nil_append, List.append_nil]

theorem headingsIn_rawTexts (options : Options) (artifact : Artifact) :
    headingsIn (artifact.rawTexts options) =
      artifact.headings.map fun heading => (0, heading.shown) := by
  cases artifact with
  | database project => rfl
  | routines kind dataModel =>
      rw [rawTexts, headingsIn, List.filterMap_map]
      exact List.filterMap_eq_nil_iff.2 fun _ _ => rfl
  | schemas project =>
      rw [rawTexts, headings, headingsIn_map_heading, List.map_map]
      rfl
  | tables schema file =>
      rw [rawTexts, headings]
      induction file.entities with
      | nil => rfl
      | cons entity entities ih =>
          rw [List.flatMap_cons, headingsIn_append, ih, List.filter_cons]
          cases hname : Naming.prefixedTableName file.tablePrefix entity.toElement with
          | error fault =>
              have hskipped : Table.isGenerated file.tablePrefix entity = false := by
                rw [Table.isGenerated, hname]
                rfl
              rw [hskipped]
              rfl
          | ok name =>
              have hkept : Table.isGenerated file.tablePrefix entity = true := by
                rw [Table.isGenerated, hname]
                rfl
              rw [hkept, if_pos rfl, List.flatMap_cons, List.map_append,
                headingsIn_rawTexts_table, List.map_map]
              rfl

end Artifact

namespace Generator

open Storage

/-- The headings of the scripts of a run are known from the model; they are comments exactly as
far as their texts are after their first lines. -/
theorem generate_hasHeadings {σ : Type} [Sink σ] (generator : Generator σ) (moment : Log.Moment)
    (project : Project) :
    (generator.generate moment (some (.project project))).Hands generator project
      (fun artifact script => script.HasHeadings artifact.headings)
      (fun _ script => script.HasHeadings []) := by
  refine generateProject_hands generator moment project ?_ ?_
  · intro unit _ artifact
    refine Script.hasHeadings_of_headings ?_
    rw [Script.headings, ← Artifact.headingsIn_rawTexts generator.options]
    exact congrArg headingsIn (Artifact.carries_createItems generator.options _ artifact).rawTexts
  · intro unit _ artifact
    refine Script.hasHeadings_of_headings ?_
    exact congrArg headingsIn (Artifact.carries_dropItems generator.options _ artifact).rawTexts

/-- A project whose author has a second line. -/
def auditProject : Project :=
  { name := "Shop", author := "Ann\nDROP TABLE audit;" }

/-- The second line of the author stands in the script of the database, and is no comment. -/
theorem generate_hasHeadings_audit :
    ∃ script, (createPath databaseStem, script) ∈ memoryGenerator.attempts auditProject ∧
      script.headingLines = ["-- Database: Shop", "-- Author: Ann", "DROP TABLE audit;"] ∧
      "DROP TABLE audit;" ∈ script.textLines ∧ ¬ IsComment "DROP TABLE audit;" := by
  have hsuccess : (memoryGenerator.generate newYear
      (some (.project auditProject))).result.success = true := by decide +kernel
  obtain ⟨script, hfile, hheadings⟩ :=
    (generate_hasHeadings memoryGenerator newYear auditProject).complete hsuccess
      (.database auditProject) (List.mem_cons_self ..) (by decide +kernel)
  have hlines : script.headingLines =
      ["-- Database: Shop", "-- Author: Ann", "DROP TABLE audit;"] := by
    rw [hheadings.lines]
    decide +kernel
  refine ⟨script, hfile, hlines, hheadings.sublist.subset ?_, by decide⟩
  rw [hlines]
  decide

end Generator

end Generation
end ErdSql
