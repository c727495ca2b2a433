import ErdSql.Proofs.Indentation
import Mathlib.Data.List.Count

/-!
# Writing a script

A script is written line by line, deeper and less deep in between.  Its text is that of the lines
written, each indented by the level at which it was written, so it only ever grows at its end.  It
has as many lines as line feeds, and content exactly if it is not blank.
-/

namespace ErdSql

namespace Text

/-- Without a unit nothing is put before the lines of a text. -/
theorem indent_empty (s : String) : indent "" s = s := by
  have hchars : ∀ (fresh : Bool) (cs : List Char), indentChars [] fresh cs = cs := by
    intro fresh cs
    induction cs generalizing fresh with
    | nil => rfl
    | cons c cs ih => rw [indentChars, ite_self, ih, List.nil_append]
  rw [indent, String.toList_empty, hchars, String.ofList_toList]

theorem isAllBlank_join (texts : List String) :
    isAllBlank (String.join texts) = texts.all isAllBlank := by
  induction texts with
  | nil => rfl
  | cons text texts ih => rw [String.join_cons, isAllBlank_append, ih, List.all_cons]

end Text

namespace Sql

/-- What can be done with a script. -/
inductive WriteOperation where
  | write (line : Line)
  | indent
  | outdent

namespace WriteOperation

/-- The level after an operation; there is none below zero. -/
def level (before : Nat) : WriteOperation → Nat
  | .write _ => before
  | .indent => before + 1
  | .outdent => before - 1

/-- The lines that operations write, each at the level at which it is written.  A line with a text
that has no literal is not written. -/
def lines (before : Nat) : List WriteOperation → List ScriptItem
  | [] => []
  | .write line :: operations =>
      if line.isWritable then ⟨before, line⟩ :: lines before operations
      else lines before operations
  | operation :: operations => lines (operation.level before) operations

end WriteOperation

theorem indentation_eq_join (unit : String) (level : Nat) :
    indentation unit level = String.join (List.replicate level unit) := by
  induction level with
  | zero => rfl
  | succ level ih => rw [indentation, ih, List.replicate_succ, String.join_cons]

namespace Script

/-- The script after an operation, unless it fails. -/
def perform (script : Script) : WriteOperation → Except BuildFault Script
  | .write line => script.write 0 line
  | .indent => .ok script.indent
  | .outdent => .ok script.outdent

/-- The script after operations; one that fails leaves it as it is. -/
def performAll (script : Script) : List WriteOperation → Script
  | [] => script
  | operation :: operations =>
      match script.perform operation with
      | .ok next => next.performAll operations
      | .error _ => script.performAll operations

theorem performAll_append (script : Script) (earlier later : List WriteOperation) :
    script.performAll (earlier ++ later) = (script.performAll earlier).performAll later := by
  induction earlier generalizing script with
  | nil => rfl
  | cons operation earlier ih =>
      rw [List.cons_append, performAll, performAll]
      split
      · exact ih _
      · exact ih _

/-- Operations add their lines to a script and move its level. -/
theorem performAll_eq (script : Script) (operations : List WriteOperation) :
    script.performAll operations =
      { script with
        level := operations.foldl WriteOperation.level script.level
        items := script.items ++ WriteOperation.lines script.level operations } := by
  induction operations generalizing script with
  | nil => simp [performAll, WriteOperation.lines]
  | cons operation operations ih =>
      cases operation with
      | write line =>
          rw [performAll, perform, write, WriteOperation.lines]
          cases hline : line.isWritable with
          | false => exact ih script
          | true =>
              simp only [if_true, ih, addAt, List.append_assoc, List.singleton_append, Nat.add_zero]
              rfl
      | indent => exact ih script.indent
      | outdent => exact ih script.outdent

section Lines

variable (script : Script)

theorem not_lineFeed_mem_textLines (h : '\n' ∉ script.indentUnit.toList) {line : String}
    (hline : line ∈ script.textLines) : '\n' ∉ line.toList := by
  obtain ⟨item, -, hitem⟩ := List.mem_flatMap.1 hline
  obtain ⟨part, hpart, rfl⟩ := List.mem_map.1 hitem
  obtain ⟨piece, hpiece, rfl⟩ := List.mem_map.1 hpart
  have hindentation : '\n' ∉ (indentation script.indentUnit item.level).toList := by
    induction item.level with
    | zero => exact List.not_mem_nil
    | succ level ih =>
        rw [indentation, String.toList_append]
        exact fun hmem => (List.mem_append.1 hmem).elim h ih
  have hclean : '\n' ∉ piece := fun hmem =>
    absurd (Text.not_sep_of_mem_splitChars hpiece hmem) (by decide)
  split
  · exact List.not_mem_nil
  · rw [String.toList_append, String.toList_ofList]
    exact fun hmem => (List.mem_append.1 hmem).elim hindentation hclean

/-- A script has as many lines as its text has line feeds. -/
theorem length_eq_count (h : '\n' ∉ script.indentUnit.toList) :
    script.length = script.text.toList.count '\n' := by
  have hlines : ∀ line ∈ script.textLines, '\n' ∉ line.toList :=
    fun line => script.not_lineFeed_mem_textLines h
  rw [length, text]
  generalize script.textLines = lines at hlines
  induction lines with
  | nil => rfl
  | cons line lines ih =>
      obtain ⟨hline, hlines⟩ := List.forall_mem_cons.1 hlines
      rw [List.map_cons, String.join_cons, String.toList_append, String.toList_append,
        List.count_append, List.count_append, List.count_eq_zero.2 hline, ← ih hlines,
        List.length_cons]
      exact Nat.add_comm ..

theorem hasContent_eq : script.hasContent = !Text.isAllBlank script.text := by
  have hended : (Text.isAllBlank ∘ fun line : String => line ++ "\n") = Text.isAllBlank :=
    funext fun line => (Text.isAllBlank_append line "\n").trans (Bool.and_true _)
  rw [hasContent, text, Text.isAllBlank_join, List.all_map, hended, List.not_all_eq_any_not]

end Lines

/-- Operations add the texts of their lines at the end of the text. -/
theorem text_performAll (script : Script) (operations : List WriteOperation) :
    (script.performAll operations).text = script.text ++
      String.join ((WriteOperation.lines script.level operations).map fun item =>
        Text.indent (indentation script.indentUnit item.level) item.line.shown ++ "\n") := by
  rw [performAll_eq, text_eq_join_indent, text_eq_join_indent script, List.map_append,
    String.join_append]

/-- A line that is written at level zero appears as it is. -/
theorem exists_text_performAll_write {script : Script} (hlevel : script.level = 0) {line : Line}
    (hline : line.isWritable = true) (later : List WriteOperation) :
    ∃ rest, (script.performAll (.write line :: later)).text =
      script.text ++ (line.shown ++ "\n") ++ rest := by
  rw [text_performAll, hlevel, WriteOperation.lines, if_pos hline, List.map_cons, String.join_cons,
    indentation, Text.indent_empty, ← String.append_assoc]
  exact ⟨_, rfl⟩

/-- What a script becomes by operations.  Its text is that of the lines written, in order, each
with the unit put before its lines that are not empty as often as its level says, and each ended;
the level goes up and down with the operations and never below zero.  A line written at level zero
appears as it is, after what was written before it, and the text that some operations make begins
with the text that the first of them make.  If the unit holds no line feed, there are as many
lines as line feeds; and there is content exactly if some character is not blank. -/
theorem performAll_writes (unit : String) (operations : List WriteOperation) :
    let script := (empty unit).performAll operations
    script.text = String.join ((WriteOperation.lines 0 operations).map fun item =>
      Text.indent (String.join (List.replicate item.level unit)) item.line.shown ++ "\n") ∧
    (∀ earlier line later, operations = earlier ++ .write line :: later →
      line.isWritable = true → earlier.foldl WriteOperation.level 0 = 0 →
      ∃ rest, script.text =
        ((empty unit).performAll earlier).text ++ (line.shown ++ "\n") ++ rest) ∧
    (∀ earlier, earlier <+: operations →
      ((empty unit).performAll earlier).text.toList <+: script.text.toList) ∧
    ('\n' ∉ unit.toList → script.length = script.text.toList.count '\n') ∧
    (script.hasContent = false ↔ Text.isAllBlank script.text = true) := by
  intro script
  have hunit : script.indentUnit = unit := by
    simp only [script, performAll_eq]
    rfl
  refine ⟨?_, ?_, ?_, fun hbreak => ?_, ?_⟩
  · simp only [script, text_performAll, indentation_eq_join]
    exact String.empty_append
  · rintro earlier line later rfl hline hlevel
    simp only [script, performAll_append]
    exact exists_text_performAll_write (by rw [performAll_eq]; exact hlevel) hline later
  · rintro earlier ⟨later, rfl⟩
    simp only [script, performAll_append]
    rw [text_performAll ((empty unit).performAll earlier), String.toList_append]
    exact List.prefix_append ..
  · exact script.length_eq_count (by rwa [hunit])
  · rw [hasContent_eq, Bool.not_eq_false']

/-- A body on three lines, one of them empty, between two lines at level zero, and more steps out
than in. -/
def bodyOperations : List WriteOperation :=
  [.write (.text "a"), .indent, .write (.text "b\n\nc"), .outdent, .outdent, .write (.text "d\n")]

theorem performAll_writes_body :
    ((empty "  ").performAll bodyOperations).text = "a\n  b\n\n  c\nd\n\n" ∧
      (∃ rest, ((empty "  ").performAll bodyOperations).text =
        ((empty "  ").performAll (bodyOperations.take 5)).text ++ ("d\n" ++ "\n") ++ rest) ∧
      ((empty "  ").performAll [.write (.text "a"), .indent]).text.toList <+:
        ((empty "  ").performAll bodyOperations).text.toList ∧
      ((empty "  ").performAll bodyOperations).length = 6 ∧
      ((empty "  ").performAll bodyOperations).hasContent = true := by
  obtain ⟨htext, hzero, hprefix, hlength, hcontent⟩ := performAll_writes "  " bodyOperations
  have hbody : ((empty "  ").performAll bodyOperations).text = "a\n  b\n\n  c\nd\n\n" :=
    htext.trans (by decide +kernel)
  refine ⟨hbody, hzero (bodyOperations.take 5) (.text "d\n") [] rfl rfl rfl, hprefix _ ⟨_, rfl⟩,
    (hlength (by decide)).trans (by rw [hbody]; decide +kernel), ?_⟩
  rw [← Bool.not_eq_false, hcontent, hbody]
  decide +kernel

end Script
end Sql
end ErdSql
