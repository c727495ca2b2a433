import ErdSql.Proofs.Pieces
import ErdSql.Proofs.Quotations

/-!
# Indentation

What indentation does to a text in a script.  The unit is put before each line that is not empty,
so a text that begins within a line keeps its first line and gets the unit in all others.  It
stays as it is exactly if there is no unit or if all those others are empty.
-/

namespace ErdSql

namespace Text

/-- The characters with the unit before each line that is not empty; `fresh` tells whether they
begin a line. -/
def indentChars (unit : List Char) (fresh : Bool) : List Char → List Char
  | [] => []
  | c :: cs =>
      (if fresh && c != '\n' then unit else []) ++ c :: indentChars unit (c == '\n') cs

/-- Whether a line begins after the characters. -/
def freshAfter (fresh : Bool) (cs : List Char) : Bool :=
  cs.foldl (fun _ c => c == '\n') fresh

/-- A text that begins a line, with the unit before each of its lines that is not empty. -/
def indent (unit s : String) : String :=
  String.ofList (indentChars unit.toList true s.toList)

/-- A text that begins within a line, with the unit before each further line that is not
empty. -/
def hang (unit s : String) : String :=
  String.ofList (indentChars unit.toList false s.toList)

theorem indentChars_append (unit : List Char) (fresh : Bool) (cs ds : List Char) :
    indentChars unit fresh (cs ++ ds) =
      indentChars unit fresh cs ++ indentChars unit (freshAfter fresh cs) ds := by
  induction cs generalizing fresh with
  | nil => rfl
  | cons c cs ih =>
      rw [List.cons_append, indentChars, indentChars, ih, List.append_assoc]
      rfl

theorem sublist_indentChars (unit : List Char) (fresh : Bool) (cs : List Char) :
    cs.Sublist (indentChars unit fresh cs) := by
  induction cs generalizing fresh with
  | nil => exact .slnil
  | cons c cs ih =>
      rw [indentChars]
      exact ((ih _).cons_cons c).trans (List.sublist_append_right _ _)

/-- Indentation adds one unit for each line that is not empty; the first line counts only if it
begins with the characters. -/
theorem length_indentChars (unit : List Char) (fresh : Bool) (cs : List Char) :
    (indentChars unit fresh cs).length =
      cs.length + unit.length *
        (if fresh then splitChars (· == '\n') cs
          else (splitChars (· == '\n') cs).tail).countP (· ≠ []) := by
  induction cs generalizing fresh with
  | nil => cases fresh <;> rfl
  | cons c cs ih =>
      rw [indentChars, List.length_append, List.length_cons, ih, splitChars]
      obtain ⟨first, rest, hpieces⟩ : ∃ first rest,
          splitChars (· == '\n') cs = first :: rest :=
        List.exists_cons_of_ne_nil (splitChars_ne_nil _ _)
      by_cases hbreak : c = '\n'
      · subst hbreak
        cases fresh <;> simp <;> omega
      · rw [hpieces]
        cases fresh
        · simp [hbreak]
          omega
        · simp [hbreak, Nat.mul_add]
          omega

/-- A text that begins within a line is kept exactly if there is no unit or if its further lines
are empty. -/
theorem hang_eq_self_iff (unit s : String) :
    hang unit s = s ↔ unit = "" ∨ ∀ line ∈ (splitAt '\n' s).tail, line = "" := by
  have hsublist := sublist_indentChars unit.toList false s.toList
  have hlength := length_indentChars unit.toList false s.toList
  simp only [Bool.false_eq_true, if_false] at hlength
  have hlines : ((splitChars (· == '\n') s.toList).tail).countP (· ≠ []) = 0 ↔
      ∀ line ∈ (splitAt '\n' s).tail, line = "" := by
    rw [List.countP_eq_zero, splitAt, splitAtAny, ← List.map_tail, List.forall_mem_map]
    simp
  have hunit : unit.toList.length = 0 ↔ unit = "" := by
    rw [List.length_eq_zero_iff, String.toList_eq_nil_iff]
  calc hang unit s = s
      ↔ indentChars unit.toList false s.toList = s.toList := by
        rw [hang, ← String.toList_inj, String.toList_ofList]
    _ ↔ (indentChars unit.toList false s.toList).length = s.toList.length :=
        ⟨congrArg List.length, fun h => (hsublist.eq_of_length h.symm).symm⟩
    _ ↔ unit.toList.length = 0 ∨
          ((splitChars (· == '\n') s.toList).tail).countP (· ≠ []) = 0 := by
        rw [hlength, Nat.add_eq_left, Nat.mul_eq_zero]
    _ ↔ unit = "" ∨ ∀ line ∈ (splitAt '\n' s).tail, line = "" := by rw [hunit, hlines]

/-- What stands after a text that ends within a line hangs on. -/
theorem indent_append {unit s : String} (t : String)
    (h : freshAfter true s.toList = false) :
    indent unit (s ++ t) = indent unit s ++ hang unit t := by
  rw [indent, indent, hang, String.toList_append, indentChars_append, h, String.ofList_append]

/-- A text that begins a line is the same as one that begins within a line, after the indentation
of its first line. -/
theorem exists_indent_eq (unit s : String) :
    ∃ lead ∈ ["", unit], indent unit s = lead ++ hang unit s := by
  obtain ⟨cs, rfl⟩ : ∃ cs, s = String.ofList cs := ⟨s.toList, String.ofList_toList.symm⟩
  rw [indent, hang, String.toList_ofList]
  cases cs with
  | nil => exact ⟨"", List.mem_cons_self .., rfl⟩
  | cons c cs =>
      by_cases hbreak : c = '\n'
      · subst hbreak
        exact ⟨"", List.mem_cons_self .., String.empty_append.symm⟩
      · refine ⟨unit, List.mem_cons_of_mem _ (List.mem_cons_self ..), ?_⟩
        apply String.toList_inj.1
        simp [indentChars, hbreak]

/-- A comma after a text that begins within a line, or nothing. -/
theorem exists_hang_append (unit value : String) {ending : String} (h : ending ∈ ["", ","]) :
    ∃ closing ∈ ["", ",", unit ++ ","],
      hang unit (value ++ ending) = hang unit value ++ closing := by
  rw [hang, hang, String.toList_append, indentChars_append, String.ofList_append]
  refine ⟨_, ?_, rfl⟩
  simp only [List.mem_cons, List.not_mem_nil, or_false] at h
  rcases h with rfl | rfl
  · exact List.mem_cons_self ..
  · cases freshAfter false value.toList
    · exact List.mem_cons_of_mem _ (List.mem_cons_self ..)
    · refine List.mem_cons_of_mem _ (List.mem_cons_of_mem _ (List.mem_singleton.2 ?_))
      apply String.toList_inj.1
      simp [indentChars]

/-- A line with the unit before it, unless it is empty. -/
def indentPiece (unit piece : List Char) : List Char :=
  if piece = [] then [] else unit ++ piece

/-- The pieces of a text, each indented and ended, are the indented text with its end.  A text
that begins within a line keeps its first piece. -/
theorem flatMap_indentPiece (unit cs : List Char) :
    (splitChars (· == '\n') cs).flatMap (fun piece => indentPiece unit piece ++ ['\n']) =
        indentChars unit true cs ++ ['\n'] ∧
      ∀ first rest, splitChars (· == '\n') cs = first :: rest →
        first ++ '\n' :: rest.flatMap (fun piece => indentPiece unit piece ++ ['\n']) =
          indentChars unit false cs ++ ['\n'] := by
  -- both at once: a line feed leads from within a line to the beginning of the next one
  induction cs with
  | nil =>
      refine ⟨rfl, fun first rest h => ?_⟩
      cases h
      rfl
  | cons c cs ih =>
      obtain ⟨hfresh, hwithin⟩ := ih
      by_cases hbreak : c = '\n'
      · subst hbreak
        have hsplit : splitChars (· == '\n') ('\n' :: cs) =
            [] :: splitChars (· == '\n') cs := rfl
        rw [hsplit]
        refine ⟨?_, fun first rest h => ?_⟩
        · rw [List.flatMap_cons, hfresh]
          rfl
        · cases h
          rw [hfresh]
          rfl
      · obtain ⟨first, rest, hpieces⟩ : ∃ first rest,
            splitChars (· == '\n') cs = first :: rest :=
          List.exists_cons_of_ne_nil (splitChars_ne_nil _ _)
        have hrest := hwithin first rest hpieces
        have hkept : (c == '\n') = false := beq_eq_false_iff_ne.2 hbreak
        have hnot : (c != '\n') = true := by rw [bne, hkept, Bool.not_false]
        rw [splitChars, indentChars, indentChars]
        simp only [hkept, hnot, hpieces, Bool.false_eq_true, if_false, Bool.and_true, if_true]
        refine ⟨?_, fun first' rest' h => ?_⟩
        · rw [List.flatMap_cons, indentPiece, if_neg (List.cons_ne_nil _ _)]
          simp only [List.append_assoc, List.cons_append, List.nil_append, ← hrest]
        · cases h
          simp only [List.cons_append, List.nil_append, hrest]

end Text

namespace Sql

/-- The lines of an item, each ended, are its text with the indentation of its level. -/
theorem ScriptItem.join_textLines_eq_indent (unit : String) (item : ScriptItem) :
    String.join ((item.textLines unit).map (· ++ "\n")) =
      Text.indent (indentation unit item.level) item.line.shown ++ "\n" := by
  apply String.toList_inj.1
  have hindent := (Text.flatMap_indentPiece (indentation unit item.level).toList
    item.line.shown.toList).1
  rw [Text.indent, String.toList_append, String.toList_ofList,
    show "\n".toList = ['\n'] from rfl, ← hindent]
  simp only [textLines, Text.splitAt, Text.splitAtAny, List.map_map]
  generalize Text.splitChars (· == '\n') item.line.shown.toList = pieces
  induction pieces with
  | nil => rfl
  | cons piece pieces ih =>
      rw [List.map_cons, String.join_cons, String.toList_append, ih, List.flatMap_cons]
      congr 1
      by_cases hpiece : piece = []
      · subst hpiece
        simp [Text.indentPiece]
      · have hne : String.ofList piece ≠ "" := by
          intro h
          exact hpiece (by simpa using congrArg String.toList h)
        simp [Text.indentPiece, hpiece, hne]

theorem indentation_eq_empty_iff (unit : String) (level : Nat) :
    indentation unit level = "" ↔ level = 0 ∨ unit = "" := by
  induction level with
  | zero => simp [indentation]
  | succ level ih =>
      rw [indentation, String.append_eq_empty_iff, ih]
      constructor
      · exact fun h => Or.inr h.1
      · rintro (h | h)
        · cases h
        · exact ⟨h, Or.inr h⟩

/-- The text of a script: the texts of its lines, each indented and ended. -/
theorem Script.text_eq_join_indent (script : Script) :
    script.text = String.join (script.items.map fun item =>
      Text.indent (indentation script.indentUnit item.level) item.line.shown ++ "\n") := by
  rw [text, textLines]
  induction script.items with
  | nil => rfl
  | cons item items ih =>
      rw [List.flatMap_cons, List.map_append, String.join_append, ih,
        ScriptItem.join_textLines_eq_indent, List.map_cons, String.join_cons]

/-- The text of a script around some of its lines. -/
theorem Script.text_around {script : Script} {earlier : List ScriptItem}
    (items : List ScriptItem) {later : List ScriptItem}
    (h : script.items = earlier ++ (items ++ later)) :
    script.text = (script.only earlier).text ++
      (String.join (items.map fun item =>
        Text.indent (indentation script.indentUnit item.level) item.line.shown ++ "\n") ++
          (script.only later).text) := by
  have hitems := (script.only items).text_eq_join_indent
  rw [only] at hitems
  rw [← hitems, ← only, ← text_only_append, ← text_only_append, ← h]
  rfl

end Sql
end ErdSql
