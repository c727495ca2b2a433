import ErdSql.Sql.Script
import Mathlib.Tactic.ByContra

/-!
# Texts of scripts

What the text of a script is made of.  A script has content as soon as one of its lines has a
character that is not blank, and lines at the outermost level appear in the text as they are.
-/

namespace ErdSql

namespace Text

theorem isAllBlank_append (s t : String) :
    isAllBlank (s ++ t) = (isAllBlank s && isAllBlank t) := by
  simp [isAllBlank, String.toList_append, List.all_append]

/-- If all pieces and all separators are of a class, all characters are. -/
theorem all_of_all_splitChars {sep p : Char → Bool} (hsep : ∀ c, sep c = true → p c = true)
    (cs : List Char) (h : ∀ piece ∈ splitChars sep cs, piece.all p = true) :
    cs.all p = true := by
  induction cs with
  | nil => rfl
  | cons c cs ih =>
      unfold splitChars at h
      split at h
      · rename_i hc
        have hcs : cs.all p = true :=
          ih fun piece hpiece => h piece (List.mem_cons_of_mem _ hpiece)
        simp [hsep c hc, hcs]
      · split at h
        · rename_i hnil
          exact absurd hnil (splitChars_ne_nil sep cs)
        · rename_i first rest hsplit
          have hfirst : (c :: first).all p = true := h _ (List.mem_cons_self ..)
          rw [List.all_cons, Bool.and_eq_true] at hfirst
          have hcs : cs.all p = true := by
            apply ih
            rw [hsplit]
            intro piece hpiece
            rcases List.mem_cons.1 hpiece with rfl | hpiece
            · exact hfirst.2
            · exact h piece (List.mem_cons_of_mem _ hpiece)
          simp [hfirst.1, hcs]

theorem exists_mem_splitAt_not_blank {s : String} (h : isAllBlank s = false) :
    ∃ part ∈ splitAt '\n' s, isAllBlank part = false := by
  by_contra hnone
  have hparts : ∀ piece ∈ splitChars (· == '\n') s.toList, piece.all isBlank = true := by
    intro piece hpiece
    by_contra hpiece'
    refine hnone ⟨String.ofList piece, List.mem_map_of_mem hpiece, ?_⟩
    simpa [isAllBlank] using hpiece'
  have hsep : ∀ c : Char, (c == '\n') = true → isBlank c = true := by
    intro c hc
    rw [beq_iff_eq.1 hc]
    decide
  have hall := all_of_all_splitChars hsep s.toList hparts
  rw [isAllBlank] at h
  exact absurd hall (by simp [h])

/-- The pieces of a text with the separator after each. -/
theorem flatMap_splitChars (sep : Char) (cs : List Char) :
    (splitChars (· == sep) cs).flatMap (· ++ [sep]) = cs ++ [sep] := by
  induction cs with
  | nil => rfl
  | cons c cs ih =>
      unfold splitChars
      split
      · rename_i hc
        rw [beq_iff_eq.1 hc]
        simp [ih]
      · split
        · rename_i hnil
          exact absurd hnil (splitChars_ne_nil _ cs)
        · rename_i first rest hsplit
          rw [hsplit] at ih
          simpa using ih

/-- The lines of a text, each ended, are the text with its end. -/
theorem join_splitAt (s : String) :
    String.join ((splitAt '\n' s).map (· ++ "\n")) = s ++ "\n" := by
  apply String.toList_inj.1
  have hsplit := flatMap_splitChars '\n' s.toList
  simp only [splitAt, splitAtAny, List.map_map]
  rw [String.toList_append, show "\n".toList = ['\n'] from rfl, ← hsplit]
  generalize splitChars (· == '\n') s.toList = pieces
  induction pieces with
  | nil => rfl
  | cons piece pieces ih =>
      rw [List.map_cons, String.join_cons, String.toList_append, ih, List.flatMap_cons]
      simp

end Text

namespace Sql

/-- A line at the outermost level is not indented. -/
theorem ScriptItem.textLines_zero (indentUnit : String) (line : Line) :
    ScriptItem.textLines indentUnit ⟨0, line⟩ = Text.splitAt '\n' line.shown := by
  refine (List.map_congr_left ?_).trans (List.map_id _)
  intro part _
  unfold indentation
  split
  · rename_i hpart
    exact hpart.symm
  · exact String.empty_append

theorem ScriptItem.join_textLines (indentUnit : String) (line : Line) :
    String.join ((ScriptItem.textLines indentUnit ⟨0, line⟩).map (· ++ "\n")) =
      line.shown ++ "\n" := by
  rw [ScriptItem.textLines_zero, Text.join_splitAt]

namespace Script

/-- Lines added at the outermost level add their texts, each with an end, to the text. -/
theorem text_append (script : Script) (lines : List Line) :
    text { script with items := script.items ++ lines.map fun line => ⟨0, line⟩ } =
      script.text ++ String.join (lines.map fun line => line.shown ++ "\n") := by
  simp only [text, textLines, List.flatMap_append, List.map_append, String.join_append]
  congr 1
  induction lines with
  | nil => rfl
  | cons line lines ih =>
      rw [List.map_cons, List.flatMap_cons, List.map_append, String.join_append, ih,
        ScriptItem.join_textLines, List.map_cons, String.join_cons]

theorem hasContent_of_mem {script : Script} {item : ScriptItem} (hitem : item ∈ script.items)
    (h : Text.isAllBlank item.line.shown = false) : script.hasContent = true := by
  obtain ⟨part, hpart, hblank⟩ := Text.exists_mem_splitAt_not_blank h
  have hne : part ≠ "" := by
    rintro rfl
    simp [Text.isAllBlank] at hblank
  refine List.any_eq_true.2 ⟨indentation script.indentUnit item.level ++ part, ?_, ?_⟩
  · refine List.mem_flatMap.2 ⟨item, hitem, List.mem_map.2 ⟨part, hpart, ?_⟩⟩
    rw [if_neg hne]
  · simp [Text.isAllBlank_append, hblank]

theorem hasContent_of_items_eq_nil {script : Script} (h : script.items = []) :
    script.hasContent = false := by
  simp [hasContent, textLines, h]

end Script
end Sql
end ErdSql
