import ErdSql.Proofs.Pieces
import ErdSql.Text.Blank
import Mathlib.Data.List.DropRight

/-!
# Lines of trimmed texts

Trimming a text takes blank lines from its ends, and blank characters from the ends of the first
and the last line that are left.  What is trimmed again field by field does not show it: the lines
that are not blank have the same fields before and after.
-/

namespace ErdSql
namespace Text

/-! ## Trimming -/

theorem trimChars_eq_rdropWhile (p : Char → Bool) (cs : List Char) :
    trimChars p cs = (cs.dropWhile p).rdropWhile p :=
  rfl

/-- What trimming takes away stands at the ends, and all of it is of the class. -/
theorem exists_append_trimChars (p : Char → Bool) (cs : List Char) :
    ∃ before after, cs = before ++ (trimChars p cs ++ after) ∧
      (∀ c ∈ before, p c = true) ∧ ∀ c ∈ after, p c = true := by
  refine ⟨cs.takeWhile p, (cs.dropWhile p).rtakeWhile p, ?_, fun c hc => ?_, fun c hc => ?_⟩
  · rw [trimChars_eq_rdropWhile, List.rdropWhile_append_rtakeWhile, List.takeWhile_append_dropWhile]
  · exact List.mem_takeWhile_imp hc
  · exact List.mem_rtakeWhile_imp hc

theorem trimChars_cons {p : Char → Bool} {c : Char} (h : p c = true) (cs : List Char) :
    trimChars p (c :: cs) = trimChars p cs := by
  rw [trimChars, List.dropWhile_cons_of_pos h]
  rfl

theorem trimChars_append {p : Char → Bool} {after : List Char} (h : ∀ c ∈ after, p c = true)
    (cs : List Char) : trimChars p (cs ++ after) = trimChars p cs := by
  induction cs with
  | nil => simp [trimChars, List.dropWhile_eq_nil_iff.2 h]
  | cons c cs ih =>
      cases hc : p c with
      | true => rw [List.cons_append, trimChars_cons hc, trimChars_cons hc, ih]
      | false =>
          -- the first character stays, so only the end is trimmed
          have hreverse : ∀ c ∈ after.reverse, p c = true := fun c hc => h c (List.mem_reverse.1 hc)
          have hhead : (c :: (cs ++ after)).dropWhile p = c :: cs ++ after :=
            List.dropWhile_cons_of_neg (by simp [hc])
          rw [List.cons_append, trimChars, trimChars, hhead, List.dropWhile_cons_of_neg (by simp [hc]),
            List.reverse_append, List.dropWhile_append_of_pos hreverse]

theorem trimChars_eq_nil_iff {p : Char → Bool} {cs : List Char} :
    trimChars p cs = [] ↔ ∀ c ∈ cs, p c = true := by
  induction cs with
  | nil => simp
  | cons c cs ih =>
      cases hc : p c with
      | true => rw [trimChars_cons hc, ih, List.forall_mem_cons, hc, eq_self, true_and]
      | false =>
          refine iff_of_false (fun hnil => ?_) (by simp [hc])
          rw [trimChars_eq_rdropWhile, List.dropWhile_cons_of_neg (by simp [hc]),
            List.rdropWhile_eq_nil_iff] at hnil
          exact absurd (hnil c (List.mem_cons_self ..)) (by simp [hc])

theorem trim_eq_empty_iff {s : String} : trim s = "" ↔ isAllBlank s = true := by
  rw [trim, isAllBlank, List.all_eq_true, ← String.toList_inj, String.toList_ofList]
  exact trimChars_eq_nil_iff

/-! ## Fields of lines -/

/-- The fields of a line, which bars divide, each of them trimmed. -/
def fieldChars (line : List Char) : List (List Char) :=
  (splitChars (· == '|') line).map (trimChars isBlank)

theorem ne_bar_of_isBlank {c : Char} (h : isBlank c = true) : (c == '|') = false := by
  rw [beq_eq_false_iff_ne]
  rintro rfl
  exact absurd h (by decide)

/-- A blank character at the beginning of a line is trimmed with the first field. -/
theorem fieldChars_cons {c : Char} (h : isBlank c = true) (line : List Char) :
    fieldChars (c :: line) = fieldChars line := by
  rw [fieldChars, splitChars, ne_bar_of_isBlank h]
  cases hpieces : splitChars (· == '|') line with
  | nil => exact absurd hpieces (splitChars_ne_nil _ _)
  | cons piece pieces => simp [fieldChars, hpieces, trimChars_cons h]

/-- Blank characters at the end of a line are trimmed with the last field. -/
theorem fieldChars_append {after : List Char} (h : ∀ c ∈ after, isBlank c = true)
    (line : List Char) : fieldChars (line ++ after) = fieldChars line := by
  obtain ⟨before, last, hpieces⟩ :=
    (splitChars (· == '|') line).eq_nil_or_concat.resolve_left (splitChars_ne_nil _ _)
  rw [List.concat_eq_append] at hpieces
  rw [fieldChars, splitChars_append (fun c hc => ne_bar_of_isBlank (h c hc)) hpieces, fieldChars,
    hpieces]
  simp [trimChars_append h]

/-! ## Lines that are not blank -/

/-- The lines of a text that are not blank. -/
def filledLines (cs : List Char) : List (List Char) :=
  (lineChars cs).filter fun line => !line.all isBlank

theorem lineChars_lineFeed (cs : List Char) : lineChars ('\n' :: cs) = [] :: lineChars cs := by
  rw [lineChars.eq_3 _ _ (by simp)]
  rfl

/-- A carriage return and a line feed end one line together; any other character that ends a line
does so by itself. -/
theorem lineChars_of_isLineEnd {c : Char} (h : isLineEnd c = true) (cs : List Char) :
    lineChars (c :: cs) = [] :: lineChars cs ∨
      ∃ ds, c = '\r' ∧ cs = '\n' :: ds ∧ lineChars (c :: cs) = lineChars cs := by
  by_cases hpair : ∃ ds, c = '\r' ∧ cs = '\n' :: ds
  · obtain ⟨ds, rfl, rfl⟩ := hpair
    exact Or.inr ⟨ds, rfl, rfl, by rw [lineChars, lineChars_lineFeed]⟩
  · rw [lineChars.eq_3 _ _ fun ds hc hcs => hpair ⟨ds, hc, hcs⟩, if_pos h]
    exact Or.inl rfl

theorem lineChars_of_not_isLineEnd {c : Char} (h : isLineEnd c = false) (cs : List Char) :
    lineChars (c :: cs) =
      match lineChars cs with
      | [] => [[c]]
      | line :: lines => (c :: line) :: lines := by
  have hreturn : c ≠ '\r' := by
    rintro rfl
    exact absurd h (by decide)
  exact (lineChars.eq_3 _ _ fun _ hc _ => hreturn hc).trans (if_neg (by simp [h]))

/-- A blank character at the beginning of a text does not change the fields of its lines. -/
theorem fields_filledLines_cons {c : Char} (h : isBlank c = true) (cs : List Char) :
    (filledLines (c :: cs)).map fieldChars = (filledLines cs).map fieldChars := by
  unfold filledLines
  cases hend : isLineEnd c with
  | true =>
      rcases lineChars_of_isLineEnd hend cs with hlines | ⟨ds, -, -, hlines⟩
      · rw [hlines]
        rfl
      · rw [hlines]
  | false =>
      rw [lineChars_of_not_isLineEnd hend]
      cases lineChars cs with
      | nil => simp [h]
      | cons line lines =>
          cases hline : line.all isBlank with
          | true => simp [h, hline]
          | false => simp [h, hline, fieldChars_cons h]

theorem fields_filledLines_append {before : List Char} (h : ∀ c ∈ before, isBlank c = true)
    (cs : List Char) : (filledLines (before ++ cs)).map fieldChars =
      (filledLines cs).map fieldChars := by
  induction before with
  | nil => rfl
  | cons c before ih =>
      rw [List.forall_mem_cons] at h
      rw [List.cons_append, fields_filledLines_cons h.1, ih h.2]

/-- The characters of the lines are among those of the text. -/
theorem mem_of_mem_lineChars {cs line : List Char} {c : Char} (hline : line ∈ lineChars cs)
    (hc : c ∈ line) : c ∈ cs := by
  induction cs using lineChars.induct generalizing line with
  | case1 => cases hline
  | case2 ds ih =>
      rw [lineChars] at hline
      rcases List.mem_cons.1 hline with rfl | hline
      · cases hc
      · exact List.mem_cons_of_mem _ (List.mem_cons_of_mem _ (ih hline hc))
  | case3 d ds hpair hend ih =>
      rw [lineChars.eq_3 _ _ hpair, if_pos hend] at hline
      rcases List.mem_cons.1 hline with rfl | hline
      · cases hc
      · exact List.mem_cons_of_mem _ (ih hline hc)
  | case4 d ds hpair hend hnil ih =>
      rw [lineChars.eq_3 _ _ hpair, if_neg hend, hnil] at hline
      rw [List.mem_singleton.1 hline, List.mem_singleton] at hc
      exact hc ▸ List.mem_cons_self ..
  | case5 d ds hpair hend first rest hsplit ih =>
      rw [lineChars.eq_3 _ _ hpair, if_neg hend, hsplit] at hline
      rcases List.mem_cons.1 hline with rfl | hline
      · rcases List.mem_cons.1 hc with rfl | hc
        · exact List.mem_cons_self ..
        · exact List.mem_cons_of_mem _ (ih (hsplit ▸ List.mem_cons_self ..) hc)
      · exact List.mem_cons_of_mem _ (ih (hsplit ▸ List.mem_cons_of_mem _ hline) hc)

/-- Lines that go on, each by blank characters, and are followed by blank lines. -/
def GoOnBlank (lines longer : List (List Char)) : Prop :=
  ∃ core extra, longer = core ++ extra ∧ (∀ line ∈ extra, ∀ c ∈ line, isBlank c = true) ∧
    List.Forall₂ (fun line long => ∃ after, long = line ++ after ∧ ∀ c ∈ after, isBlank c = true)
      lines core

theorem GoOnBlank.fields_filter {lines longer : List (List Char)} (h : GoOnBlank lines longer) :
    (longer.filter fun line => !line.all isBlank).map fieldChars =
      (lines.filter fun line => !line.all isBlank).map fieldChars := by
  obtain ⟨core, extra, rfl, hextra, hcore⟩ := h
  have hnone : extra.filter (fun line => !line.all isBlank) = [] :=
    List.filter_eq_nil_iff.2 fun line hline => by simpa using hextra line hline
  rw [List.filter_append, hnone, List.append_nil]
  induction hcore with
  | nil => rfl
  | @cons line long lines core hlong _ ih =>
      obtain ⟨after, rfl, hafter⟩ := hlong
      have hblank : (line ++ after).all isBlank = line.all isBlank := by
        rw [List.all_append, List.all_eq_true.2 hafter, Bool.and_true]
      cases hline : line.all isBlank with
      | true =>
          rw [List.filter_cons_of_neg (by simp [hblank, hline]),
            List.filter_cons_of_neg (by simp [hline])]
          exact ih
      | false =>
          rw [List.filter_cons_of_pos (by simp [hblank, hline]),
            List.filter_cons_of_pos (by simp [hline]), List.map_cons, List.map_cons,
            fieldChars_append hafter, ih]

/-- Blank characters after a text go on with its last line and begin blank ones. -/
theorem goOnBlank_lineChars {after : List Char} (h : ∀ c ∈ after, isBlank c = true)
    (cs : List Char) : GoOnBlank (lineChars cs) (lineChars (cs ++ after)) := by
  have hblank : ∀ line ∈ lineChars after, ∀ c ∈ line, isBlank c = true :=
    fun line hline c hc => h c (mem_of_mem_lineChars hline hc)
  induction cs using lineChars.induct with
  | case1 => exact ⟨[], lineChars after, rfl, hblank, List.Forall₂.nil⟩
  | case2 ds ih =>
      obtain ⟨core, extra, hlines, hextra, hcore⟩ := ih
      refine ⟨[] :: core, extra, ?_, hextra, List.Forall₂.cons ⟨[], rfl, by simp⟩ hcore⟩
      rw [List.cons_append, List.cons_append, lineChars, hlines]
      rfl
  | case3 d ds hpair hend ih =>
      rw [lineChars.eq_3 _ _ hpair, if_pos hend, List.cons_append]
      rcases lineChars_of_isLineEnd hend (ds ++ after) with hlines | ⟨es, hd, hes, hlines⟩
      · obtain ⟨core, extra, hrest, hextra, hcore⟩ := ih
        exact ⟨[] :: core, extra, by rw [hlines, hrest]; rfl, hextra,
          List.Forall₂.cons ⟨[], rfl, by simp⟩ hcore⟩
      · cases ds with
        | nil =>
            -- the line feed that ends the line as well is the first of the blank characters
            rw [List.nil_append] at hes hlines ⊢
            rw [hlines, hes, lineChars_lineFeed]
            rw [hes, lineChars_lineFeed] at hblank
            exact ⟨[[]], lineChars es, rfl, fun line hline =>
              hblank line (List.mem_cons_of_mem _ hline),
              List.Forall₂.cons ⟨[], rfl, by simp⟩ List.Forall₂.nil⟩
        | cons e ds =>
            obtain ⟨rfl, -⟩ := List.cons.inj hes
            exact absurd rfl (hpair ds hd)
  | case4 d ds _ hend hnil ih =>
      have hend : isLineEnd d = false := by simpa using hend
      rw [List.cons_append, lineChars_of_not_isLineEnd hend, lineChars_of_not_isLineEnd hend]
      obtain ⟨core, extra, hrest, hextra, hcore⟩ := ih
      rw [hnil] at hcore ⊢
      cases hcore
      rw [hrest, List.nil_append]
      cases extra with
      | nil => exact ⟨[[d]], [], rfl, hextra, List.Forall₂.cons ⟨[], rfl, by simp⟩ .nil⟩
      | cons line extra =>
          exact ⟨[d :: line], extra, rfl, fun other hother =>
            hextra other (List.mem_cons_of_mem _ hother),
            List.Forall₂.cons ⟨line, rfl, hextra line (List.mem_cons_self ..)⟩ .nil⟩
  | case5 d ds _ hend first rest hsplit ih =>
      have hend : isLineEnd d = false := by simpa using hend
      rw [List.cons_append, lineChars_of_not_isLineEnd hend, lineChars_of_not_isLineEnd hend]
      obtain ⟨core, extra, hrest, hextra, hcore⟩ := ih
      rw [hsplit] at hcore ⊢
      rw [hrest]
      cases hcore with
      | @cons _ long _ core hlong hcore =>
          obtain ⟨tail, rfl, htail⟩ := hlong
          exact ⟨(d :: (first ++ tail)) :: core, extra, rfl, hextra,
            List.Forall₂.cons ⟨tail, rfl, htail⟩ hcore⟩

/-- Trimming a text leaves the fields of its lines as they are. -/
theorem fields_filledLines_trimChars (cs : List Char) :
    (filledLines (trimChars isBlank cs)).map fieldChars = (filledLines cs).map fieldChars := by
  obtain ⟨before, after, hcs, hbefore, hafter⟩ := exists_append_trimChars isBlank cs
  conv_rhs => rw [hcs, fields_filledLines_append hbefore]
  exact (goOnBlank_lineChars hafter _).fields_filter.symm

end Text
end ErdSql
