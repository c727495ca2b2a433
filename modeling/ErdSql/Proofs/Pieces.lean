import ErdSql.Text.Split

/-!
# Pieces of composed texts

What becomes of the pieces of a text when something without separators is put before or after it:
it joins the first or the last piece, and the others stay as they are.
-/

namespace ErdSql
namespace Text

theorem beq_eq_false_of_not_mem {c : Char} {cs : List Char} (h : c ∉ cs) :
    ∀ d ∈ cs, (d == c) = false := by
  intro d hd
  rw [beq_eq_false_iff_ne]
  rintro rfl
  exact h hd

theorem splitChars_of_not_sep {sep : Char → Bool} {cs : List Char}
    (h : ∀ c ∈ cs, sep c = false) : splitChars sep cs = [cs] := by
  induction cs with
  | nil => rfl
  | cons c cs ih =>
      rw [List.forall_mem_cons] at h
      rw [splitChars, h.1, ih h.2]
      rfl

/-- What has no separator joins the last piece. -/
theorem splitChars_append {sep : Char → Bool} {cs ds last : List Char} {before : List (List Char)}
    (h : ∀ d ∈ ds, sep d = false) (hsplit : splitChars sep cs = before ++ [last]) :
    splitChars sep (cs ++ ds) = before ++ [last ++ ds] := by
  induction cs generalizing before last with
  | nil =>
      have hparts : [] ++ [[]] = before ++ [last] := hsplit
      obtain ⟨rfl, hlast⟩ := List.append_inj' hparts rfl
      cases hlast
      exact splitChars_of_not_sep h
  | cons c cs ih =>
      rw [splitChars] at hsplit
      rw [List.cons_append, splitChars]
      split at hsplit
      · rename_i hsep
        rw [if_pos hsep]
        cases before with
        | nil =>
            obtain ⟨-, hrest⟩ := List.cons.inj hsplit
            exact absurd hrest (splitChars_ne_nil sep cs)
        | cons piece before =>
            obtain ⟨rfl, hrest⟩ := List.cons.inj hsplit
            rw [ih hrest]
            rfl
      · rename_i hsep
        rw [if_neg hsep]
        cases hpieces : splitChars sep cs with
        | nil => exact absurd hpieces (splitChars_ne_nil sep cs)
        | cons first rest =>
            rw [hpieces] at hsplit
            cases before with
            | nil =>
                obtain ⟨rfl, rfl⟩ := List.cons.inj hsplit
                have hlast : splitChars sep cs = [] ++ [first] := by
                  rw [hpieces]
                  rfl
                rw [ih hlast]
                rfl
            | cons piece before =>
                obtain ⟨rfl, rfl⟩ := List.cons.inj hsplit
                have hlast : splitChars sep cs = (first :: before) ++ [last] := by
                  rw [hpieces]
                  rfl
                rw [ih hlast]
                rfl

/-- What has no separator joins the first piece. -/
theorem append_splitChars {sep : Char → Bool} {cs ds first : List Char}
    {rest : List (List Char)} (h : ∀ c ∈ cs, sep c = false)
    (hsplit : splitChars sep ds = first :: rest) :
    splitChars sep (cs ++ ds) = (cs ++ first) :: rest := by
  induction cs with
  | nil => exact hsplit
  | cons c cs ih =>
      rw [List.forall_mem_cons] at h
      rw [List.cons_append, splitChars, h.1, ih h.2]
      rfl

end Text
end ErdSql
