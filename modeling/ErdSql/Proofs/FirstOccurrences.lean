import ErdSql.Table.Layout
import Mathlib.Data.List.Basic

/-!
# First occurrences

The distinct texts of a list, each at its first occurrence: the same texts, none of them twice, in
the order in which they first occur.
-/

namespace ErdSql
namespace Table

theorem mem_firstOccurrences {s : String} {texts : List String} :
    s ∈ firstOccurrences texts ↔ s ∈ texts := by
  induction texts with
  | nil => exact Iff.rfl
  | cons t texts ih =>
      rw [firstOccurrences, List.mem_cons, List.mem_filter, ih, List.mem_cons, bne_iff_ne]
      by_cases h : s = t <;> simp [h]

theorem nodup_firstOccurrences (texts : List String) : (firstOccurrences texts).Nodup := by
  induction texts with
  | nil => exact List.nodup_nil
  | cons t texts ih =>
      rw [firstOccurrences, List.nodup_cons]
      exact ⟨fun h => by simp at h, ih.filter _⟩

theorem firstOccurrences_filter (p : String → Bool) (texts : List String) :
    firstOccurrences (texts.filter p) = (firstOccurrences texts).filter p := by
  induction texts with
  | nil => rfl
  | cons t texts ih =>
      cases ht : p t with
      | true =>
          rw [List.filter_cons_of_pos ht, firstOccurrences, firstOccurrences,
            List.filter_cons_of_pos ht, ih, List.filter_filter, List.filter_filter]
          simp only [Bool.and_comm]
      | false =>
          -- what is filtered out has no later occurrence to be kept for
          rw [List.filter_cons_of_neg (by simp [ht]), firstOccurrences,
            List.filter_cons_of_neg (by simp [ht]), ih, List.filter_filter]
          refine List.filter_congr fun s _ => ?_
          by_cases hs : s = t
          · simp [hs, ht]
          · simp [hs]

/-- What occurs first comes first. -/
theorem pairwise_firstOccurrences (texts : List String) :
    (firstOccurrences texts).Pairwise fun s t => texts.idxOf s < texts.idxOf t := by
  induction texts with
  | nil => exact List.Pairwise.nil
  | cons first texts ih =>
      rw [firstOccurrences, List.pairwise_cons]
      constructor
      · intro s hs
        have hne : s ≠ first := bne_iff_ne.1 (List.mem_filter.1 hs).2
        rw [List.idxOf_cons_self, List.idxOf_cons_ne _ hne.symm]
        exact Nat.succ_pos _
      · refine (ih.filter _).imp_of_mem fun {s t} hs ht hlt => ?_
        have hs : s ≠ first := bne_iff_ne.1 (List.mem_filter.1 hs).2
        have ht : t ≠ first := bne_iff_ne.1 (List.mem_filter.1 ht).2
        rw [List.idxOf_cons_ne _ hs.symm, List.idxOf_cons_ne _ ht.symm]
        exact Nat.succ_lt_succ hlt

end Table
end ErdSql
