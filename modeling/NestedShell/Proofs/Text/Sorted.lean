import Mathlib.Data.String.Basic
import NestedShell.Text.Sorted

/-! Sorting texts puts them in order and loses none. -/
namespace NestedShell.Text

theorem precedes_iff_not_lt (as bs : List Char) : precedes as bs ↔ ¬ bs < as := by
  induction as generalizing bs with
  | nil => simp [precedes]
  | cons a as ih =>
    cases bs with
    | nil => simp [precedes]
    | cons b bs =>
      have hlt : a.toNat < b.toNat ↔ a < b := Iff.rfl
      rcases lt_trichotomy a b with h | rfl | h
      · simp [precedes, List.cons_lt_cons_iff, hlt, h, h.not_gt, h.ne']
      · simp [precedes, ih]
      · simp [precedes, List.cons_lt_cons_iff, hlt, h, h.not_gt, h.ne']

theorem precedes_iff (s t : String) : precedes s.toList t.toList ↔ s ≤ t := by
  rw [precedes_iff_not_lt, ← String.lt_iff_toList_lt, not_lt]

theorem insertSorted_perm (s : String) (names : List String) :
    (insertSorted s names).Perm (s :: names) := by
  induction names with
  | nil => exact .refl _
  | cons t rest ih =>
    rw [insertSorted]
    split
    · exact .refl _
    · exact (ih.cons t).trans (.swap s t rest)

theorem pairwise_insertSorted (s : String) {names : List String}
    (h : names.Pairwise (· ≤ ·)) : (insertSorted s names).Pairwise (· ≤ ·) := by
  induction names with
  | nil => simp [insertSorted]
  | cons t rest ih =>
    obtain ⟨ht, hrest⟩ := List.pairwise_cons.mp h
    rw [insertSorted]
    split
    · rename_i hs
      have hst := (precedes_iff s t).mp hs
      refine List.pairwise_cons.mpr ⟨?_, h⟩
      intro u hu
      rcases List.mem_cons.mp hu with rfl | hu
      · exact hst
      · exact hst.trans (ht u hu)
    · rename_i hs
      have hts : t ≤ s := le_of_not_ge fun hst => hs ((precedes_iff s t).mpr hst)
      refine List.pairwise_cons.mpr ⟨?_, ih hrest⟩
      intro u hu
      rcases List.mem_cons.mp ((insertSorted_perm s rest).mem_iff.mp hu) with rfl | hu
      · exact hts
      · exact ht u hu

theorem sorted_perm (names : List String) : (sorted names).Perm names := by
  induction names with
  | nil => exact .refl _
  | cons s names ih => exact (insertSorted_perm s _).trans (ih.cons s)

theorem pairwise_sorted (names : List String) : (sorted names).Pairwise (· ≤ ·) := by
  induction names with
  | nil => exact .nil
  | cons s names ih => exact pairwise_insertSorted s ih

/-- Texts that are all different are in strict order once they are sorted. -/
theorem pairwise_lt_sorted {names : List String} (h : (sorted names).Nodup) :
    (sorted names).Pairwise (· < ·) :=
  ((pairwise_sorted names).and h).imp fun ⟨hle, hne⟩ => lt_of_le_of_ne hle hne

end NestedShell.Text
