import Mathlib.Data.List.Nodup

namespace NativeExtension.Text

variable {texts others : List String}

/-- What is sorted by its code points increases or stays the same from text to text. -/
theorem pairwise_le_mergeSort (texts : List String) :
    (texts.mergeSort fun a b => decide (a ≤ b)).Pairwise (· ≤ ·) := by
  have hle : (texts.mergeSort fun a b => decide (a ≤ b)).Pairwise fun a b =>
      decide (a ≤ b) = true := by
    refine List.pairwise_mergeSort (fun a b c hab hbc => ?_) (fun a b => ?_) texts
    · rw [decide_eq_true_eq] at hab hbc ⊢
      exact String.le_trans hab hbc
    · simpa using String.le_total a b
  simpa only [decide_eq_true_eq] using hle

theorem mergeSort_eq_of_perm (h : others.Perm texts) :
    (others.mergeSort fun a b => decide (a ≤ b)) = texts.mergeSort fun a b => decide (a ≤ b) := by
  refine List.Perm.eq_of_pairwise (fun _ _ _ _ => String.le_antisymm) (pairwise_le_mergeSort _)
    (pairwise_le_mergeSort _) ?_
  exact (List.mergeSort_perm ..).trans (h.trans (List.mergeSort_perm ..).symm)

theorem pairwise_lt_mergeSort (h : texts.Nodup) :
    (texts.mergeSort fun a b => decide (a ≤ b)).Pairwise (· < ·) := by
  have hnodup : (texts.mergeSort fun a b => decide (a ≤ b)).Nodup :=
    (List.mergeSort_perm ..).nodup_iff.mpr h
  refine (pairwise_le_mergeSort texts).imp₂ (fun a b hle hne => ?_) hnodup
  exact Decidable.of_not_not fun hnot => hne (String.le_antisymm hle (String.not_lt.mp hnot))

end NativeExtension.Text
