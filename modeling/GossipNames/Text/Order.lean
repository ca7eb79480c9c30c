/-! Texts in order. -/

namespace GossipNames

theorem pairwise_le_mergeSort (texts : List String) :
    (texts.mergeSort fun first second => decide (first ≤ second)).Pairwise (· ≤ ·) := by
  have ordered : (texts.mergeSort fun first second => decide (first ≤ second)).Pairwise
      fun first second => decide (first ≤ second) = true := by
    apply List.pairwise_mergeSort
    · intro first second third below above
      simp only [decide_eq_true_eq] at below above ⊢
      exact String.le_trans below above
    · intro first second
      simpa using String.le_total first second
  exact ordered.imp of_decide_eq_true

/-- Texts that are put in order ascend when none of them is there twice. -/
theorem pairwise_lt_mergeSort {texts : List String} (distinct : texts.Nodup) :
    (texts.mergeSort fun first second => decide (first ≤ second)).Pairwise (· < ·) := by
  have apart : (texts.mergeSort fun first second => decide (first ≤ second)).Pairwise (· ≠ ·) :=
    (List.mergeSort_perm _ _).nodup_iff.mpr distinct
  refine ((pairwise_le_mergeSort texts).and apart).imp ?_
  rintro first second ⟨below, unlike⟩
  exact Std.lt_of_le_of_ne below unlike

/-- Texts that ascend are known from which of them there are. -/
theorem eq_of_ascending {first second : List String} (ascends : first.Pairwise (· < ·))
    (ascendsToo : second.Pairwise (· < ·)) (same : ∀ text, text ∈ first ↔ text ∈ second) :
    first = second := by
  have distinct {texts : List String} (ascending : texts.Pairwise (· < ·)) : texts.Nodup :=
    ascending.imp Std.ne_of_lt
  have permuted := (List.perm_ext_iff_of_nodup (distinct ascends) (distinct ascendsToo)).mpr same
  refine permuted.eq_of_pairwise ?_ ascends ascendsToo
  intro text other _ _ below above
  exact absurd (String.lt_trans below above) (String.lt_irrefl text)

end GossipNames
