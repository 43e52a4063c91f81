import Mathlib.Algebra.BigOperators.Group.Finset.Basic
import Mathlib.Algebra.Order.BigOperators.Group.List
import Mathlib.Algebra.Order.Field.Basic

/-!
Samples.

A sample that is divided into classes is counted by them (`sum_length_filter`), and its
mean lies where its values lie.
-/

namespace Sample

variable {α K : Type} [Field K] [LinearOrder K] [IsStrictOrderedRing K] {values : List K}
  {bound : K}

/-- Every item is in exactly one of the first `n` classes. -/
theorem sum_length_filter (inClass : ℕ → α → Prop) [∀ k x, Decidable (inClass k x)] {n : ℕ}
    {items : List α} (unique : ∀ x ∈ items, ∃! k, k < n ∧ inClass k x) :
    ((List.range n).map fun k => (items.filter fun x => inClass k x).length).sum =
      items.length := by
  change ∑ k ∈ Finset.range n, (items.filter fun x => inClass k x).length = items.length
  induction items with
  | nil => simp
  | cons x rest ih =>
      obtain ⟨k, ⟨below, here⟩, only⟩ := unique x List.mem_cons_self
      have first : ∑ k ∈ Finset.range n, (if inClass k x then 1 else 0) = 1 := by
        rw [Finset.sum_eq_single_of_mem k (Finset.mem_range.mpr below), if_pos here]
        intro other member differs
        exact if_neg fun there => differs (only other ⟨Finset.mem_range.mp member, there⟩)
      have split (k : ℕ) : ((x :: rest).filter fun x => inClass k x).length =
          (rest.filter fun x => inClass k x).length + if inClass k x then 1 else 0 := by
        by_cases here : inClass k x <;> simp [here]
      simp only [split]
      rw [Finset.sum_add_distrib, ih fun y member => unique y (List.mem_cons_of_mem _ member),
        first, List.length_cons]

def mean (values : List K) : K :=
  values.sum / values.length

theorem length_pos {items : List α} (nonempty : items ≠ []) : (0 : K) < items.length :=
  Nat.cast_pos.mpr (List.length_pos_of_ne_nil nonempty)

theorem le_mean (nonempty : values ≠ []) (above : ∀ x ∈ values, bound ≤ x) : bound ≤ mean values := by
  rw [mean, le_div_iff₀ (length_pos nonempty), mul_comm, ← nsmul_eq_mul]
  exact List.card_nsmul_le_sum _ _ above

theorem mean_le (nonempty : values ≠ []) (below : ∀ x ∈ values, x ≤ bound) : mean values ≤ bound := by
  rw [mean, div_le_iff₀ (length_pos nonempty), mul_comm, ← nsmul_eq_mul]
  exact List.sum_le_card_nsmul _ _ below

theorem mean_lt (nonempty : values ≠ []) (below : ∀ x ∈ values, x < bound) : mean values < bound := by
  rw [mean, div_lt_iff₀ (length_pos nonempty), mul_comm, ← nsmul_eq_mul]
  have strict := List.sum_lt_sum_of_ne_nil nonempty id (fun _ => bound) below
  simpa using strict

end Sample
