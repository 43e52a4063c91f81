import Mathlib.Algebra.BigOperators.Ring.List
import Mathlib.Algebra.Order.BigOperators.Group.List
import Mathlib.Algebra.Order.Ring.Defs
import Mathlib.Data.List.Sort
import Mathlib.Tactic.Linarith
import Mathlib.Tactic.Ring

/-!
Greedy choices.

Items of some size are worth something for each unit. `greedy` takes as much as
possible of each item in turn until a wanted quantity is reached. When the items come
in the order of their value, no other choice of that quantity is worth less
(`worth_greedy_le`).
-/

namespace Greedy

variable {α K : Type} [CommRing K] [LinearOrder K] [IsStrictOrderedRing K]

/-- As much as possible of each item in turn. -/
def greedy (size : α → K) : List α → K → List K
  | [], _ => []
  | item :: rest, wanted =>
      min (size item) wanted :: greedy size rest (wanted - min (size item) wanted)

/-- What the amounts of the items are worth. -/
def worth (value : α → K) : List α → List K → K
  | item :: items, amount :: amounts => amount * value item + worth value items amounts
  | _, _ => 0

/-- The items offer these amounts. -/
def Offered (size : α → K) : List α → List K → Prop :=
  List.Forall₂ fun item amount => 0 ≤ amount ∧ amount ≤ size item

/-- The size of all items. -/
def capacity (size : α → K) (items : List α) : K :=
  (items.map size).sum

variable {size value : α → K} {items : List α} {amounts : List K} {wanted least factor : K}

omit [LinearOrder K] [IsStrictOrderedRing K] in
@[simp] theorem worth_nil : worth value [] amounts = 0 := by
  cases amounts <;> rfl

omit [LinearOrder K] [IsStrictOrderedRing K] in
theorem worth_neg : worth (fun item => -value item) items amounts = -worth value items amounts := by
  induction items generalizing amounts with
  | nil => simp
  | cons item rest ih =>
      cases amounts with
      | nil => simp [worth]
      | cons amount others =>
          simp only [worth, ih]
          ring

omit [LinearOrder K] [IsStrictOrderedRing K] in
theorem worth_scale : worth value items (amounts.map (factor * ·)) =
    factor * worth value items amounts := by
  induction items generalizing amounts with
  | nil => simp
  | cons item rest ih =>
      cases amounts with
      | nil => simp [worth]
      | cons amount others =>
          simp only [List.map_cons, worth, ih]
          ring

namespace Offered

theorem sum_nonneg (offered : Offered size items amounts) : 0 ≤ amounts.sum := by
  induction offered with
  | nil => exact le_rfl
  | cons here _ ih =>
      rw [List.sum_cons]
      exact add_nonneg here.1 ih

/-- A part of what is offered is offered. -/
theorem scale (offered : Offered size items amounts) (nonneg : 0 ≤ factor) (le_one : factor ≤ 1) :
    Offered size items (amounts.map (factor * ·)) := by
  induction offered with
  | nil => exact .nil
  | cons here _ ih =>
      refine .cons ⟨mul_nonneg nonneg here.1, ?_⟩ ih
      exact (mul_le_of_le_one_left here.1 le_one).trans here.2

/-- Each unit is worth at least what the least valuable item is worth. -/
theorem le_worth (offered : Offered size items amounts) (above : ∀ item ∈ items, least ≤ value item) :
    amounts.sum * least ≤ worth value items amounts := by
  induction offered with
  | nil => simp
  | cons here _ ih =>
      obtain ⟨first, later⟩ := List.forall_mem_cons.mp above
      rw [List.sum_cons, add_mul]
      exact add_le_add (mul_le_mul_of_nonneg_left first here.1) (ih later)

end Offered

/-- The first item leaves a quantity that the others have to offer. -/
theorem left_le {item : α} {amount total : K} (amount_le : amount ≤ size item) (nonneg : 0 ≤ total)
    (enough : wanted ≤ amount + total) : wanted - min (size item) wanted ≤ total := by
  rcases le_total (size item) wanted with small | large
  · rw [min_eq_left small]
    linarith
  · rw [min_eq_right large, sub_self]
    exact nonneg

omit [IsStrictOrderedRing K] in
/-- Nothing wanted, nothing taken. -/
theorem worth_greedy_zero (sizes : ∀ item ∈ items, 0 ≤ size item) :
    worth value items (greedy size items 0) = 0 := by
  induction items with
  | nil => rfl
  | cons item rest ih =>
      obtain ⟨here, others⟩ := List.forall_mem_cons.mp sizes
      rw [greedy, min_eq_right here, sub_zero, worth, zero_mul, zero_add, ih others]

/-- A choice of more than the wanted quantity is worth more, by the least value for
each unit. The induction takes the value of the first item as the least one of the
others. -/
theorem worth_greedy_add_le (sorted : items.Pairwise fun a b => value a ≤ value b)
    (offered : Offered size items amounts) (nonneg : 0 ≤ wanted) (enough : wanted ≤ amounts.sum)
    (above : ∀ item ∈ items, least ≤ value item) :
    worth value items (greedy size items wanted) + (amounts.sum - wanted) * least ≤
      worth value items amounts := by
  induction offered generalizing wanted least with
  | nil =>
      have none_wanted : wanted = 0 := le_antisymm enough nonneg
      simp [none_wanted]
  | @cons item amount rest others here later ih =>
      obtain ⟨first, tail⟩ := List.pairwise_cons.mp sorted
      have least_le : least ≤ value item := above item List.mem_cons_self
      rw [List.sum_cons] at enough ⊢
      have further := ih tail (sub_nonneg.mpr (min_le_right (size item) wanted))
        (left_le here.2 (Offered.sum_nonneg later) enough) first
      have surplus : (amount + others.sum - wanted) * least ≤
          (amount + others.sum - wanted) * value item :=
        mul_le_mul_of_nonneg_left least_le (by linarith)
      rw [greedy, worth, worth]
      linarith

/-- No choice of the wanted quantity is worth less than the greedy one. -/
theorem worth_greedy_le (sorted : items.Pairwise fun a b => value a ≤ value b)
    (offered : Offered size items amounts) :
    worth value items (greedy size items amounts.sum) ≤ worth value items amounts := by
  cases items with
  | nil => cases offered; exact le_rfl
  | cons item rest =>
      have above : ∀ other ∈ item :: rest, value item ≤ value other :=
        List.forall_mem_cons.mpr ⟨le_rfl, (List.pairwise_cons.mp sorted).1⟩
      have least := worth_greedy_add_le sorted offered offered.sum_nonneg le_rfl above
      rwa [sub_self, zero_mul, add_zero] at least

end Greedy
