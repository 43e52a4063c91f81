import Mathlib.Algebra.Order.Field.Basic
import Mathlib.Tactic.Linarith
import Mathlib.Tactic.Positivity

/-!
Piecewise linear functions and bounded corrections.

`polyline` reads the function through a list of points, constant before the first and
after the last. Where the abscissas increase and the ordinates do not decrease it is
monotone and stays between the first ordinate and the last (`polyline_mono`,
`le_polyline`, `polyline_le`). `clamp` and `towards` are the steps of a correction that
moves a number towards a target: what they give stays between the two.
-/

namespace Interpolation

variable {K : Type} [Field K] [LinearOrder K] [IsStrictOrderedRing K]

/-! ### Between two numbers -/

/-- From `x` the part `weight` of the way to `target`. -/
def towards (weight target x : K) : K :=
  x + (target - x) * weight

def clamp (least most x : K) : K :=
  min (max x least) most

variable {weight target target' x y z least most least' most' shift : K}

theorem towards_mono (lower : 0 ≤ weight) (upper : weight ≤ 1) (targets : target ≤ target')
    (le : x ≤ y) : towards weight target x ≤ towards weight target' y := by
  have kept : x * (1 - weight) ≤ y * (1 - weight) :=
    mul_le_mul_of_nonneg_right le (by linarith)
  have moved : target * weight ≤ target' * weight := mul_le_mul_of_nonneg_right targets lower
  unfold towards
  linarith

/-- What is moved towards a target stays on its side, and does not pass the target. -/
theorem towards_mem (lower : 0 ≤ weight) (upper : weight ≤ 1) :
    min x target ≤ towards weight target x ∧ towards weight target x ≤ max x target := by
  rcases le_total x target with up | down
  · rw [min_eq_left up, max_eq_right up]
    have gap : 0 ≤ target - x := by linarith
    have part : (target - x) * weight ≤ target - x := mul_le_of_le_one_right gap upper
    have nonneg : 0 ≤ (target - x) * weight := mul_nonneg gap lower
    unfold towards
    constructor <;> linarith
  · rw [min_eq_right down, max_eq_left down]
    have gap : 0 ≤ x - target := by linarith
    have part : (x - target) * weight ≤ x - target := mul_le_of_le_one_right gap upper
    have nonneg : 0 ≤ (x - target) * weight := mul_nonneg gap lower
    unfold towards
    constructor <;> linarith

omit [Field K] [IsStrictOrderedRing K] in
theorem clamp_mono (leasts : least ≤ least') (mosts : most ≤ most') (le : x ≤ y) :
    clamp least most x ≤ clamp least' most' y :=
  min_le_min (max_le_max le leasts) mosts

omit [Field K] [IsStrictOrderedRing K] in
theorem clamp_of_mem (lower : least ≤ x) (upper : x ≤ most) : clamp least most x = x := by
  rw [clamp, max_eq_left lower, min_eq_left upper]

omit [Field K] [IsStrictOrderedRing K] in
theorem clamp_mem (ordered : least ≤ most) : least ≤ clamp least most x ∧ clamp least most x ≤ most :=
  ⟨le_min (le_max_right _ _) ordered, min_le_right _ _⟩

omit [Field K] [IsStrictOrderedRing K] in
/-- A clamp around `y` moves a number towards `y`. -/
theorem clamp_between (lower : least ≤ y) (upper : y ≤ most) :
    min x y ≤ clamp least most x ∧ clamp least most x ≤ max x y := by
  unfold clamp
  constructor
  · rw [le_min_iff]
    exact ⟨(min_le_left _ _).trans (le_max_left _ _), (min_le_right _ _).trans upper⟩
  · rw [min_le_iff, max_le_iff]
    exact .inl ⟨le_max_left _ _, lower.trans (le_max_right _ _)⟩

/-! ### Through a list of points -/

variable {α : Type} {abscissa ordinate : α → K} {left right : α} {rest : List α}

/-- The line from `left` to `right`. -/
def segment (abscissa ordinate : α → K) (left right : α) (x : K) : K :=
  ordinate left + (ordinate right - ordinate left) *
    ((x - abscissa left) / (abscissa right - abscissa left))

/-- The piecewise linear function through the points. -/
def polyline (abscissa ordinate : α → K) (left : α) : List α → K → K
  | [], _ => ordinate left
  | right :: rest, x =>
      if x ≤ abscissa left then ordinate left
      else if x ≤ abscissa right then segment abscissa ordinate left right x
      else polyline abscissa ordinate right rest x

/-- The abscissas increase, and the ordinates do not decrease. -/
def Ascending (abscissa ordinate : α → K) (points : List α) : Prop :=
  points.Pairwise fun left right => abscissa left < abscissa right ∧ ordinate left ≤ ordinate right

omit [LinearOrder K] [IsStrictOrderedRing K] in
theorem segment_left : segment abscissa ordinate left right (abscissa left) = ordinate left := by
  rw [segment, sub_self, zero_div, mul_zero, add_zero]

theorem segment_right (increasing : abscissa left < abscissa right) :
    segment abscissa ordinate left right (abscissa right) = ordinate right := by
  rw [segment, div_self (sub_pos.mpr increasing).ne', mul_one, add_sub_cancel]

theorem segment_mono (increasing : abscissa left < abscissa right)
    (rises : ordinate left ≤ ordinate right) (le : x ≤ y) :
    segment abscissa ordinate left right x ≤ segment abscissa ordinate left right y := by
  have part : (x - abscissa left) / (abscissa right - abscissa left) ≤
      (y - abscissa left) / (abscissa right - abscissa left) :=
    div_le_div_of_nonneg_right (by linarith) (sub_pos.mpr increasing).le
  have scaled := mul_le_mul_of_nonneg_left part (sub_nonneg.mpr rises)
  unfold segment
  linarith

omit [IsStrictOrderedRing K] in
theorem polyline_before (before : x ≤ abscissa left) :
    polyline abscissa ordinate left rest x = ordinate left := by
  cases rest with
  | nil => rfl
  | cons right rest => exact if_pos before

theorem le_polyline (ascending : Ascending abscissa ordinate (left :: rest)) :
    ordinate left ≤ polyline abscissa ordinate left rest x := by
  induction rest generalizing left with
  | nil => exact le_rfl
  | cons right rest ih =>
      obtain ⟨first, later⟩ := List.pairwise_cons.mp ascending
      obtain ⟨increasing, rises⟩ := first right List.mem_cons_self
      rw [polyline]
      split
      · exact le_rfl
      rename_i after
      split
      · have start := segment_mono (x := abscissa left) (y := x) increasing rises (by linarith)
        rwa [segment_left] at start
      · exact rises.trans (ih later)

theorem polyline_mono (ascending : Ascending abscissa ordinate (left :: rest)) :
    Monotone (polyline abscissa ordinate left rest) := by
  intro x y le
  induction rest generalizing left with
  | nil => exact le_rfl
  | cons right rest ih =>
      obtain ⟨first, later⟩ := List.pairwise_cons.mp ascending
      obtain ⟨increasing, rises⟩ := first right List.mem_cons_self
      by_cases before : x ≤ abscissa left
      · rw [polyline_before before]
        exact le_polyline ascending
      rw [polyline, polyline, if_neg before, if_neg fun other => before (le.trans other)]
      split
      · rename_i here
        split
        · exact segment_mono increasing rises le
        · calc segment abscissa ordinate left right x
              ≤ segment abscissa ordinate left right (abscissa right) :=
                segment_mono increasing rises here
            _ = ordinate right := segment_right increasing
            _ ≤ _ := le_polyline later
      · rename_i beyond
        rw [if_neg fun other => beyond (le.trans other)]
        exact ih later

/-- The function is constant from the last point on. -/
theorem polyline_after (ascending : Ascending abscissa ordinate (left :: rest))
    (after : abscissa ((left :: rest).getLast (List.cons_ne_nil _ _)) ≤ x) :
    polyline abscissa ordinate left rest x =
      ordinate ((left :: rest).getLast (List.cons_ne_nil _ _)) := by
  induction rest generalizing left with
  | nil => rfl
  | cons right rest ih =>
      obtain ⟨first, later⟩ := List.pairwise_cons.mp ascending
      rw [List.getLast_cons (List.cons_ne_nil _ _)] at after ⊢
      obtain ⟨increasing, rises⟩ := first _ (List.getLast_mem (List.cons_ne_nil right rest))
      have beyond : ¬ x ≤ abscissa left := not_le.mpr (increasing.trans_le after)
      rw [polyline, if_neg beyond]
      split
      · rename_i here
        have last : rest = [] := by
          cases rest with
          | nil => rfl
          | cons next rest =>
              have further := (List.pairwise_cons.mp later).1 _
                (List.getLast_mem (List.cons_ne_nil next rest))
              rw [List.getLast_cons (List.cons_ne_nil _ _)] at after
              exact absurd (further.1.trans_le (after.trans here)) (lt_irrefl _)
        subst last
        obtain rfl := le_antisymm here after
        exact segment_right (first right List.mem_cons_self).1
      · exact ih later after

theorem polyline_le (ascending : Ascending abscissa ordinate (left :: rest)) :
    polyline abscissa ordinate left rest x ≤
      ordinate ((left :: rest).getLast (List.cons_ne_nil _ _)) :=
  (polyline_mono ascending (le_max_left x _)).trans
    (polyline_after ascending (le_max_right x _)).le

end Interpolation
