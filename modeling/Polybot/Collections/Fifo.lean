import Mathlib.Algebra.BigOperators.Group.List.Basic
import Mathlib.Algebra.Order.Field.Basic
import Mathlib.Data.List.Sort
import Mathlib.Tactic.Linarith

/-!
First-in-first-out queues.

A claim on a stream waits until the amount `ahead` of it has passed, and then takes
what it wants. One claim is before another when the other waits for all of it
(`Before`). A flow keeps that order (`before_kept`), serves the first claim in full
before it reaches the second (`Before.served_first`), and serves claims of which one
of any two is before the other with no more than itself (`sum_served_le`).
-/

namespace Fifo

variable {K : Type} [Field K] [LinearOrder K] [IsStrictOrderedRing K]

/-- A claim on what flows past. -/
structure Claim (K : Type) where
  ahead : K
  wanted : K

namespace Claim

/-- What a flow serves to a claim. -/
def served (claim : Claim K) (flow : K) : K :=
  min claim.wanted (max 0 (flow - claim.ahead))

/-- The claim that is left. -/
def after (claim : Claim K) (flow : K) : Claim K :=
  ⟨max 0 (claim.ahead - flow), claim.wanted - claim.served flow⟩

/-- The second claim waits for the whole first one. -/
def Before (first second : Claim K) : Prop :=
  first.ahead + first.wanted ≤ second.ahead

/-- One of the two claims is before the other. -/
def Apart (first second : Claim K) : Prop :=
  first.Before second ∨ second.Before first

instance (first second : Claim K) : Decidable (first.Before second) :=
  inferInstanceAs (Decidable (_ ≤ _))

instance (first second : Claim K) : Decidable (first.Apart second) :=
  inferInstanceAs (Decidable (_ ∨ _))

/-- A relation that every flow keeps. -/
def Kept (R : Claim K → Claim K → Prop) : Prop :=
  ∀ {first second}, 0 ≤ first.wanted → 0 ≤ second.wanted → R first second →
    ∀ flow, R (first.after flow) (second.after flow)

variable {first second claim : Claim K} {flow : K}

omit [IsStrictOrderedRing K] in
theorem served_nonneg (wants : 0 ≤ claim.wanted) : 0 ≤ claim.served flow :=
  le_min wants (le_max_left _ _)

/-- Only a flow past the claim's place serves it. -/
theorem ahead_lt_of_served (served : 0 < claim.served flow) : claim.ahead < flow := by
  have room : 0 < max 0 (flow - claim.ahead) := served.trans_le (min_le_right _ _)
  rcases lt_max_iff.mp room with none | some
  · exact absurd none (lt_irrefl 0)
  · exact sub_pos.mp some

theorem served_of_le (wants : 0 ≤ claim.wanted) (waits : flow ≤ claim.ahead) :
    claim.served flow = 0 := by
  unfold served
  rw [max_eq_left (sub_nonpos.mpr waits), min_eq_right wants]

theorem served_of_ge (reaches : claim.ahead ≤ flow) :
    claim.served flow = min claim.wanted (flow - claim.ahead) := by
  unfold served
  rw [max_eq_right (sub_nonneg.mpr reaches)]

/-- A flow keeps the order of claims. -/
theorem before_kept : Kept (Before : Claim K → Claim K → Prop) := by
  intro first second wants _ before flow
  unfold Before at before
  unfold Before Claim.after
  dsimp only
  rcases le_total flow first.ahead with waits | reaches
  · rw [served_of_le wants waits, max_eq_right (sub_nonneg.mpr waits)]
    exact le_max_of_le_right (by linarith)
  · rw [served_of_ge reaches, max_eq_left (sub_nonpos.mpr reaches)]
    rcases le_total first.wanted (flow - first.ahead) with whole | part
    · rw [min_eq_left whole, sub_self, add_zero]
      exact le_max_left _ _
    · rw [min_eq_right part]
      exact le_max_of_le_right (by linarith)

theorem apart_kept : Kept (Apart : Claim K → Claim K → Prop) := by
  intro first second wants wants' apart flow
  rcases apart with before | before
  · exact .inl (before_kept wants wants' before flow)
  · exact .inr (before_kept wants' wants before flow)

/-- Flows that follow each other serve what one flow of both serves. -/
theorem served_add (wants : 0 ≤ claim.wanted) {more : K} (flows : 0 ≤ more) :
    claim.served (flow + more) = claim.served flow + (claim.after flow).served more := by
  rcases le_total flow claim.ahead with waits | reaches
  · have left : claim.after flow = ⟨claim.ahead - flow, claim.wanted⟩ := by
      unfold after
      rw [served_of_le wants waits, sub_zero, max_eq_right (sub_nonneg.mpr waits)]
    rw [left, served_of_le wants waits, zero_add]
    unfold served
    rw [sub_sub_eq_add_sub, add_comm flow]
  · have left : claim.after flow = ⟨0, claim.wanted - min claim.wanted (flow - claim.ahead)⟩ := by
      unfold after
      rw [served_of_ge reaches, max_eq_left (sub_nonpos.mpr reaches)]
    rw [left, served_of_ge reaches, served_of_ge (reaches.trans (le_add_of_nonneg_right flows)),
      served_of_ge flows, sub_zero, add_sub_right_comm]
    rcases le_total claim.wanted (flow - claim.ahead) with whole | part
    · rw [min_eq_left whole, min_eq_left (whole.trans (le_add_of_nonneg_right flows)), sub_self,
        min_eq_left flows, add_zero]
    · rw [min_eq_right part, ← min_add_add_left, add_sub_cancel]

/-- They leave the claim that one flow of both leaves. -/
theorem after_add (wants : 0 ≤ claim.wanted) {more : K} (flows : 0 ≤ more) :
    claim.after (flow + more) = (claim.after flow).after more := by
  have ahead : max 0 (claim.ahead - (flow + more)) =
      max 0 (max 0 (claim.ahead - flow) - more) := by
    rcases le_total flow claim.ahead with waits | reaches
    · rw [max_eq_right (sub_nonneg.mpr waits), sub_add_eq_sub_sub]
    · have passed : claim.ahead - (flow + more) ≤ 0 :=
        sub_nonpos.mpr (reaches.trans (le_add_of_nonneg_right flows))
      rw [max_eq_left (sub_nonpos.mpr reaches), zero_sub, max_eq_left (neg_nonpos.mpr flows),
        max_eq_left passed]
  have wanted : claim.wanted - claim.served (flow + more) =
      claim.wanted - claim.served flow - (claim.after flow).served more := by
    rw [served_add wants flows, sub_add_eq_sub_sub]
  exact congrArg₂ Claim.mk ahead wanted

/-- The first claim is served in full before the second is reached. -/
theorem Before.served_first (before : first.Before second) (served : 0 < second.served flow) :
    first.served flow = first.wanted := by
  unfold Before at before
  have reached := ahead_lt_of_served served
  unfold Claim.served
  exact min_eq_left (le_max_of_le_right (by linarith))

/-- A chain of claims takes what flows past its first place. -/
theorem sum_served_le_of_chain {claims : List (Claim K)} (chain : claims.Pairwise Before)
    (wants : ∀ claim ∈ claims, 0 ≤ claim.wanted) {place : K}
    (places : ∀ claim ∈ claims, place ≤ claim.ahead) :
    (claims.map fun claim => claim.served flow).sum ≤ max 0 (flow - place) := by
  induction claims generalizing place with
  | nil => exact le_max_left _ _
  | cons first rest ih =>
      rw [List.pairwise_cons] at chain
      rw [List.forall_mem_cons] at wants places
      have later := ih chain.2 wants.2 (fun claim member => chain.1 claim member)
      rw [List.map_cons, List.sum_cons]
      rcases le_total flow first.ahead with waits | reaches
      · rw [served_of_le wants.1 waits, zero_add]
        refine later.trans (max_le_max_left 0 ?_)
        linarith [places.1, wants.1]
      · have room : flow - first.ahead ≤ max 0 (flow - place) :=
          le_max_of_le_right (by linarith [places.1])
        rw [served_of_ge reaches]
        rcases le_total first.wanted (flow - first.ahead) with whole | part
        · rw [min_eq_left whole]
          rw [max_eq_right (by linarith)] at later
          linarith
        · rw [min_eq_right part]
          rw [max_eq_left (by linarith)] at later
          linarith

/-- **Conservation.** Claims of which one of any two is before the other take no
more than the flow. -/
theorem sum_served_le {claims : List (Claim K)}
    (apart : claims.Pairwise Apart)
    (wants : ∀ claim ∈ claims, 0 < claim.wanted) (places : ∀ claim ∈ claims, 0 ≤ claim.ahead)
    (flows : 0 ≤ flow) : (claims.map fun claim => claim.served flow).sum ≤ flow := by
  let sorted := claims.insertionSort fun a b => a.ahead ≤ b.ahead
  have perm : sorted.Perm claims := List.perm_insertionSort _ _
  have ranked : sorted.Pairwise fun a b => a.ahead ≤ b.ahead := List.pairwise_insertionSort _ _
  have still : sorted.Pairwise Apart := (perm.pairwise_iff fun either => either.symm).mpr apart
  have chain : sorted.Pairwise Before := by
    refine (ranked.and still).imp_of_mem fun {a b} _ member both => ?_
    rcases both.2 with before | after
    · exact before
    · have wanted := wants b (perm.mem_iff.mp member)
      unfold Before at after
      exact absurd (lt_of_lt_of_le (lt_add_of_pos_right b.ahead wanted) after) both.1.not_gt
  calc (claims.map fun claim => claim.served flow).sum
      = (sorted.map fun claim => claim.served flow).sum :=
        (perm.map fun claim => claim.served flow).sum_eq.symm
    _ ≤ max 0 (flow - 0) := sum_served_le_of_chain chain
        (fun claim member => (wants claim (perm.mem_iff.mp member)).le)
        fun claim member => places claim (perm.mem_iff.mp member)
    _ = flow := by rw [sub_zero, max_eq_right flows]

end Claim

end Fifo
