import Mathlib.Algebra.Order.BigOperators.Group.Finset
import Mathlib.Data.List.Forall2
import Mathlib.Tactic.Ring
import Polybot.Execution.PairInventory

/-!
Fills in any order.

A leg that has taken a set of new fills is a function of the leg and the set
(`OrderLeg.withFills`): sizes, values and fees add up, and the status looks at the
final size alone, because a leg that is full takes no further fill. `Recorded` says so
of a whole run of `record_fill`. The group status does not look at the final state
alone: a group that was `PAIRED` and is filled further is frozen, so it is independent
of the order only where a complete pair leaves no room (`NoSpareSize`).
-/

namespace Polybot

open Interaction

/-- The arguments of `record_fill`, without the instant. -/
structure LegFill where
  fillId : String
  legId : UUID
  size : ℚ
  price : ℚ
  feeUsd : ℚ
  deriving DecidableEq

/-- `record_fill` with an instant, `occurred_at or utc_now()`. -/
def recordFillAt (state : OrderGroupState) (call : LegFill × Instant) :
    Except ManagerError OrderGroupState :=
  recordFill state call.1.fillId call.1.legId call.1.size call.1.price call.1.feeUsd call.2

/-- `record_fill` for one fill after the other. -/
def recordFills (state : OrderGroupState) (calls : List (LegFill × Instant)) :
    Except ManagerError OrderGroupState :=
  calls.foldlM recordFillAt state

/-- Fills of one id have equal contents. -/
def SameContents (fills : List LegFill) : Prop :=
  ∀ fill ∈ fills, ∀ other ∈ fills, fill.fillId = other.fillId → fill = other

instance (fills : List LegFill) : Decidable (SameContents fills) :=
  inferInstanceAs (Decidable (∀ fill ∈ fills, ∀ other ∈ fills, _ → _))

/-- The fills that are not accounted for yet. -/
def newFills (seen : Finset String) (calls : List (LegFill × Instant)) : Finset LegFill :=
  (calls.map Prod.fst).toFinset.filter fun fill => fill.fillId ∉ seen

/-! ### One leg -/

namespace OrderLeg

/-- What the fills of the leg cost. -/
def paid (leg : OrderLeg) : ℚ :=
  leg.averageFillPrice.getD 0 * leg.filledSize

/-- The leg after it took `fills`. -/
def withFills (leg : OrderLeg) (fills : Finset LegFill) : OrderLeg :=
  let filledSize := leg.filledSize + ∑ fill ∈ fills, fill.size
  { leg with
    filledSize := filledSize
    averageFillPrice :=
      if fills = ∅ then leg.averageFillPrice
      else some ((leg.paid + ∑ fill ∈ fills, fill.price * fill.size) / filledSize)
    feePaidUsd := leg.feePaidUsd + ∑ fill ∈ fills, fill.feeUsd
    status := if fills = ∅ then leg.status else filledStatus leg filledSize }

/-- Two versions of a leg with the same account of its fills. -/
structure SameAccount (leg other : OrderLeg) : Prop where
  id : leg.id = other.id
  side : leg.side = other.side
  outcome : leg.outcome = other.outcome
  size : leg.size = other.size
  filledSize : leg.filledSize = other.filledSize
  averageFillPrice : leg.averageFillPrice = other.averageFillPrice
  feePaidUsd : leg.feePaidUsd = other.feePaidUsd
  status : leg.status = other.status

namespace SameAccount

variable {leg other third : OrderLeg}

theorem refl (leg : OrderLeg) : SameAccount leg leg :=
  ⟨rfl, rfl, rfl, rfl, rfl, rfl, rfl, rfl⟩

theorem trans_symm (first : SameAccount leg third) (second : SameAccount other third) :
    SameAccount leg other where
  id := first.id.trans second.id.symm
  side := first.side.trans second.side.symm
  outcome := first.outcome.trans second.outcome.symm
  size := first.size.trans second.size.symm
  filledSize := first.filledSize.trans second.filledSize.symm
  averageFillPrice := first.averageFillPrice.trans second.averageFillPrice.symm
  feePaidUsd := first.feePaidUsd.trans second.feePaidUsd.symm
  status := first.status.trans second.status.symm

end SameAccount

theorem withFills_empty (leg : OrderLeg) : leg.withFills ∅ = leg := by
  simp [withFills]

/-- A leg with room left has not the status of a full one, so the next fill decides its
status as if it were the first. -/
theorem filledStatus_again {leg current : OrderLeg} {filledSize total : ℚ}
    (size : current.size = leg.size) (status : current.status = filledStatus leg filledSize)
    (room : filledSize ≠ leg.size) : filledStatus current total = filledStatus leg total := by
  unfold filledStatus at status ⊢
  rw [if_neg room] at status
  rw [size, status]
  split
  · rfl
  · by_cases cancelled : leg.status = .cancelled
    · simp [cancelled]
    · by_cases pending : leg.status = .cancelPending <;> simp [cancelled, pending]

/-- A fill that fits joins the fills that the leg took before. -/
theorem SameAccount.applyFill {leg current : OrderLeg} {fills : Finset LegFill} {fill : LegFill}
    {timestamp : Instant} (account : SameAccount current (leg.withFills fills))
    (nonneg : 0 ≤ leg.filledSize) (sizes : ∀ other ∈ fills, 0 < other.size)
    (positive : 0 < fill.size) (fits : current.filledSize + fill.size ≤ current.size)
    (fresh : fill ∉ fills) :
    SameAccount (current.applyFill fill.size fill.price fill.feeUsd timestamp)
      (leg.withFills (insert fill fills)) := by
  obtain ⟨id, side, outcome, size, filled, average, fee, status⟩ := account
  dsimp only [withFills] at size filled average fee status
  have total : current.filledSize + fill.size =
      leg.filledSize + ∑ other ∈ insert fill fills, other.size := by
    rw [Finset.sum_insert fresh, filled]
    ring
  have cost : current.averageFillPrice.getD 0 * current.filledSize + fill.price * fill.size =
      leg.paid + ∑ other ∈ insert fill fills, other.price * other.size := by
    rw [Finset.sum_insert fresh]
    by_cases first : fills = ∅
    · rw [if_pos first] at average
      subst first
      rw [average, filled, paid]
      simp
    · rw [if_neg first] at average
      have some : 0 < leg.filledSize + ∑ other ∈ fills, other.size :=
        add_pos_of_nonneg_of_pos nonneg
          (Finset.sum_pos sizes (Finset.nonempty_iff_ne_empty.mpr first))
      rw [average, Option.getD_some, filled, div_mul_cancel₀ _ some.ne']
      ring
  have nonempty : insert fill fills ≠ ∅ := Finset.insert_ne_empty fill fills
  refine ⟨id, side, outcome, size, total, ?_, ?_, ?_⟩
  · dsimp only [OrderLeg.applyFill, withFills]
    rw [cost, total, if_neg nonempty]
  · dsimp only [OrderLeg.applyFill, withFills]
    rw [fee, Finset.sum_insert fresh]
    ring
  · dsimp only [OrderLeg.applyFill, withFills]
    rw [total, if_neg nonempty]
    by_cases first : fills = ∅
    · rw [if_pos first] at status
      simp only [filledStatus, size, status]
    · rw [if_neg first] at status
      refine filledStatus_again size status fun full => ?_
      rw [← filled] at full
      linarith

end OrderLeg

/-! ### New fills -/

section NewFills

variable {seen : Finset String} {calls first second : List (LegFill × Instant)}
  {call : LegFill × Instant} {fill : LegFill}

theorem mem_newFills :
    fill ∈ newFills seen calls ↔ fill ∈ calls.map Prod.fst ∧ fill.fillId ∉ seen := by
  simp [newFills]

theorem newFills_nil : newFills seen [] = ∅ := rfl

theorem newFills_perm (same : (first.map Prod.fst).Perm (second.map Prod.fst)) :
    newFills seen first = newFills seen second := by
  unfold newFills
  rw [List.toFinset_eq_of_perm _ _ same]

/-- A redelivered fill is not new. -/
theorem newFills_snoc_seen (contents : SameContents ((calls ++ [call]).map Prod.fst))
    (known : call.1.fillId ∈ seen ∪ (calls.map (·.1.fillId)).toFinset) :
    newFills seen (calls ++ [call]) = newFills seen calls := by
  ext fill
  rw [mem_newFills, mem_newFills, List.map_append, List.mem_append]
  refine and_congr_left fun unseen => ⟨fun member => ?_, Or.inl⟩
  rcases member with before | last
  · exact before
  · obtain rfl : fill = call.1 := by simpa using last
    rcases Finset.mem_union.mp known with old | listed
    · exact absurd old unseen
    · obtain ⟨other, member, named⟩ := List.mem_map.mp (List.mem_toFinset.mp listed)
      have inFront : other.1 ∈ calls.map Prod.fst := List.mem_map_of_mem member
      have same : other.1 = call.1 := by
        refine contents other.1 ?_ call.1 ?_ named
        · simpa using Or.inl (List.mem_map.mp inFront)
        · simp
      rwa [← same]

/-- A fill with an id of its own is new. -/
theorem newFills_snoc_fresh
    (fresh : call.1.fillId ∉ seen ∪ (calls.map (·.1.fillId)).toFinset) :
    newFills seen (calls ++ [call]) = insert call.1 (newFills seen calls) ∧
      call.1 ∉ newFills seen calls := by
  rw [Finset.mem_union, not_or] at fresh
  obtain ⟨unseen, unlisted⟩ := fresh
  constructor
  · ext fill
    rw [Finset.mem_insert, mem_newFills, mem_newFills, List.map_append, List.mem_append,
      List.map_singleton, List.mem_singleton]
    constructor
    · rintro ⟨before | rfl, fillUnseen⟩
      · exact .inr ⟨before, fillUnseen⟩
      · exact .inl rfl
    · rintro (rfl | ⟨before, fillUnseen⟩)
      · exact ⟨.inr rfl, unseen⟩
      · exact ⟨.inl before, fillUnseen⟩
  · intro member
    obtain ⟨other, inCalls, same⟩ := List.mem_map.mp (mem_newFills.mp member).1
    exact unlisted (List.mem_toFinset.mpr (List.mem_map.mpr ⟨other, inCalls, by rw [same]⟩))

end NewFills

/-! ### A whole run -/

/-- The fills of one leg. -/
def ofLeg (legId : UUID) (fills : Finset LegFill) : Finset LegFill :=
  fills.filter fun fill => fill.legId = legId

/-- The group carries the sizes of its legs. -/
structure CarriesSizes (state : OrderGroupState) : Prop where
  paired : state.group.pairedSize =
    min (min (bought .yes state.legs) (bought .no state.legs)) state.group.targetPairSize
  directionalYes : state.group.directionalYesSize =
    max 0 (bought .yes state.legs - bought .no state.legs)
  directionalNo : state.group.directionalNoSize =
    max 0 (bought .no state.legs - bought .yes state.legs)

/-- What the state is after `record_fill` took `calls`. -/
structure Recorded (start : OrderGroupState) (calls : List (LegFill × Instant))
    (state : OrderGroupState) : Prop where
  seen : state.seenFillIds = start.seenFillIds ∪ (calls.map (·.1.fillId)).toFinset
  positive : ∀ fill ∈ newFills start.seenFillIds calls, 0 < fill.size
  legs : List.Forall₂ (fun leg result => OrderLeg.SameAccount result
      (leg.withFills (ofLeg leg.id (newFills start.seenFillIds calls)))) start.legs state.legs
  within : WithinSize state.legs
  target : state.group.targetPairSize = start.group.targetPairSize
  unchanged : newFills start.seenFillIds calls = ∅ → state = start
  sizes : newFills start.seenFillIds calls ≠ ∅ → CarriesSizes state

theorem Recorded.start {start : OrderGroupState} (within : WithinSize start.legs) :
    Recorded start [] start where
  seen := by simp
  positive := by simp [newFills_nil]
  legs := by
    refine List.forall₂_same.mpr fun leg _ => ?_
    rw [newFills_nil, ofLeg, Finset.filter_empty, OrderLeg.withFills_empty]
    exact .refl leg
  within := within
  target := rfl
  unchanged := fun _ => rfl
  sizes := fun some => absurd newFills_nil some

/-- Changing the second list, where the relation may look at the members. -/
theorem forall₂_map_right_of_mem {α β : Type} {R S : α → β → Prop} {change : β → β} {as : List α}
    {bs : List β} (related : List.Forall₂ R as bs)
    (changes : ∀ a ∈ as, ∀ b ∈ bs, R a b → S a (change b)) :
    List.Forall₂ S as (bs.map change) := by
  induction related with
  | nil => exact .nil
  | cons first _ ih =>
      refine .cons (changes _ List.mem_cons_self _ List.mem_cons_self first) (ih fun a inAs b inBs => ?_)
      exact changes a (List.mem_cons_of_mem _ inAs) b (List.mem_cons_of_mem _ inBs)

theorem Recorded.snoc {start state next : OrderGroupState} {calls : List (LegFill × Instant)}
    {call : LegFill × Instant} (within : WithinSize start.legs)
    (contents : SameContents ((calls ++ [call]).map Prod.fst)) (recorded : Recorded start calls state)
    (accepted : recordFillAt state call = .ok next) : Recorded start (calls ++ [call]) next := by
  obtain ⟨fill, timestamp⟩ := call
  have listed : start.seenFillIds ∪ ((calls ++ [(fill, timestamp)]).map (·.1.fillId)).toFinset =
      insert fill.fillId state.seenFillIds := by
    ext id
    simp [recorded.seen]
  rcases recordFill_cases accepted with ⟨known, rfl⟩ | ⟨known, economics, fits, rfl⟩
  · have same := newFills_snoc_seen contents (recorded.seen ▸ known)
    refine ⟨?_, ?_, ?_, recorded.within, recorded.target, ?_, ?_⟩
    · rw [listed, Finset.insert_eq_of_mem known]
    · rw [same]
      exact recorded.positive
    · rw [same]
      exact recorded.legs
    · rw [same]
      exact recorded.unchanged
    · rw [same]
      exact recorded.sizes
  · obtain ⟨more, fresh⟩ : newFills start.seenFillIds (calls ++ [(fill, timestamp)]) =
        insert fill (newFills start.seenFillIds calls) ∧ fill ∉ newFills start.seenFillIds calls :=
      newFills_snoc_fresh (recorded.seen ▸ known)
    dsimp only at fits
    refine ⟨listed.symm, ?_, ?_, recorded.within.fill economics.size_pos fits, recorded.target,
      ?_, ?_⟩
    · rw [more]
      exact Finset.forall_mem_insert _ _ _ |>.mpr ⟨economics.size_pos, recorded.positive⟩
    · rw [more]
      refine forall₂_map_right_of_mem recorded.legs fun leg inStart result inLegs account => ?_
      unfold filledLeg ofLeg
      have sameId : result.id = leg.id := account.id
      by_cases target : result.id = fill.legId
      · have room := fits result inLegs target
        rw [OrderLeg.remainingSize_eq (recorded.within result inLegs).2] at room
        rw [if_pos target, Finset.filter_insert, if_pos (target.symm.trans sameId)]
        refine account.applyFill (within leg inStart).1 (fun other member => ?_) economics.size_pos
          (by linarith) fun member => fresh (Finset.mem_filter.mp member).1
        exact recorded.positive other (Finset.mem_filter.mp member).1
      · rw [if_neg target, Finset.filter_insert,
          if_neg fun named => target (sameId.trans named.symm)]
        exact account
    · rw [more]
      exact fun none => absurd none (Finset.insert_ne_empty _ _)
    · exact fun _ => ⟨rfl, excess_left _ _, excess_right _ _⟩

/-- The account of every run of `record_fill`. -/
theorem recordFills_recorded {start final : OrderGroupState} {calls : List (LegFill × Instant)}
    (within : WithinSize start.legs) (contents : SameContents (calls.map Prod.fst))
    (accepted : recordFills start calls = .ok final) : Recorded start calls final := by
  have run := Run.foldlM_iff.mpr accepted
  refine Run.invariant_history
    (P := fun done state => SameContents (done.map Prod.fst) → Recorded start done state)
    (fun done state call next recorded step contents => ?_) run (fun _ => .start within) contents
  refine Recorded.snoc within contents (recorded fun fill inFills other inOthers => ?_) step
  exact contents fill (by simp [List.mem_map.mp inFills]) other (by simp [List.mem_map.mp inOthers])

/-! ### Agreement of two runs -/

theorem bought_congr {legs others : List OrderLeg} (same : List.Forall₂ OrderLeg.SameAccount legs others)
    (outcome : Outcome) : bought outcome legs = bought outcome others := by
  induction same with
  | nil => rfl
  | cons first _ ih => rw [bought_cons, bought_cons, ih, first.side, first.outcome, first.filledSize]

/-- The states agree on what was filled. -/
structure SameFills (state other : OrderGroupState) : Prop where
  legs : List.Forall₂ OrderLeg.SameAccount state.legs other.legs
  pairedSize : state.group.pairedSize = other.group.pairedSize
  directionalYesSize : state.group.directionalYesSize = other.group.directionalYesSize
  directionalNoSize : state.group.directionalNoSize = other.group.directionalNoSize
  seenFillIds : state.seenFillIds = other.seenFillIds

theorem Recorded.same {start state other : OrderGroupState} {first second : List (LegFill × Instant)}
    (one : Recorded start first state) (two : Recorded start second other)
    (perm : (first.map Prod.fst).Perm (second.map Prod.fst)) : SameFills state other := by
  have fills : newFills start.seenFillIds first = newFills start.seenFillIds second :=
    newFills_perm perm
  have legs : List.Forall₂ OrderLeg.SameAccount state.legs other.legs := by
    have first := one.legs.flip
    have second := two.legs
    rw [← fills] at second
    have joined := List.forall₂_iff_get.mp first
    refine List.forall₂_iff_get.mpr ⟨joined.1.trans second.length_eq, fun n inState inOther => ?_⟩
    have inStart : n < start.legs.length := joined.1 ▸ inState
    exact (joined.2 n inState inStart).trans_symm
      ((List.forall₂_iff_get.mp second).2 n inStart inOther)
  have yes := bought_congr legs .yes
  have no := bought_congr legs .no
  have ids : (first.map (·.1.fillId)).toFinset = (second.map (·.1.fillId)).toFinset := by
    have mapped := perm.map LegFill.fillId
    rw [List.map_map, List.map_map] at mapped
    exact List.toFinset_eq_of_perm _ _ mapped
  have seen : state.seenFillIds = other.seenFillIds := by rw [one.seen, two.seen, ids]
  by_cases none : newFills start.seenFillIds first = ∅
  · have unchanged := one.unchanged none
    have otherUnchanged := two.unchanged (fills ▸ none)
    rw [unchanged, otherUnchanged]
    exact ⟨List.forall₂_same.mpr fun leg _ => .refl leg, rfl, rfl, rfl, rfl⟩
  · have sizes := one.sizes none
    have otherSizes := two.sizes (fills ▸ none)
    refine ⟨legs, ?_, ?_, ?_, seen⟩
    · rw [sizes.paired, otherSizes.paired, yes, no, one.target, two.target]
    · rw [sizes.directionalYes, otherSizes.directionalYes, yes, no]
    · rw [sizes.directionalNo, otherSizes.directionalNo, yes, no]

/-! ### The group status -/

/-- The size of the BUY legs of one outcome. -/
def buySize (outcome : Outcome) (legs : List OrderLeg) : ℚ :=
  ((legs.filter fun leg => leg.side = .buy ∧ leg.outcome = outcome).map OrderLeg.size).sum

/-- A complete pair leaves no room: where the BUY legs of both outcomes can complete the
target, they cannot exceed it. -/
def NoSpareSize (state : OrderGroupState) : Prop :=
  state.group.targetPairSize ≤ min (buySize .yes state.legs) (buySize .no state.legs) →
    max (buySize .yes state.legs) (buySize .no state.legs) ≤ state.group.targetPairSize

instance (state : OrderGroupState) : Decidable (NoSpareSize state) :=
  inferInstanceAs (Decidable (_ → _))

theorem buySize_cons (outcome : Outcome) (leg : OrderLeg) (legs : List OrderLeg) :
    buySize outcome (leg :: legs) =
      (if leg.side = .buy ∧ leg.outcome = outcome then leg.size else 0) + buySize outcome legs := by
  unfold buySize
  by_cases counted : leg.side = .buy ∧ leg.outcome = outcome <;> simp [counted]

theorem bought_le_buySize {legs : List OrderLeg} (within : WithinSize legs) (outcome : Outcome) :
    bought outcome legs ≤ buySize outcome legs := by
  induction legs with
  | nil => rfl
  | cons leg legs ih =>
      have here := within leg List.mem_cons_self
      rw [bought_cons, buySize_cons]
      refine add_le_add ?_ (ih fun other member => within other (List.mem_cons_of_mem _ member))
      split
      · exact here.2
      · exact le_rfl

theorem Recorded.buySize_eq {start state : OrderGroupState} {calls : List (LegFill × Instant)}
    (recorded : Recorded start calls state) (outcome : Outcome) :
    buySize outcome state.legs = buySize outcome start.legs := by
  have legs := recorded.legs
  generalize newFills start.seenFillIds calls = fills at legs
  generalize start.legs = before at legs
  generalize state.legs = after at legs
  induction legs with
  | nil => rfl
  | cons first _ ih =>
      rw [buySize_cons, buySize_cons, ih, first.side, first.outcome, first.size]
      rfl

theorem bought_le_fill {legs : List OrderLeg} {legId : UUID} {size price feeUsd : ℚ}
    {timestamp : Instant} (positive : 0 < size) (outcome : Outcome) :
    bought outcome legs ≤ bought outcome (legs.map (filledLeg legId size price feeUsd timestamp)) := by
  induction legs with
  | nil => rfl
  | cons leg legs ih =>
      rw [List.map_cons, bought_cons, bought_cons]
      refine add_le_add ?_ ih
      by_cases target : leg.id = legId
      · have grown : leg.filledSize ≤ leg.filledSize + size := le_add_of_nonneg_right positive.le
        rw [filledLeg, if_pos target]
        by_cases counted : leg.side = .buy ∧ leg.outcome = outcome
        · simpa [OrderLeg.applyFill, counted] using grown
        · simp [OrderLeg.applyFill, counted]
      · rw [filledLeg, if_neg target]

/-- The status of a group before its deadline. -/
def entryStatus (target yes no : ℚ) : OrderGroupStatus :=
  if yes ≠ no then .imbalanced
  else if target ≤ yes then .paired
  else .working

theorem refreshedStatus_entry {status : OrderGroupStatus} {target yes no : ℚ}
    {legs : List OrderLeg}
    (phase : (status = .working ∨ status = .imbalanced) ∨ status = .paired ∧ yes = no) :
    refreshedStatus status target legs (min yes no) (max 0 (yes - min yes no))
      (max 0 (no - min yes no)) false = entryStatus target yes no := by
  rw [excess_left, excess_right]
  unfold refreshedStatus entryStatus
  by_cases balanced : yes = no
  · rcases phase with (rfl | rfl) | ⟨rfl, -⟩ <;> simp [balanced]
  · have moved := not_not.mp (mt (balanced_iff yes no).mp balanced)
    rcases phase with (rfl | rfl) | ⟨-, level⟩
    · simp only [moved, not_true_eq_false, and_false, if_false]
      simp [balanced]
    · simp only [moved, not_true_eq_false, and_false, if_false]
      simp [balanced]
    · exact absurd level balanced

theorem Recorded.status_snoc {start state next : OrderGroupState} {calls : List (LegFill × Instant)}
    {call : LegFill × Instant}
    (opened : start.group.status = .working ∨ start.group.status = .imbalanced)
    (spare : NoSpareSize start) (contents : SameContents ((calls ++ [call]).map Prod.fst))
    (recorded : Recorded start calls state)
    (status : newFills start.seenFillIds calls ≠ ∅ → state.group.status =
      entryStatus start.group.targetPairSize (bought .yes state.legs) (bought .no state.legs))
    (later : Recorded start (calls ++ [call]) next) (accepted : recordFillAt state call = .ok next)
    (some : newFills start.seenFillIds (calls ++ [call]) ≠ ∅) :
    next.group.status =
      entryStatus start.group.targetPairSize (bought .yes next.legs) (bought .no next.legs) := by
  obtain ⟨fill, timestamp⟩ := call
  rcases recordFill_cases accepted with ⟨known, rfl⟩ | ⟨-, economics, -, filled⟩
  · rw [newFills_snoc_seen contents (recorded.seen ▸ known)] at some
    exact status some
  · have sizes : ∀ outcome, bought outcome next.legs ≤ buySize outcome start.legs := fun outcome =>
      later.buySize_eq outcome ▸ bought_le_buySize later.within outcome
    subst filled
    have grown : ∀ outcome, bought outcome state.legs ≤ bought outcome (state.legs.map
        (filledLeg fill.legId fill.size fill.price fill.feeUsd timestamp)) :=
      bought_le_fill economics.size_pos
    refine (refreshedStatus_entry ?_).trans (by rw [recorded.target]; rfl)
    by_cases first : newFills start.seenFillIds calls = ∅
    · rw [recorded.unchanged first]
      exact .inl opened
    · have before := status first
      unfold entryStatus at before
      by_cases balanced : bought .yes state.legs = bought .no state.legs
      · rw [if_neg (not_not.mpr balanced)] at before
        by_cases complete : start.group.targetPairSize ≤ bought .yes state.legs
        -- The pair is complete, so its legs are full and this fill is of another leg.
        · rw [if_pos complete] at before
          have yes := (grown .yes).trans (sizes .yes)
          have no := (grown .no).trans (sizes .no)
          have capped := spare (le_min (complete.trans yes) ((balanced ▸ complete).trans no))
          obtain ⟨yesCapped, noCapped⟩ := max_le_iff.mp capped
          refine .inr ⟨before, ?_⟩
          have allYes := le_antisymm ((sizes .yes).trans yesCapped) (complete.trans (grown .yes))
          have allNo := le_antisymm ((sizes .no).trans noCapped)
            ((balanced ▸ complete).trans (grown .no))
          exact allYes.trans allNo.symm
        · rw [if_neg complete] at before
          exact .inl (.inl before)
      · rw [if_pos balanced] at before
        exact .inl (.inr before)

/-- The status that a run of new fills leaves. -/
theorem recordFills_status {start final : OrderGroupState} {calls : List (LegFill × Instant)}
    (within : WithinSize start.legs)
    (opened : start.group.status = .working ∨ start.group.status = .imbalanced)
    (spare : NoSpareSize start) (contents : SameContents (calls.map Prod.fst))
    (accepted : recordFills start calls = .ok final)
    (some : newFills start.seenFillIds calls ≠ ∅) :
    final.group.status =
      entryStatus start.group.targetPairSize (bought .yes final.legs) (bought .no final.legs) := by
  have run := Run.foldlM_iff.mpr accepted
  refine (Run.invariant_history
    (P := fun done state => SameContents (done.map Prod.fst) → Recorded start done state ∧
      (newFills start.seenFillIds done ≠ ∅ → state.group.status = entryStatus
        start.group.targetPairSize (bought .yes state.legs) (bought .no state.legs)))
    (fun done state call next before step contents => ?_) run
    (fun _ => ⟨.start within, fun some => absurd newFills_nil some⟩) contents).2 some
  obtain ⟨recorded, status⟩ := before fun fill inFills other inOthers =>
    contents fill (by simp [List.mem_map.mp inFills]) other (by simp [List.mem_map.mp inOthers])
  have later := Recorded.snoc within contents recorded step
  exact ⟨later, recorded.status_snoc opened spare contents status later step⟩

/-- Two orders of the same fills, accepted in both, leave the same account. The status
of an open group is the same too, where a complete pair leaves no room. -/
theorem fills_in_any_order {start state other : OrderGroupState}
    {first second : List (LegFill × Instant)} (within : WithinSize start.legs)
    (contents : SameContents (first.map Prod.fst))
    (perm : (first.map Prod.fst).Perm (second.map Prod.fst))
    (accepted : recordFills start first = .ok state)
    (otherAccepted : recordFills start second = .ok other) :
    SameFills state other ∧
      (start.group.status = .working ∨ start.group.status = .imbalanced → NoSpareSize start →
        state.group.status = other.group.status) := by
  have otherContents : SameContents (second.map Prod.fst) := fun fill inFills third inOthers =>
    contents fill (perm.mem_iff.mpr inFills) third (perm.mem_iff.mpr inOthers)
  have recorded := recordFills_recorded within contents accepted
  have otherRecorded := recordFills_recorded within otherContents otherAccepted
  have same := recorded.same otherRecorded perm
  refine ⟨same, fun opened spare => ?_⟩
  have fills : newFills start.seenFillIds first = newFills start.seenFillIds second :=
    newFills_perm perm
  by_cases none : newFills start.seenFillIds first = ∅
  · rw [recorded.unchanged none, otherRecorded.unchanged (fills ▸ none)]
  · rw [recordFills_status within opened spare contents accepted none,
      recordFills_status within opened spare otherContents otherAccepted (fills ▸ none),
      bought_congr same.legs .yes, bought_congr same.legs .no]

/-- A pair whose orders rest, with legs of `size` and a target of three. -/
def restingPair (size : ℚ) : OrderGroupState where
  group := { researchPlan.group with status := .working }
  legs := researchPlan.legs.map fun leg =>
    { leg with size := size, status := .open, clobOrderId := some leg.tokenId }
  seenFillIds := ∅

def earlyYes : LegFill × Instant := (⟨"early-yes", 11, 2, 2 / 5, 1 / 100⟩, 1)
def lateYes : LegFill × Instant := (⟨"late-yes", 11, 1, 9 / 20, 0⟩, 2)
def wholeNo : LegFill × Instant := (⟨"whole-no", 12, 3, 1 / 2, 0⟩, 3)

/-- Deliveries and a redelivery in two orders complete the pair. -/
theorem fills_in_any_order_redelivered :
    ∃ state other, recordFills (restingPair 3) [earlyYes, wholeNo, earlyYes, lateYes] = .ok state ∧
      recordFills (restingPair 3) [lateYes, earlyYes, earlyYes, wholeNo] = .ok other ∧
      SameFills state other ∧ state.group.status = .paired ∧ other.group.status = .paired := by
  obtain ⟨state, accepted, paired⟩ := Checked.exists_of_okAnd (show Checked.okAnd
    (recordFills (restingPair 3) [earlyYes, wholeNo, earlyYes, lateYes])
    (fun state => state.group.status = .paired) = true by decide +kernel)
  obtain ⟨other, otherAccepted, -⟩ := Checked.exists_of_okAnd (show Checked.okAnd
    (recordFills (restingPair 3) [lateYes, earlyYes, earlyYes, wholeNo])
    (fun other => other.group.status = .paired) = true by decide +kernel)
  have within : WithinSize (restingPair 3).legs := by
    unfold WithinSize
    decide
  obtain ⟨same, status⟩ := fills_in_any_order within (by decide +kernel) (by decide +kernel)
    accepted otherAccepted
  have alike := status (.inl rfl) (by decide +kernel)
  exact ⟨state, other, accepted, otherAccepted, same, paired, alike ▸ paired⟩

/-- With legs larger than the target the order decides: a fill after the complete pair
freezes the group, the same fill before it does not. -/
theorem spare_size_status_by_order :
    let early := [earlyYes, wholeNo, lateYes, (⟨"last-yes", 11, 1, 2 / 5, 0⟩, 4)]
    let late := [earlyYes, lateYes, (⟨"last-yes", 11, 1, 2 / 5, 0⟩, 4), wholeNo]
    (restingPair 4).modelValidate = .ok (restingPair 4) ∧
      (∀ leg ∈ (restingPair 4).legs, leg.modelValidate = .ok leg) ∧
      (restingPair 4).group.status = .working ∧ hedgeLegs (restingPair 4).legs = [] ∧
      (early.map Prod.fst).Perm (late.map Prod.fst) ∧ SameContents (early.map Prod.fst) ∧
      (recordFills (restingPair 4) early).map (·.group.status) = .ok .frozen ∧
      (recordFills (restingPair 4) late).map (·.group.status) = .ok .imbalanced := by
  decide +kernel

end Polybot
