import Mathlib.Data.List.Pairwise
import Polybot.Simulation.L2Replay

/-!
The order of market events in the level-two replay.

`_validate_sequences` sorts the events by time and sequence, the timeline by time,
priority and list position. The two orders agree on a list of events if and only if,
of two events of one time, the one with the lower sequence is a book and the other a
trade (`BooksFirst`). `applies_in_order_iff` says that this is exactly when every
permutation of the list is applied in ascending sequence and replays alike.
-/

namespace Polybot

open Checked Interaction

/-! ### Timelines -/

theorem TimelineItem.key_le_iff {item other : TimelineItem} :
    item.key ≤ other.key ↔ item.occurredAt < other.occurredAt ∨
      item.occurredAt = other.occurredAt ∧ (item.priority < other.priority ∨
        item.priority = other.priority ∧ item.index ≤ other.index) := by
  unfold TimelineItem.key
  rw [Prod.Lex.toLex_le_toLex, Prod.Lex.toLex_le_toLex]

theorem TimelineItem.key_injective {item other : TimelineItem} (same : item.key = other.key) :
    item.occurredAt = other.occurredAt ∧ item.priority = other.priority ∧
      item.index = other.index := by
  unfold TimelineItem.key at same
  simpa [Prod.ext_iff] using same

/-- The items of a timeline. -/
inductive TimelineItem.Listed (byId : Dict String ReplayOrder) (events : List L2Event) :
    TimelineItem → Prop where
  | activate {order : ReplayOrder} {index : Nat} (there : byId.values[index]? = some order) :
      Listed byId events ⟨order.activeAt, 1, index, .activate order.request.orderId⟩
  | cancel {order : ReplayOrder} {index : Nat} {effectiveAt : Instant}
      (there : byId.values[index]? = some order)
      (requested : order.cancelEffectiveAt = some effectiveAt) :
      Listed byId events ⟨effectiveAt, 2, index, .cancel order.request.orderId⟩
  | market {event : L2Event} {index : Nat} (there : events[index]? = some event) :
      Listed byId events (event.item index)

theorem mem_timeline_iff {byId : Dict String ReplayOrder} {events : List L2Event}
    {item : TimelineItem} : item ∈ timeline byId events ↔ item.Listed byId events := by
  unfold timeline
  rw [List.mem_insertionSort, List.mem_append, List.mem_flatMap, List.mem_map]
  constructor
  · rintro (⟨⟨order, index⟩, there, member⟩ | ⟨⟨event, index⟩, there, rfl⟩)
    · rw [List.mk_mem_zipIdx_iff_getElem?] at there
      rcases List.mem_cons.mp member with rfl | cancelled
      · exact .activate there
      · rw [Option.mem_toList, Option.map_eq_some_iff] at cancelled
        obtain ⟨effectiveAt, requested, rfl⟩ := cancelled
        exact .cancel there requested
    · rw [List.mk_mem_zipIdx_iff_getElem?] at there
      exact .market there
  · intro listed
    cases listed with
    | @activate order index there =>
        exact .inl ⟨(order, index), List.mk_mem_zipIdx_iff_getElem?.mpr there, List.mem_cons_self⟩
    | @cancel order index effectiveAt there requested =>
        refine .inl ⟨(order, index), List.mk_mem_zipIdx_iff_getElem?.mpr there, ?_⟩
        refine List.mem_cons_of_mem _ ?_
        rw [Option.mem_toList, Option.map_eq_some_iff]
        exact ⟨effectiveAt, requested, rfl⟩
    | @market event index there =>
        exact .inr ⟨(event, index), List.mk_mem_zipIdx_iff_getElem?.mpr there, rfl⟩

theorem timeline_sorted (byId : Dict String ReplayOrder) (events : List L2Event) :
    (timeline byId events).Pairwise fun a b => a.key ≤ b.key :=
  List.pairwise_insertionSort _ _

/-- The market event of an item. -/
def TimelineItem.event? (item : TimelineItem) : Option L2Event :=
  match item.kind with
  | .market event => some event
  | _ => none

/-- The market events, in the order in which the loop applies them. -/
def appliedEvents (byId : Dict String ReplayOrder) (events : List L2Event) : List L2Event :=
  (timeline byId events).filterMap TimelineItem.event?

/-! ### Validated sequences -/

/-- Two elements of a sorted list stand in one of the two orders. -/
theorem pairwise_either {α : Type} {R : α → α → Prop} {list : List α} (sorted : list.Pairwise R)
    {a b : α} (a_in : a ∈ list) (b_in : b ∈ list) (differ : a ≠ b) : R a b ∨ R b a := by
  have symmetric : Std.Symm fun a b : α => R a b ∨ R b a := ⟨fun _ _ => Or.symm⟩
  have either : list.Pairwise fun a b => R a b ∨ R b a := sorted.imp fun {_ _} => Or.inl
  exact either.forall a_in b_in differ

/-- Events with sequences of their own that rise with time. -/
structure Validated (events : List L2Event) : Prop where
  distinct : (events.map L2Event.sequence).Nodup
  rising : ∀ first ∈ events, ∀ second ∈ events, first.occurredAt < second.occurredAt →
    first.sequence ≤ second.sequence

/-- Events in the order of `_validate_sequences`. -/
def sortedEvents (events : List L2Event) : List L2Event :=
  events.insertionSort fun a b =>
    toLex (a.occurredAt, a.sequence) ≤ toLex (b.occurredAt, b.sequence)

theorem sortedEvents_perm (events : List L2Event) : (sortedEvents events).Perm events :=
  List.perm_insertionSort _ _

theorem validated_of_accepted {engine : L2ReplayEngine} {events : List L2Event}
    (accepted : engine.validateSequences events = .ok ()) : Validated events := by
  unfold L2ReplayEngine.validateSequences at accepted
  rw [require_bind_ok_iff, require_bind_ok_iff] at accepted
  obtain ⟨distinct, rising, -⟩ := accepted
  have permuted : (orderedSequences events).Perm (events.map L2Event.sequence) :=
    (sortedEvents_perm events).map _
  have ascending : (orderedSequences events).Pairwise (· ≤ ·) := by
    rw [rising]
    exact List.pairwise_insertionSort _ _
  refine ⟨permuted.nodup_iff.mp distinct, fun first first_in second second_in earlier => ?_⟩
  have timed : (sortedEvents events).Pairwise fun a b =>
      toLex (a.occurredAt, a.sequence) ≤ toLex (b.occurredAt, b.sequence) :=
    List.pairwise_insertionSort _ _
  have differ : first ≠ second := fun same => earlier.ne (same ▸ rfl)
  rcases pairwise_either (timed.and (List.pairwise_map.mp ascending))
    ((sortedEvents_perm events).mem_iff.mpr first_in)
    ((sortedEvents_perm events).mem_iff.mpr second_in) differ with rise | fall
  · exact rise.2
  · rcases Prod.Lex.toLex_le_toLex.mp fall.1 with before | ⟨same, -⟩
    · exact absurd before earlier.not_gt
    · exact absurd same earlier.ne'

/-- Permutations of validated events are sorted alike. -/
theorem orderedSequences_perm {events events' : List L2Event} (validated : Validated events)
    (perm : events'.Perm events) : orderedSequences events' = orderedSequences events := by
  have same : sortedEvents events' = sortedEvents events := by
    refine List.Perm.eq_of_pairwise (fun a b a_in b_in le ge => ?_)
      (List.pairwise_insertionSort _ events') (List.pairwise_insertionSort _ events)
      ((sortedEvents_perm events').trans (perm.trans (sortedEvents_perm events).symm))
    have keys := congrArg (fun key => (ofLex key).2) (le_antisymm le ge)
    exact List.inj_on_of_nodup_map validated.distinct
      (perm.mem_iff.mp ((sortedEvents_perm events').mem_iff.mp a_in))
      ((sortedEvents_perm events).mem_iff.mp b_in) keys
  exact congrArg (List.map L2Event.sequence) same

theorem prepare_perm {engine : L2ReplayEngine} {events events' : List L2Event}
    (validated : Validated events) (perm : events'.Perm events) (orders : List ReplayOrderRequest)
    (cancellations : List ReplayCancelRequest) :
    engine.prepare events' orders cancellations = engine.prepare events orders cancellations := by
  unfold L2ReplayEngine.prepare L2ReplayEngine.validateSequences
  rw [orderedSequences_perm validated perm]

/-! ### The condition -/

/-- Of two events of one time, the one with the lower sequence is a book and the other
a trade. -/
def BooksFirst (events : List L2Event) : Prop :=
  ∀ first ∈ events, ∀ second ∈ events, first.occurredAt = second.occurredAt →
    first.sequence < second.sequence → first.priority < second.priority

/-- Every permutation of the events is applied in ascending sequence, and replays
alike. -/
def AppliesInOrder (engine : L2ReplayEngine) (events : List L2Event) : Prop :=
  ∀ events', events'.Perm events → ∀ orders cancellations,
    engine.run events' orders cancellations = engine.run events orders cancellations ∧
      ∀ byId, engine.prepare events' orders cancellations = .ok byId →
        (appliedEvents byId events').Pairwise fun a b => a.sequence < b.sequence

section Enough

variable {byId : Dict String ReplayOrder} {events events' : List L2Event}

theorem Validated.perm (validated : Validated events) (perm : events'.Perm events) :
    Validated events' where
  distinct := (perm.map _).nodup_iff.mpr validated.distinct
  rising first first_in second second_in :=
    validated.rising first (perm.mem_iff.mp first_in) second (perm.mem_iff.mp second_in)

theorem BooksFirst.perm (booksFirst : BooksFirst events) (perm : events'.Perm events) :
    BooksFirst events' :=
  fun first first_in second second_in =>
    booksFirst first (perm.mem_iff.mp first_in) second (perm.mem_iff.mp second_in)

/-- Every event is applied once. -/
theorem appliedEvents_perm : (appliedEvents byId events).Perm events := by
  have listed : (appliedEvents byId events).Perm _ :=
    (List.perm_insertionSort (fun a b : TimelineItem => a.key ≤ b.key) _).filterMap
      TimelineItem.event?
  have orders : (byId.values.zipIdx.flatMap fun entry => entry.1.items entry.2).filterMap
      TimelineItem.event? = [] := by
    refine List.filterMap_eq_nil_iff.mpr fun item member => ?_
    obtain ⟨⟨order, index⟩, -, member⟩ := List.mem_flatMap.mp member
    rcases List.mem_cons.mp member with rfl | cancelled
    · rfl
    · rw [Option.mem_toList, Option.map_eq_some_iff] at cancelled
      obtain ⟨effectiveAt, -, rfl⟩ := cancelled
      rfl
  have market : (events.zipIdx.map fun entry => entry.1.item entry.2).filterMap
      TimelineItem.event? = events := by
    rw [List.filterMap_map]
    have reads : (TimelineItem.event? ∘ fun entry : L2Event × Nat => entry.1.item entry.2) =
        some ∘ Prod.fst := rfl
    rw [reads, List.filterMap_eq_map, List.zipIdx_map_fst]
  rwa [List.filterMap_append, orders, market, List.nil_append] at listed

theorem occurredAt_of_event? {item : TimelineItem} (listed : item.Listed byId events)
    {event : L2Event} (found : item.event? = some event) :
    item.occurredAt = event.occurredAt ∧ item.priority = event.priority := by
  cases listed with
  | activate there => cases found
  | cancel there requested => cases found
  | market there =>
      cases found
      exact ⟨rfl, rfl⟩

/-- Events are applied in the order of time and priority. -/
theorem appliedEvents_timed : (appliedEvents byId events).Pairwise fun a b =>
    a.occurredAt < b.occurredAt ∨ a.occurredAt = b.occurredAt ∧ a.priority ≤ b.priority := by
  unfold appliedEvents
  rw [List.pairwise_filterMap]
  refine (timeline_sorted byId events).imp_of_mem ?_
  intro item later item_in later_in le event found event' found'
  obtain ⟨time, priority⟩ := occurredAt_of_event? (mem_timeline_iff.mp item_in) found
  obtain ⟨time', priority'⟩ := occurredAt_of_event? (mem_timeline_iff.mp later_in) found'
  rw [TimelineItem.key_le_iff, time, time', priority, priority'] at le
  exact le.imp_right fun ⟨same, tie⟩ => ⟨same, tie.elim le_of_lt fun equal => equal.1.le⟩

/-- The loop applies the events in ascending sequence. -/
theorem appliedEvents_ascending (validated : Validated events) (booksFirst : BooksFirst events) :
    (appliedEvents byId events).Pairwise fun a b => a.sequence < b.sequence := by
  have applied : (appliedEvents byId events).Perm events := appliedEvents_perm
  have distinct : (appliedEvents byId events).Pairwise fun a b => a.sequence ≠ b.sequence :=
    List.pairwise_map.mp ((applied.map L2Event.sequence).nodup_iff.mpr validated.distinct)
  refine (appliedEvents_timed.and distinct).imp_of_mem fun {a b} a_in b_in both => ?_
  obtain ⟨timed, differ⟩ := both
  rw [applied.mem_iff] at a_in b_in
  rcases timed with before | ⟨same, priority⟩
  · exact lt_of_le_of_ne (validated.rising a a_in b b_in before) differ
  · rcases lt_or_gt_of_ne differ with rise | fall
    · exact rise
    · exact absurd (booksFirst b b_in a a_in same.symm fall) (Nat.not_lt.mpr priority)

/-! ### Replays of a permutation -/

/-- The item without the list position of its event. -/
def TimelineItem.bare (item : TimelineItem) : TimelineItem :=
  if item.priority = 1 ∨ item.priority = 2 then item else { item with index := 0 }

namespace TimelineItem

theorem bare_kind (item : TimelineItem) : item.bare.kind = item.kind := by
  unfold bare
  split <;> rfl

theorem bare_occurredAt (item : TimelineItem) : item.bare.occurredAt = item.occurredAt := by
  unfold bare
  split <;> rfl

theorem bare_priority (item : TimelineItem) : item.bare.priority = item.priority := by
  unfold bare
  split <;> rfl

theorem bare_index (item : TimelineItem) :
    item.bare.index = if item.priority = 1 ∨ item.priority = 2 then item.index else 0 := by
  unfold bare
  split <;> rfl

theorem bare_le {item other : TimelineItem} (le : item.key ≤ other.key) :
    item.bare.key ≤ other.bare.key := by
  rw [key_le_iff] at le ⊢
  rw [bare_occurredAt, bare_occurredAt, bare_priority, bare_priority, bare_index, bare_index]
  refine le.imp_right fun ⟨same, tie⟩ => ⟨same, tie.imp_right fun ⟨equal, below⟩ => ⟨equal, ?_⟩⟩
  rw [equal]
  split
  · exact below
  · exact le_rfl

end TimelineItem

theorem L2State.apply_bare (state : L2State) (item : TimelineItem) :
    state.apply item.bare = state.apply item := by
  unfold apply
  rw [item.bare_kind]

theorem L2Event.bare_item (event : L2Event) (index : Nat) :
    (event.item index).bare = event.item 0 := by
  cases event <;> rfl

/-- Bare items with one key are one item. -/
theorem bare_unique (validated : Validated events) (booksFirst : BooksFirst events)
    {item other : TimelineItem} (item_in : item ∈ (timeline byId events).map TimelineItem.bare)
    (other_in : other ∈ (timeline byId events).map TimelineItem.bare)
    (same : item.key = other.key) : item = other := by
  obtain ⟨item, listed, rfl⟩ := List.mem_map.mp item_in
  obtain ⟨other, listed', rfl⟩ := List.mem_map.mp other_in
  rw [mem_timeline_iff] at listed listed'
  obtain ⟨time, priority, index⟩ := TimelineItem.key_injective same
  cases listed with
  | @activate order position there =>
      cases listed' with
      | @activate order' position' there' =>
          have here : position = position' := index
          rw [here, there'] at there
          cases there
          rw [here]
      | cancel there' requested => cases priority
      | @market event position there' => cases event <;> cases priority
  | @cancel order position effectiveAt there requested =>
      cases listed' with
      | activate there' => cases priority
      | @cancel order' position' effectiveAt' there' requested' =>
          have here : position = position' := index
          rw [here, there'] at there
          cases there
          rw [requested'] at requested
          cases requested
          rw [here]
      | @market event position there' => cases event <;> cases priority
  | @market event position there =>
      cases listed' with
      | activate there' => cases event <;> cases priority
      | cancel there' requested => cases event <;> cases priority
      | @market event' position' there' =>
          rw [event.bare_item, event'.bare_item] at time priority ⊢
          have event_in : event ∈ events := List.mem_of_getElem? there
          have event'_in : event' ∈ events := List.mem_of_getElem? there'
          rcases lt_trichotomy event.sequence event'.sequence with rise | equal | fall
          · exact absurd (booksFirst event event_in event' event'_in time rise) priority.not_lt
          · rw [List.inj_on_of_nodup_map validated.distinct event_in event'_in equal]
          · exact absurd (booksFirst event' event'_in event event_in time.symm fall)
              priority.not_gt

/-- The timelines of a permutation differ in the list positions of events only. -/
theorem bare_timeline_perm (validated : Validated events) (booksFirst : BooksFirst events)
    (perm : events'.Perm events) :
    (timeline byId events').map TimelineItem.bare =
      (timeline byId events).map TimelineItem.bare := by
  have sorted (events : List L2Event) :
      ((timeline byId events).map TimelineItem.bare).Pairwise fun a b => a.key ≤ b.key :=
    List.pairwise_map.mpr ((timeline_sorted byId events).imp TimelineItem.bare_le)
  have listed (events : List L2Event) : ((timeline byId events).map TimelineItem.bare).Perm
      ((byId.values.zipIdx.flatMap fun entry => entry.1.items entry.2).map TimelineItem.bare ++
        events.map fun event => event.item 0) := by
    have unsorted := (List.perm_insertionSort (fun a b : TimelineItem => a.key ≤ b.key)
      ((byId.values.zipIdx.flatMap fun entry => entry.1.items entry.2) ++
        events.zipIdx.map fun entry => entry.1.item entry.2)).map TimelineItem.bare
    rw [List.map_append, List.map_map] at unsorted
    have market : events.zipIdx.map (TimelineItem.bare ∘ fun entry => entry.1.item entry.2) =
        events.map fun event => event.item 0 := by
      conv_rhs => rw [← List.zipIdx_map_fst 0 events, List.map_map]
      exact List.map_congr_left fun entry _ => entry.1.bare_item entry.2
    rwa [market] at unsorted
  have permuted : ((timeline byId events').map TimelineItem.bare).Perm
      ((timeline byId events).map TimelineItem.bare) :=
    (listed events').trans (((perm.map _).append_left _).trans (listed events).symm)
  refine List.Perm.eq_of_pairwise (fun a b a_in b_in le ge => ?_) (sorted events') (sorted events)
    permuted
  exact bare_unique validated booksFirst (permuted.mem_iff.mp a_in) b_in (le_antisymm le ge)

theorem replay_perm (validated : Validated events) (booksFirst : BooksFirst events)
    (perm : events'.Perm events) (state : L2State) :
    (timeline byId events').foldl L2State.apply state =
      (timeline byId events).foldl L2State.apply state := by
  have bare (events : List L2Event) : (timeline byId events).foldl L2State.apply state =
      ((timeline byId events).map TimelineItem.bare).foldl L2State.apply state := by
    rw [List.foldl_map]
    simp only [L2State.apply_bare]
  rw [bare events', bare events, bare_timeline_perm validated booksFirst perm]

end Enough

/-! ### Replays in the order of the exchange -/

/-- A list whose first two events break the condition is applied out of order. -/
theorem not_ascending {first second : L2Event} {rest : List L2Event}
    (same : first.occurredAt = second.occurredAt) (rise : first.sequence < second.sequence)
    (tie : second.priority ≤ first.priority) :
    ¬ (appliedEvents .empty (second :: first :: rest)).Pairwise
      fun a b => a.sequence < b.sequence := by
  intro ascending
  have applied := List.pairwise_filterMap.mp ascending
  have earlier : second.item 0 ∈ timeline .empty (second :: first :: rest) :=
    mem_timeline_iff.mpr (.market rfl)
  have later : first.item 1 ∈ timeline .empty (second :: first :: rest) :=
    mem_timeline_iff.mpr (.market rfl)
  have differ : second.item 0 ≠ first.item 1 := fun equal =>
    Nat.zero_ne_one (congrArg TimelineItem.index equal)
  rcases pairwise_either ((timeline_sorted _ _).and applied) earlier later differ with up | down
  · exact absurd (up.2 second rfl first rfl) rise.not_gt
  · rcases TimelineItem.key_le_iff.mp down.1 with before | ⟨-, below | ⟨-, position⟩⟩
    · exact before.ne same
    · exact absurd tie (Nat.not_le.mpr below)
    · exact Nat.not_succ_le_zero 0 position

/-- A replay applies every permutation of accepted events in the order of the exchange
if and only if each time has at most a book and a later trade. -/
theorem applies_in_order_iff {engine : L2ReplayEngine} {events : List L2Event}
    (accepted : engine.validateSequences events = .ok ()) :
    AppliesInOrder engine events ↔ BooksFirst events := by
  have validated : Validated events := validated_of_accepted accepted
  constructor
  · intro inOrder first first_in second second_in same rise
    by_contra tie
    have apart : first ≠ second := fun equal => rise.ne (equal ▸ rfl)
    have perm : (second :: first :: (events.erase second).erase first).Perm events :=
      ((List.perm_cons_erase ((List.mem_erase_of_ne apart).mpr first_in)).symm.cons second).trans
        (List.perm_cons_erase second_in).symm
    have prepared : engine.prepare (second :: first :: (events.erase second).erase first) [] [] =
        .ok .empty := by
      rw [prepare_perm validated perm]
      unfold L2ReplayEngine.prepare
      rw [accepted]
      rfl
    exact not_ascending same rise (Nat.not_lt.mp tie) ((inOrder _ perm [] []).2 _ prepared)
  · intro booksFirst events' perm orders cancellations
    constructor
    · unfold L2ReplayEngine.run
      rw [prepare_perm validated perm]
      simp only [replay_perm validated booksFirst perm]
    · intro byId prepared
      exact appliedEvents_ascending (validated.perm perm) (booksFirst.perm perm)

/-- A book with the given asks. -/
def askBook (asks : List BookLevel) (valid : ∀ level ∈ asks, level.Valid) (sequence : Nat) :
    L2Event :=
  .book ⟨1, [], asks, sequence, BookLevel.valid_nil, valid⟩

/-- A purchase at one half. -/
def takerPurchase (sequence : Nat) : L2Event :=
  .trade ⟨1, .buy, 1 / 2, 10, sequence, Literal.half_pos, Literal.half_lt_one, Literal.ten_pos⟩

/-- A book and a trade of one time, the trade with the later sequence. -/
theorem book_then_trade_in_order :
    AppliesInOrder ⟨false, false⟩ [takerPurchase 2, askBook [] nofun 1] :=
  (applies_in_order_iff (by decide)).mpr (by unfold BooksFirst; decide)

/-- An ask at one half. -/
def askedHalf : L2Event :=
  askBook [⟨1 / 2, 10⟩] BookLevel.valid_tenAtHalf 1

/-- A BUY at one half that is active at the time of the books. -/
def bidHalf : ReplayOrderRequest :=
  ⟨"a", .buy, 1 / 2, 10, 1, 0, 0, firstOrder_named, Literal.half_pos, Literal.half_lt_one,
    Literal.ten_pos, noLatency_nonneg, noLatency_nonneg⟩

/-- Two books of one time: the list position decides which of them the order meets. -/
theorem book_position_changes_replay :
    L2ReplayEngine.validateSequences ⟨true, true⟩ [askedHalf, askBook [] nofun 2] = .ok () ∧
      [askBook [] nofun 2, askedHalf].Perm [askedHalf, askBook [] nofun 2] ∧
      (∃ result, L2ReplayEngine.run ⟨true, true⟩ [askedHalf, askBook [] nofun 2] [bidHalf] [] =
        .ok result ∧ result.orders.map ReplayOrderResult.status = [.open]) ∧
      ∃ result, L2ReplayEngine.run ⟨true, true⟩ [askBook [] nofun 2, askedHalf] [bidHalf] [] =
        .ok result ∧ result.orders.map ReplayOrderResult.status = [.postOnlyRejected] := by
  refine ⟨by decide, List.Perm.swap _ _ _, Checked.exists_of_okAnd ?_,
    Checked.exists_of_okAnd ?_⟩
  · decide
  · decide +kernel

end Polybot
