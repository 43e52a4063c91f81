import Mathlib.Data.Prod.Lex
import Mathlib.Data.String.Basic
import Polybot.Interaction.Transition
import Polybot.Store.PairStore
import Polybot.Trading.Models

/-!
The level-two replay (`polybot/simulation/l2_replay.py`).

`run` validates the exchange sequences, registers orders and cancellations, and
applies one timeline of market events, activations and cancellations. The state of
its loop and the step of one timeline item are explicit, so that a replay is a `Run`
(`replay_run`).
-/

namespace Polybot

open Checked Interaction

/-! ### Events and requests -/

/-- A refreshed book. -/
structure L2BookEvent where
  occurredAt : Instant
  bids : List BookLevel
  asks : List BookLevel
  sequence : Nat
  bids_valid : ∀ level ∈ bids, level.Valid
  asks_valid : ∀ level ∈ asks, level.Valid
  deriving DecidableEq

@[ext]
structure L2TradeEvent where
  occurredAt : Instant
  aggressorSide : Side
  price : ℚ
  size : ℚ
  sequence : Nat
  price_pos : 0 < price
  price_lt_one : price < 1
  size_pos : 0 < size

instance : DecidableEq L2TradeEvent := fun _ _ =>
  decidable_of_iff _ L2TradeEvent.ext_iff.symm

inductive L2Event where
  | book (event : L2BookEvent)
  | trade (event : L2TradeEvent)
  deriving DecidableEq

namespace L2Event

def occurredAt : L2Event → Instant
  | book event => event.occurredAt
  | trade event => event.occurredAt

def sequence : L2Event → Nat
  | book event => event.sequence
  | trade event => event.sequence

/-- Books come first among the items of one time, trades last. -/
def priority : L2Event → Nat
  | book _ => 0
  | trade _ => 3

end L2Event

@[ext]
structure ReplayOrderRequest where
  orderId : String
  side : Side
  price : ℚ
  size : ℚ
  submittedAt : Instant
  submitLatency : Duration
  cancelLatency : Duration
  orderId_nonempty : orderId ≠ ""
  price_pos : 0 < price
  price_lt_one : price < 1
  size_pos : 0 < size
  submitLatency_nonneg : 0 ≤ submitLatency
  cancelLatency_nonneg : 0 ≤ cancelLatency

instance : DecidableEq ReplayOrderRequest := fun _ _ =>
  decidable_of_iff _ ReplayOrderRequest.ext_iff.symm

theorem firstOrder_named : "a" ≠ "" := by
  decide

theorem noLatency_nonneg : (0 : Duration) ≤ 0 :=
  le_rfl

structure ReplayCancelRequest where
  orderId : String
  requestedAt : Instant

/-! ### Results -/

inductive ReplayOrderStatus where
  | pending
  | open
  | partiallyFilled
  | filled
  | cancelled
  | postOnlyRejected
  deriving DecidableEq

structure ReplayFill where
  orderId : String
  occurredAt : Instant
  price : ℚ
  size : ℚ
  maker : Bool
  deriving DecidableEq

structure ReplayOrderResult where
  orderId : String
  status : ReplayOrderStatus
  filledSize : ℚ
  remainingSize : ℚ
  queueAheadRemaining : ℚ
  cancelRequestedAt : Option Instant
  cancelEffectiveAt : Option Instant
  deriving DecidableEq

structure L2ReplayResult where
  orders : List ReplayOrderResult
  fills : List ReplayFill
  completeDepth : Bool
  verifiedExchangeSequence : Bool
  deriving DecidableEq

/-! ### Orders -/

structure ReplayOrder where
  request : ReplayOrderRequest
  status : ReplayOrderStatus
  activeAt : Instant
  filledSize : ℚ
  queueAhead : ℚ
  cancelRequestedAt : Option Instant
  cancelEffectiveAt : Option Instant
  deriving DecidableEq

namespace ReplayOrder

variable (order : ReplayOrder)

def remaining : ℚ :=
  order.request.size - order.filledSize

/-- The order rests in the book. -/
def Working : Prop :=
  order.status = .open ∨ order.status = .partiallyFilled

instance : Decidable order.Working :=
  inferInstanceAs (Decidable (_ ∨ _))

/-- The same side and price. -/
def Level (other : ReplayOrder) : Prop :=
  order.request.side = other.request.side ∧ order.request.price = other.request.price

instance (other : ReplayOrder) : Decidable (order.Level other) :=
  inferInstanceAs (Decidable (_ ∧ _))

def result : ReplayOrderResult where
  orderId := order.request.orderId
  status := order.status
  filledSize := order.filledSize
  remainingSize := order.remaining
  queueAheadRemaining := order.queueAhead
  cancelRequestedAt := order.cancelRequestedAt
  cancelEffectiveAt := order.cancelEffectiveAt

end ReplayOrder

/-- `maker_side`. -/
def L2TradeEvent.makerSide (event : L2TradeEvent) : Side :=
  if event.aggressorSide = .buy then .sell else .buy

namespace ReplayOrder

variable (order : ReplayOrder) (event : L2TradeEvent)

/-- The trade takes from the order's level. -/
def Eligible : Prop :=
  order.Working ∧ order.request.side = event.makerSide ∧ order.request.price = event.price

instance : Decidable (order.Eligible event) :=
  inferInstanceAs (Decidable (_ ∧ _))

def fillSize : ℚ :=
  min order.remaining (max 0 (event.size - order.queueAhead))

/-- What the trade does to an eligible order. -/
def hit : ReplayOrder :=
  let queued := { order with queueAhead := max 0 (order.queueAhead - event.size) }
  if order.fillSize event ≤ 0 then queued
  else
    { queued with
      filledSize := order.filledSize + order.fillSize event
      status :=
        if order.remaining - order.fillSize event = 0 then .filled else .partiallyFilled }

/-- The fill of an eligible order. -/
def fill : Option ReplayFill :=
  if order.fillSize event ≤ 0 then none
  else some
    { orderId := order.request.orderId
      occurredAt := event.occurredAt
      price := order.request.price
      size := order.fillSize event
      maker := true }

/-- The sort key of the eligible orders. -/
def tradeKey : ℚ ×ₗ Instant ×ₗ String :=
  toLex (if event.makerSide = .buy then -order.request.price else order.request.price,
    toLex (order.activeAt, order.request.orderId))

end ReplayOrder

/-- What the trade leaves of the side of the book that it takes from. -/
def L2TradeEvent.reduce (event : L2TradeEvent) (book : Dict ℚ ℚ) : Dict ℚ ℚ :=
  match book.get? event.price with
  | none => book
  | some size => book.set event.price (max 0 (size - event.size))

/-! ### The loop -/

/-- What the loop over the timeline changes. -/
structure L2State where
  byId : Dict String ReplayOrder
  bids : Dict ℚ ℚ
  asks : Dict ℚ ℚ
  fills : List ReplayFill

/-- `{level.price: level.size for level in levels}`. -/
def bookSide (levels : List BookLevel) : Dict ℚ ℚ :=
  levels.foldl (fun side level => side.set level.price level.size) .empty

namespace L2State

variable (state : L2State)

/-- `_would_cross`. -/
def WouldCross (request : ReplayOrderRequest) : Prop :=
  match request.side with
  | .buy => ∃ bestAsk ∈ state.asks.keys.min?, bestAsk ≤ request.price
  | .sell => ∃ bestBid ∈ state.bids.keys.max?, request.price ≤ bestBid

instance (request : ReplayOrderRequest) : Decidable (state.WouldCross request) := by
  unfold WouldCross
  cases request.side <;> infer_instance

/-- `external_ahead`. -/
def externalAhead (request : ReplayOrderRequest) : ℚ :=
  match request.side with
  | .buy => (state.bids.get? request.price).getD 0
  | .sell => (state.asks.get? request.price).getD 0

/-- `own_ahead`. -/
def ownAhead (order : ReplayOrder) : ℚ :=
  state.byId.sum fun _ existing =>
    if existing.Working ∧ existing.Level order ∧ existing.activeAt ≤ order.activeAt then
      existing.remaining
    else 0

/-- The activation of an order. -/
def activate (orderId : String) : L2State :=
  match state.byId.get? orderId with
  | none => state
  | some order =>
      if order.status ≠ .pending then state
      else if state.WouldCross order.request then
        { state with byId := state.byId.set orderId { order with status := .postOnlyRejected } }
      else
        { state with
          byId := state.byId.set orderId
            { order with
              queueAhead := state.externalAhead order.request + state.ownAhead order
              status := .open } }

/-- The cancellation of an order that is not done. -/
def cancel (orderId : String) : L2State :=
  match state.byId.get? orderId with
  | none => state
  | some order =>
      if order.status = .pending ∨ order.Working then
        { state with byId := state.byId.set orderId { order with status := .cancelled } }
      else state

/-- `_apply_trade`. -/
def applyTrade (event : L2TradeEvent) : L2State :=
  let eligible := (state.byId.values.filter fun order => order.Eligible event).insertionSort
    fun a b => a.tradeKey event ≤ b.tradeKey event
  { -- The loop updates the eligible orders in place.
    byId := state.byId.filterMap fun _ order =>
      some (if order.Eligible event then order.hit event else order)
    bids := if event.aggressorSide = .buy then state.bids else event.reduce state.bids
    asks := if event.aggressorSide = .buy then event.reduce state.asks else state.asks
    fills := state.fills ++ eligible.filterMap fun order => order.fill event }

end L2State

/-! ### The timeline -/

inductive TimelineKind where
  | activate (orderId : String)
  | cancel (orderId : String)
  | market (event : L2Event)
  deriving DecidableEq

structure TimelineItem where
  occurredAt : Instant
  priority : Nat
  index : Nat
  kind : TimelineKind
  deriving DecidableEq

/-- The sort key of the timeline. -/
def TimelineItem.key (item : TimelineItem) : Instant ×ₗ Nat ×ₗ Nat :=
  toLex (item.occurredAt, toLex (item.priority, item.index))

/-- The items of an order. -/
def ReplayOrder.items (order : ReplayOrder) (index : Nat) : List TimelineItem :=
  ⟨order.activeAt, 1, index, .activate order.request.orderId⟩ ::
    (order.cancelEffectiveAt.map fun effectiveAt =>
      ⟨effectiveAt, 2, index, .cancel order.request.orderId⟩).toList

/-- The item of an event. -/
def L2Event.item (event : L2Event) (index : Nat) : TimelineItem :=
  ⟨event.occurredAt, event.priority, index, .market event⟩

/-- `timeline`. -/
def timeline (byId : Dict String ReplayOrder) (events : List L2Event) : List TimelineItem :=
  ((byId.values.zipIdx.flatMap fun entry => entry.1.items entry.2) ++
    events.zipIdx.map fun entry => entry.1.item entry.2).insertionSort fun a b => a.key ≤ b.key

/-- The body of the loop over the timeline. -/
def L2State.apply (state : L2State) (item : TimelineItem) : L2State :=
  match item.kind with
  | .activate orderId => state.activate orderId
  | .cancel orderId => state.cancel orderId
  | .market (.book event) =>
      { state with
        bids := bookSide event.bids
        asks := bookSide event.asks }
  | .market (.trade event) => state.applyTrade event

/-! ### `run` -/

/-- Register an order. -/
def register (byId : Dict String ReplayOrder) (request : ReplayOrderRequest) :
    Except PyError (Dict String ReplayOrder) := do
  let _ ← require (byId.get? request.orderId = none) (.valueError "duplicate replay order id")
  pure (byId.set request.orderId
    { request := request
      status := .pending
      activeAt := request.submittedAt + request.submitLatency
      filledSize := 0
      queueAhead := 0
      cancelRequestedAt := none
      cancelEffectiveAt := none })

/-- Register a cancellation. -/
def requestCancel (byId : Dict String ReplayOrder) (cancellation : ReplayCancelRequest) :
    Except PyError (Dict String ReplayOrder) :=
  match byId.get? cancellation.orderId with
  | none => .error (.keyError s!"cancel references unknown order {cancellation.orderId}")
  | some order => do
      let _ ← require (order.request.submittedAt ≤ cancellation.requestedAt)
        (.valueError "cancel cannot precede order submission")
      pure (byId.set cancellation.orderId
        { order with
          cancelRequestedAt := some cancellation.requestedAt
          cancelEffectiveAt := some (cancellation.requestedAt + order.request.cancelLatency) })

structure L2ReplayEngine where
  completeDepth : Bool
  verifiedExchangeSequence : Bool

/-- The sequences in the order of event time. -/
def orderedSequences (events : List L2Event) : List Nat :=
  (events.insertionSort fun a b =>
    toLex (a.occurredAt, a.sequence) ≤ toLex (b.occurredAt, b.sequence)).map L2Event.sequence

namespace L2ReplayEngine

variable (engine : L2ReplayEngine)

/-- `_validate_sequences`. -/
def validateSequences (events : List L2Event) : Except PyError Unit := do
  let sequences := orderedSequences events
  let _ ← require sequences.Nodup (.valueError "duplicate exchange sequence in L2 replay")
  let _ ← require (sequences = sequences.insertionSort (· ≤ ·))
    (.valueError "exchange sequence moves backwards in event time")
  require (engine.verifiedExchangeSequence = true →
      sequences ≠ [] ∧ ∀ pair ∈ sequences.zip sequences.tail, pair.2 = pair.1 + 1)
    (.valueError "verified L2 replay contains an exchange sequence gap")

/-- `run` up to its timeline. -/
def prepare (events : List L2Event) (orders : List ReplayOrderRequest)
    (cancellations : List ReplayCancelRequest) : Except PyError (Dict String ReplayOrder) := do
  engine.validateSequences events
  let byId ← orders.foldlM register .empty
  cancellations.foldlM requestCancel byId

/-- The state before the timeline. -/
def start (byId : Dict String ReplayOrder) : L2State :=
  ⟨byId, .empty, .empty, []⟩

/-- The result of the final state. -/
def result (final : L2State) : L2ReplayResult where
  orders := final.byId.values.map ReplayOrder.result
  fills := final.fills
  completeDepth := engine.completeDepth
  verifiedExchangeSequence := engine.verifiedExchangeSequence

/-- `run`. -/
def run (events : List L2Event) (orders : List ReplayOrderRequest)
    (cancellations : List ReplayCancelRequest) : Except PyError L2ReplayResult := do
  let byId ← engine.prepare events orders cancellations
  pure (engine.result ((timeline byId events).foldl L2State.apply (start byId)))

end L2ReplayEngine

/-! ### Replays as runs -/

/-- The loop handles an item. -/
def L2Step (before : L2State) (item : TimelineItem) (after : L2State) : Prop :=
  before.apply item = after

theorem replay_run {start final : L2State} {items : List TimelineItem} :
    Run L2Step start items final ↔ items.foldl L2State.apply start = final :=
  Run.foldl_iff

namespace L2ReplayEngine

variable {engine : L2ReplayEngine} {events : List L2Event} {orders : List ReplayOrderRequest}
  {cancellations : List ReplayCancelRequest}

/-- `run` accepts what `prepare` accepts, and replays the timeline. -/
theorem run_ok_iff {result : L2ReplayResult} :
    engine.run events orders cancellations = .ok result ↔
      ∃ byId final, engine.prepare events orders cancellations = .ok byId ∧
        Run L2Step (start byId) (timeline byId events) final ∧ result = engine.result final := by
  unfold run
  rw [bind_ok_iff]
  constructor
  · rintro ⟨byId, prepared, replayed⟩
    exact ⟨byId, _, prepared, replay_run.mpr rfl, (Except.ok.inj replayed).symm⟩
  · rintro ⟨byId, final, prepared, run, rfl⟩
    refine ⟨byId, prepared, ?_⟩
    rw [replay_run.mp run]
    rfl

/-- Registered orders wait, under their own ids. -/
def Registered (byId : Dict String ReplayOrder) : Prop :=
  ∀ orderId order, byId.get? orderId = some order →
    order.request.orderId = orderId ∧ order.status = .pending ∧ order.filledSize = 0

theorem register_registered {byId after : Dict String ReplayOrder} {request : ReplayOrderRequest}
    (registered : Registered byId) (registers : register byId request = .ok after) :
    Registered after := by
  unfold register at registers
  rw [require_bind_ok_iff] at registers
  obtain ⟨-, made⟩ := registers
  cases made
  intro orderId order found
  rcases Dict.get?_set_eq_some_iff.mp found with ⟨same, rfl⟩ | ⟨-, here⟩
  · exact ⟨same.symm, rfl, rfl⟩
  · exact registered orderId order here

theorem requestCancel_registered {byId after : Dict String ReplayOrder}
    {cancellation : ReplayCancelRequest} (registered : Registered byId)
    (requests : requestCancel byId cancellation = .ok after) : Registered after := by
  unfold requestCancel at requests
  split at requests
  · cases requests
  · rename_i order known
    rw [require_bind_ok_iff] at requests
    obtain ⟨-, made⟩ := requests
    cases made
    intro orderId other found
    rcases Dict.get?_set_eq_some_iff.mp found with ⟨same, rfl⟩ | ⟨-, here⟩
    · rw [same]
      exact registered cancellation.orderId order known
    · exact registered orderId other here

theorem prepare_registered {byId : Dict String ReplayOrder}
    (prepared : engine.prepare events orders cancellations = .ok byId) : Registered byId := by
  unfold prepare at prepared
  simp only [bind_ok_iff] at prepared
  obtain ⟨-, -, known, registers, requests⟩ := prepared
  have registered : Registered known :=
    (Run.foldlM_iff.mpr registers).invariant (P := Registered)
      (fun _ _ _ registered step => register_registered registered step) (by simp [Registered])
  exact (Run.foldlM_iff.mpr requests).invariant (P := Registered)
    (fun _ _ _ registered step => requestCancel_registered registered step) registered

end L2ReplayEngine

end Polybot
