import Mathlib.Algebra.BigOperators.Group.Multiset.Basic
import Mathlib.Tactic.Ring
import Polybot.Paper.Broker

/-!
Conservation of the paper account.

The books are `Sound`: nothing is negative, and a flat position has no cost left.
Cash and cost together move by the realized result only (`PaperStep.equity`), and
shares by what the results report (`PaperStep.shares`). The run results are sums
over the events.
-/

namespace Polybot

open Interaction

/-! ### Changes of one key -/

theorem gross_set (costs : Dict String ℚ) (tokenId : String) (cost : ℚ) :
    (costs.set tokenId cost).sum (fun _ cost => cost) =
      costs.sum (fun _ cost => cost) + (cost - amount costs tokenId) := by
  have weight : ((costs.get? tokenId).map fun cost => cost).getD 0 = amount costs tokenId := by
    rw [Option.map_id']
    rfl
  rw [Dict.sum_set, weight, add_sub_assoc]

/-- Positions and costs are not negative, and there is no cost without a position. -/
structure PaperBroker.Sound (broker : PaperBroker) : Prop where
  positions : ∀ tokenId, 0 ≤ amount broker.positions tokenId
  costs : ∀ tokenId, 0 ≤ amount broker.positionCosts tokenId
  flat : ∀ tokenId, amount broker.positions tokenId = 0 → amount broker.positionCosts tokenId = 0

namespace PaperBroker

variable {broker : PaperBroker} {intent : PaperIntent} {filled allInCost : ℚ}

theorem new_sound (bankroll : ℚ) (today : Day) : (new bankroll today).Sound where
  positions _ := le_rfl
  costs _ := le_rfl
  flat _ _ := rfl

theorem Sound.noteIntent (sound : broker.Sound) (intentHash : String) :
    (broker.noteIntent intentHash).Sound :=
  ⟨sound.positions, sound.costs, sound.flat⟩

theorem Sound.settleDay (sound : broker.Sound) (today : Day) : (broker.settleDay today).Sound :=
  ⟨sound.positions, sound.costs, sound.flat⟩

theorem Sound.buy (sound : broker.Sound) (fills : 0 < filled) (paid : 0 ≤ allInCost) :
    (broker.buy intent filled allInCost).Sound where
  positions tokenId := by
    unfold PaperBroker.buy
    rw [amount_set]
    split
    · exact add_nonneg (sound.positions _) fills.le
    · exact sound.positions tokenId
  costs tokenId := by
    unfold PaperBroker.buy
    rw [amount_set]
    split
    · exact add_nonneg (sound.costs _) paid
    · exact sound.costs tokenId
  flat tokenId := by
    unfold PaperBroker.buy
    rw [amount_set, amount_set]
    split
    · intro none
      exact absurd none (add_pos_of_nonneg_of_pos (sound.positions _) fills).ne'
    · exact sound.flat tokenId

/-- A SELL releases a part of the cost, and all of it with the last share. -/
theorem Sound.basisReleased (sound : broker.Sound) (fills : 0 < filled)
    (covered : filled ≤ amount broker.positions intent.tokenId) :
    0 ≤ broker.basisReleased intent filled ∧
      broker.basisReleased intent filled ≤ amount broker.positionCosts intent.tokenId ∧
      (filled = amount broker.positions intent.tokenId →
        broker.basisReleased intent filled = amount broker.positionCosts intent.tokenId) := by
  have held : 0 < amount broker.positions intent.tokenId := fills.trans_le covered
  have basis := sound.costs intent.tokenId
  unfold PaperBroker.basisReleased
  refine ⟨div_nonneg (mul_nonneg basis fills.le) held.le, ?_, fun whole => ?_⟩
  · rw [div_le_iff₀ held]
    exact mul_le_mul_of_nonneg_left covered basis
  · rw [whole, mul_div_cancel_right₀ _ held.ne']

theorem Sound.sell (sound : broker.Sound) (fills : 0 < filled)
    (covered : filled ≤ amount broker.positions intent.tokenId) :
    (broker.sell intent filled allInCost).Sound where
  positions tokenId := by
    unfold PaperBroker.sell
    rw [amount_set]
    split
    · exact sub_nonneg.mpr covered
    · exact sound.positions tokenId
  costs tokenId := by
    unfold PaperBroker.sell
    rw [amount_set]
    split
    · exact le_max_left _ _
    · exact sound.costs tokenId
  flat tokenId := by
    unfold PaperBroker.sell
    rw [amount_set, amount_set]
    split
    · intro none
      obtain ⟨-, -, whole⟩ := sound.basisReleased fills covered
      rw [whole (sub_eq_zero.mp none).symm, sub_self, max_self]
    · exact sound.flat tokenId

theorem buy_equity (broker : PaperBroker) (intent : PaperIntent) (filled allInCost : ℚ) :
    (broker.buy intent filled allInCost).equity = broker.equity := by
  unfold equity gross buy
  rw [gross_set]
  ring

theorem Sound.sell_equity (sound : broker.Sound) (fills : 0 < filled)
    (covered : filled ≤ amount broker.positions intent.tokenId) :
    (broker.sell intent filled allInCost).equity =
      broker.equity + ((broker.sell intent filled allInCost).realizedPnl - broker.realizedPnl) := by
  obtain ⟨-, within, -⟩ := sound.basisReleased fills covered
  unfold equity gross PaperBroker.sell
  dsimp only
  rw [gross_set, max_eq_right (sub_nonneg.mpr within)]
  ring

end PaperBroker

/-! ### Events -/

/-- The notional of a submitted intent is not negative. -/
def PaperCall.Funded : PaperCall → Prop
  | submit intent _ => 0 ≤ intent.notionalUsd
  | portfolioState _ => True

namespace PaperEvent

/-- The shares that a result reports for a side and a token. -/
def shares (side : Side) (tokenId : String) (event : PaperEvent) : ℚ :=
  match event with
  | ⟨.submit intent _, .executed result, _⟩ =>
      if intent.side = side ∧ intent.tokenId = tokenId then result.filledSize else 0
  | _ => 0

/-- A refusal. -/
def Refused (event : PaperEvent) : Prop :=
  match event.answer with
  | .executed result => result.status = .rejected ∨ result.status = .duplicate
  | .portfolio _ => False

end PaperEvent

section Step

variable {before after : PaperBroker} {event : PaperEvent}

/-- A refusal changes the intent history only. -/
theorem PaperStep.refused (step : PaperStep before event after) (refused : event.Refused) :
    after = { before with
      seenIntents := after.seenIntents
      intentHistory := after.intentHistory } := by
  cases step.stepped with
  | submitted submits =>
      cases submits with
      | duplicate seen => rfl
      | refused fresh message => rfl
      | bought => exact absurd refused (by simp [PaperEvent.Refused, PaperBroker.filledResult])
      | sold => exact absurd refused (by simp [PaperEvent.Refused, PaperBroker.filledResult])
  | settled today => exact refused.elim

/-- The all-in cost of a partial fill is not negative. -/
theorem allInCost_nonneg {notional filled size : ℚ} (funded : 0 ≤ notional) (fills : 0 < filled)
    (partial_fill : filled ≤ size) : 0 ≤ notional * (filled / size) :=
  mul_nonneg funded (div_nonneg fills.le (fills.le.trans partial_fill))

/-- A step does not overdraw the account. -/
theorem PaperStep.solvent (step : PaperStep before event after) (funded : event.call.Funded)
    (solvent : 0 ≤ before.cash) : 0 ≤ after.cash := by
  cases step.stepped with
  | submitted submits =>
      cases submits with
      | duplicate seen => exact solvent
      | refused fresh message => exact solvent
      | bought fresh buys fills partial_fill affordable => exact sub_nonneg.mpr affordable
      | sold fresh sells fills partial_fill covered =>
          exact add_nonneg solvent (allInCost_nonneg funded fills partial_fill)
  | settled today => exact solvent

/-- What a step keeps, and what it does to the equity. -/
theorem PaperStep.sound (step : PaperStep before event after) (funded : event.call.Funded)
    (sound : before.Sound) : after.Sound ∧ after.equity = before.equity + event.booked := by
  cases step.stepped with
  | submitted submits =>
      cases submits with
      | duplicate seen => exact ⟨sound, by simp⟩
      | refused fresh message =>
          refine ⟨sound.noteIntent _, ?_⟩
          change before.equity = before.equity + (before.realizedPnl - before.realizedPnl)
          rw [sub_self, add_zero]
      | bought fresh buys fills partial_fill affordable =>
          refine ⟨(sound.noteIntent _).buy fills (allInCost_nonneg funded fills partial_fill), ?_⟩
          rw [PaperBroker.buy_equity]
          change before.equity = before.equity + (before.realizedPnl - before.realizedPnl)
          rw [sub_self, add_zero]
      | sold fresh sells fills partial_fill covered =>
          exact ⟨(sound.noteIntent _).sell fills (partial_fill.trans covered),
            (sound.noteIntent _).sell_equity fills (partial_fill.trans covered)⟩
  | settled today => exact ⟨sound.settleDay today, (add_zero _).symm⟩

/-- The positions move by the reported shares. -/
theorem PaperStep.shares (step : PaperStep before event after) (tokenId : String) :
    amount after.positions tokenId = amount before.positions tokenId +
      (event.shares .buy tokenId - event.shares .sell tokenId) := by
  cases step.stepped with
  | @submitted intent book after result submits =>
      cases submits with
      | duplicate seen => simp [PaperEvent.shares, PaperBroker.refusal]
      | refused fresh message =>
          simp [PaperEvent.shares, PaperBroker.refusal, PaperBroker.noteIntent]
      | bought fresh buys fills partial_fill affordable =>
          unfold PaperBroker.buy
          rw [amount_set]
          by_cases same : tokenId = intent.tokenId
          · simp [PaperEvent.shares, buys, same, PaperBroker.filledResult, PaperBroker.noteIntent]
          · simp [PaperEvent.shares, buys, same, Ne.symm same, PaperBroker.noteIntent]
      | sold fresh sells fills partial_fill covered =>
          unfold PaperBroker.sell
          rw [amount_set]
          by_cases same : tokenId = intent.tokenId
          · simp [PaperEvent.shares, sells, same, PaperBroker.filledResult, PaperBroker.noteIntent,
              sub_eq_add_neg]
          · simp [PaperEvent.shares, sells, same, Ne.symm same, PaperBroker.noteIntent]
  | settled today => simp [PaperEvent.shares, PaperBroker.settleDay]

end Step

/-! ### Runs -/

/-- **The account is conserved** in every state that calls with funded intents
reach: nothing is negative, cash and cost are the bankroll and the realized
results, the shares are the reported ones, and a refusal changes the intent
history only. -/
theorem paper_account_conserves {bankroll : ℚ} (solvent : 0 ≤ bankroll) {today : Day}
    {events : List PaperEvent} {final : PaperBroker}
    (run : Run PaperStep (PaperBroker.new bankroll today) events final)
    (funded : ∀ event ∈ events, event.call.Funded) :
    0 ≤ final.cash ∧ final.Sound ∧
      final.cash + final.gross = bankroll + (events.map PaperEvent.booked).sum ∧
      (∀ tokenId, amount final.positions tokenId =
        (events.map (PaperEvent.shares .buy tokenId)).sum -
          (events.map (PaperEvent.shares .sell tokenId)).sum) ∧
      Run (fun before event after => PaperStep before event after ∧
          (event.Refused → after = { before with
            seenIntents := after.seenIntents
            intentHistory := after.intentHistory }))
        (PaperBroker.new bankroll today) events final := by
  have good := run.of_labels funded
  have start := PaperBroker.new_sound bankroll today
  refine ⟨?_, ?_, ?_, fun tokenId => ?_, ?_⟩
  · exact good.invariant (P := fun broker => 0 ≤ broker.cash)
      (fun _ _ _ solvent step => step.1.solvent step.2 solvent) solvent
  · exact good.invariant (fun _ _ _ sound step => (step.1.sound step.2 sound).1) start
  · have equity : final.equity = (PaperBroker.new bankroll today).equity +
        (events.map PaperEvent.booked).sum :=
      good.accumulate (fun _ _ _ sound step => step.1.sound step.2 sound) start
    rw [show (PaperBroker.new bankroll today).equity = bankroll from add_zero bankroll] at equity
    exact equity
  · have moved : amount final.positions tokenId =
        amount (PaperBroker.new bankroll today).positions tokenId + (events.map fun event =>
          event.shares .buy tokenId - event.shares .sell tokenId).sum :=
      run.accumulate (P := fun _ => True) (fun _ _ _ _ step => ⟨trivial, step.shares tokenId⟩) trivial
    rw [moved]
    have none : amount (PaperBroker.new bankroll today).positions tokenId = 0 := rfl
    rw [none, zero_add]
    exact Multiset.sum_map_sub (m := (events : Multiset PaperEvent))
  · exact run.mono fun _ _ _ step => ⟨step, step.refused⟩

/-- A BUY of 10 shares at one half for 5 dollars and a fee of 1/5, of which the book
has 4. -/
def paperBuy : PaperIntent where
  intentHash := "buy"
  accountId := "account"
  mode := .paper
  marketId := "market"
  tokenId := "yes"
  outcome := .yes
  side := .buy
  price := 1 / 2
  size := 10
  strategy := "ai_value_v1"
  postOnly := false
  conditionId := some "condition"
  eventId := some "event"
  bucket := "politics"
  notionalUsd := 26 / 5

/-- A SELL of 2 shares for 7/5 dollars. -/
def paperSell : PaperIntent :=
  { paperBuy with intentHash := "sell", side := .sell, price := 3 / 5, size := 2, notionalUsd := 7 / 5 }

/-- 4 shares asked at one half, 100 bid at 7/10. -/
def paperBook : OrderBookSnapshot :=
  ⟨"yes", "market", [⟨7 / 10, 100⟩], [⟨1 / 2, 4⟩]⟩

/-- A partial BUY, a duplicate, a new day and a partial SELL. -/
def paperCalls : List PaperCall :=
  [.submit paperBuy paperBook, .submit paperBuy paperBook, .portfolioState 1,
    .submit paperSell paperBook]

theorem paperCalls_funded : ∀ call ∈ paperCalls, call.Funded := by
  simp only [paperCalls, List.forall_mem_cons, PaperCall.Funded, paperSell, paperBuy]
  norm_num

theorem paperCalls_conserve :
    let replay := replayPaper (PaperBroker.new 100 0) paperCalls
    (replay.2.cash, replay.2.gross, (replay.1.map PaperEvent.booked).sum) =
        (100 - 52 / 25 + 7 / 5, 26 / 25, 7 / 5 - 26 / 25) ∧
      replay.2.cash + replay.2.gross = 100 + (replay.1.map PaperEvent.booked).sum := by
  have conserved := paper_account_conserves (by norm_num)
    (replayPaper_run (PaperBroker.new 100 0) paperCalls)
    fun event member => paperCalls_funded event.call
      (replayPaper_calls (PaperBroker.new 100 0) paperCalls ▸ List.mem_map_of_mem member)
  exact ⟨by decide +kernel, conserved.2.2.1⟩

end Polybot
