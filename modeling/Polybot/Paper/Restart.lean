import Polybot.Paper.Exposure
import Polybot.Paper.State
import Polybot.Paper.Twin

/-!
Restarts of the paper broker.

`Kept` is what every reachable broker keeps, `Placed` what `from_state` builds from
the stored positions, and `Twin` the simulation between the restored broker and the
one that was exported. `survives_restart_iff` says which reachable brokers survive:
those that `from_state` accepts (`Restorable`) and whose labels and exposure counters
it derives again (`Faithful`).
-/

namespace Polybot

open Interaction Checked

/-! ### Placed books -/

/-- The keys of a counter are the labels in use. -/
def Live (exposure : Dict String ℚ) (labels : Dict String String) : Prop :=
  ∀ key, exposure.get? key ≠ none ↔ ∃ tokenId, labels.get? tokenId = some key

namespace PaperBroker

/-- The books hold the placed positions, and the counters count them. -/
structure Placed (broker : PaperBroker) (raws : List PaperPosition) : Prop where
  positions : broker.positions.Collects raws PaperPosition.tokenId fun raw => some raw.shares
  costs : broker.positionCosts.Collects raws PaperPosition.tokenId fun raw => some raw.cost
  markets : broker.tokenMarketIds.Collects raws PaperPosition.tokenId fun raw => some raw.marketId
  conditions : broker.tokenConditionIds.Collects raws PaperPosition.tokenId fun raw =>
    if truthy raw.conditionId ∧ raw.conditionId ≠ some raw.marketId then raw.conditionId else none
  events : broker.tokenEvents.Collects raws PaperPosition.tokenId fun raw =>
    some (textOr raw.eventId raw.marketId)
  buckets : broker.tokenBuckets.Collects raws PaperPosition.tokenId fun raw =>
    some (textOr raw.bucket "other")
  exact : broker.Exact
  live_events : Live broker.eventExposure broker.tokenEvents
  live_buckets : Live broker.bucketExposure broker.tokenBuckets

/-- A new label makes its key live. -/
theorem live_set {exposure : Dict String ℚ} {labels : Dict String String} {tokenId : String}
    (live : Live exposure labels) (unlabelled : labels.get? tokenId = none) (key : String) (total : ℚ) :
    Live (exposure.set key total) (labels.set tokenId key) := by
  intro other
  rw [Dict.get?_set]
  split
  · rename_i here
    exact iff_of_true (Option.some_ne_none _) ⟨tokenId, by rw [here, Dict.get?_set_self]⟩
  · rename_i differs
    rw [live other]
    constructor
    · rintro ⟨token, labelled⟩
      refine ⟨token, ?_⟩
      rw [Dict.get?_set_ne _ fun same => ?_, labelled]
      rw [same, unlabelled] at labelled
      cases labelled
    · rintro ⟨token, labelled⟩
      rw [Dict.get?_set] at labelled
      split at labelled
      · exact absurd (Option.some.inj labelled).symm differs
      · exact ⟨token, labelled⟩

variable {broker : PaperBroker} {raws : List PaperPosition} {raw : PaperPosition}

theorem Placed.place (placed : broker.Placed raws) (fresh : raw.tokenId ∉ raws.map PaperPosition.tokenId) :
    (broker.place raw).Placed (raws ++ [raw]) := by
  have unpaid : amount broker.positionCosts raw.tokenId = 0 := by
    unfold amount
    rw [placed.costs.get?_eq_none fresh]
    rfl
  have cost : broker.positionCosts.set raw.tokenId raw.cost = broker.positionCosts.set raw.tokenId
      (amount broker.positionCosts raw.tokenId + raw.cost) := by
    rw [unpaid, zero_add]
  refine
    { positions := placed.positions.set fresh rfl
      costs := placed.costs.set fresh rfl
      markets := placed.markets.set fresh rfl
      conditions := ?_
      events := placed.events.set fresh rfl
      buckets := placed.buckets.set fresh rfl
      exact := ?_
      live_events := live_set placed.live_events (placed.events.get?_eq_none fresh) _ _
      live_buckets := live_set placed.live_buckets (placed.buckets.get?_eq_none fresh) _ _ }
  · unfold PaperBroker.place
    dsimp only
    split
    · rename_i known
      refine placed.conditions.set fresh ?_
      obtain ⟨condition, here, -⟩ := truthy_iff.mp known.1
      rw [if_pos known, here]
      rfl
    · rename_i unknown
      exact placed.conditions.skip (if_neg unknown)
  · unfold PaperBroker.place Exact
    rw [cost]
    exact ⟨(counts_buy_iff placed.exact.1).mpr (.inl unpaid),
      (counts_buy_iff placed.exact.2).mpr (.inl unpaid)⟩

theorem foldl_placed (distinct : (raws.map PaperPosition.tokenId).Nodup) (start : broker.Placed []) :
    (raws.foldl PaperBroker.place broker).Placed raws := by
  induction raws using List.reverseRecOn with
  | nil => exact start
  | append_singleton before raw ih =>
      rw [List.map_append, List.nodup_append] at distinct
      rw [List.foldl_append]
      refine (ih distinct.1).place fun member => ?_
      exact distinct.2.2 _ member _ (List.mem_singleton_self _) rfl

/-! ### What every reachable broker keeps -/

/-- A token either has shares and all its labels, or nothing. -/
inductive Filed (broker : PaperBroker) (tokenId : String) : Prop where
  | held {event bucket market : String} {outcome : Outcome}
      (shares : 0 < amount broker.positions tokenId)
      (events : broker.tokenEvents.get? tokenId = some event)
      (buckets : broker.tokenBuckets.get? tokenId = some bucket)
      (markets : broker.tokenMarketIds.get? tokenId = some market)
      (outcomes : broker.tokenOutcomes.get? tokenId = some outcome.value)
      (conditions : broker.tokenConditionIds.get? tokenId ≠ some "")
      (named : market ≠ "" → event ≠ "")
      (bucketed : broker.bucketExposure.get? bucket ≠ none)
  | flat
      (shares : amount broker.positions tokenId = 0)
      (events : broker.tokenEvents.get? tokenId = none)
      (buckets : broker.tokenBuckets.get? tokenId = none)
      (markets : broker.tokenMarketIds.get? tokenId = none)
      (conditions : broker.tokenConditionIds.get? tokenId = none)

variable {intent : PaperIntent} {filled allInCost : ℚ} {tokenId : String}

theorem counted_set {exposure : Dict String ℚ} {key : String} (counted : exposure.get? key ≠ none)
    (other : String) (total : ℚ) : (exposure.set other total).get? key ≠ none := by
  rw [Dict.get?_set]
  split
  · exact Option.some_ne_none _
  · exact counted

theorem get?_dropLabel (left : ℚ) (labels : Dict String String) (tokenId other : String) :
    (dropLabel left labels tokenId).get? other =
      if left ≤ 0 ∧ other = tokenId then none else labels.get? other := by
  unfold dropLabel
  by_cases gone : left ≤ 0
  · simp [gone, Dict.get?_erase]
  · simp [gone]

/-- The labels after a BUY. -/
theorem Filed.buy (filed : broker.Filed tokenId) (sound : broker.Sound) (fills : 0 < filled) :
    (broker.buy intent filled allInCost).Filed tokenId := by
  unfold PaperBroker.buy
  by_cases here : tokenId = intent.tokenId
  · subst here
    refine .held ?_ (Dict.get?_set_self _ _ intent.eventKey) (Dict.get?_set_self _ _ intent.bucket)
      (Dict.get?_set_self _ _ intent.marketId) (Dict.get?_set_self _ _ intent.outcome.value) ?_
      (fun named => textOr_ne_empty named) ?_
    · rw [amount_set, if_pos rfl]
      exact add_pos_of_nonneg_of_pos (sound.positions _) fills
    · dsimp only
      split
      · rename_i known
        obtain ⟨condition, given, nonempty⟩ := truthy_iff.mp known
        rw [Dict.get?_set_self, given]
        simpa using nonempty
      · cases filed with
        | held shares events buckets markets outcomes conditions named bucketed =>
            exact conditions
        | flat shares events buckets markets conditions => simp [conditions]
    · rw [Dict.get?_set_self]
      exact Option.some_ne_none _
  · have conditions : (if truthy intent.conditionId then
          broker.tokenConditionIds.set intent.tokenId (intent.conditionId.getD "")
        else broker.tokenConditionIds).get? tokenId = broker.tokenConditionIds.get? tokenId := by
      split
      · exact Dict.get?_set_ne _ here _
      · rfl
    have shares : amount (broker.positions.set intent.tokenId
        (amount broker.positions intent.tokenId + filled)) tokenId =
          amount broker.positions tokenId := by
      rw [amount_set, if_neg here]
    have label (labels : Dict String String) (label : String) :
        (labels.set intent.tokenId label).get? tokenId = labels.get? tokenId :=
      Dict.get?_set_ne _ here _
    cases filed with
    | held held events buckets markets outcomes known named bucketed =>
        exact .held (held.trans_eq shares.symm) ((label _ _).trans events)
          ((label _ _).trans buckets) ((label _ _).trans markets) ((label _ _).trans outcomes)
          (conditions.trans_ne known) named (counted_set bucketed _ _)
    | flat flat events buckets markets known =>
        exact .flat (shares.trans flat) ((label _ _).trans events) ((label _ _).trans buckets)
          ((label _ _).trans markets) (conditions.trans known)

/-- The labels after a SELL. -/
theorem Filed.sell (filed : broker.Filed tokenId) (fills : 0 < filled)
    (covered : filled ≤ amount broker.positions intent.tokenId) :
    (broker.sell intent filled allInCost).Filed tokenId := by
  unfold PaperBroker.sell
  by_cases sold : amount broker.positions intent.tokenId - filled ≤ 0 ∧ tokenId = intent.tokenId
  · obtain ⟨gone, rfl⟩ := sold
    have none (labels : Dict String String) : (dropLabel
        (amount broker.positions intent.tokenId - filled) labels intent.tokenId).get?
          intent.tokenId = none := by
      rw [get?_dropLabel, if_pos ⟨gone, rfl⟩]
    refine .flat ?_ (none _) (none _) (none _) (none _)
    rw [amount_set, if_pos rfl]
    exact le_antisymm gone (sub_nonneg.mpr covered)
  · have label (labels : Dict String String) : (dropLabel
        (amount broker.positions intent.tokenId - filled) labels intent.tokenId).get? tokenId =
          labels.get? tokenId := by
      rw [get?_dropLabel, if_neg sold]
    cases filed with
    | held held events buckets markets outcomes known named bucketed =>
        refine .held ?_ ((label _).trans events) ((label _).trans buckets)
          ((label _).trans markets) ((label _).trans outcomes) ((label _).trans_ne known) named
          (counted_set bucketed _ _)
        rw [amount_set]
        split
        · rename_i here
          exact not_le.mp fun gone => sold ⟨gone, here⟩
        · exact held
    | flat flat events buckets markets known =>
        refine .flat ?_ ((label _).trans events) ((label _).trans buckets)
          ((label _).trans markets) ((label _).trans known)
        rw [amount_set, if_neg ?_]
        · exact flat
        · rintro rfl
          exact absurd flat (fills.trans_le covered).ne'

/-- Filing reads the books only. -/
theorem Filed.of_books {after : PaperBroker} (filed : broker.Filed tokenId)
    (books : after = { broker with
      seenIntents := after.seenIntents
      intentHistory := after.intentHistory
      realizedPnl := after.realizedPnl
      peakEquity := after.peakEquity
      riskDay := after.riskDay
      dayStartEquity := after.dayStartEquity }) : after.Filed tokenId := by
  rw [books]
  cases filed with
  | held held events buckets markets outcomes known named bucketed =>
      exact .held held events buckets markets outcomes known named bucketed
  | flat flat events buckets markets known => exact .flat flat events buckets markets known

/-- The history holds the last 2000 intents, once each. -/
structure Remembers (broker : PaperBroker) : Prop where
  distinct : broker.intentHistory.Nodup
  bounded : broker.intentHistory.length ≤ 2000
  seen : broker.seenIntents = broker.intentHistory.toFinset

theorem Remembers.noteIntent (remembers : broker.Remembers) {intentHash : String}
    (fresh : intentHash ∉ broker.seenIntents) : (broker.noteIntent intentHash).Remembers := by
  have absent : intentHash ∉ broker.intentHistory := by
    rwa [remembers.seen, List.mem_toFinset] at fresh
  have distinct : (broker.intentHistory ++ [intentHash]).Nodup := by
    rw [List.nodup_append]
    refine ⟨remembers.distinct, List.nodup_singleton _, ?_⟩
    rintro earlier member _ last rfl
    exact absent (List.mem_singleton.mp last ▸ member)
  have bounded := remembers.bounded
  unfold PaperBroker.noteIntent
  by_cases full : 2000 < (broker.intentHistory ++ [intentHash]).length
  · simp only [if_pos full]
    cases history : broker.intentHistory with
    | nil => simp [history] at full
    | cons oldest rest =>
        rw [history] at distinct bounded
        obtain ⟨gone, later⟩ := List.nodup_cons.mp distinct
        refine ⟨later, by simpa using bounded, ?_⟩
        ext other
        have same : other ∈ rest → other ≠ oldest := fun member here =>
          gone (here ▸ List.mem_append_left _ member)
        have last : other = intentHash → other ≠ oldest := fun isLast here =>
          gone (here ▸ isLast ▸ List.mem_append_right _ (List.mem_singleton_self _))
        simp [remembers.seen, history]
        tauto
  · simp only [if_neg full]
    refine ⟨distinct, not_lt.mp full, ?_⟩
    ext other
    simp [remembers.seen]

/-- What every broker that a funded run reaches keeps. -/
structure Kept (bankroll : ℚ) (broker : PaperBroker) : Prop where
  sound : broker.Sound
  solvent : 0 ≤ bankroll
  bankroll : broker.initialBankroll = bankroll
  cash : 0 ≤ broker.cash
  peakEquity : 0 ≤ broker.peakEquity
  dayStartEquity : 0 ≤ broker.dayStartEquity
  remembers : broker.Remembers
  filed : ∀ tokenId, broker.Filed tokenId

theorem new_kept {bankroll : ℚ} (solvent : 0 ≤ bankroll) (today : Day) :
    (new bankroll today).Kept bankroll where
  sound := new_sound bankroll today
  solvent := solvent
  bankroll := rfl
  cash := solvent
  peakEquity := solvent
  dayStartEquity := solvent
  remembers := ⟨List.nodup_nil, Nat.zero_le _, rfl⟩
  filed _ := .flat rfl rfl rfl rfl rfl

end PaperBroker

theorem PaperStep.kept {bankroll : ℚ} {before after : PaperBroker} {event : PaperEvent}
    (step : PaperStep before event after) (funded : event.call.Funded)
    (kept : before.Kept bankroll) : after.Kept bankroll := by
  have sound := (step.sound funded kept.sound).1
  have cash := step.solvent funded kept.cash
  cases step.stepped with
  | submitted submits =>
      cases submits with
      | duplicate seen => exact kept
      | refused fresh message =>
          exact ⟨sound, kept.solvent, kept.bankroll, cash, kept.peakEquity, kept.dayStartEquity,
            kept.remembers.noteIntent fresh, fun tokenId => (kept.filed tokenId).of_books rfl⟩
      | @bought fresh buys fills partial_fill affordable =>
          refine ⟨sound, kept.solvent, kept.bankroll, cash, kept.peakEquity, kept.dayStartEquity, ?_,
            fun tokenId => ((kept.filed tokenId).of_books rfl).buy (kept.sound.noteIntent _) fills⟩
          have remembers := kept.remembers.noteIntent fresh
          exact ⟨remembers.distinct, remembers.bounded, remembers.seen⟩
      | sold fresh sells fills partial_fill covered =>
          refine ⟨sound, kept.solvent, kept.bankroll, cash, kept.peakEquity, kept.dayStartEquity, ?_,
            fun tokenId => ((kept.filed tokenId).of_books rfl).sell fills (partial_fill.trans covered)⟩
          have remembers := kept.remembers.noteIntent fresh
          exact ⟨remembers.distinct, remembers.bounded, remembers.seen⟩
  | settled today =>
      have equity : 0 ≤ before.equity := by
        refine add_nonneg kept.cash (List.sum_nonneg fun cost member => ?_)
        obtain ⟨entry, here, rfl⟩ := List.mem_map.mp member
        have paid := kept.sound.costs entry.1
        unfold amount at paid
        rwa [Dict.get?_eq_some_iff.mpr here] at paid
      refine ⟨sound, kept.solvent, kept.bankroll, cash, kept.peakEquity.trans (le_max_left _ _), ?_,
        ⟨kept.remembers.distinct, kept.remembers.bounded, kept.remembers.seen⟩,
        fun tokenId => (kept.filed tokenId).of_books rfl⟩
      unfold PaperBroker.settleDay
      dsimp only
      split
      · exact equity
      · exact kept.dayStartEquity

/-! ### The restored broker -/

namespace PaperBroker

/-- The broker that is restored from its own export. -/
def again (bankroll : ℚ) (today : Day) (broker : PaperBroker) : PaperBroker :=
  restored bankroll today broker.exported

section Again

variable {bankroll : ℚ} {today : Day} {broker : PaperBroker} {tokenId : String}

theorem again_placed : (broker.again bankroll today).Placed (broker.heldEntries.map broker.position) := by
  have positions : (broker.exported.positions.filter fun raw => 0 < raw.shares) =
      broker.heldEntries.map broker.position := by
    refine List.filter_eq_self.mpr fun raw member => ?_
    obtain ⟨entry, held, rfl⟩ := List.mem_map.mp member
    exact decide_eq_true (mem_heldEntries.mp held).2
  have distinct : ((broker.heldEntries.map broker.position).map PaperPosition.tokenId).Nodup := by
    rw [List.map_map]
    exact broker.heldEntries_distinct
  have start : Placed { new bankroll today with
      cash := broker.cash
      realizedPnl := broker.realizedPnl
      peakEquity := broker.peakEquity
      dayStartEquity := broker.dayStartEquity
      riskDay := broker.riskDay } [] :=
    ⟨.empty, .empty, .empty, .empty, .empty, .empty, ⟨fun _ => rfl, fun _ => rfl⟩, by simp [Live, new],
      by simp [Live, new]⟩
  have placed := foldl_placed distinct start
  unfold again restored
  rw [positions]
  exact { placed with }

theorem heldEntries_of_held (held : 0 < amount broker.positions tokenId) :
    (tokenId, amount broker.positions tokenId) ∈ broker.heldEntries := by
  refine mem_heldEntries.mpr ⟨?_, held⟩
  unfold amount at held ⊢
  cases position : broker.positions.get? tokenId with
  | none => simp [position] at held
  | some shares => rfl

theorem held_of_heldEntries {entry : String × ℚ} (member : entry ∈ broker.heldEntries) :
    amount broker.positions entry.1 = entry.2 ∧ 0 < entry.2 := by
  obtain ⟨found, shares⟩ := mem_heldEntries.mp member
  unfold amount
  exact ⟨by rw [found]; rfl, shares⟩

/-- What a collected value of the export is at a token. -/
theorem get?_collected {ν : Type} {dict : Dict String ν} {value : PaperPosition → Option ν}
    (collects : dict.Collects (broker.heldEntries.map broker.position) PaperPosition.tokenId value)
    (tokenId : String) : dict.get? tokenId =
      if 0 < amount broker.positions tokenId then
        value (broker.position (tokenId, amount broker.positions tokenId))
      else none := by
  have tokens : (broker.heldEntries.map broker.position).map PaperPosition.tokenId =
      broker.heldEntries.map Prod.fst := List.map_map
  split
  · rename_i held
    exact collects.get?_eq (tokens ▸ broker.heldEntries_distinct)
      (List.mem_map_of_mem (heldEntries_of_held held))
  · rename_i flat
    refine collects.get?_eq_none fun member => flat ?_
    rw [tokens] at member
    obtain ⟨entry, held, rfl⟩ := List.mem_map.mp member
    obtain ⟨same, shares⟩ := held_of_heldEntries held
    rwa [same]

variable (kept : broker.Kept bankroll)

include kept

theorem exported_seenIntents : broker.exported.seenIntents = broker.intentHistory := by
  unfold exported
  rw [Nat.sub_eq_zero_of_le kept.remembers.bounded, List.drop_zero]

theorem again_costs (tokenId : String) :
    amount (broker.again bankroll today).positionCosts tokenId = amount broker.positionCosts tokenId := by
  unfold amount
  rw [get?_collected again_placed.costs tokenId]
  split
  · rfl
  · rename_i flat
    have none := le_antisymm (not_lt.mp flat) (kept.sound.positions tokenId)
    exact (kept.sound.flat tokenId none).symm

theorem again_markets : (broker.again bankroll today).tokenMarketIds.Same broker.tokenMarketIds := by
  intro tokenId
  rw [get?_collected again_placed.markets tokenId]
  cases kept.filed tokenId with
  | held shares events buckets markets outcomes conditions named bucketed =>
      rw [if_pos shares]
      simp [position, markets]
  | flat flat events buckets markets conditions =>
      rw [if_neg flat.not_gt, markets]

theorem again_events (named : ∀ tokenId, broker.tokenMarketIds.get? tokenId ≠ some "") :
    (broker.again bankroll today).tokenEvents.Same broker.tokenEvents := by
  intro tokenId
  rw [get?_collected again_placed.events tokenId]
  cases kept.filed tokenId with
  | @held event bucket market outcome shares events buckets markets outcomes conditions nonempty =>
      have event_nonempty : event ≠ "" := nonempty fun empty => named tokenId (empty ▸ markets)
      rw [if_pos shares]
      simp [position, events, textOr, truthy, event_nonempty]
  | flat flat events buckets markets conditions =>
      rw [if_neg flat.not_gt, events]

theorem again_buckets (tokenId : String) :
    (broker.again bankroll today).tokenBuckets.get? tokenId =
      (broker.tokenBuckets.get? tokenId).map fun bucket => textOr (some bucket) "other" := by
  rw [get?_collected again_placed.buckets tokenId]
  cases kept.filed tokenId with
  | held shares events buckets markets outcomes conditions named bucketed =>
      rw [if_pos shares]
      simp [position, buckets]
  | flat flat events buckets markets conditions =>
      rw [if_neg flat.not_gt, buckets]
      rfl

theorem again_buckets_same (nonempty : ∀ tokenId, broker.tokenBuckets.get? tokenId ≠ some "") :
    (broker.again bankroll today).tokenBuckets.Same broker.tokenBuckets := by
  intro tokenId
  rw [again_buckets kept]
  cases bucket : broker.tokenBuckets.get? tokenId with
  | none => rfl
  | some text =>
      have nonempty : text ≠ "" := fun empty => nonempty tokenId (empty ▸ bucket)
      simp [textOr, truthy, nonempty]

theorem again_conditions (tokenId : String) :
    (broker.again bankroll today).tokenConditionIds.get? tokenId =
      (broker.tokenConditionIds.get? tokenId).filter fun condition =>
        broker.tokenMarketIds.get? tokenId ≠ some condition := by
  rw [get?_collected again_placed.conditions tokenId]
  cases kept.filed tokenId with
  | @held event bucket market outcome shares events buckets markets outcomes conditions =>
      rw [if_pos shares]
      cases condition : broker.tokenConditionIds.get? tokenId with
      | none => simp [position, condition, truthy]
      | some text =>
          have nonempty : text ≠ "" := fun empty => conditions (empty ▸ condition)
          by_cases same : text = market
          · simp [position, condition, markets, truthy, same, Option.filter_some]
          · simp [position, condition, markets, truthy, nonempty, same, Ne.symm same,
              Option.filter_some]
  | flat flat events buckets markets conditions =>
      rw [if_neg flat.not_gt, conditions]
      rfl

/-- The restored counters count the same groups. -/
theorem again_counts {exposure exposure' : Dict String ℚ} {labels labels' : Dict String String}
    (exact : Counts exposure (broker.again bankroll today).positionCosts labels)
    (exact' : Counts exposure' broker.positionCosts labels') (same : labels.Same labels')
    (key : String) : amount exposure key = amount exposure' key := by
  rw [exact key, exact' key]
  exact Dict.groupSum_congr (again_costs kept) (fun tokenId _ => same tokenId) key

end Again

/-! ### Conditions -/

/-- `from_state` accepts the export. -/
structure Restorable (broker : PaperBroker) : Prop where
  peak : broker.equity ≤ broker.peakEquity
  few : (broker.positions.entries.filter fun entry => 0 < entry.2).length ≤ 500
  tokens : amount broker.positions "" = 0
  markets : ∀ tokenId, broker.tokenMarketIds.get? tokenId ≠ some ""
  intents : "" ∉ broker.intentHistory

/-- `from_state` derives the same labels and counters again. -/
structure Faithful (broker : PaperBroker) : Prop where
  positions : ∀ tokenId, broker.positions.get? tokenId ≠ some 0
  conditions : ∀ tokenId condition, broker.tokenConditionIds.get? tokenId = some condition →
    broker.tokenMarketIds.get? tokenId ≠ some condition
  buckets : ∀ tokenId, broker.tokenBuckets.get? tokenId ≠ some ""
  exact : broker.Exact
  live_events : Live broker.eventExposure broker.tokenEvents
  live_buckets : Live broker.bucketExposure broker.tokenBuckets

section Conditions

variable {bankroll : ℚ} {today : Day} {broker : PaperBroker}

/-- The stored positions pass their checks. -/
theorem stored_accepted_iff (kept : broker.Kept bankroll) :
    (∀ raw ∈ broker.exported.positions, raw.Accepted) ↔
      amount broker.positions "" = 0 ∧ ∀ tokenId, broker.tokenMarketIds.get? tokenId ≠ some "" := by
  constructor
  · intro accepted
    have stored {tokenId : String} (held : 0 < amount broker.positions tokenId) :=
      accepted _ (List.mem_map_of_mem (heldEntries_of_held held))
    refine ⟨?_, fun tokenId unnamed => ?_⟩
    · by_contra held
      exact (stored (lt_of_le_of_ne (kept.sound.positions "") (Ne.symm held))).tokenId rfl
    · cases kept.filed tokenId with
      | held shares events buckets markets outcomes conditions named bucketed =>
          refine (stored shares).marketId ?_
          simp [position, unnamed]
      | flat flat events buckets markets conditions =>
          rw [markets] at unnamed
          cases unnamed
  · rintro ⟨token, named⟩ raw member
    obtain ⟨entry, held, rfl⟩ := List.mem_map.mp member
    obtain ⟨same, shares⟩ := held_of_heldEntries held
    cases kept.filed entry.1 with
    | @held event bucket market outcome _ events buckets markets outcomes conditions =>
        refine ⟨fun empty => ?_, ?_, ?_, shares.le, kept.sound.costs entry.1⟩
        · change entry.1 = "" at empty
          rw [empty, token] at same
          exact shares.ne same
        · have nonempty : market ≠ "" := fun empty => named entry.1 (empty ▸ markets)
          simpa [position, markets] using nonempty
        · cases outcome <;> simp [position, outcomes, Outcome.value]
    | flat flat events buckets markets conditions =>
        rw [flat] at same
        exact absurd same shares.ne

theorem accepts_iff (kept : broker.Kept bankroll) :
    Accepts bankroll today broker.exported ↔ broker.Restorable := by
  have whole := exported_seenIntents kept
  have count : broker.exported.positions.length =
      (broker.positions.entries.filter fun entry => 0 < entry.2).length := by
    unfold exported
    rw [List.length_map, heldEntries_length]
  have equity : (restored bankroll today broker.exported).equity = broker.equity := by
    have cash : (restored bankroll today broker.exported).cash = broker.cash :=
      (restored_marked bankroll today broker.exported).cash
    have gross : (restored bankroll today broker.exported).gross = broker.gross :=
      gross_congr (again_costs kept)
    unfold PaperBroker.equity
    rw [cash, gross]
  constructor
  · intro accepts
    obtain ⟨tokens, markets⟩ := (stored_accepted_iff kept).mp accepts.positions
    refine ⟨?_, count ▸ accepts.few_positions, tokens, markets, whole ▸ accepts.intents⟩
    rw [← equity]
    exact accepts.peak
  · intro restorable
    refine ⟨rfl, kept.solvent.trans_eq kept.bankroll.symm, kept.bankroll, kept.cash,
      kept.peakEquity, kept.dayStartEquity, count ▸ restorable.few, 
      (stored_accepted_iff kept).mpr ⟨restorable.tokens, restorable.markets⟩, ?_, ?_, ?_⟩
    · rw [whole]
      exact kept.remembers.bounded
    · rw [whole]
      exact restorable.intents
    · rw [equity]
      exact restorable.peak

/-- Counters with the same amounts under the same keys. -/
theorem same_of_amounts {exposure exposure' : Dict String ℚ}
    (amounts : ∀ key, amount exposure key = amount exposure' key)
    (keys : ∀ key, exposure.get? key ≠ none ↔ exposure'.get? key ≠ none) : exposure.Same exposure' := by
  intro key
  have amounts := amounts key
  have keys := keys key
  unfold amount at amounts
  cases here : exposure.get? key with
  | none =>
      rw [here] at keys
      exact (not_not.mp fun there => keys.mpr there rfl).symm
  | some total =>
      rw [here] at keys amounts
      obtain ⟨total', there⟩ := Option.ne_none_iff_exists'.mp (keys.mp (Option.some_ne_none _))
      rw [there] at amounts ⊢
      exact congrArg some amounts

theorem live_congr {exposure exposure' : Dict String ℚ} {labels labels' : Dict String String}
    (live : Live exposure labels) (live' : Live exposure' labels') (same : labels.Same labels')
    (key : String) : exposure.get? key ≠ none ↔ exposure'.get? key ≠ none := by
  rw [live key, live' key]
  exact exists_congr fun tokenId => by rw [same tokenId]

theorem again_twin (kept : broker.Kept bankroll) (restorable : broker.Restorable)
    (faithful : broker.Faithful) : (broker.again bankroll today).Twin broker := by
  have marks := restored_marked bankroll today broker.exported
  have placed : (broker.again bankroll today).Placed (broker.heldEntries.map broker.position) :=
    again_placed
  have events : (broker.again bankroll today).tokenEvents.Same broker.tokenEvents :=
    again_events kept restorable.markets
  have buckets : (broker.again bankroll today).tokenBuckets.Same broker.tokenBuckets :=
    again_buckets_same kept faithful.buckets
  refine
    { initialBankroll := marks.initialBankroll.trans kept.bankroll.symm
      cash := marks.cash
      realizedPnl := marks.realizedPnl
      peakEquity := marks.peakEquity
      riskDay := marks.riskDay
      dayStartEquity := marks.dayStartEquity
      seenIntents := marks.seenIntents.trans (by
        rw [exported_seenIntents kept, kept.remembers.seen])
      intentHistory := marks.intentHistory.trans (by
        rw [exported_seenIntents kept, eraseDups_of_nodup kept.remembers.distinct])
      positions := fun tokenId => ?_
      costs := again_costs kept
      eventExposure := same_of_amounts (again_counts kept placed.exact.1 faithful.exact.1 events)
        (live_congr placed.live_events faithful.live_events events)
      bucketExposure := same_of_amounts (again_counts kept placed.exact.2 faithful.exact.2 buckets)
        (live_congr placed.live_buckets faithful.live_buckets buckets)
      tokenEvents := events
      tokenBuckets := buckets
      tokenConditionIds := fun tokenId => ?_
      tokenMarketIds := again_markets kept }
  · rw [get?_collected placed.positions]
    have whole := faithful.positions tokenId
    have nonneg := kept.sound.positions tokenId
    unfold amount at nonneg ⊢
    cases position : broker.positions.get? tokenId with
    | none => simp
    | some shares =>
        rw [position] at nonneg whole
        have held : 0 < shares := lt_of_le_of_ne nonneg fun none => whole (none ▸ rfl)
        simp [held, PaperBroker.position]
  · rw [again_conditions kept]
    cases condition : broker.tokenConditionIds.get? tokenId with
    | none => rfl
    | some text => simp [faithful.conditions tokenId text condition, Option.filter_some]

/-- A restored broker that shows the same was derived from the same labels and
counters. -/
theorem faithful_of_same (kept : broker.Kept bankroll) (restorable : broker.Restorable)
    (positions : (broker.again bankroll today).positions.Same broker.positions)
    (conditions : (broker.again bankroll today).tokenConditionIds.Same broker.tokenConditionIds)
    (eventExposure : (broker.again bankroll today).eventExposure.Same broker.eventExposure)
    (bucketExposure : (broker.again bankroll today).bucketExposure.Same broker.bucketExposure) :
    broker.Faithful := by
  have placed : (broker.again bankroll today).Placed (broker.heldEntries.map broker.position) :=
    again_placed
  have events : (broker.again bankroll today).tokenEvents.Same broker.tokenEvents :=
    again_events kept restorable.markets
  have nonempty : ∀ tokenId, broker.tokenBuckets.get? tokenId ≠ some "" := by
    intro tokenId bucket
    cases kept.filed tokenId with
    | held shares events buckets markets outcomes conditions named bucketed =>
        rw [bucket] at buckets
        cases buckets
        rw [← bucketExposure ""] at bucketed
        obtain ⟨token, labelled⟩ := (placed.live_buckets "").mp bucketed
        rw [again_buckets kept] at labelled
        obtain ⟨text, -, label⟩ := Option.map_eq_some_iff.mp labelled
        exact textOr_ne_empty (by decide) label
    | flat flat events buckets markets conditions =>
        rw [bucket] at buckets
        cases buckets
  have buckets : (broker.again bankroll today).tokenBuckets.Same broker.tokenBuckets :=
    again_buckets_same kept nonempty
  refine ⟨fun tokenId sold => ?_, fun tokenId condition labelled same_market => ?_, nonempty,
    ⟨fun key => ?_, fun key => ?_⟩, fun key => ?_, fun key => ?_⟩
  · have flat : ¬ 0 < amount broker.positions tokenId := by
      unfold amount
      rw [sold]
      exact lt_irrefl 0
    have shown := positions tokenId
    rw [get?_collected placed.positions, if_neg flat, sold] at shown
    cases shown
  · have shown := conditions tokenId
    rw [again_conditions kept, labelled, same_market] at shown
    simp [Option.filter_some] at shown
  · rw [← amount_same eventExposure]
    exact (placed.exact.1 key).trans
      (Dict.groupSum_congr (again_costs kept) (fun tokenId _ => events tokenId) key)
  · rw [← amount_same bucketExposure]
    exact (placed.exact.2 key).trans
      (Dict.groupSum_congr (again_costs kept) (fun tokenId _ => buckets tokenId) key)
  · rw [← eventExposure key]
    exact (placed.live_events key).trans (exists_congr fun tokenId => by rw [events tokenId])
  · rw [← bucketExposure key]
    exact (placed.live_buckets key).trans (exists_congr fun tokenId => by rw [buckets tokenId])

end Conditions

/-! ### Restarts -/

/-- The export is accepted, and the restored broker answers like the original. -/
def SurvivesRestart (bankroll : ℚ) (today : Day) (broker : PaperBroker) : Prop :=
  ∃ state after, broker.exportState = .ok state ∧ fromState bankroll today (some state) = .ok after ∧
    AnswersAlike PaperCall.apply PaperAnswer.Same after broker

end PaperBroker

theorem PaperBroker.survivesRestart_iff {bankroll : ℚ} {broker : PaperBroker} (today : Day)
    (kept : broker.Kept bankroll) :
    broker.SurvivesRestart bankroll today ↔ broker.Restorable ∧ broker.Faithful := by
  have exports : broker.exportState = .ok broker.exported := by
    refine exportState_eq fun tokenId held => ?_
    cases kept.filed tokenId with
    | held shares events buckets markets outcomes conditions named bucketed =>
        rw [markets, outcomes]
        exact ⟨Option.some_ne_none _, Option.some_ne_none _⟩
    | flat flat events buckets markets conditions => exact absurd flat held.ne'
  constructor
  · rintro ⟨state, after, exported, restores, alike⟩
    cases exports.symm.trans exported
    obtain ⟨accepts, rfl⟩ := fromState_ok_iff.mp restores
    have restorable := (accepts_iff kept).mp accepts
    have shown : PaperAnswer.Same
        (.portfolio ((broker.again bankroll today).settleDay broker.riskDay).portfolio)
        (.portfolio (broker.settleDay broker.riskDay).portfolio) :=
      alike.first (.portfolioState broker.riskDay)
    cases shown with
    | portfolio same =>
        exact ⟨restorable, PaperBroker.faithful_of_same kept restorable same.tokenPositions
          same.tokenConditionIds same.eventExposureUsd same.bucketExposureUsd⟩
  · rintro ⟨restorable, faithful⟩
    exact ⟨broker.exported, broker.again bankroll today, exports,
      fromState_ok_iff.mpr ⟨(accepts_iff kept).mpr restorable, rfl⟩,
      (again_twin kept restorable faithful).answersAlike⟩

/-- **Restarts.** A broker that a funded run reaches survives a restart, with every
answer as before, if and only if `from_state` accepts its export and derives the
same labels and counters again. -/
theorem survives_restart_iff {bankroll : ℚ} (solvent : 0 ≤ bankroll) {started : Day}
    {events : List PaperEvent} {final : PaperBroker}
    (run : Run PaperStep (PaperBroker.new bankroll started) events final)
    (funded : ∀ event ∈ events, event.call.Funded) (today : Day) :
    final.SurvivesRestart bankroll today ↔ final.Restorable ∧ final.Faithful :=
  final.survivesRestart_iff today ((run.of_labels funded).invariant
    (fun _ _ _ kept step => step.1.kept step.2 kept) (PaperBroker.new_kept solvent started))

/-- The account after one partial BUY. -/
def boughtBroker : PaperBroker :=
  (replayPaper (PaperBroker.new 100 0) [.submit paperBuy paperBook]).2

/-- A BUY survives a restart. -/
theorem bought_survives_restart : boughtBroker.SurvivesRestart 100 1 := by
  have funded : ∀ event ∈ (replayPaper (PaperBroker.new 100 0) [.submit paperBuy paperBook]).1,
      event.call.Funded := fun event member => paperCalls_funded event.call (by
    have called := List.mem_map_of_mem (f := PaperEvent.call) member
    rw [replayPaper_calls] at called
    exact List.mem_of_mem_take (i := 1) called)
  have positions : boughtBroker.positions = Dict.empty.set "yes" 4 := by decide +kernel
  have costs : boughtBroker.positionCosts = Dict.empty.set "yes" (0 + 52 / 25) := by decide +kernel
  have events : boughtBroker.eventExposure = Dict.empty.set "event" (0 + 52 / 25) ∧
      boughtBroker.tokenEvents = Dict.empty.set "yes" "event" := by decide +kernel
  have buckets : boughtBroker.bucketExposure = Dict.empty.set "politics" (0 + 52 / 25) ∧
      boughtBroker.tokenBuckets = Dict.empty.set "yes" "politics" := by decide +kernel
  have markets : boughtBroker.tokenMarketIds = Dict.empty.set "yes" "market" := by decide +kernel
  have conditions : boughtBroker.tokenConditionIds = Dict.empty.set "yes" "condition" := by
    decide +kernel
  have live : Live Dict.empty Dict.empty := by simp [Live]
  refine (survives_restart_iff (by norm_num) (replayPaper_run _ _) funded 1).mpr
    ⟨⟨by decide +kernel, by decide +kernel, by decide +kernel, fun tokenId => ?_, by decide +kernel⟩,
      ⟨fun tokenId => ?_, fun tokenId condition labelled => ?_, fun tokenId => ?_, ⟨?_, ?_⟩, ?_, ?_⟩⟩
  · change boughtBroker.tokenMarketIds.get? tokenId ≠ some ""
    rw [markets, Dict.get?_set]
    split <;> simp
  · change boughtBroker.positions.get? tokenId ≠ some 0
    rw [positions, Dict.get?_set]
    split <;> simp
  · change boughtBroker.tokenConditionIds.get? tokenId = some condition at labelled
    change boughtBroker.tokenMarketIds.get? tokenId ≠ some condition
    rw [conditions, Dict.get?_set] at labelled
    rw [markets, Dict.get?_set]
    split at labelled
    · rename_i here
      cases labelled
      simp [here]
    · cases labelled
  · change boughtBroker.tokenBuckets.get? tokenId ≠ some ""
    rw [buckets.2, Dict.get?_set]
    split <;> simp
  · change Counts boughtBroker.eventExposure boughtBroker.positionCosts boughtBroker.tokenEvents
    rw [costs, events.1, events.2]
    exact (counts_buy_iff fun _ => rfl).mpr (.inl rfl)
  · change Counts boughtBroker.bucketExposure boughtBroker.positionCosts boughtBroker.tokenBuckets
    rw [costs, buckets.1, buckets.2]
    exact (counts_buy_iff fun _ => rfl).mpr (.inl rfl)
  · change Live boughtBroker.eventExposure boughtBroker.tokenEvents
    rw [events.1, events.2]
    exact PaperBroker.live_set live rfl _ _
  · change Live boughtBroker.bucketExposure boughtBroker.tokenBuckets
    rw [buckets.1, buckets.2]
    exact PaperBroker.live_set live rfl _ _

/-- A SELL above cost raises the equity over the stored peak, and the next process
cannot restore the account. -/
theorem profitable_sell_blocks_restart : ∃ events final state,
    Run PaperStep (PaperBroker.new 100 0) events final ∧
      (∀ event ∈ events, event.call.Funded) ∧
      final.exportState = .ok state ∧
      PaperBroker.fromState 100 1 (some state) =
        .error (.valueError "paper peak equity is below current equity") := by
  refine ⟨_, _, (replayPaper (PaperBroker.new 100 0) paperCalls).2.exported,
    replayPaper_run (PaperBroker.new 100 0) paperCalls, fun event member => ?_, ?_, ?_⟩
  · exact paperCalls_funded event.call
      (replayPaper_calls (PaperBroker.new 100 0) paperCalls ▸ List.mem_map_of_mem member)
  · decide +kernel
  · rw [← map_error_iff (f := fun _ => ())]
    decide +kernel

end Polybot
