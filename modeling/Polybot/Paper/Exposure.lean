import Polybot.Collections.Grouped
import Polybot.Paper.Conservation

/-!
The exposure counters of the paper broker.

A counter is exact when it holds, for every key, the cost of the tokens with that
label. A SELL and the first BUY of a token keep it exact. A further BUY keeps it
exact only under the label that the token's cost is counted under
(`counts_buy_iff`), because the counter of the old label is not relieved.
`exact_runs_iff` says so of whole runs.
-/

namespace Polybot

open Interaction

/-- Every key of the counter holds the cost of the tokens with that label. -/
def Counts (exposure costs : Dict String ℚ) (labels : Dict String String) : Prop :=
  ∀ key, amount exposure key = costs.groupSum labels key

section Counter

variable {exposure costs : Dict String ℚ} {labels : Dict String String} {tokenId key : String}
  {cost : ℚ}

/-- Buying under a label keeps the counter exact if and only if the token has no
cost yet or had the label already. -/
theorem counts_buy_iff (counts : Counts exposure costs labels) :
    Counts (exposure.set key (amount exposure key + cost))
        (costs.set tokenId (amount costs tokenId + cost)) (labels.set tokenId key) ↔
      amount costs tokenId = 0 ∨ labels.get? tokenId = some key := by
  have others : ∀ other, other ≠ tokenId → (labels.set tokenId key).get? other = labels.get? other :=
    fun other differs => labels.get?_set_ne differs key
  have sums : ∀ other, (costs.set tokenId (amount costs tokenId + cost)).groupSum
      (labels.set tokenId key) other = amount exposure other
        - (if labels.get? tokenId = some other then amount costs tokenId else 0)
        + (if key = other then amount costs tokenId + cost else 0) := by
    intro other
    rw [Dict.groupSum_set others, labels.get?_set_self, counts other]
    simp only [Option.some.injEq]
    rfl
  unfold Counts
  simp only [sums, amount_set]
  constructor
  · intro exact_after
    by_contra moved
    rw [not_or] at moved
    have here := exact_after key
    rw [if_pos rfl, if_pos rfl, if_neg moved.2] at here
    exact moved.1 (by linarith)
  · rintro (none | same) other
    · by_cases here : other = key
      · simp [here, none]
      · simp [here, Ne.symm here, none]
    · by_cases here : other = key
      · simp [here, same]
        ring
      · simp [here, Ne.symm here, same]

/-- Selling under the token's label keeps the counter exact. -/
theorem Counts.sell (counts : Counts exposure costs labels) (nonneg : ∀ other, 0 ≤ amount costs other)
    (labelled : labels.get? tokenId = some key) {released left : ℚ}
    (within : released ≤ amount costs tokenId)
    (whole : left ≤ 0 → released = amount costs tokenId) :
    Counts (exposure.set key (max 0 (amount exposure key - released)))
      (costs.set tokenId (max 0 (amount costs tokenId - released)))
      (PaperBroker.dropLabel left labels tokenId) := by
  have counted : amount costs tokenId ≤ amount exposure key := by
    rw [counts key]
    exact Dict.le_groupSum nonneg labelled
  have others : ∀ other, other ≠ tokenId →
      (PaperBroker.dropLabel left labels tokenId).get? other = labels.get? other := by
    intro other differs
    unfold PaperBroker.dropLabel
    split
    · rw [Dict.get?_erase, if_neg differs]
    · rfl
  have kept : ∀ other, (if (PaperBroker.dropLabel left labels tokenId).get? tokenId = some other
      then amount costs tokenId - released else 0) =
        if key = other then amount costs tokenId - released else 0 := by
    intro other
    unfold PaperBroker.dropLabel
    split
    · rename_i gone
      simp [whole gone]
    · rw [labelled]
      simp
  intro other
  rw [max_eq_right (sub_nonneg.mpr within), max_eq_right (sub_nonneg.mpr (within.trans counted)),
    Dict.groupSum_set others, kept, labelled, ← counts other, amount_set]
  by_cases here : other = key
  · rw [if_pos here, if_pos (by rw [here]), if_pos here.symm, here]
    unfold amount
    ring
  · rw [if_neg here, if_neg (fun same => here (Option.some.inj same).symm), if_neg (Ne.symm here)]
    ring

end Counter

namespace PaperBroker

/-- Both counters are exact. -/
def Exact (broker : PaperBroker) : Prop :=
  Counts broker.eventExposure broker.positionCosts broker.tokenEvents ∧
    Counts broker.bucketExposure broker.positionCosts broker.tokenBuckets

/-- Every position has an event and a bucket. -/
def Labelled (broker : PaperBroker) : Prop :=
  ∀ tokenId, 0 < amount broker.positions tokenId →
    (∃ event, broker.tokenEvents.get? tokenId = some event) ∧
      ∃ bucket, broker.tokenBuckets.get? tokenId = some bucket

theorem new_exact (bankroll : ℚ) (today : Day) : (new bankroll today).Exact :=
  ⟨fun _ => rfl, fun _ => rfl⟩

theorem new_labelled (bankroll : ℚ) (today : Day) : (new bankroll today).Labelled :=
  fun _ held => absurd held (lt_irrefl _)

theorem Labelled.noteIntent {broker : PaperBroker} (labelled : broker.Labelled)
    (intentHash : String) : (broker.noteIntent intentHash).Labelled :=
  labelled

/-- A BUY labels its token. -/
theorem Labelled.buy {broker : PaperBroker} (labelled : broker.Labelled) (intent : PaperIntent)
    (filled allInCost : ℚ) : (broker.buy intent filled allInCost).Labelled := by
  intro tokenId held
  unfold PaperBroker.buy at held ⊢
  dsimp only at held ⊢
  rw [amount_set] at held
  rw [Dict.get?_set, Dict.get?_set]
  split at held
  · rename_i same
    simp [same]
  · rename_i differs
    simpa [differs] using labelled tokenId held

/-- A SELL drops the labels with the last share. -/
theorem Labelled.sell {broker : PaperBroker} (labelled : broker.Labelled) {intent : PaperIntent}
    (holds : 0 < amount broker.positions intent.tokenId) (filled allInCost : ℚ) :
    (broker.sell intent filled allInCost).Labelled := by
  intro tokenId held
  unfold PaperBroker.sell dropLabel at held ⊢
  dsimp only at held ⊢
  rw [amount_set] at held
  split at held
  · rename_i same
    rw [if_neg (not_le.mpr held), if_neg (not_le.mpr held), same]
    exact labelled intent.tokenId holds
  · rename_i differs
    split
    · simpa [Dict.get?_erase, differs] using labelled tokenId held
    · exact labelled tokenId held

theorem Exact.noteIntent {broker : PaperBroker} (exact : broker.Exact) (intentHash : String) :
    (broker.noteIntent intentHash).Exact :=
  exact

theorem Exact.sell {broker : PaperBroker} {intent : PaperIntent} {filled : ℚ} (exact : broker.Exact)
    (sound : broker.Sound) (labelled : broker.Labelled) (fills : 0 < filled)
    (covered : filled ≤ amount broker.positions intent.tokenId) (allInCost : ℚ) :
    (broker.sell intent filled allInCost).Exact := by
  obtain ⟨⟨event, events⟩, bucket, buckets⟩ := labelled intent.tokenId (fills.trans_le covered)
  obtain ⟨-, within, whole⟩ := sound.basisReleased fills covered
  have last : amount broker.positions intent.tokenId - filled ≤ 0 →
      broker.basisReleased intent filled = amount broker.positionCosts intent.tokenId :=
    fun gone => whole (le_antisymm covered (sub_nonpos.mp gone))
  unfold PaperBroker.sell
  rw [events, buckets]
  exact ⟨exact.1.sell sound.costs events within last, exact.2.sell sound.costs buckets within last⟩

end PaperBroker

/-- A BUY that fills keeps the labels under which its token's cost is counted. -/
def KeepsLabels (before : PaperBroker) (event : PaperEvent) : Prop :=
  match event with
  | ⟨.submit intent _, .executed result, _⟩ =>
      intent.side = .buy → result.status = .paperFilled →
        amount before.positionCosts intent.tokenId = 0 ∨
          before.tokenEvents.get? intent.tokenId = some intent.eventKey ∧
            before.tokenBuckets.get? intent.tokenId = some intent.bucket
  | _ => True

section Step

variable {before after : PaperBroker} {event : PaperEvent}

theorem PaperStep.labelled (step : PaperStep before event after) (labelled : before.Labelled) :
    after.Labelled := by
  cases step.stepped with
  | submitted submits =>
      cases submits with
      | duplicate seen => exact labelled
      | refused fresh message => exact labelled
      | bought => exact (labelled.noteIntent _).buy _ _ _
      | sold fresh sells fills partial_fill covered =>
          exact (labelled.noteIntent _).sell ((fills.trans_le partial_fill).trans_le covered) _ _
  | settled today => exact labelled

/-- A step from exact counters keeps them exact if and only if it keeps the labels. -/
theorem PaperStep.exact_iff (step : PaperStep before event after) (sound : before.Sound)
    (labelled : before.Labelled) (exact : before.Exact) : after.Exact ↔ KeepsLabels before event := by
  cases step.stepped with
  | submitted submits =>
      cases submits with
      | duplicate seen => exact iff_of_true exact fun _ filled => by cases filled
      | refused fresh message => exact iff_of_true exact fun _ filled => by cases filled
      | bought fresh buys fills partial_fill affordable =>
          refine (and_congr (counts_buy_iff exact.1) (counts_buy_iff exact.2)).trans ?_
          rw [← or_and_left]
          exact ⟨fun keeps _ _ => keeps, fun keeps => keeps buys rfl⟩
      | sold fresh sells fills partial_fill covered =>
          refine iff_of_true ?_ fun buys => by
            rw [sells] at buys
            cases buys
          exact (exact.noteIntent _).sell (sound.noteIntent _) (labelled.noteIntent _) fills
            (partial_fill.trans covered) _
  | settled today => exact iff_of_true exact trivial

end Step

/-- **The counters are exact** after every step of a run with funded intents if and
only if every step keeps the labels. -/
theorem exact_runs_iff {bankroll : ℚ} {today : Day} {events : List PaperEvent} {final : PaperBroker}
    (funded : ∀ event ∈ events, event.call.Funded) :
    Run (fun before event after => PaperStep before event after ∧ after.Exact)
        (PaperBroker.new bankroll today) events final ↔
      Run (fun before event after => PaperStep before event after ∧ KeepsLabels before event)
        (PaperBroker.new bankroll today) events final := by
  have start : (PaperBroker.new bankroll today).Sound ∧ (PaperBroker.new bankroll today).Labelled ∧
      (PaperBroker.new bankroll today).Exact :=
    ⟨PaperBroker.new_sound bankroll today, PaperBroker.new_labelled bankroll today,
      PaperBroker.new_exact bankroll today⟩
  constructor
  · intro run
    obtain ⟨-, keeps⟩ := (run.of_labels funded).invariant_steps
      (P := fun broker => broker.Sound ∧ broker.Labelled ∧ broker.Exact)
      (Q := fun before event _ => KeepsLabels before event)
      (fun before event after ⟨sound, labelled, exact⟩ ⟨⟨step, exact_after⟩, funded⟩ =>
        ⟨⟨(step.sound funded sound).1, step.labelled labelled, exact_after⟩,
          (step.exact_iff sound labelled exact).mp exact_after⟩) start
    exact keeps.mono fun _ _ _ step => ⟨step.1.1.1, step.2⟩
  · intro run
    obtain ⟨-, stays⟩ := (run.of_labels funded).invariant_steps
      (P := fun broker => broker.Sound ∧ broker.Labelled ∧ broker.Exact)
      (Q := fun _ _ after => after.Exact)
      (fun before event after ⟨sound, labelled, exact⟩ ⟨⟨step, keeps⟩, funded⟩ =>
        have exact_after := (step.exact_iff sound labelled exact).mpr keeps
        ⟨⟨(step.sound funded sound).1, step.labelled labelled, exact_after⟩, exact_after⟩) start
    exact stays.mono fun _ _ _ step => ⟨step.1.1.1, step.2⟩

/-- The same BUY again, under the key of an event. -/
def paperBuyAgain (eventId : String) : PaperIntent :=
  { paperBuy with intentHash := "again", eventId := some eventId }

/-- The token is bought twice. -/
def repeatedBuys (eventId : String) : List PaperCall :=
  [.submit paperBuy paperBook, .submit (paperBuyAgain eventId) paperBook]

theorem repeatedBuys_funded (eventId : String) : ∀ call ∈ repeatedBuys eventId, call.Funded := by
  simp only [repeatedBuys, List.forall_mem_cons, PaperCall.Funded, paperBuyAgain, paperBuy]
  norm_num

/-- Buying twice under one event keeps the counters exact. -/
theorem repeated_buys_are_exact :
    Run (fun before event after => PaperStep before event after ∧ after.Exact)
      (PaperBroker.new 100 0) (replayPaper (PaperBroker.new 100 0) (repeatedBuys "event")).1
      (replayPaper (PaperBroker.new 100 0) (repeatedBuys "event")).2 := by
  refine (exact_runs_iff fun event member => repeatedBuys_funded "event" event.call
    (replayPaper_calls (PaperBroker.new 100 0) (repeatedBuys "event") ▸
      List.mem_map_of_mem member)).mpr ?_
  refine .cons ⟨PaperCall.step _ _, ?_⟩ (.cons ⟨PaperCall.step _ _, ?_⟩ (.refl _))
  · intro _ _
    decide
  · intro _ _
    decide +kernel

/-- Buying again under another event leaves the cost of the first BUY with the first
event. -/
theorem moved_token_is_not_exact : ∃ events final,
    Run PaperStep (PaperBroker.new 100 0) events final ∧
      amount final.eventExposure "event" = 52 / 25 ∧
      final.positionCosts.groupSum final.tokenEvents "event" = 0 := by
  refine ⟨_, _, replayPaper_run (PaperBroker.new 100 0) (repeatedBuys "other"), ?_, ?_⟩
  · decide +kernel
  · decide +kernel

end Polybot
