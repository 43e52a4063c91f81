import Polybot.Control.Calls

/-!
The cancellation latch.

Ending an arm sets `cancellation_pending`, only an acknowledgement clears it, and no arm
succeeds while it is set. The exception is a disarm that names paper or shadow, which
clears the latch unseen; `ended_arm_is_acknowledged` is about the runs without one
(`CarefulStep`).
-/

namespace Polybot

open Interaction

/-! ### The property -/

/-- Between the end of an arm and the next arm a cancellation is acknowledged. -/
def ForcesAcknowledgement (step : RuntimeState → RuntimeLabel → RuntimeState → Prop)
    (start : RuntimeState) : Prop :=
  ∀ front between ending arming s t u v,
    Run step start front s → step s ending t →
    s.controlRow.armed = true → t.controlRow.armed = false →
    Run step t between u → step u arming v → arming.Armed → ∃ label ∈ between, label.Acknowledged

/-- An acknowledgement only succeeds while no order is signed, submitting or unknown. -/
def AcknowledgesResolved (step : RuntimeState → RuntimeLabel → RuntimeState → Prop)
    (start : RuntimeState) : Prop :=
  ∀ front label s t, Run step start front s → step s label t → label.Acknowledged →
    ∀ order ∈ s.orders, RuntimeState.unresolved order = false

/-- The account has no control row yet, or the one that was just inserted. -/
def RuntimeState.Fresh (state : RuntimeState) : Prop :=
  state.control = none ∨ state.control = some .fresh

/-- A disarm that names paper or shadow finds nothing armed and nothing pending. -/
def CarefulDisarm (state : RuntimeState) (label : RuntimeLabel) : Prop :=
  ∀ mode, label.granted = true → label.call = .disarm mode →
    state.controlRow.armed = true ∨ state.controlRow.cancellationPending = true → mode.RealMoney

/-- A step whose disarms keep the latch. -/
def CarefulStep (before : RuntimeState) (label : RuntimeLabel) (after : RuntimeState) : Prop :=
  RuntimeStep before label after ∧ CarefulDisarm before label

/-! ### The latch -/

/-- A cancellation is only pending in canary or live mode. -/
def RuntimeControl.Latched (control : RuntimeControl) : Prop :=
  control.cancellationPending = true → control.mode.RealMoney

section Steps

variable {state after : RuntimeState} {label : RuntimeLabel}

theorem RuntimeControl.real_of_armed {control : RuntimeControl} (armed : control.armed = true) :
    control.mode.RealMoney := by
  rcases control.armed_state with ⟨off, -⟩ | ⟨-, -, real, -⟩
  · rw [off] at armed
    cases armed
  · exact real

/-- Only the arming calls arm. -/
theorem RuntimeLabel.not_armed (label : RuntimeLabel) {call : RuntimeCall} (called : label.call = call)
    (other : ¬ call.Arms) : ¬ label.Armed := by
  intro armed
  have arms := armed.2
  rw [called] at arms
  exact other arms

theorem ControlChange.latched {control : RuntimeControl} (latched : state.controlRow.Latched)
    (change : ControlChange state label control) : control.Latched := by
  cases change with
  | kept => exact latched
  | armed mode armedUntil real clear => exact fun pending => absurd (clear.symm.trans pending) nofun
  | expired mode expectedVersion _ _ armed =>
      have real : state.controlRow.mode.RealMoney := RuntimeControl.real_of_armed armed
      exact fun _ => real
  | disarmed mode => exact fun pending => of_decide_eq_true pending
  | paused => exact fun pending => of_decide_eq_true pending
  | acknowledged => exact fun pending => absurd pending nofun

/-- A careful step that ends an arm leaves a cancellation pending. -/
theorem ControlChange.pending_of_ended {control : RuntimeControl} (careful : CarefulDisarm state label)
    (change : ControlChange state label control) (armed : state.controlRow.armed = true)
    (ended : control.armed = false) : control.cancellationPending = true := by
  have real := RuntimeControl.real_of_armed armed
  cases change with
  | kept => exact absurd (armed.symm.trans ended) nofun
  | armed => exact absurd ended nofun
  | expired => rfl
  | disarmed mode granted called =>
      exact decide_eq_true (careful mode granted called (.inl armed))
  | paused => exact decide_eq_true real
  | acknowledged stopped => exact absurd (armed.symm.trans stopped) nofun

/-- Only an acknowledgement takes a pending cancellation away. -/
theorem ControlChange.stays_pending {control : RuntimeControl} (careful : CarefulDisarm state label)
    (latched : state.controlRow.Latched) (change : ControlChange state label control)
    (pending : state.controlRow.cancellationPending = true) (unacknowledged : ¬ label.Acknowledged) :
    control.cancellationPending = true := by
  cases change with
  | kept => exact pending
  | armed mode armedUntil real clear => exact absurd (clear.symm.trans pending) nofun
  | expired => rfl
  | disarmed mode granted called =>
      exact decide_eq_true (careful mode granted called (.inr pending))
  | paused => exact decide_eq_true (latched pending)
  | acknowledged stopped acknowledged => exact absurd acknowledged unacknowledged

/-- No arm succeeds while a cancellation is pending. -/
theorem ControlChange.unlatched_of_armed {control : RuntimeControl}
    (change : ControlChange state label control) (armed : label.Armed) :
    state.controlRow.cancellationPending = false := by
  cases change with
  | kept refused => exact absurd armed refused
  | armed mode armedUntil real clear => exact clear
  | expired mode expectedVersion _ called => exact absurd armed (label.not_armed called id)
  | disarmed mode _ called => exact absurd armed (label.not_armed called id)
  | paused _ called => exact absurd armed (label.not_armed called id)
  | acknowledged stopped acknowledged =>
      obtain ⟨-, expectedVersion, called⟩ := acknowledged
      exact absurd armed (label.not_armed called id)

/-- An acknowledgement waits for the orders. -/
theorem ControlChange.resolved_of_acknowledged {control : RuntimeControl}
    (change : ControlChange state label control) (acknowledged : label.Acknowledged) :
    ∀ order ∈ state.orders, RuntimeState.unresolved order = false := by
  obtain ⟨-, expectedVersion, acknowledges⟩ := id acknowledged
  cases change with
  | kept _ refused => exact absurd acknowledged refused
  | armed mode armedUntil real clear armed =>
      exact absurd armed (label.not_armed acknowledges id)
  | expired mode expectedVersion _ called => exact absurd (called.symm.trans acknowledges) nofun
  | disarmed mode _ called => exact absurd (called.symm.trans acknowledges) nofun
  | paused _ called => exact absurd (called.symm.trans acknowledges) nofun
  | acknowledged _ _ _ resolved => exact resolved

end Steps

section Runs

variable {start state after : RuntimeState} {labels : List RuntimeLabel}

theorem RuntimeState.Fresh.latched (fresh : start.Fresh) : start.controlRow.Latched := by
  have row : start.controlRow = .fresh := by
    rcases fresh with none | inserted
    · simp [RuntimeState.controlRow, none]
    · simp [RuntimeState.controlRow, inserted]
  rw [row]
  intro pending
  cases pending

theorem latched_of_run (run : Run CarefulStep state labels after) (latched : state.controlRow.Latched) :
    after.controlRow.Latched :=
  run.invariant (P := fun state => state.controlRow.Latched)
    (fun _ _ _ latched step => step.1.control.latched latched) latched

/-- Ending an arm forces an acknowledged cancellation before the next one, in every run
whose disarms keep the latch. -/
theorem ended_arm_is_acknowledged (fresh : start.Fresh) :
    ForcesAcknowledgement CarefulStep start ∧ AcknowledgesResolved RuntimeStep start := by
  refine ⟨?_, ?_⟩
  · intro front between ending arming s t u v before ends armed ended meanwhile arms granted
    have latched := latched_of_run before fresh.latched
    have pending := ends.1.control.pending_of_ended ends.2 armed ended
    refine meanwhile.exists_label
      (P := fun state => state.controlRow.Latched ∧ state.controlRow.cancellationPending = true)
      (fun state label after here step unacknowledged => ?_)
      ⟨ends.1.control.latched latched, pending⟩ (fun still => ?_)
    · exact ⟨step.1.control.latched here.1,
        step.1.control.stays_pending step.2 here.1 here.2 unacknowledged⟩
    · exact absurd (still.2.symm.trans (arms.1.control.unlatched_of_armed granted)) nofun
  · intro front label s t _ step acknowledged
    exact step.control.resolved_of_acknowledged acknowledged

end Runs

/-! ### A disarm in paper mode -/

/-- The state after a call that is served. -/
def RuntimeState.after (state : RuntimeState) (call : RuntimeCall) (now : Instant) : RuntimeState :=
  match call.serve state now with
  | .ok (_, next) => next.at now
  | .error _ => state.at now

/-- An account without rows. -/
def freshAccount : RuntimeState :=
  ⟨0, none, none, none, []⟩

/-- Arm the account for a minute. -/
def armLive (expectedVersion : Int) : RuntimeCall :=
  .arm .live 60000000 expectedVersion

theorem freshAccount_acknowledges : ForcesAcknowledgement CarefulStep freshAccount ∧
    AcknowledgesResolved RuntimeStep freshAccount :=
  ended_arm_is_acknowledged (.inl rfl)

/-- Armed, disarmed in paper mode, and armed again without an acknowledgement. -/
theorem paper_disarm_skips_acknowledgement :
    ¬ (ForcesAcknowledgement RuntimeStep freshAccount ∧
      AcknowledgesResolved RuntimeStep freshAccount) := by
  intro forces
  let armed := freshAccount.after (armLive 1) 1
  let disarmed := armed.after (.disarm .paper) 2
  have first : Run RuntimeStep freshAccount [⟨armLive 1, 1, true⟩] armed :=
    .single (.served _ (by decide) rfl)
  have ends : RuntimeStep armed ⟨.disarm .paper, 2, true⟩ disarmed := .served _ (by decide) rfl
  have again : RuntimeStep disarmed ⟨armLive 3, 3, true⟩ (disarmed.after (armLive 3) 3) :=
    .served _ (by decide) rfl
  obtain ⟨label, member, -⟩ := forces.1 _ _ _ _ _ _ _ _ first ends (by decide) (by decide)
    (.refl disarmed) again ⟨rfl, trivial⟩
  cases member

end Polybot
