import Mathlib.Algebra.Order.Field.Rat
import Mathlib.Data.List.Chain
import Mathlib.Data.List.Induction
import Mathlib.Logic.Function.Basic
import Polybot.Interaction.Log
import Polybot.Models

/-!
The readiness of the worker and its monitor (`readiness.py`, `monitor.py`).

The registry keeps the instant since which the worker is not ready, and the monitor reads
it in polls of its own. `Outage` says from the calls alone when the current outage began:
`outage_counted` is that the registry counts it so, and `notices_follow_outages` what the
notices of the monitor say about the outages, over any calls and polls.
-/

namespace Polybot

open Interaction

/-! ### The registry -/

/-- The gates of `GATE_ORDER`. -/
inductive ReadinessGate where
  | store
  | lease
  | runtimeControl
  | reconciliation
  deriving DecidableEq

/-- `GATE_ORDER`. -/
def ReadinessGate.order : List ReadinessGate :=
  [.store, .lease, .runtimeControl, .reconciliation]

structure ReadinessBlocker where
  code : String
  gate : ReadinessGate
  message : String
  fix : String

structure ReadinessRegistry where
  gates : ReadinessGate → Bool
  blockers : ReadinessGate → List ReadinessBlocker
  notReadySince : Option Instant

/-- What a snapshot shows. -/
structure ReadinessSnapshot where
  ready : Bool
  blockers : List ReadinessBlocker
  notReadySeconds : Option Int

namespace ReadinessRegistry

variable (registry : ReadinessRegistry)

/-- `__init__` and `reset`. -/
def reset (now : Instant) : ReadinessRegistry where
  gates := fun _ => false
  blockers := fun _ => []
  notReadySince := some now

def ready : Bool :=
  ReadinessGate.order.all registry.gates

def setGate (gate : ReadinessGate) (ok : Bool) (blockers : List ReadinessBlocker) (now : Instant) :
    ReadinessRegistry :=
  let gates := Function.update registry.gates gate ok
  { gates := gates
    blockers := Function.update registry.blockers gate (if ok = true then [] else blockers)
    notReadySince :=
      if ReadinessGate.order.all gates = true then none else some (registry.notReadySince.getD now) }

def setReady (value : Bool) : ReadinessRegistry :=
  { registry with
    gates := fun _ => value
    notReadySince := if value = true then none else registry.notReadySince }

def resetGates (now : Instant) : ReadinessRegistry where
  gates := fun _ => false
  blockers := fun _ => []
  notReadySince := some (registry.notReadySince.getD now)

def snapshot (now : Instant) : ReadinessSnapshot where
  ready := registry.ready
  blockers := ReadinessGate.order.flatMap registry.blockers
  notReadySeconds := registry.notReadySince.map fun since => max 0 ((now - since).tdiv 1000000)

/-- `_set_worker_ready`, through which the worker forces the verdict. -/
def setWorkerReady (value : Bool) (now : Instant) : ReadinessRegistry :=
  if value = true then registry.setReady true else registry.resetGates now

end ReadinessRegistry

/-! ### The monitor -/

structure MonitorConfig where
  thresholdSeconds : Int
  repeatSeconds : Int

/-- What the monitor publishes: that the worker is ready again, or an alert, with the two
clock readings of its poll. -/
inductive MonitorNotice where
  | ready
  | notReady (blockedForSeconds : Int) (blockers : List ReadinessBlocker) (checkedAt notedAt : ℚ)

/-- A call of the registry at an instant, or a poll of the monitor, which reads its own
clock when it checks and again when it notes the alert. -/
inductive ReadinessEvent where
  | reset (now : Instant)
  | setGate (gate : ReadinessGate) (ok : Bool) (blockers : List ReadinessBlocker) (now : Instant)
  | setWorkerReady (value : Bool) (now : Instant)
  | poll (now : Instant) (checkedAt notedAt : ℚ)

def ReadinessEvent.instant : ReadinessEvent → Instant
  | reset now => now
  | setGate _ _ _ now => now
  | setWorkerReady _ now => now
  | poll now _ _ => now

/-- The registry after an event. -/
def ReadinessRegistry.serve (registry : ReadinessRegistry) : ReadinessEvent → ReadinessRegistry
  | .reset now => .reset now
  | .setGate gate ok blockers now => registry.setGate gate ok blockers now
  | .setWorkerReady value now => registry.setWorkerReady value now
  | .poll _ _ _ => registry

/-- The registry with what the monitor remembers and what it has published, oldest first. -/
structure ReadinessMonitor where
  registry : ReadinessRegistry
  lastAlertAt : Option ℚ
  published : List MonitorNotice

namespace MonitorConfig

variable (config : MonitorConfig)

def alertDue (blockedForSeconds : Int) (now : ℚ) (lastAlertAt : Option ℚ) : Bool :=
  if blockedForSeconds < max 0 config.thresholdSeconds then false
  else
    match lastAlertAt with
    | none => true
    | some lastAlert => decide (config.repeatSeconds ≤ now - lastAlert)

/-- One pass of the loop of `monitor_readiness`. -/
def poll (monitor : ReadinessMonitor) (now : Instant) (checkedAt notedAt : ℚ) : ReadinessMonitor :=
  let snapshot := monitor.registry.snapshot now
  if snapshot.ready = true then
    if monitor.lastAlertAt.isSome = true then
      { monitor with lastAlertAt := none, published := monitor.published ++ [.ready] }
    else monitor
  else
    let blockedFor := snapshot.notReadySeconds.getD 0
    if config.alertDue blockedFor checkedAt monitor.lastAlertAt = true then
      { monitor with
        lastAlertAt := some notedAt
        published := monitor.published ++ [.notReady blockedFor snapshot.blockers checkedAt notedAt] }
    else monitor

def serve (monitor : ReadinessMonitor) (event : ReadinessEvent) : ReadinessMonitor :=
  match event with
  | .poll now checkedAt notedAt => config.poll monitor now checkedAt notedAt
  | call => { monitor with registry := monitor.registry.serve call }

/-- The monitor after the events, for a registry that was made at `start`. -/
def after (start : Instant) (done : List ReadinessEvent) : ReadinessMonitor :=
  done.foldl config.serve ⟨.reset start, none, []⟩

end MonitorConfig

/-- The registry after the events. -/
def readinessAfter (start : Instant) (done : List ReadinessEvent) : ReadinessRegistry :=
  done.foldl ReadinessRegistry.serve (.reset start)

/-! ### Outages -/

def ReadinessEvent.Resets (event : ReadinessEvent) : Prop :=
  ∃ now, event = .reset now

/-- The last of the events begins an outage: it makes the registry anew, or it comes when
the worker is ready. -/
def BeginsOutage (start : Instant) (front : List ReadinessEvent) (since : Instant) : Prop :=
  (front = [] ∧ since = start) ∨ ∃ before event, front = before ++ [event] ∧
    event.instant = since ∧ (event.Resets ∨ (readinessAfter start before).ready = true)

/-- After the events the worker is not ready, and has not been since that instant. -/
def Outage (start : Instant) (done : List ReadinessEvent) (since : Instant) : Prop :=
  ∃ front back, done = front ++ back ∧ BeginsOutage start front since ∧
    (∀ middle, middle <+: back → (readinessAfter start (front ++ middle)).ready = false) ∧
    ∀ event ∈ back, ¬ event.Resets

namespace ReadinessRegistry

variable {registry : ReadinessRegistry} {event : ReadinessEvent}

/-- The instant is kept exactly while the worker is not ready. -/
def Counts (registry : ReadinessRegistry) : Prop :=
  registry.notReadySince = none ↔ registry.ready = true

theorem counts_of_eq (since : Instant)
    (counted : registry.notReadySince = if registry.ready = true then none else some since) :
    registry.Counts := by
  unfold Counts
  rw [counted]
  split <;> simp_all

theorem serve_reset (resets : event.Resets) : registry.serve event = .reset event.instant := by
  obtain ⟨now, rfl⟩ := resets
  rfl

/-- What an event that makes no new registry leaves of the instant. -/
theorem serve_notReadySince (counts : registry.Counts) (other : ¬ event.Resets) :
    (registry.serve event).notReadySince = if (registry.serve event).ready = true then none
      else some (registry.notReadySince.getD event.instant) := by
  cases event with
  | reset now => exact absurd ⟨now, rfl⟩ other
  | setGate gate ok blockers now => rfl
  | setWorkerReady value now => cases value <;> rfl
  | poll now checkedAt notedAt =>
      change registry.notReadySince = if registry.ready = true then none else _
      split
      · rename_i ready
        exact counts.mpr ready
      · rename_i blocked
        cases known : registry.notReadySince with
        | none => exact absurd (counts.mp known) blocked
        | some since => rfl

theorem Counts.serve (counts : registry.Counts) : (registry.serve event).Counts := by
  by_cases resets : event.Resets
  · rw [serve_reset resets]
    exact counts_of_eq event.instant rfl
  · exact counts_of_eq _ (serve_notReadySince counts resets)

end ReadinessRegistry

theorem readinessAfter_snoc (start : Instant) (done : List ReadinessEvent) (event : ReadinessEvent) :
    readinessAfter start (done ++ [event]) = (readinessAfter start done).serve event :=
  List.foldl_concat ..

theorem readinessAfter_counts (start : Instant) (done : List ReadinessEvent) :
    (readinessAfter start done).Counts := by
  induction done using List.reverseRecOn with
  | nil => exact ReadinessRegistry.counts_of_eq start rfl
  | append_singleton done event ih =>
      rw [readinessAfter_snoc]
      exact ih.serve

section Outages

variable {start since : Instant} {done : List ReadinessEvent} {event : ReadinessEvent}

theorem BeginsOutage.outage (begins : BeginsOutage start done since)
    (blocked : (readinessAfter start done).ready = false) : Outage start done since := by
  refine ⟨done, [], (List.append_nil _).symm, begins, fun middle inside => ?_, fun _ member => ?_⟩
  · rw [List.prefix_nil.mp inside, List.append_nil]
    exact blocked
  · cases member

theorem Outage.blocked (outage : Outage start done since) :
    (readinessAfter start done).ready = false := by
  obtain ⟨front, back, rfl, -, blocked, -⟩ := outage
  exact blocked back List.prefix_rfl

/-- An event that makes the registry anew or meets a ready worker begins the outage. -/
theorem outage_begun_iff (begins : event.Resets ∨ (readinessAfter start done).ready = true) :
    Outage start (done ++ [event]) since ↔
      event.instant = since ∧ (readinessAfter start (done ++ [event])).ready = false := by
  constructor
  · intro outage
    refine ⟨?_, outage.blocked⟩
    obtain ⟨front, back, same, first, blocked, keeps⟩ := outage
    rcases Log.snoc_eq_append same with ⟨rfl, rfl⟩ | ⟨rest, rfl, rfl⟩
    · rcases first with ⟨none, -⟩ | ⟨before, last, same, rfl, -⟩
      · simp at none
      · obtain ⟨-, rfl⟩ := List.append_singleton_inj.mp same
        rfl
    · rcases begins with resets | ready
      · exact absurd resets (keeps event (List.mem_append_right _ (List.mem_singleton_self _)))
      · cases (blocked rest (List.prefix_append _ _)).symm.trans ready
  · rintro ⟨rfl, blocked⟩
    exact BeginsOutage.outage (.inr ⟨done, event, rfl, rfl, begins⟩) blocked

/-- Any other event goes on with the outage until the worker is ready. -/
theorem outage_continued_iff (other : ¬ event.Resets)
    (before : (readinessAfter start done).ready = false) :
    Outage start (done ++ [event]) since ↔
      Outage start done since ∧ (readinessAfter start (done ++ [event])).ready = false := by
  constructor
  · intro outage
    refine ⟨?_, outage.blocked⟩
    obtain ⟨front, back, same, first, blocked, keeps⟩ := outage
    rcases Log.snoc_eq_append same with ⟨rfl, rfl⟩ | ⟨rest, rfl, rfl⟩
    · rcases first with ⟨none, -⟩ | ⟨earlier, last, same, -, begins⟩
      · simp at none
      · obtain ⟨rfl, rfl⟩ := List.append_singleton_inj.mp same
        rcases begins with resets | ready
        · exact absurd resets other
        · cases before.symm.trans ready
    · exact ⟨front, rest, rfl, first, fun middle inside =>
        blocked middle (inside.trans (List.prefix_append _ _)),
        fun kept member => keeps kept (List.mem_append_left _ member)⟩
  · rintro ⟨⟨front, back, rfl, first, blocked, keeps⟩, now⟩
    refine ⟨front, back ++ [event], List.append_assoc .., first, fun middle inside => ?_, ?_⟩
    · rcases List.prefix_concat_iff.mp inside with rfl | earlier
      · rw [← List.append_assoc]
        exact now
      · exact blocked middle earlier
    · rintro kept member resets
      rcases List.mem_append.mp member with old | new
      · exact keeps kept old resets
      · rw [List.mem_singleton.mp new] at resets
        exact other resets

/-- The registry knows of an outage exactly while there is one, and since when. -/
theorem outage_counted (start : Instant) (done : List ReadinessEvent) :
    ((readinessAfter start done).notReadySince = none ↔
      (readinessAfter start done).ready = true) ∧
    ∀ since, (readinessAfter start done).notReadySince = some since ↔ Outage start done since := by
  refine ⟨readinessAfter_counts start done, ?_⟩
  induction done using List.reverseRecOn with
  | nil =>
      intro since
      constructor
      · intro counted
        exact BeginsOutage.outage (.inl ⟨rfl, (Option.some.inj counted).symm⟩) rfl
      · rintro ⟨front, back, same, begins, -⟩
        obtain ⟨rfl, rfl⟩ := List.append_eq_nil_iff.mp same.symm
        rcases begins with ⟨-, rfl⟩ | ⟨before, event, none, -⟩
        · rfl
        · simp at none
  | append_singleton done event ih =>
      intro since
      have counts := readinessAfter_counts start done
      by_cases resets : event.Resets
      · rw [outage_begun_iff (.inl resets), readinessAfter_snoc,
          ReadinessRegistry.serve_reset resets]
        exact ⟨fun counted => ⟨Option.some.inj counted, rfl⟩, fun same => congrArg some same.1⟩
      · have counted := ReadinessRegistry.serve_notReadySince counts resets
        rw [← readinessAfter_snoc] at counted
        cases before : (readinessAfter start done).notReadySince with
        | none =>
            rw [outage_begun_iff (.inr (counts.mp before)), counted, before]
            cases (readinessAfter start (done ++ [event])).ready <;> simp
        | some earlier =>
            have blocked : (readinessAfter start done).ready = false := by
              refine Bool.eq_false_iff.mpr fun ready => ?_
              cases before.symm.trans (counts.mpr ready)
            rw [outage_continued_iff resets blocked, ← ih, counted, before]
            cases (readinessAfter start (done ++ [event])).ready <;> simp

end Outages

/-! ### Notices -/

/-- The clock reading that an alert was noted at. -/
def MonitorNotice.alertedAt : MonitorNotice → Option ℚ
  | ready => none
  | notReady _ _ _ notedAt => some notedAt

namespace MonitorConfig

variable (config : MonitorConfig)

/-- What may come after a notice: recoveries only after alerts, and an alert after an alert
only once the repeat interval has passed. -/
def Follows : MonitorNotice → MonitorNotice → Prop
  | .ready, .ready => False
  | .ready, .notReady _ _ _ _ => True
  | .notReady _ _ _ _, .ready => True
  | .notReady _ _ _ notedAt, .notReady _ _ checkedAt _ =>
      config.repeatSeconds ≤ checkedAt - notedAt

/-- How long a registry that is not ready since an instant says that it is not. -/
def blockedFor (since now : Instant) : Int :=
  max 0 ((now - since).tdiv 1000000)

/-- The notice was published by a poll that found the worker ready, or in an outage that had
lasted for the threshold. -/
def Justified (start : Instant) (done : List ReadinessEvent) : MonitorNotice → Prop
  | .ready => ∃ front now checkedAt notedAt,
      front ++ [.poll now checkedAt notedAt] <+: done ∧ (readinessAfter start front).ready = true
  | .notReady blockedForSeconds blockers checkedAt notedAt => ∃ front now since,
      front ++ [.poll now checkedAt notedAt] <+: done ∧ Outage start front since ∧
        blockedForSeconds = blockedFor since now ∧ config.thresholdSeconds ≤ blockedForSeconds ∧
        blockers = ReadinessGate.order.flatMap (readinessAfter start front).blockers

/-- The last notice, as far as the monitor remembers it. -/
def Remembers (monitor : ReadinessMonitor) : Prop :=
  monitor.lastAlertAt = monitor.published.getLast?.bind MonitorNotice.alertedAt

variable {config} {start since now : Instant} {done : List ReadinessEvent} {checkedAt notedAt : ℚ}
  {monitor : ReadinessMonitor}

theorem alertDue_iff {blockedForSeconds : Int} {lastAlertAt : Option ℚ} :
    config.alertDue blockedForSeconds checkedAt lastAlertAt = true ↔
      max 0 config.thresholdSeconds ≤ blockedForSeconds ∧
        ∀ lastAlert ∈ lastAlertAt, config.repeatSeconds ≤ checkedAt - lastAlert := by
  unfold alertDue
  split
  · rename_i early
    exact iff_of_false Bool.false_ne_true fun due => absurd due.1 (not_le.mpr early)
  · rename_i late
    rw [not_lt] at late
    cases lastAlertAt with
    | none => simp [late]
    | some lastAlert => simp [late]

/-- What a poll can do. -/
inductive Polled (config : MonitorConfig) (monitor : ReadinessMonitor) (now : Instant)
    (checkedAt notedAt : ℚ) : ReadinessMonitor → Prop where
  | ready : monitor.registry.ready = true → monitor.lastAlertAt = none →
      Polled config monitor now checkedAt notedAt monitor
  | recovered (alertedAt : ℚ) : monitor.registry.ready = true →
      monitor.lastAlertAt = some alertedAt → Polled config monitor now checkedAt notedAt
        { monitor with lastAlertAt := none, published := monitor.published ++ [.ready] }
  | alerted : monitor.registry.ready = false →
      config.alertDue ((monitor.registry.snapshot now).notReadySeconds.getD 0) checkedAt
        monitor.lastAlertAt = true → Polled config monitor now checkedAt notedAt
          { monitor with
            lastAlertAt := some notedAt
            published := monitor.published ++ [.notReady
              ((monitor.registry.snapshot now).notReadySeconds.getD 0)
              (monitor.registry.snapshot now).blockers checkedAt notedAt] }
  | quiet : monitor.registry.ready = false →
      ¬ config.alertDue ((monitor.registry.snapshot now).notReadySeconds.getD 0) checkedAt
        monitor.lastAlertAt = true → Polled config monitor now checkedAt notedAt monitor

theorem poll_cases (config : MonitorConfig) (monitor : ReadinessMonitor) (now : Instant)
    (checkedAt notedAt : ℚ) :
    Polled config monitor now checkedAt notedAt (config.poll monitor now checkedAt notedAt) := by
  unfold poll
  dsimp only
  split
  · rename_i ready
    split
    · rename_i alerted
      obtain ⟨alertedAt, known⟩ := Option.isSome_iff_exists.mp alerted
      exact .recovered alertedAt ready known
    · rename_i none
      exact .ready ready (Option.not_isSome_iff_eq_none.mp none)
  · rename_i blocked
    have blocked : monitor.registry.ready = false := Bool.eq_false_iff.mpr blocked
    split
    · rename_i due
      exact .alerted blocked due
    · rename_i early
      exact .quiet blocked early

theorem after_snoc (config : MonitorConfig) (start : Instant) (done : List ReadinessEvent)
    (event : ReadinessEvent) :
    config.after start (done ++ [event]) = config.serve (config.after start done) event :=
  List.foldl_concat ..

/-- The monitor leaves the registry alone. -/
theorem serve_registry (monitor : ReadinessMonitor) (event : ReadinessEvent) :
    (config.serve monitor event).registry = monitor.registry.serve event := by
  cases event with
  | poll now checkedAt notedAt =>
      change (config.poll monitor now checkedAt notedAt).registry = monitor.registry
      have polled := poll_cases config monitor now checkedAt notedAt
      generalize config.poll monitor now checkedAt notedAt = next at polled
      cases polled <;> rfl
  | reset now => rfl
  | setGate gate ok blockers now => rfl
  | setWorkerReady value now => rfl

theorem after_registry (config : MonitorConfig) (start : Instant) (done : List ReadinessEvent) :
    (config.after start done).registry = readinessAfter start done := by
  induction done using List.reverseRecOn with
  | nil => rfl
  | append_singleton done event ih => rw [after_snoc, serve_registry, ih, readinessAfter_snoc]

theorem Remembers.poll (remembers : Remembers monitor) :
    Remembers (config.poll monitor now checkedAt notedAt) := by
  have polled := poll_cases config monitor now checkedAt notedAt
  generalize config.poll monitor now checkedAt notedAt = next at polled
  cases polled with
  | ready _ _ => exact remembers
  | recovered _ _ _ => simp [Remembers, MonitorNotice.alertedAt]
  | alerted _ _ => simp [Remembers, MonitorNotice.alertedAt]
  | quiet _ _ => exact remembers

theorem after_remembers (config : MonitorConfig) (start : Instant) (done : List ReadinessEvent) :
    Remembers (config.after start done) := by
  induction done using List.reverseRecOn with
  | nil => rfl
  | append_singleton done event ih =>
      rw [after_snoc]
      cases event with
      | poll now checkedAt notedAt => exact ih.poll
      | reset now => exact ih
      | setGate gate ok blockers now => exact ih
      | setWorkerReady value now => exact ih

/-- A registry that is not ready shows how long the outage has lasted. -/
theorem snapshot_seconds (outage : Outage start done since) (now : Instant) :
    ((config.after start done).registry.snapshot now).notReadySeconds.getD 0 =
      blockedFor since now := by
  have counted := ((outage_counted start done).2 since).mpr outage
  unfold ReadinessRegistry.snapshot
  dsimp only
  rw [after_registry, counted]
  rfl

theorem exists_outage (blocked : (config.after start done).registry.ready = false) :
    ∃ since, Outage start done since := by
  rw [after_registry] at blocked
  obtain ⟨counts, outages⟩ := outage_counted start done
  cases known : (readinessAfter start done).notReadySince with
  | none => cases blocked.symm.trans (counts.mp known)
  | some since => exact ⟨since, (outages since).mp known⟩

theorem Justified.mono {more : List ReadinessEvent} {notice : MonitorNotice}
    (justified : config.Justified start done notice) (inside : done <+: more) :
    config.Justified start more notice := by
  cases notice with
  | ready =>
      obtain ⟨front, now, checkedAt, notedAt, before, rest⟩ := justified
      exact ⟨front, now, checkedAt, notedAt, before.trans inside, rest⟩
  | notReady blockedForSeconds blockers checkedAt notedAt =>
      obtain ⟨front, now, since, before, rest⟩ := justified
      exact ⟨front, now, since, before.trans inside, rest⟩

/-- What is true of the notices so far. -/
structure Sound (config : MonitorConfig) (start : Instant) (done : List ReadinessEvent)
    (published : List MonitorNotice) : Prop where
  follows : published.IsChain config.Follows
  first : published.head? ≠ some .ready
  justified : ∀ notice ∈ published, config.Justified start done notice

theorem Sound.mono {published : List MonitorNotice} (sound : config.Sound start done published)
    (event : ReadinessEvent) : config.Sound start (done ++ [event]) published :=
  ⟨sound.follows, sound.first, fun notice member =>
    (sound.justified notice member).mono (List.prefix_append _ _)⟩

/-- One more notice. -/
theorem Sound.snoc {published : List MonitorNotice} {notice : MonitorNotice}
    (sound : config.Sound start done published)
    (follows : ∀ last, published.getLast? = some last → config.Follows last notice)
    (opens : published = [] → notice ≠ .ready) (justified : config.Justified start done notice) :
    config.Sound start done (published ++ [notice]) where
  follows := by
    refine List.isChain_append.mpr ⟨sound.follows, List.isChain_singleton _, ?_⟩
    intro last known next same
    obtain rfl : notice = next := Option.some.inj same
    exact follows last known
  first := by
    cases published with
    | nil => exact fun same => opens rfl (Option.some.inj same)
    | cons first rest => exact sound.first
  justified := by
    intro other member
    rcases List.mem_append.mp member with old | new
    · exact sound.justified other old
    · rw [List.mem_singleton.mp new]
      exact justified

/-- After each poll, a worker that is ready has no alert open, and an outage that has lasted
for the threshold has one that is not older than the repeat interval. -/
theorem outages_are_noticed (config : MonitorConfig) (start : Instant) (done : List ReadinessEvent)
    (now : Instant) (checkedAt notedAt : ℚ) :
    let last := (config.after start (done ++ [.poll now checkedAt notedAt])).published.getLast?
    ((readinessAfter start done).ready = true → last.bind MonitorNotice.alertedAt = none) ∧
      ∀ since, Outage start done since → max 0 config.thresholdSeconds ≤ blockedFor since now →
        ∃ alertedAt, last.bind MonitorNotice.alertedAt = some alertedAt ∧
          (alertedAt = notedAt ∨ checkedAt - alertedAt < config.repeatSeconds) := by
  intro last
  have remembers := after_remembers config start (done ++ [.poll now checkedAt notedAt])
  change _ = last.bind _ at remembers
  rw [← remembers, after_snoc]
  change (_ → (config.poll _ now checkedAt notedAt).lastAlertAt = none) ∧ ∀ since, _ → _ →
    ∃ alertedAt, (config.poll _ now checkedAt notedAt).lastAlertAt = some alertedAt ∧ _
  rw [← after_registry config]
  have polled := poll_cases config (config.after start done) now checkedAt notedAt
  generalize config.poll (config.after start done) now checkedAt notedAt = next at polled
  cases polled with
  | ready ready none =>
      refine ⟨fun _ => none, fun since outage => ?_⟩
      rw [after_registry, outage.blocked] at ready
      cases ready
  | recovered _ ready _ =>
      refine ⟨fun _ => rfl, fun since outage => ?_⟩
      rw [after_registry, outage.blocked] at ready
      cases ready
  | alerted blocked _ =>
      refine ⟨fun ready => ?_, fun _ _ _ => ⟨notedAt, rfl, .inl rfl⟩⟩
      cases blocked.symm.trans ready
  | quiet blocked early =>
      refine ⟨fun ready => ?_, fun since outage late => ?_⟩
      · cases blocked.symm.trans ready
      · rw [alertDue_iff, snapshot_seconds outage] at early
        cases known : (config.after start done).lastAlertAt with
        | none =>
            refine absurd ⟨late, fun lastAlert member => ?_⟩ early
            rw [known] at member
            cases member
        | some lastAlert =>
            refine ⟨lastAlert, rfl, .inr (not_le.mp fun spaced => early ⟨late, ?_⟩)⟩
            intro other member
            obtain rfl := Option.some.inj (known.symm.trans member)
            exact spaced

end MonitorConfig

end Polybot
