import Mathlib.Logic.Function.Basic
import Polybot.Interaction.Transition
import Polybot.Interaction.Program

/-!
Pools of concurrent programs over one shared state.

A step serves the next request of one worker; the others keep their programs, so
a run is an interleaving at the requests. `Pool.run_lawful` lifts what each
program's requests satisfy to the runs of a pool. `replay` executes a schedule of
workers, and `replay_run` makes its result a run.
-/

namespace Interaction

variable {Request : Type} {Response : Request → Type} {Failure α S ι : Type}

/-- The shared state, and what each worker still has to do and has seen. -/
structure Pool (Request : Type) (Response : Request → Type) (Failure α S ι : Type) where
  shared : S
  program : ι → Program Request Response Failure α
  log : ι → List (Event Request Response Failure)

namespace Pool

variable [DecidableEq ι]

/-- A pool whose workers have not started. -/
def start (shared : S) (program : ι → Program Request Response Failure α) :
    Pool Request Response Failure α S ι :=
  ⟨shared, program, fun _ => []⟩

/-- The pool after worker `i` saw `event` and continues with `rest`. -/
def after (pool : Pool Request Response Failure α S ι) (i : ι)
    (event : Event Request Response Failure) (rest : Program Request Response Failure α) (shared : S) :
    Pool Request Response Failure α S ι where
  shared := shared
  program := Function.update pool.program i rest
  log := Function.update pool.log i (pool.log i ++ [event])

/-- Worker `label.1` is served the event `label.2`. -/
def Step (Serve : S → Event Request Response Failure → S → Prop)
    (pool : Pool Request Response Failure α S ι) (label : ι × Event Request Response Failure)
    (next : Pool Request Response Failure α S ι) : Prop :=
  ∃ resume shared, pool.program label.1 = .call label.2.request resume ∧
    Serve pool.shared label.2 shared ∧
    next = pool.after label.1 label.2 (resume label.2.answer) shared

variable {Serve : S → Event Request Response Failure → S → Prop}
  {pool final : Pool Request Response Failure α S ι}
  {labels : List (ι × Event Request Response Failure)}

/-- A step serves its event. -/
theorem Step.serves {label : ι × Event Request Response Failure} (step : Step Serve pool label final) :
    Serve pool.shared label.2 final.shared := by
  obtain ⟨resume, shared, -, served, rfl⟩ := step
  exact served

/-! ### Lawful requests -/

/-- In a run of lawful programs every served request is lawful. -/
theorem run_lawful {Possible : Event Request Response Failure → Prop} {Lawful : Request → Prop}
    (possible : ∀ s event t, Serve s event t → Possible event)
    (uses : ∀ i, (pool.program i).Uses Possible Lawful fun _ => True)
    (run : Run (Step Serve) pool labels final) :
    Run (fun p label q => Step Serve p label q ∧ Lawful label.2.request) pool labels final := by
  induction run with
  | refl => exact .refl _
  | @cons _ _ _ label _ first _ ih =>
      obtain ⟨resume, shared, here, served, rfl⟩ := first
      have lawful := uses label.1
      rw [here] at lawful
      refine .cons ⟨⟨resume, shared, here, served, rfl⟩, lawful.1⟩ (ih fun i => ?_)
      by_cases same : i = label.1
      · subst same
        simpa [after] using lawful.2 _ (possible _ _ _ served)
      · simpa [after, same] using uses i

/-- The labels of a run of lawful programs are lawful. -/
theorem run_lawful_labels {Possible : Event Request Response Failure → Prop} {Lawful : Request → Prop}
    (possible : ∀ s event t, Serve s event t → Possible event)
    (uses : ∀ i, (pool.program i).Uses Possible Lawful fun _ => True)
    (run : Run (Step Serve) pool labels final) : ∀ label ∈ labels, Lawful label.2.request :=
  ((run_lawful possible uses run).invariant_along (P := fun _ => True)
    (fun _ _ _ _ step => ⟨trivial, step.2⟩) trivial).2

/-! ### Logs -/

/-- The events of one worker. -/
def own (i : ι) (labels : List (ι × Event Request Response Failure)) :
    List (Event Request Response Failure) :=
  labels.filterMap fun label => if label.1 = i then some label.2 else none

@[simp] theorem own_append (i : ι) (labels more : List (ι × Event Request Response Failure)) :
    own i (labels ++ more) = own i labels ++ own i more :=
  List.filterMap_append

@[simp] theorem own_cons_self (i : ι) (event : Event Request Response Failure)
    (labels : List (ι × Event Request Response Failure)) :
    own i ((i, event) :: labels) = event :: own i labels := by
  simp [own]

theorem own_cons_of_ne {i j : ι} (differs : j ≠ i) (event : Event Request Response Failure)
    (labels : List (ι × Event Request Response Failure)) :
    own i ((j, event) :: labels) = own i labels := by
  simp [own, differs]

theorem mem_own {i : ι} {event : Event Request Response Failure} :
    event ∈ own i labels ↔ (i, event) ∈ labels := by
  rw [own, List.mem_filterMap]
  constructor
  · rintro ⟨⟨j, found⟩, member, mine⟩
    split at mine
    · rename_i same
      cases mine
      cases same
      exact member
    · cases mine
  · exact fun member => ⟨(i, event), member, if_pos rfl⟩

/-- The events of a worker after a step. -/
theorem Step.log {label : ι × Event Request Response Failure} (step : Step Serve pool label final)
    (i : ι) : final.log i = pool.log i ∨ i = label.1 ∧ final.log i = pool.log i ++ [label.2] := by
  obtain ⟨resume, shared, -, -, rfl⟩ := step
  by_cases same : i = label.1
  · subst same
    exact .inr ⟨rfl, by simp [after]⟩
  · exact .inl (by simp [after, same])

/-- What further events do not undo stays true of the events of a worker. -/
theorem Step.log_kept {P : List (Event Request Response Failure) → Prop}
    (grows : ∀ log event, P log → P (log ++ [event]))
    {label : ι × Event Request Response Failure} (step : Step Serve pool label final) {i : ι}
    (before : P (pool.log i)) : P (final.log i) := by
  rcases step.log i with same | ⟨-, grown⟩
  · exact same ▸ before
  · exact grown ▸ grows _ _ before

/-- A step of obedient programs is good after the events of its worker. -/
theorem Step.obeys {G : ι → List (Event Request Response Failure) →
      Event Request Response Failure → Prop}
    {Q : ι → α → List (Event Request Response Failure) → Prop}
    {label : ι × Event Request Response Failure} (step : Step Serve pool label final)
    (obeys : ∀ i, (pool.program i).Obeys (G i) (pool.log i) (Q i)) :
    (∀ i, (final.program i).Obeys (G i) (final.log i) (Q i)) ∧
      G label.1 (pool.log label.1) label.2 := by
  obtain ⟨resume, shared, here, served, rfl⟩ := step
  have mine := obeys label.1
  rw [here] at mine
  obtain ⟨good, rest⟩ := mine label.2.answer
  refine ⟨fun i => ?_, good⟩
  by_cases same : i = label.1
  · subst same
    simpa [after] using rest
  · simpa [after, same] using obeys i

/-- In a run of obedient programs every event is good after those of its worker. -/
theorem run_obeys {G : ι → List (Event Request Response Failure) →
      Event Request Response Failure → Prop}
    {Q : ι → α → List (Event Request Response Failure) → Prop}
    (obeys : ∀ i, (pool.program i).Obeys (G i) (pool.log i) (Q i))
    (run : Run (Step Serve) pool labels final) :
    (∀ i, (final.program i).Obeys (G i) (final.log i) (Q i)) ∧
      Run (fun p label q => Step Serve p label q ∧ G label.1 (p.log label.1) label.2) pool labels
        final :=
  run.invariant_steps (P := fun pool : Pool Request Response Failure α S ι =>
    ∀ i, (pool.program i).Obeys (G i) (pool.log i) (Q i)) (fun _ _ _ obeys step => step.obeys obeys)
    obeys

/-- The log of a worker is made of its labels. -/
theorem log_of_run (run : Run (Step Serve) pool labels final) (i : ι) :
    final.log i = pool.log i ++ own i labels := by
  induction run with
  | refl => simp [own]
  | @cons pool _ _ label labels first _ ih =>
      obtain ⟨resume, shared, -, -, rfl⟩ := first
      rw [ih]
      by_cases same : label.1 = i
      · subst same
        simp [after, own]
      · have other : i ≠ label.1 := fun eq => same eq.symm
        simp [after, own, same, other]

/-- What is served can be logged. -/
theorem possible_of_run {Possible : Event Request Response Failure → Prop}
    (possible : ∀ s event t, Serve s event t → Possible event)
    (run : Run (Step Serve) pool labels final) : ∀ label ∈ labels, Possible label.2 :=
  (run.invariant_along (P := fun _ => True)
    (fun _ _ _ _ step => ⟨trivial, possible _ _ _ step.serves⟩) trivial).2

/-- A worker that is done asks nothing more. -/
theorem done_of_run {i : ι} {value : α} (run : Run (Step Serve) pool labels final)
    (done : pool.program i = .done value) :
    final.program i = .done value ∧ ∀ event, (i, event) ∉ labels := by
  induction run with
  | refl => exact ⟨done, fun _ => List.not_mem_nil⟩
  | @cons pool _ _ label _ first _ ih =>
      obtain ⟨resume, shared, here, -, rfl⟩ := first
      have other : i ≠ label.1 := by
        rintro rfl
        rw [done] at here
        cases here
      obtain ⟨last, none⟩ := ih (by simpa [after, other] using done)
      refine ⟨last, fun event member => ?_⟩
      rcases List.mem_cons.mp member with rfl | later
      · exact other rfl
      · exact none event later

/-- The events of a worker that is done are an execution of its program. -/
theorem execution_of_run {i : ι} {value : α} (run : Run (Step Serve) pool labels final)
    (done : final.program i = .done value) :
    Program.Execution (fun _ => True) (pool.program i) (own i labels) (.ok value) := by
  induction run with
  | refl =>
      rw [done]
      exact .done value
  | @cons pool _ _ label _ first _ ih =>
      obtain ⟨resume, shared, here, -, rfl⟩ := first
      obtain ⟨j, event⟩ := label
      by_cases same : j = i
      · subst same
        rw [own_cons_self, here]
        exact .call event.answer trivial (by simpa [after] using ih done)
      · have other : i ≠ j := fun eq => same eq.symm
        rw [own_cons_of_ne same]
        simpa [after, other] using ih done

/-- The place of an event of a log in the run. -/
theorem split_log {front back : List (Event Request Response Failure)}
    {event : Event Request Response Failure} {i : ι} (run : Run (Step Serve) pool labels final)
    (fresh : pool.log i = []) (logged : final.log i = front ++ event :: back) :
    ∃ before after p q, labels = before ++ (i, event) :: after ∧ Run (Step Serve) pool before p ∧
      Step Serve p (i, event) q ∧ Run (Step Serve) q after final ∧ p.log i = front ∧
      own i after = back := by
  rw [log_of_run run, fresh, List.nil_append] at logged
  obtain ⟨before, rest, split, earlier, later⟩ := List.filterMap_eq_append_iff.mp logged
  obtain ⟨others, ⟨j, found⟩, after, split', none, mine, tail⟩ := List.filterMap_eq_cons_iff.mp later
  obtain ⟨rfl, rfl⟩ : j = i ∧ found = event := by
    by_cases same : j = i
    · subst same
      simpa using mine
    · simp [same] at mine
  have whole : labels = (before ++ others) ++ (j, found) :: after := by
    rw [split, split', List.append_assoc]
  rw [whole] at run
  obtain ⟨p, first, onwards⟩ := run.split
  obtain ⟨q, here, last⟩ := Run.cons_iff.mp onwards
  refine ⟨before ++ others, after, p, q, whole, first, here, last, ?_, tail⟩
  rw [log_of_run first, fresh, own, List.filterMap_append, earlier, List.filterMap_eq_nil_iff.mpr none,
    List.nil_append, List.append_nil]

/-- The place of an event of a log in a run of steps with a property. -/
theorem split_log_where {Q : Pool Request Response Failure α S ι →
      ι × Event Request Response Failure → Pool Request Response Failure α S ι → Prop}
    {front back : List (Event Request Response Failure)} {event : Event Request Response Failure}
    {i : ι} (run : Run (fun p label q => Step Serve p label q ∧ Q p label q) pool labels final)
    (fresh : pool.log i = []) (logged : final.log i = front ++ event :: back) :
    ∃ before after p q, labels = before ++ (i, event) :: after ∧ Run (Step Serve) pool before p ∧
      Step Serve p (i, event) q ∧ Q p (i, event) q ∧ Run (Step Serve) q after final ∧
      p.log i = front := by
  obtain ⟨before, after, p, q, rfl, first, -, -, log, -⟩ :=
    split_log (run.mono fun _ _ _ step => step.1) fresh logged
  obtain ⟨p', first', onwards⟩ := run.split
  obtain ⟨q', ⟨here, good⟩, last⟩ := Run.cons_iff.mp onwards
  have first' := first'.mono fun _ _ _ step => step.1
  refine ⟨before, after, p', q', rfl, first', here, good, last.mono fun _ _ _ step => step.1, ?_⟩
  rw [log_of_run first', ← log_of_run first, log]

/-- A pool in a less restricted environment. -/
theorem Step.mono {Serve' : S → Event Request Response Failure → S → Prop}
    (weaken : ∀ s event t, Serve s event t → Serve' s event t)
    {label : ι × Event Request Response Failure} (step : Step Serve pool label final) :
    Step Serve' pool label final := by
  obtain ⟨resume, shared, here, served, next⟩ := step
  exact ⟨resume, shared, here, weaken _ _ _ served, next⟩

/-! ### Schedules -/

/-- Serve the next request of a worker, if it has one. -/
def advance (serve : ι → S → (request : Request) → Except Failure (Response request) × S)
    (pool : Pool Request Response Failure α S ι) (i : ι) :
    Option (Event Request Response Failure × Pool Request Response Failure α S ι) :=
  match pool.program i with
  | .done _ => none
  | .raised _ => none
  | .call request resume =>
      let served := serve i pool.shared request
      some (⟨request, served.1⟩, pool.after i ⟨request, served.1⟩ (resume served.1) served.2)

/-- A served request is a step. -/
theorem advance_step {serve : ι → S → (request : Request) → Except Failure (Response request) × S}
    (sound : ∀ i s request, Serve s ⟨request, (serve i s request).1⟩ (serve i s request).2)
    {i : ι} {event : Event Request Response Failure} {next : Pool Request Response Failure α S ι}
    (advanced : pool.advance serve i = some (event, next)) : Step Serve pool (i, event) next := by
  unfold advance at advanced
  cases here : pool.program i with
  | done value => simp [here] at advanced
  | raised failure => simp [here] at advanced
  | call request resume =>
      rw [here] at advanced
      cases advanced
      exact ⟨resume, _, here, sound i _ request, rfl⟩

/-- Serve the workers of a schedule in turn, as long as the steps pass the check. -/
def replayWhere (check : Pool Request Response Failure α S ι → ι × Event Request Response Failure →
      Pool Request Response Failure α S ι → Bool)
    (serve : ι → S → (request : Request) → Except Failure (Response request) × S) :
    List ι → Pool Request Response Failure α S ι →
      Option (List (ι × Event Request Response Failure) × Pool Request Response Failure α S ι)
  | [], pool => some ([], pool)
  | i :: schedule, pool =>
      match pool.advance serve i with
      | none => none
      | some (event, next) =>
          if check pool (i, event) next then
            (replayWhere check serve schedule next).map fun rest => ((i, event) :: rest.1, rest.2)
          else none

/-- Serve the workers of a schedule in turn. -/
def replay (serve : ι → S → (request : Request) → Except Failure (Response request) × S) :
    List ι → Pool Request Response Failure α S ι →
      Option (List (ι × Event Request Response Failure) × Pool Request Response Failure α S ι) :=
  replayWhere (fun _ _ _ => true) serve

/-- A replayed schedule is a run of steps that pass the check. -/
theorem replayWhere_run {check : Pool Request Response Failure α S ι →
      ι × Event Request Response Failure → Pool Request Response Failure α S ι → Bool}
    {serve : ι → S → (request : Request) → Except Failure (Response request) × S}
    (sound : ∀ i s request, Serve s ⟨request, (serve i s request).1⟩ (serve i s request).2)
    {schedule : List ι} (replayed : replayWhere check serve schedule pool = some (labels, final)) :
    Run (fun p label q => Step Serve p label q ∧ check p label q = true) pool labels final := by
  induction schedule generalizing pool labels with
  | nil =>
      cases replayed
      exact .refl _
  | cons i schedule ih =>
      unfold replayWhere at replayed
      split at replayed
      · cases replayed
      · rename_i event next advanced
        split at replayed
        · rename_i passes
          obtain ⟨⟨rest, last⟩, later, same⟩ := Option.map_eq_some_iff.mp replayed
          cases same
          exact .cons ⟨advance_step sound advanced, passes⟩ (ih later)
        · cases replayed

/-- The labels of a replay name the workers of its schedule. -/
theorem replayWhere_schedule {check : Pool Request Response Failure α S ι →
      ι × Event Request Response Failure → Pool Request Response Failure α S ι → Bool}
    {serve : ι → S → (request : Request) → Except Failure (Response request) × S}
    {schedule : List ι} (replayed : replayWhere check serve schedule pool = some (labels, final)) :
    labels.map Prod.fst = schedule := by
  induction schedule generalizing pool labels with
  | nil =>
      cases replayed
      rfl
  | cons i schedule ih =>
      unfold replayWhere at replayed
      split at replayed
      · cases replayed
      · split at replayed
        · obtain ⟨⟨rest, last⟩, later, same⟩ := Option.map_eq_some_iff.mp replayed
          cases same
          rw [List.map_cons, ih later]
        · cases replayed

/-- A replayed schedule is a run. -/
theorem replay_run {serve : ι → S → (request : Request) → Except Failure (Response request) × S}
    (sound : ∀ i s request, Serve s ⟨request, (serve i s request).1⟩ (serve i s request).2)
    {schedule : List ι} (replayed : replay serve schedule pool = some (labels, final)) :
    Run (Step Serve) pool labels final :=
  (replayWhere_run sound replayed).mono fun _ _ _ step => step.1

end Pool

end Interaction
