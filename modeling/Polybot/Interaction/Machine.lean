import Mathlib.Data.List.Forall2

/-!
Deterministic machines.

A machine answers a list of calls. Two states are alike for their clients when
every list of calls gets related answers, and a simulation is enough for that
(`AnswersAlike.of_simulation`). Two machines that agree on some calls only give the
same answers where each call is one of these (`answers_eq_iff`); a simulation makes them
agree on all (`answers_eq_of_simulation`).
-/

namespace Interaction

variable {State Call Answer : Type}

/-- The answers to a list of calls. -/
def answers (next : State → Call → State × Answer) : State → List Call → List Answer
  | _, [] => []
  | state, call :: rest => (next state call).2 :: answers next (next state call).1 rest

variable {next : State → Call → State × Answer} {Alike : Answer → Answer → Prop} {s t : State}

/-- Every list of calls gets alike answers. -/
def AnswersAlike (next : State → Call → State × Answer) (Alike : Answer → Answer → Prop)
    (s t : State) : Prop :=
  ∀ calls, List.Forall₂ Alike (answers next s calls) (answers next t calls)

/-- The simulation rule. -/
theorem AnswersAlike.of_simulation {R : State → State → Prop}
    (step : ∀ s t call, R s t → Alike (next s call).2 (next t call).2 ∧
      R (next s call).1 (next t call).1)
    (start : R s t) : AnswersAlike next Alike s t := by
  intro calls
  induction calls generalizing s t with
  | nil => exact .nil
  | cons call rest ih =>
      obtain ⟨now, later⟩ := step s t call start
      exact .cons now (ih later)

theorem AnswersAlike.first (alike : AnswersAlike next Alike s t) (call : Call) :
    Alike (next s call).2 (next t call).2 := by
  have only := alike [call]
  cases only with
  | cons now _ => exact now

section Pairs

variable {State' : Type}

/-- `Meets` holds before each of the calls that two machines serve. -/
def BeforeEach (next : State → Call → State × Answer) (next' : State' → Call → State' × Answer)
    (Meets : State → State' → Call → Prop) : State → State' → List Call → Prop
  | _, _, [] => True
  | s, t, call :: rest =>
      Meets s t call ∧ BeforeEach next next' Meets (next s call).1 (next' t call).1 rest

variable {next' : State' → Call → State' × Answer} {Meets : State → State' → Call → Prop}
  {R : State → State' → List Call → Prop} {t' : State'} {calls : List Call}

instance BeforeEach.decidable [∀ s t call, Decidable (Meets s t call)] :
    ∀ s t calls, Decidable (BeforeEach next next' Meets s t calls)
  | _, _, [] => inferInstanceAs (Decidable True)
  | s, t, call :: rest =>
      have : Decidable (BeforeEach next next' Meets (next s call).1 (next' t call).1 rest) :=
        BeforeEach.decidable _ _ rest
      inferInstanceAs (Decidable (_ ∧ _))

theorem BeforeEach.imp {Meets' : State → State' → Call → Prop}
    (implies : ∀ s t call, Meets s t call → Meets' s t call)
    (before : BeforeEach next next' Meets s t' calls) : BeforeEach next next' Meets' s t' calls := by
  induction calls generalizing s t' with
  | nil => trivial
  | cons call rest ih => exact ⟨implies _ _ _ before.1, ih before.2⟩

/-- Two machines whose answers to a call are equal exactly where `Meets` holds, and which
stay related there. The relation may look at the calls to come. -/
theorem answers_eq_iff
    (agree : ∀ s t call rest, R s t (call :: rest) →
      ((next s call).2 = (next' t call).2 ↔ Meets s t call))
    (kept : ∀ s t call rest, R s t (call :: rest) → Meets s t call →
      R (next s call).1 (next' t call).1 rest)
    (start : R s t' calls) :
    answers next s calls = answers next' t' calls ↔ BeforeEach next next' Meets s t' calls := by
  induction calls generalizing s t' with
  | nil => exact ⟨fun _ => trivial, fun _ => rfl⟩
  | cons call rest ih =>
      have here := agree s t' call rest start
      rw [answers, answers, List.cons.injEq, BeforeEach, here]
      exact and_congr_right fun met => ih (kept s t' call rest start met)

/-- Two machines that answer alike and stay related over the calls to come. -/
theorem answers_eq_of_simulation
    (step : ∀ s t call rest, R s t (call :: rest) →
      (next s call).2 = (next' t call).2 ∧ R (next s call).1 (next' t call).1 rest)
    (start : R s t' calls) : answers next s calls = answers next' t' calls := by
  induction calls generalizing s t' with
  | nil => rfl
  | cons call rest ih =>
      obtain ⟨now, later⟩ := step s t' call rest start
      rw [answers, answers, now, ih later]

end Pairs

end Interaction
