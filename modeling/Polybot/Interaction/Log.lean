import Mathlib.Data.List.Basic

/-!
Logs.

A log grows at its end. `Before`, `Since` and `Between` say what the entries before an entry,
after it, and between two of them are like, and each has a rule for one more entry.
-/

namespace Interaction.Log

variable {α : Type} {log front back : List α} {event element : α}

/-- A list that grew by one, split in two. -/
theorem snoc_eq_append (same : log ++ [event] = front ++ back) :
    back = [] ∧ front = log ++ [event] ∨
      ∃ inside, back = inside ++ [event] ∧ log = front ++ inside := by
  rcases List.eq_nil_or_concat back with rfl | ⟨inside, last, rfl⟩
  · rw [List.append_nil] at same
    exact .inl ⟨rfl, same.symm⟩
  · rw [List.concat_eq_append, ← List.append_assoc] at same
    obtain ⟨rfl, rfl⟩ := List.append_singleton_inj.mp same
    exact .inr ⟨inside, List.concat_eq_append, rfl⟩

/-- A list that grew by one, split at an element. -/
theorem snoc_eq_append_cons (same : log ++ [event] = front ++ element :: back) :
    event = element ∧ log = front ∧ back = [] ∨
      ∃ inside, back = inside ++ [event] ∧ log = front ++ element :: inside := by
  rcases snoc_eq_append same with ⟨none, -⟩ | ⟨inside, split, rfl⟩
  · cases none
  · cases inside with
    | nil =>
        cases split
        exact .inl ⟨rfl, List.append_nil _, rfl⟩
    | cons first inside =>
        cases split
        exact .inr ⟨inside, rfl, rfl⟩

/-- What holds of each entry and those before it. -/
def Before (P : List α → α → Prop) (log : List α) : Prop :=
  ∀ front entry back, log = front ++ entry :: back → P front entry

/-- What holds of each entry and those after it. -/
def Since (P : α → List α → Prop) (log : List α) : Prop :=
  ∀ front entry back, log = front ++ entry :: back → P entry back

/-- What holds of each entry, a later one and those between them. -/
def Between (P : α → List α → α → Prop) (log : List α) : Prop :=
  ∀ front entry inside later back,
    log = front ++ entry :: (inside ++ later :: back) → P entry inside later

theorem before_nil {P : List α → α → Prop} : Before P [] := by
  intro _ _ _ same
  simp at same

theorem since_nil {P : α → List α → Prop} : Since P [] := by
  intro _ _ _ same
  simp at same

theorem between_nil {P : α → List α → α → Prop} : Between P [] := by
  intro _ _ _ _ _ same
  simp at same

theorem before_snoc {P : List α → α → Prop} :
    Before P (log ++ [event]) ↔ Before P log ∧ P log event := by
  constructor
  · intro before
    refine ⟨fun front entry back same => before front entry (back ++ [event]) ?_,
      before log event [] rfl⟩
    rw [same, List.append_assoc, List.cons_append]
  · rintro ⟨before, new⟩ front entry back same
    rcases snoc_eq_append_cons same with ⟨rfl, rfl, -⟩ | ⟨inside, -, earlier⟩
    · exact new
    · exact before _ _ _ earlier

theorem since_snoc {P : α → List α → Prop} :
    Since P (log ++ [event]) ↔
      Since (fun entry back => P entry (back ++ [event])) log ∧ P event [] := by
  constructor
  · intro since
    refine ⟨fun front entry back same => since front entry (back ++ [event]) ?_,
      since log event [] rfl⟩
    rw [same, List.append_assoc, List.cons_append]
  · rintro ⟨since, new⟩ front entry back same
    rcases snoc_eq_append_cons same with ⟨rfl, -, rfl⟩ | ⟨inside, rfl, earlier⟩
    · exact new
    · exact since _ _ _ earlier

theorem between_snoc {P : α → List α → α → Prop} :
    Between P (log ++ [event]) ↔
      Between P log ∧ Since (fun entry back => P entry back event) log := by
  constructor
  · intro between
    refine ⟨fun front entry inside later back same =>
      between front entry inside later (back ++ [event]) ?_,
      fun front entry back same => between front entry back event [] ?_⟩
    · simp [same]
    · simp [same]
  · rintro ⟨between, new⟩ front entry inside later back same
    rw [← List.cons_append, ← List.append_assoc] at same
    rcases snoc_eq_append_cons same with ⟨rfl, earlier, -⟩ | ⟨more, -, earlier⟩
    · exact new _ _ _ earlier
    · rw [List.append_assoc, List.cons_append] at earlier
      exact between _ _ _ _ _ earlier

theorem Since.imp {P Q : α → List α → Prop} (implies : ∀ entry back, P entry back → Q entry back)
    (since : Since P log) : Since Q log :=
  fun front entry back same => implies entry back (since front entry back same)

end Interaction.Log
