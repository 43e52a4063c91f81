import Mathlib.Order.Basic
import Polybot.Interaction.Transition

/-!
Fenced values.

A state holds a value and a stamp. A step is fenced if it raises the stamp or keeps
the stamp and the value. Along fenced steps the stamp never falls, a changed value
has a higher stamp, and two states with one stamp hold one value.
-/

namespace Interaction

variable {State Label Value Stamp : Type} [Preorder Stamp]

/-- `t` follows `s`: the stamp is higher, or nothing has changed. -/
def Fenced (stamp : State → Stamp) (value : State → Value) (s t : State) : Prop :=
  stamp s < stamp t ∨ stamp s = stamp t ∧ value s = value t

namespace Fenced

variable {stamp : State → Stamp} {value : State → Value} {s t u : State}

theorem refl (s : State) : Fenced stamp value s s :=
  .inr ⟨rfl, rfl⟩

theorem trans (first : Fenced stamp value s t) (second : Fenced stamp value t u) :
    Fenced stamp value s u := by
  rcases first with raised | ⟨stamps, values⟩
  · rcases second with again | ⟨same, -⟩
    · exact .inl (raised.trans again)
    · exact .inl (raised.trans_eq same)
  · rcases second with raised | ⟨same, kept⟩
    · exact .inl (stamps.trans_lt raised)
    · exact .inr ⟨stamps.trans same, values.trans kept⟩

theorem stamp_le (fenced : Fenced stamp value s t) : stamp s ≤ stamp t := by
  rcases fenced with raised | ⟨same, -⟩
  · exact raised.le
  · exact same.le

/-- A changed value has a higher stamp. -/
theorem stamp_lt (fenced : Fenced stamp value s t) (changed : value s ≠ value t) :
    stamp s < stamp t := by
  rcases fenced with raised | ⟨-, kept⟩
  · exact raised
  · exact absurd kept changed

/-- One stamp, one value. -/
theorem value_eq (fenced : Fenced stamp value s t) (same : stamp s = stamp t) :
    value s = value t := by
  rcases fenced with raised | ⟨-, kept⟩
  · exact absurd same raised.ne
  · exact kept

/-- The run of fenced steps is fenced. -/
theorem of_run {step : State → Label → State → Prop} {labels : List Label}
    (steps : ∀ s label t, step s label t → Fenced stamp value s t)
    (run : Run step s labels t) : Fenced stamp value s t := by
  induction run with
  | refl => exact refl _
  | cons first _ ih => exact (steps _ _ _ first).trans ih

end Fenced

end Interaction
