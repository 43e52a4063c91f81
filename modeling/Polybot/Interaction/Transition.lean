import Mathlib.Algebra.BigOperators.Group.List.Basic
import Mathlib.Logic.Relation

/-!
Labelled runs of a step relation.

A run is the list of labels of its steps, oldest first, together with its end
points. `Run.invariant` is the induction rule every safety result of the
development uses: what holds at the start and is kept by each step holds at the
end. `Run.invariant_along` is the form for a property of the labels, and
`Run.split` reaches the states in the middle of a run.
-/

namespace Interaction

variable {State Label : Type}

/-- `Run step s labels t`: the steps labelled `labels` lead from `s` to `t`. -/
inductive Run (step : State → Label → State → Prop) : State → List Label → State → Prop where
  | refl (s : State) : Run step s [] s
  | cons {s t u : State} {label : Label} {labels : List Label} :
      step s label t → Run step t labels u → Run step s (label :: labels) u

/-- A state reached by some run. -/
def Reachable (step : State → Label → State → Prop) (s t : State) : Prop :=
  ∃ labels, Run step s labels t

namespace Run

variable {step step' : State → Label → State → Prop} {s t u : State}
  {labels more : List Label} {label : Label}

theorem nil_iff : Run step s [] t ↔ s = t := by
  constructor
  · intro run
    cases run
    rfl
  · rintro rfl
    exact .refl _

theorem cons_iff :
    Run step s (label :: labels) u ↔ ∃ t, step s label t ∧ Run step t labels u := by
  constructor
  · intro run
    cases run with
    | cons first rest => exact ⟨_, first, rest⟩
  · rintro ⟨t, first, rest⟩
    exact .cons first rest

theorem single (only : step s label t) : Run step s [label] t :=
  .cons only (.refl _)

theorem trans (first : Run step s labels t) (second : Run step t more u) :
    Run step s (labels ++ more) u := by
  induction first with
  | refl => exact second
  | cons here _ ih => exact .cons here (ih second)

theorem snoc (before : Run step s labels t) (last : step t label u) :
    Run step s (labels ++ [label]) u :=
  before.trans (single last)

/-- With one state after each step there is one state after each run. -/
theorem unique (functional : ∀ s label t t', step s label t → step s label t' → t = t')
    (run : Run step s labels t) (other : Run step s labels u) : t = u := by
  induction run with
  | refl => exact nil_iff.mp other
  | cons first _ ih =>
      obtain ⟨t', first', rest⟩ := cons_iff.mp other
      obtain rfl := functional _ _ _ _ first first'
      exact ih rest

/-- Every prefix of the labels reaches a state of the run. -/
theorem split (run : Run step s (labels ++ more) u) :
    ∃ t, Run step s labels t ∧ Run step t more u := by
  induction labels generalizing s with
  | nil => exact ⟨s, .refl _, run⟩
  | cons label labels ih =>
      obtain ⟨mid, first, rest⟩ := cons_iff.mp run
      obtain ⟨t, before, after⟩ := ih rest
      exact ⟨t, .cons first before, after⟩

/-- Runs are monotone in the step relation. -/
theorem mono (weaken : ∀ s label t, step s label t → step' s label t)
    (run : Run step s labels t) : Run step' s labels t := by
  induction run with
  | refl => exact .refl _
  | cons first _ ih => exact .cons (weaken _ _ _ first) ih

/-- The invariant rule. -/
theorem invariant {P : State → Prop} (preserves : ∀ s label t, P s → step s label t → P t)
    (run : Run step s labels t) (start : P s) : P t := by
  induction run with
  | refl => exact start
  | cons first _ ih => exact ih (preserves _ _ _ start first)

/-- The invariant rule for what each step does. -/
theorem invariant_steps {P : State → Prop} {Q : State → Label → State → Prop}
    (preserves : ∀ s label t, P s → step s label t → P t ∧ Q s label t)
    (run : Run step s labels t) (start : P s) :
    P t ∧ Run (fun s label t => step s label t ∧ Q s label t) s labels t := by
  induction run with
  | refl => exact ⟨start, .refl _⟩
  | cons first _ ih =>
      obtain ⟨next, now⟩ := preserves _ _ _ start first
      obtain ⟨final, rest⟩ := ih next
      exact ⟨final, .cons ⟨first, now⟩ rest⟩

/-- The invariant rule for what the labels show: a step taken from a state
satisfying the invariant has a good label. -/
theorem invariant_along {P : State → Prop} {Q : Label → Prop}
    (preserves : ∀ s label t, P s → step s label t → P t ∧ Q label)
    (run : Run step s labels t) (start : P s) : P t ∧ ∀ label ∈ labels, Q label := by
  induction run with
  | refl => exact ⟨start, by simp⟩
  | cons first _ ih =>
      obtain ⟨next, now⟩ := preserves _ _ _ start first
      obtain ⟨final, good⟩ := ih next
      refine ⟨final, ?_⟩
      intro label member
      rcases List.mem_cons.mp member with rfl | later
      · exact now
      · exact good label later

/-- What only the labels in `Q` can end has met one of them when it has ended. -/
theorem exists_label {P : State → Prop} {Q : Label → Prop}
    (kept : ∀ s label t, P s → step s label t → ¬ Q label → P t)
    (run : Run step s labels t) (start : P s) (ended : ¬ P t) : ∃ label ∈ labels, Q label := by
  induction run with
  | refl => exact absurd start ended
  | @cons s mid _ label _ first _ ih =>
      by_cases here : Q label
      · exact ⟨label, List.mem_cons_self, here⟩
      · obtain ⟨other, member, found⟩ := ih (kept s label mid start first here) ended
        exact ⟨other, List.mem_cons_of_mem _ member, found⟩

/-- The runs of a step function are its successful folds. -/
theorem foldlM_iff {Error : Type} {next : State → Label → Except Error State} :
    Run (fun s label t => next s label = .ok t) s labels t ↔ labels.foldlM next s = .ok t := by
  induction labels generalizing s with
  | nil => simp [nil_iff, pure, Except.pure]
  | cons label labels ih =>
      rw [cons_iff, List.foldlM_cons]
      cases here : next s label with
      | error problem => simp [Bind.bind, Except.bind]
      | ok mid => simp [Bind.bind, Except.bind, ih]

/-- The runs of a total step function are its folds. -/
theorem foldl_iff {next : State → Label → State} :
    Run (fun s label t => next s label = t) s labels t ↔ labels.foldl next s = t := by
  induction labels generalizing s with
  | nil => exact nil_iff
  | cons label labels ih =>
      rw [cons_iff, List.foldl_cons, ← ih]
      exact ⟨fun ⟨_, first, rest⟩ => first ▸ rest, fun rest => ⟨_, rfl, rest⟩⟩

/-- The invariant rule for a property of the labels so far and the state. -/
theorem invariant_history {P : List Label → State → Prop}
    (preserves : ∀ done s label t, P done s → step s label t → P (done ++ [label]) t)
    (run : Run step s labels t) (start : P [] s) : P labels t := by
  suffices later : ∀ done, P done s → P (done ++ labels) t by simpa using later [] start
  clear start
  induction run with
  | refl => simp
  | cons first _ ih =>
      intro done now
      simpa using ih _ (preserves _ _ _ _ now first)

/-- A run each of whose steps is good, where goodness is checked at every split. -/
theorem of_splits {Q : State → Label → State → Prop} (run : Run step s labels t)
    (good : ∀ front label back mid next, labels = front ++ label :: back → Run step s front mid →
      step mid label next → Run step next back t → Q mid label next) :
    Run (fun s label t => step s label t ∧ Q s label t) s labels t := by
  induction run with
  | refl => exact .refl _
  | cons first rest ih =>
      refine .cons ⟨first, good [] _ _ _ _ rfl (.refl _) first rest⟩
        (ih fun front label back mid next split before here after => ?_)
      exact good (_ :: front) label back mid next (by rw [split]; rfl) (.cons first before) here after

/-- A run each of whose steps is good, where goodness is checked at every
prefix. -/
theorem of_prefixes {Q : State → Label → Prop} (run : Run step s labels t)
    (good : ∀ front label back mid, labels = front ++ label :: back → Run step s front mid →
      Q mid label) : Run (fun s label t => step s label t ∧ Q s label) s labels t :=
  run.of_splits fun front label back mid _ split before _ _ => good front label back mid split before

/-- A run whose labels are good. -/
theorem of_labels {Q : Label → Prop} (run : Run step s labels t) (good : ∀ label ∈ labels, Q label) :
    Run (fun s label t => step s label t ∧ Q label) s labels t := by
  induction run with
  | refl => exact .refl _
  | cons first _ ih =>
      exact .cons ⟨first, good _ List.mem_cons_self⟩
        (ih fun label member => good label (List.mem_cons_of_mem _ member))

/-- A measure that every step changes by what its label says. -/
theorem accumulate {M : Type} [AddMonoid M] {P : State → Prop} {measure : State → M}
    {change : Label → M}
    (changes : ∀ s label t, P s → step s label t → P t ∧ measure t = measure s + change label)
    (run : Run step s labels t) (start : P s) :
    measure t = measure s + (labels.map change).sum := by
  induction run with
  | refl => simp
  | cons first _ ih =>
      obtain ⟨next, changed⟩ := changes _ _ _ start first
      rw [ih next, changed, List.map_cons, List.sum_cons, add_assoc]

/-- Restricting the steps: the runs all of whose steps also satisfy `Also`, for
conditions that agree on the steps from states that satisfy an invariant. -/
theorem restrict_iff_of {P : State → Prop} {Also Also' : State → Label → State → Prop}
    (preserves : ∀ s label t, P s → step s label t → P t)
    (same : ∀ s label t, P s → step s label t → (Also s label t ↔ Also' s label t))
    (start : P s) :
    Run (fun s label t => step s label t ∧ Also s label t) s labels t ↔
      Run (fun s label t => step s label t ∧ Also' s label t) s labels t := by
  constructor
  · intro run
    have both := (run.invariant_steps (Q := Also') (fun s label t now step =>
      ⟨preserves s label t now step.1, (same s label t now step.1).mp step.2⟩) start).2
    exact both.mono fun s label t both => ⟨both.1.1, both.2⟩
  · intro run
    have both := (run.invariant_steps (Q := Also) (fun s label t now step =>
      ⟨preserves s label t now step.1, (same s label t now step.1).mpr step.2⟩) start).2
    exact both.mono fun s label t both => ⟨both.1.1, both.2⟩

/-- Conditions that agree on every step. -/
theorem restrict_iff {Also Also' : State → Label → State → Prop}
    (same : ∀ s label t, step s label t → (Also s label t ↔ Also' s label t)) :
    Run (fun s label t => step s label t ∧ Also s label t) s labels t ↔
      Run (fun s label t => step s label t ∧ Also' s label t) s labels t :=
  restrict_iff_of (P := fun _ => True) (fun _ _ _ _ _ => trivial)
    (fun s label t _ step => same s label t step) trivial

end Run

/-- The invariant rule for reachable states. -/
theorem Reachable.invariant {step : State → Label → State → Prop} {s t : State}
    {P : State → Prop} (preserves : ∀ s label t, P s → step s label t → P t)
    (reached : Reachable step s t) (start : P s) : P t := by
  obtain ⟨_, run⟩ := reached
  exact run.invariant preserves start

end Interaction
