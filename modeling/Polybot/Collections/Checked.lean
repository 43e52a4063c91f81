import Mathlib.Data.List.Forall2
import Mathlib.Logic.Function.Basic

/-!
Computations that may raise.

Inversion of the `Except` combinators: a bind that succeeds, and a loop that maps
every element and stops at the first one that raises.
-/

namespace Checked

variable {α β ε : Type}

theorem bind_ok_iff {first : Except ε α} {next : α → Except ε β} {result : β} :
    (first >>= next) = .ok result ↔ ∃ value, first = .ok value ∧ next value = .ok result := by
  cases first <;> simp [Bind.bind, Except.bind]

theorem map_ok_iff {first : Except ε α} {f : α → β} {result : β} :
    first.map f = .ok result ↔ ∃ value, first = .ok value ∧ f value = result := by
  cases first <;> simp [Except.map]

theorem map_error_iff {first : Except ε α} {f : α → β} {problem : ε} :
    first.map f = .error problem ↔ first = .error problem := by
  cases first <;> simp [Except.map]

theorem mapError_ok_iff {ε' : Type} {first : Except ε α} {f : ε → ε'} {result : α} :
    first.mapError f = .ok result ↔ first = .ok result := by
  cases first <;> simp [Except.mapError]

theorem option_bind_eq_some_iff {first : Option α} {next : α → Option β} {result : β} :
    (first >>= next) = some result ↔ ∃ value, first = some value ∧ next value = some result := by
  cases first <;> simp

/-- A `guard` of an optional computation. -/
theorem exists_guard_eq_some_iff {condition : Prop} [Decidable condition] {Q : Unit → Prop} :
    (∃ value, (guard condition : Option Unit) = some value ∧ Q value) ↔ condition ∧ Q () := by
  by_cases holds : condition
  · simp only [guard, holds, if_true, true_and]
    exact ⟨fun ⟨_, _, here⟩ => here, fun here => ⟨(), rfl, here⟩⟩
  · simp [guard, holds, failure]

/-- Raise `error` unless `condition` holds. -/
def require (condition : Prop) [Decidable condition] (error : ε) : Except ε Unit :=
  if condition then .ok () else .error error

@[simp] theorem require_ok_iff {condition : Prop} [Decidable condition] {error : ε} {value : Unit} :
    require condition error = .ok value ↔ condition := by
  unfold require
  by_cases holds : condition <;> simp [holds]

theorem require_of {condition : Prop} [Decidable condition] {error : ε} (holds : condition) :
    require condition error = .ok () :=
  require_ok_iff.mpr holds

theorem require_bind_ok_iff {condition : Prop} [Decidable condition] {error : ε}
    {next : Unit → Except ε β} {result : β} :
    (require condition error >>= next) = .ok result ↔ condition ∧ next () = .ok result := by
  rw [bind_ok_iff]
  exact ⟨fun ⟨_, held, rest⟩ => ⟨require_ok_iff.mp held, rest⟩,
    fun ⟨held, rest⟩ => ⟨(), require_ok_iff.mpr held, rest⟩⟩

theorem require_bind_of {condition : Prop} [Decidable condition] {error : ε}
    {next : Unit → Except ε β} (holds : condition) : (require condition error >>= next) = next () := by
  rw [require_of holds]
  rfl

/-- The computation succeeds, with a value that passes the test. -/
def okAnd (computation : Except ε α) (test : α → Prop) [DecidablePred test] : Bool :=
  match computation with
  | .ok value => test value
  | .error _ => false

theorem exists_of_okAnd {computation : Except ε α} {test : α → Prop} [DecidablePred test]
    (passed : okAnd computation test = true) : ∃ value, computation = .ok value ∧ test value := by
  cases computation with
  | error problem => cases passed
  | ok value => exact ⟨value, rfl, of_decide_eq_true passed⟩

/-- A loop that maps every element and stops at the first one that raises. -/
theorem mapM_ok_iff {body : α → Except ε β} {accepts : α → Prop} {image : α → β}
    (spec : ∀ x y, body x = .ok y ↔ accepts x ∧ y = image x) {items : List α} {result : List β} :
    items.mapM body = .ok result ↔ (∀ x ∈ items, accepts x) ∧ result = items.map image := by
  induction items generalizing result with
  | nil => simp [pure, Except.pure, eq_comm]
  | cons item items ih =>
      rw [List.mapM_cons, List.forall_mem_cons, List.map_cons]
      cases here : body item with
      | error problem =>
          have refused : ¬ accepts item := fun accepted => by
            rw [(spec item _).mpr ⟨accepted, rfl⟩] at here
            cases here
          simp [Bind.bind, Except.bind, refused]
      | ok first =>
          obtain ⟨accepted, rfl⟩ := (spec item first).mp here
          cases looped : items.mapM body with
          | error problem =>
              have refused : ¬ ∀ x ∈ items, accepts x := fun all => by
                rw [ih.mpr ⟨all, rfl⟩] at looped
                cases looped
              simp only [Bind.bind, Except.bind, reduceCtorEq, false_iff]
              exact fun h => refused h.1.2
          | ok rest =>
              obtain ⟨all, rfl⟩ := ih.mp looped
              simp only [Bind.bind, Except.bind, pure, Except.pure, Except.ok.injEq]
              exact ⟨fun h => ⟨⟨accepted, all⟩, h.symm⟩, fun h => h.2.symm⟩

/-- The results of a loop, element by element. -/
theorem mapM_ok_forall₂ {body : α → Except ε β} {items : List α} {result : List β}
    (looped : items.mapM body = .ok result) :
    List.Forall₂ (fun item image => body item = .ok image) items result := by
  induction items generalizing result with
  | nil =>
      cases looped
      exact .nil
  | cons item items ih =>
      rw [List.mapM_cons] at looped
      obtain ⟨image, here, looped⟩ := bind_ok_iff.mp looped
      obtain ⟨rest, later, same⟩ := bind_ok_iff.mp looped
      cases same
      exact .cons here (ih later)

/-- A loop that updates a state and stops at the first element that raises. -/
theorem foldlM_ok_iff {σ : Type} {body : σ → α → Except ε σ} {accepts : α → Prop} {next : σ → α → σ}
    (spec : ∀ s x t, body s x = .ok t ↔ accepts x ∧ t = next s x) {items : List α} {s t : σ} :
    items.foldlM body s = .ok t ↔ (∀ x ∈ items, accepts x) ∧ t = items.foldl next s := by
  induction items generalizing s with
  | nil => simp [pure, Except.pure, eq_comm]
  | cons item items ih =>
      rw [List.foldlM_cons, bind_ok_iff, List.forall_mem_cons, List.foldl_cons, and_assoc, ← ih]
      constructor
      · rintro ⟨mid, first, rest⟩
        obtain ⟨accepted, rfl⟩ := (spec s item mid).mp first
        exact ⟨accepted, rest⟩
      · rintro ⟨accepted, rest⟩
        exact ⟨next s item, (spec s item _).mpr ⟨accepted, rfl⟩, rest⟩

/-- A loop that assigns one key after another, each from the value that the key has. -/
theorem foldl_update {κ : Type} [DecidableEq κ] {image : κ → α → α} {keys : List κ}
    (distinct : keys.Nodup) (values : κ → α) :
    keys.foldl (fun values key => Function.update values key (image key (values key))) values =
      fun key => if key ∈ keys then image key (values key) else values key := by
  induction keys generalizing values with
  | nil => rfl
  | cons first rest ih =>
      obtain ⟨absent, distinct⟩ := List.nodup_cons.mp distinct
      rw [List.foldl_cons, ih distinct]
      funext key
      by_cases here : key = first
      · subst here
        simp [absent]
      · simp [here]

/-- The same loop where a value may be refused. -/
theorem foldlM_update_ok_iff {κ : Type} [DecidableEq κ] {body : κ → α → Except ε α}
    {accepts : κ → Prop} {image : κ → α → α}
    (spec : ∀ key value result, body key value = .ok result ↔ accepts key ∧ result = image key value)
    {keys : List κ} (distinct : keys.Nodup) {values result : κ → α} :
    keys.foldlM (fun values key => do
        let value ← body key (values key)
        pure (Function.update values key value)) values = .ok result ↔
      (∀ key ∈ keys, accepts key) ∧
        result = fun key => if key ∈ keys then image key (values key) else values key := by
  rw [← foldl_update distinct]
  refine foldlM_ok_iff fun values key result => ?_
  rw [bind_ok_iff]
  constructor
  · rintro ⟨value, done, same⟩
    cases same
    obtain ⟨accepted, rfl⟩ := (spec _ _ _).mp done
    exact ⟨accepted, rfl⟩
  · rintro ⟨accepted, rfl⟩
    exact ⟨_, (spec _ _ _).mpr ⟨accepted, rfl⟩, rfl⟩

end Checked
