import Mathlib.Data.Option.Basic

/-!
A row under read-committed transactions.

A transaction that writes a row locks it until its end; the others see the committed
value, and wait where they want to write. `Free` says that a transaction need not wait,
and the lemmas what a commit and a roll-back do for the holder and for the others.
-/

namespace Interaction

/-- The committed value, and the uncommitted one with the transaction that wrote it. -/
structure LockedRow (ι ρ : Type) where
  committed : Option ρ
  pending : Option (ι × ρ)

namespace LockedRow

variable {ι ρ : Type} [DecidableEq ι] {row : LockedRow ι ρ} {i j : ι} {value : ρ}

/-- A row that nobody has locked. -/
def unlocked (committed : Option ρ) : LockedRow ι ρ :=
  ⟨committed, none⟩

/-- No other transaction has locked the row. -/
def Free (row : LockedRow ι ρ) (i : ι) : Prop :=
  ∀ held ∈ row.pending, held.1 = i

instance (row : LockedRow ι ρ) (i : ι) : Decidable (row.Free i) :=
  inferInstanceAs (Decidable (∀ held ∈ row.pending, _))

/-- The transaction has not locked the row. -/
def Unheld (row : LockedRow ι ρ) (i : ι) : Prop :=
  ∀ held ∈ row.pending, held.1 ≠ i

/-- What a transaction sees. -/
def visible (row : LockedRow ι ρ) (i : ι) : Option ρ :=
  match row.pending with
  | none => row.committed
  | some (j, value) => if j = i then some value else row.committed

def write (row : LockedRow ι ρ) (i : ι) (value : ρ) : LockedRow ι ρ :=
  { row with pending := some (i, value) }

def commit (row : LockedRow ι ρ) (i : ι) : LockedRow ι ρ :=
  match row.pending with
  | none => row
  | some (j, value) => if j = i then unlocked (some value) else row

def rollback (row : LockedRow ι ρ) (i : ι) : LockedRow ι ρ :=
  if row.Free i then unlocked row.committed else row

omit [DecidableEq ι] in
@[simp] theorem pending_write : (row.write i value).pending = some (i, value) := rfl

omit [DecidableEq ι] in
@[simp] theorem committed_write : (row.write i value).committed = row.committed := rfl

theorem visible_held (held : row.pending = some (i, value)) : row.visible i = some value := by
  unfold visible
  rw [held]
  exact if_pos rfl

theorem visible_unheld (unheld : row.Unheld i) : row.visible i = row.committed := by
  unfold visible
  split
  · rfl
  · rename_i held
    exact if_neg (unheld _ held)

theorem commit_held (held : row.pending = some (i, value)) : row.commit i = unlocked (some value) := by
  unfold commit
  rw [held]
  exact if_pos rfl

theorem commit_unheld (unheld : row.Unheld i) : row.commit i = row := by
  unfold commit
  split
  · rfl
  · rename_i held
    exact if_neg (unheld _ held)

omit [DecidableEq ι] in
/-- A lock keeps the others waiting. -/
theorem Free.eq (free : row.Free i) (held : row.pending = some (j, value)) : j = i :=
  free _ held

omit [DecidableEq ι] in
theorem Unheld.of_held (held : row.pending = some (j, value)) (other : i ≠ j) : row.Unheld i := by
  intro lock found
  cases held.symm.trans found
  exact other.symm

omit [DecidableEq ι] in
theorem unheld_unlocked {committed : Option ρ} : (unlocked committed).Unheld i :=
  nofun

omit [DecidableEq ι] in
theorem Unheld.of_pending_none (nobody : row.pending = none) : row.Unheld i := by
  intro held found
  cases nobody.symm.trans found

omit [DecidableEq ι] in
/-- The lock that one transaction takes is not another's. -/
theorem unheld_write (other : i ≠ j) : (row.write j value).Unheld i :=
  .of_held pending_write other

@[simp] theorem committed_rollback : (row.rollback i).committed = row.committed := by
  unfold rollback
  split <;> rfl

theorem pending_rollback_self : (row.rollback i).Unheld i := by
  unfold rollback
  split
  · nofun
  · rename_i taken
    intro held found same
    refine taken fun other found' => ?_
    cases found.symm.trans found'
    exact same

theorem Unheld.rollback (unheld : row.Unheld i) : (row.rollback j).Unheld i := by
  unfold LockedRow.rollback
  split
  · exact unheld_unlocked
  · exact unheld

theorem pending_rollback_none (nobody : row.pending = none) : (row.rollback i).pending = none := by
  unfold rollback
  split
  · rfl
  · exact nobody

theorem rollback_other (held : row.pending = some (j, value)) (other : j ≠ i) :
    row.rollback i = row :=
  if_neg fun free => other (free.eq held)

end LockedRow

end Interaction
