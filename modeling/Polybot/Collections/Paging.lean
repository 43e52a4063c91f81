import Mathlib.Data.List.Nodup
import Mathlib.Data.List.Infix
import Mathlib.Data.List.TakeDrop

/-!
Offset paging over a list that changes between the reads.

`collect` puts together the pages of successive reads, each taken from the list as it
was at that read. An element that is in every list is collected once for each time that
it moves, between two reads, from the pages already read to the pages still to read,
and missed once for each move the other way (`count_collect`).
-/

namespace Paging

variable {α : Type} (size : Nat)

/-- Page `k` of a list. -/
def page (k : Nat) (rows : List α) : List α :=
  (rows.drop (size * k)).take size

/-- The pages of successive reads, from page `k` on. -/
def collect : Nat → List (List α) → List α
  | _, [] => []
  | k, rows :: later => page size k rows ++ collect (k + 1) later

@[simp] theorem collect_nil (k : Nat) : collect size k ([] : List (List α)) = [] := rfl

@[simp] theorem collect_cons (k : Nat) (rows : List α) (later : List (List α)) :
    collect size k (rows :: later) = page size k rows ++ collect size (k + 1) later := rfl

/-- The last of the reads was of a short page. -/
def EndsShort (k : Nat) (reads : List (List α)) : Prop :=
  ∃ before last, reads = before ++ [last] ∧ (page size (k + before.length) last).length < size

section Moves

variable [DecidableEq α] (x : α)

/-- How often `x` moves from the pages read to the pages still to read. -/
def forwards : Nat → List (List α) → Nat
  | k, rows :: next :: later =>
      (if rows.idxOf x < size * (k + 1) ∧ size * (k + 1) ≤ next.idxOf x then 1 else 0) +
        forwards (k + 1) (next :: later)
  | _, _ => 0

/-- How often `x` moves from the pages still to read to the pages read. -/
def backwards : Nat → List (List α) → Nat
  | k, rows :: next :: later =>
      (if size * (k + 1) ≤ rows.idxOf x ∧ next.idxOf x < size * (k + 1) then 1 else 0) +
        backwards (k + 1) (next :: later)
  | _, _ => 0

variable {size x} {rows : List α} {reads : List (List α)} {k : Nat}

theorem count_take (member : x ∈ rows) (distinct : rows.Nodup) (n : Nat) :
    (rows.take n).count x = if rows.idxOf x < n then 1 else 0 := by
  have nodup : (rows.take n).Nodup := distinct.sublist (List.take_sublist n rows)
  rw [nodup.count]
  exact if_congr (List.mem_take_iff_idxOf_lt member) rfl rfl

variable (size) in
/-- A page holds `x` when its place is in the page. -/
theorem count_page (member : x ∈ rows) (distinct : rows.Nodup) :
    (page size k rows).count x + (if rows.idxOf x < size * k then 1 else 0) =
      if rows.idxOf x < size * (k + 1) then 1 else 0 := by
  have whole : rows.take (size * (k + 1)) = rows.take (size * k) ++ page size k rows := by
    rw [Nat.mul_succ, List.take_add]
    rfl
  rw [← count_take member distinct, ← count_take member distinct, whole, List.count_append,
    Nat.add_comm]

/-- A short page ends the list. -/
theorem idxOf_lt_of_short (member : x ∈ rows) (short : (page size k rows).length < size) :
    rows.idxOf x < size * (k + 1) := by
  have place := List.idxOf_lt_length_of_mem member
  unfold page at short
  rw [List.length_take, List.length_drop] at short
  rw [Nat.mul_succ]
  omega

/-- The invariant of the reads from page `k` on: what was missed so far is still to come. -/
theorem count_collect_from (members : ∀ other ∈ rows :: reads, x ∈ other)
    (distinct : ∀ other ∈ rows :: reads, other.Nodup) (short : EndsShort size k (rows :: reads)) :
    (collect size k (rows :: reads)).count x + backwards size x k (rows :: reads) +
        (if rows.idxOf x < size * k then 1 else 0) =
      1 + forwards size x k (rows :: reads) := by
  induction reads generalizing k rows with
  | nil =>
      have here := count_page size (k := k) (members rows (by simp))
        (distinct rows (by simp))
      obtain ⟨before, last, split, short⟩ := short
      obtain ⟨rfl, rfl⟩ : before = [] ∧ rows = last := by
        cases before with
        | nil => exact ⟨rfl, (List.cons.inj split).1⟩
        | cons first rest => simp at split
      have place := idxOf_lt_of_short (members rows (by simp)) short
      simp only [List.length_nil, Nat.add_zero] at place
      rw [if_pos place] at here
      simp only [collect_cons, collect_nil, List.append_nil, backwards, forwards]
      omega
  | cons next later ih =>
      have here := count_page size (k := k) (members rows (by simp))
        (distinct rows (by simp))
      have short' : EndsShort size (k + 1) (next :: later) := by
        obtain ⟨before, last, split, short⟩ := short
        cases before with
        | nil => simp at split
        | cons first before =>
            obtain ⟨-, split⟩ := List.cons.inj split
            refine ⟨before, last, split, ?_⟩
            rwa [Nat.add_assoc, Nat.add_comm 1]
      have rest := ih (fun other member => members other (List.mem_cons_of_mem _ member))
        (fun other member => distinct other (List.mem_cons_of_mem _ member)) short'
      rw [collect_cons, List.count_append, backwards, forwards]
      split_ifs at here rest ⊢ <;> omega

/-- How often an element that is in every list is collected. -/
theorem count_collect (members : ∀ rows ∈ reads, x ∈ rows) (distinct : ∀ rows ∈ reads, rows.Nodup)
    (short : EndsShort size 0 reads) :
    (collect size 0 reads).count x + backwards size x 0 reads = 1 + forwards size x 0 reads := by
  cases reads with
  | nil =>
      obtain ⟨before, last, split, -⟩ := short
      simp at split
  | cons rows later => simpa using count_collect_from members distinct short

/-- It is collected exactly once if and only if its moves balance. -/
theorem count_collect_eq_one_iff (members : ∀ rows ∈ reads, x ∈ rows)
    (distinct : ∀ rows ∈ reads, rows.Nodup) (short : EndsShort size 0 reads) :
    (collect size 0 reads).count x = 1 ↔ forwards size x 0 reads = backwards size x 0 reads := by
  have counted := count_collect members distinct short
  omega

/-- A row is not before its place in a shorter list. -/
theorem idxOf_le_of_sublist {next : List α} (grown : rows.Sublist next) (distinct : next.Nodup)
    (member : x ∈ rows) : rows.idxOf x ≤ next.idxOf x := by
  induction grown with
  | slnil => exact absurd member List.not_mem_nil
  | @cons rows next first grown ih =>
      obtain ⟨fresh, distinct⟩ := List.nodup_cons.mp distinct
      have differs : first ≠ x := by
        rintro rfl
        exact fresh (grown.subset member)
      rw [List.idxOf_cons_ne next differs]
      exact (ih distinct member).trans (Nat.le_succ _)
  | @cons_cons rows next first grown ih =>
      by_cases same : first = x
      · rw [same, List.idxOf_cons_self]
        exact Nat.zero_le _
      · rw [List.idxOf_cons_ne rows same, List.idxOf_cons_ne next same]
        have later : x ∈ rows := (List.mem_cons.mp member).resolve_left fun eq => same eq.symm
        exact Nat.succ_le_succ (ih (List.nodup_cons.mp distinct).2 later)

/-- In lists that only grow nothing moves back. -/
theorem backwards_of_grown (grown : reads.Pairwise List.Sublist)
    (members : ∀ rows ∈ reads, x ∈ rows) (distinct : ∀ rows ∈ reads, rows.Nodup) :
    backwards size x k reads = 0 := by
  induction reads generalizing k with
  | nil => rfl
  | cons rows reads ih =>
      cases reads with
      | nil => rfl
      | cons next later =>
          obtain ⟨below, grown⟩ := List.pairwise_cons.mp grown
          have place := idxOf_le_of_sublist (below next List.mem_cons_self)
            (distinct next (by simp)) (members rows List.mem_cons_self)
          rw [backwards, ih grown (fun other member => members other (List.mem_cons_of_mem _ member))
            fun other member => distinct other (List.mem_cons_of_mem _ member),
            if_neg fun moved => absurd (moved.1.trans place) moved.2.not_ge]

/-- What the first of growing lists holds is collected. -/
theorem mem_collect_of_grown (grown : reads.Pairwise List.Sublist)
    (distinct : ∀ rows ∈ reads, rows.Nodup) (short : EndsShort size 0 reads)
    (first : x ∈ reads.head?.getD []) : x ∈ collect size 0 reads := by
  have members : ∀ rows ∈ reads, x ∈ rows := by
    cases reads with
    | nil => exact fun _ member => absurd member List.not_mem_nil
    | cons rows later =>
        obtain ⟨below, -⟩ := List.pairwise_cons.mp grown
        exact List.forall_mem_cons.mpr ⟨first, fun next member => (below next member).subset first⟩
  have counted := count_collect members distinct short
  rw [backwards_of_grown grown members distinct] at counted
  exact List.count_pos_iff.mp (by omega)

end Moves

end Paging
