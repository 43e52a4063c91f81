import Mathlib.Data.List.Nodup
import Mathlib.Data.List.Sort

/-!
Tables with a key.

A table is the list of its rows. `replace` is an update of the row at a key: it
keeps the keys, and every row has its counterpart after it. The first of sorted rows is
the first that no row comes before.
-/

namespace Table

variable {Row Key : Type} [DecidableEq Key] {key : Row → Key} {rows : List Row} {new row : Row}
  {target : Key}

/-- The rows with the one at `target` replaced. -/
def replace (key : Row → Key) (rows : List Row) (target : Key) (new : Row) : List Row :=
  rows.map fun other => if key other = target then new else other

theorem map_key_replace (same : key new = target) :
    (replace key rows target new).map key = rows.map key := by
  unfold replace
  rw [List.map_map]
  refine List.map_congr_left fun other _ => ?_
  by_cases here : key other = target
  · simp [here, same]
  · simp [here]

theorem mem_replace (member : row ∈ replace key rows target new) :
    row = new ∨ row ∈ rows ∧ key row ≠ target := by
  obtain ⟨other, inRows, rfl⟩ := List.mem_map.mp member
  by_cases here : key other = target
  · exact .inl (if_pos here)
  · rw [if_neg here]
    exact .inr ⟨inRows, here⟩

theorem mem_replace_of_ne (member : row ∈ rows) (other : key row ≠ target) :
    row ∈ replace key rows target new :=
  List.mem_map.mpr ⟨row, member, if_neg other⟩

theorem new_mem_replace (member : row ∈ rows) (here : key row = target) :
    new ∈ replace key rows target new :=
  List.mem_map.mpr ⟨row, member, if_pos here⟩

/-- Every row has its counterpart after the replacement. -/
theorem exists_mem_replace (same : key new = target) (member : row ∈ rows) :
    ∃ after ∈ replace key rows target new, key after = key row ∧
      (after = row ∨ after = new) := by
  by_cases here : key row = target
  · exact ⟨new, new_mem_replace member here, same.trans here.symm, .inr rfl⟩
  · exact ⟨row, mem_replace_of_ne member here, rfl, .inl rfl⟩

omit [DecidableEq Key] in
/-- Two rows with one key are the same row. -/
theorem eq_of_key (distinct : (rows.map key).Nodup) {a b : Row} (memberA : a ∈ rows) (memberB : b ∈ rows)
    (same : key a = key b) : a = b :=
  List.inj_on_of_nodup_map distinct memberA memberB same

theorem find?_key (distinct : (rows.map key).Nodup) (member : row ∈ rows) :
    (rows.find? fun other => key other = key row) = some row := by
  cases found : rows.find? fun other => key other = key row with
  | none => exact absurd (decide_eq_true rfl) (List.find?_eq_none.mp found row member)
  | some other =>
      have same : key other = key row := by simpa using List.find?_some found
      rw [eq_of_key distinct (List.mem_of_find?_eq_some found) member same]

theorem filter_key (distinct : (rows.map key).Nodup) (member : row ∈ rows) :
    (rows.filter fun other => key other = key row) = [row] := by
  have unique : ∀ other ∈ rows, (key other = key row ↔ other = row) := fun other inRows =>
    ⟨eq_of_key distinct inRows member, fun same => by rw [same]⟩
  have kept : ∀ other ∈ rows.filter fun other => key other = key row, other = row := by
    intro other inFilter
    obtain ⟨inRows, same⟩ := List.mem_filter.mp inFilter
    exact (unique other inRows).mp (of_decide_eq_true same)
  have nodup : (rows.filter fun other => key other = key row).Nodup :=
    (List.Nodup.of_map key distinct).filter _
  have here : row ∈ rows.filter fun other => key other = key row :=
    List.mem_filter.mpr ⟨member, decide_eq_true rfl⟩
  cases listed : rows.filter fun other => key other = key row with
  | nil => simp [listed] at here
  | cons first rest =>
      rw [listed] at kept nodup
      have isFirst := kept first List.mem_cons_self
      cases rest with
      | nil => rw [isFirst]
      | cons second rest =>
          have isSecond := kept second (by simp)
          simp [isFirst, isSecond] at nodup

omit [DecidableEq Key] in
/-- A row found by a weak test is found by a stronger one that it passes. -/
theorem find?_strengthen {weak strong : Row → Bool} (found : rows.find? weak = some row)
    (passes : strong row = true) (implies : ∀ other, strong other = true → weak other = true) :
    rows.find? strong = some row := by
  obtain ⟨-, front, back, rfl, before⟩ := List.find?_eq_some_iff_append.mp found
  refine List.find?_eq_some_iff_append.mpr ⟨passes, front, back, rfl, fun other inFront => ?_⟩
  have refused := before other inFront
  by_contra accepted
  simp only [Bool.not_eq_true', Bool.not_eq_false] at accepted refused
  rw [implies other accepted] at refused
  cases refused

/-- Filters of rows with the same image. -/
theorem map_filter_same {Row' Image : Type} {rows' : List Row'} {f : Row → Image}
    {f' : Row' → Image} (same : rows.map f = rows'.map f') (test : Image → Bool) :
    (rows.filter fun row => test (f row)).map f = (rows'.filter fun row => test (f' row)).map f' := by
  have images := congrArg (List.filter test) same
  rwa [List.filter_map, List.filter_map] at images

/-! ### Sorted rows -/

section Sorted

omit [DecidableEq Key]

variable {r : Row → Row → Prop} [DecidableRel r]

/-- A stable sort puts the first of the least rows in front. -/
theorem least_of_head?_insertionSort (total : ∀ a b, r a b ∨ r b a)
    (trans : ∀ a b c, r a b → r b c → r a c) (first : (rows.insertionSort r).head? = some row) :
    ∃ front back, rows = front ++ row :: back ∧ (∀ other ∈ front, ¬ r other row) ∧
      ∀ other ∈ rows, r row other := by
  induction rows generalizing row with
  | nil => cases first
  | cons a rest ih =>
      have self : ∀ other, r other other := fun other => (total other other).elim id id
      rw [List.insertionSort_cons] at first
      cases sorted : rest.insertionSort r with
      | nil =>
          rw [sorted] at first
          cases first
          have empty : rest = [] := by
            simpa [sorted] using (List.perm_insertionSort r rest).symm
          exact ⟨[], rest, rfl, by simp, by simpa [empty] using self _⟩
      | cons b others =>
          rw [sorted, List.orderedInsert_cons] at first
          obtain ⟨front, back, split, before, least⟩ := ih (by rw [sorted, List.head?_cons])
          by_cases less : r a b
          · rw [if_pos less] at first
            cases first
            exact ⟨[], rest, rfl, by simp, List.forall_mem_cons.mpr
              ⟨self _, fun other member => trans _ _ _ less (least other member)⟩⟩
          · rw [if_neg less] at first
            cases first
            refine ⟨a :: front, back, by rw [split, List.cons_append], ?_, ?_⟩
            · exact List.forall_mem_cons.mpr ⟨less, before⟩
            · exact List.forall_mem_cons.mpr ⟨(total a row).resolve_left less, least⟩

/-- The head of a stable sort is the first row that no row comes before. -/
theorem head?_insertionSort (total : ∀ a b, r a b ∨ r b a)
    (trans : ∀ a b c, r a b → r b c → r a c) (rows : List Row) :
    (rows.insertionSort r).head? =
      (rows.filter fun row => decide (∀ other ∈ rows, r row other)).head? := by
  rw [List.head?_filter]
  cases first : (rows.insertionSort r).head? with
  | none =>
      have empty : rows = [] := by
        simpa [List.head?_eq_none_iff.mp first] using (List.perm_insertionSort r rows).symm
      rw [empty, List.find?_nil]
  | some row =>
      obtain ⟨front, back, split, before, least⟩ := least_of_head?_insertionSort total trans first
      symm
      rw [List.find?_eq_some_iff_append]
      refine ⟨decide_eq_true least, front, back, split, fun other member => ?_⟩
      rw [Bool.not_eq_true', decide_eq_false_iff_not]
      intro least'
      refine before other member (least' row ?_)
      rw [split]
      exact List.mem_append_right _ List.mem_cons_self

end Sorted

end Table
