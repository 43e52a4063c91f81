import Mathlib.Algebra.BigOperators.Group.List.Basic
import Mathlib.Algebra.Group.Basic
import Mathlib.Data.List.Nodup
import Mathlib.Tactic.Abel
import Mathlib.Tactic.Tauto

/-!
Insertion-ordered dictionaries.

A `Dict` is a list of entries with distinct keys, in the order in which the keys
were first assigned. `set` overwrites in place or appends, so iteration order is
the one of the assignments. The lookup laws and `sum_set` (what an assignment
does to a sum over the entries) are all a client needs.
-/

variable {κ ν : Type}

/-- A finite map, with its keys in the order of their first assignment. -/
structure Dict (κ ν : Type) where
  entries : List (κ × ν)
  nodup : (entries.map Prod.fst).Nodup
  deriving DecidableEq

namespace Dict

def empty : Dict κ ν :=
  ⟨[], List.nodup_nil⟩

def keys (dict : Dict κ ν) : List κ :=
  dict.entries.map Prod.fst

def values (dict : Dict κ ν) : List ν :=
  dict.entries.map Prod.snd

def length (dict : Dict κ ν) : Nat :=
  dict.entries.length

/-- The sum of `weight` over the entries. -/
def sum {M : Type} [AddCommMonoid M] (weight : κ → ν → M) (dict : Dict κ ν) : M :=
  (dict.entries.map fun entry => weight entry.1 entry.2).sum

@[simp] theorem sum_empty {M : Type} [AddCommMonoid M] (weight : κ → ν → M) :
    (empty : Dict κ ν).sum weight = 0 := rfl

variable [DecidableEq κ]

def get? (dict : Dict κ ν) (key : κ) : Option ν :=
  (dict.entries.find? fun entry => entry.1 = key).map Prod.snd

/-- Replace the value of `key` in place, or append the entry. -/
def setEntries (entries : List (κ × ν)) (key : κ) (value : ν) : List (κ × ν) :=
  match entries with
  | [] => [(key, value)]
  | entry :: rest =>
      if entry.1 = key then (key, value) :: rest else entry :: setEntries rest key value

theorem mem_keys_setEntries {entries : List (κ × ν)} {key other : κ} {value : ν} :
    other ∈ (setEntries entries key value).map Prod.fst ↔
      other = key ∨ other ∈ entries.map Prod.fst := by
  induction entries with
  | nil => simp [setEntries]
  | cons entry rest ih =>
      unfold setEntries
      split
      · rename_i same
        simp [same]
      · rw [List.map_cons, List.mem_cons, ih, List.map_cons, List.mem_cons]
        tauto

theorem nodup_setEntries {entries : List (κ × ν)} (distinct : (entries.map Prod.fst).Nodup)
    (key : κ) (value : ν) : ((setEntries entries key value).map Prod.fst).Nodup := by
  induction entries with
  | nil => simp [setEntries]
  | cons entry rest ih =>
      rw [List.map_cons, List.nodup_cons] at distinct
      unfold setEntries
      split
      · rename_i same
        rw [List.map_cons, List.nodup_cons]
        exact ⟨same ▸ distinct.1, distinct.2⟩
      · rename_i differs
        rw [List.map_cons, List.nodup_cons, mem_keys_setEntries]
        refine ⟨?_, ih distinct.2⟩
        rintro (same | member)
        · exact differs same
        · exact distinct.1 member

/-- `dict[key] = value`. -/
def set (dict : Dict κ ν) (key : κ) (value : ν) : Dict κ ν :=
  ⟨setEntries dict.entries key value, nodup_setEntries dict.nodup key value⟩

@[simp] theorem get?_empty (key : κ) : (empty : Dict κ ν).get? key = none := rfl

theorem get?_set_self (dict : Dict κ ν) (key : κ) (value : ν) :
    (dict.set key value).get? key = some value := by
  have found : ∀ entries : List (κ × ν),
      (setEntries entries key value).find? (fun entry => entry.1 = key) = some (key, value) := by
    intro entries
    induction entries with
    | nil => simp [setEntries]
    | cons entry rest ih =>
        unfold setEntries
        split
        · simp
        · rename_i differs
          simp [differs, ih]
  simp [get?, set, found]

theorem get?_set_ne (dict : Dict κ ν) {key other : κ} (differs : other ≠ key) (value : ν) :
    (dict.set key value).get? other = dict.get? other := by
  have found : ∀ entries : List (κ × ν),
      (setEntries entries key value).find? (fun entry => entry.1 = other) =
        entries.find? (fun entry => entry.1 = other) := by
    intro entries
    induction entries with
    | nil => simp [setEntries, differs.symm]
    | cons entry rest ih =>
        unfold setEntries
        split
        · rename_i same
          simp [same, differs.symm]
        · by_cases here : entry.1 = other
          · simp [here]
          · simp [here, ih]
  simp [get?, set, found]

theorem get?_set (dict : Dict κ ν) (key other : κ) (value : ν) :
    (dict.set key value).get? other = if other = key then some value else dict.get? other := by
  split
  · rename_i same
    rw [same, get?_set_self]
  · rename_i differs
    exact dict.get?_set_ne differs value

theorem get?_set_eq_some_iff {dict : Dict κ ν} {key other : κ} {value found : ν} :
    (dict.set key value).get? other = some found ↔
      other = key ∧ value = found ∨ other ≠ key ∧ dict.get? other = some found := by
  rw [get?_set]
  split
  · rename_i same
    simp [same]
  · rename_i differs
    simp [differs]

/-- Lookups and entries agree. -/
theorem get?_eq_some_iff {dict : Dict κ ν} {key : κ} {value : ν} :
    dict.get? key = some value ↔ (key, value) ∈ dict.entries := by
  obtain ⟨entries, nodup⟩ := dict
  simp only [get?]
  induction entries with
  | nil => simp
  | cons entry rest ih =>
      rw [List.map_cons, List.nodup_cons] at nodup
      by_cases here : entry.1 = key
      · have absent : (key, value) ∉ rest := fun member =>
          nodup.1 (here ▸ List.mem_map_of_mem (f := Prod.fst) member)
        simp only [List.find?_cons, here, decide_true, Option.map_some, Option.some.injEq,
          List.mem_cons, absent, or_false]
        constructor
        · intro same
          rw [← here, ← same]
        · intro same
          rw [← same]
      · have differs : (key, value) ≠ entry := fun same => here (by rw [← same])
        simp [here, ih nodup.2, differs]

/-- Assigning the value that a key has changes nothing. -/
theorem set_of_get? {dict : Dict κ ν} {key : κ} {value : ν} (found : dict.get? key = some value) :
    dict.set key value = dict := by
  have member := get?_eq_some_iff.mp found
  clear found
  obtain ⟨entries, distinct⟩ := dict
  unfold set
  congr 1
  dsimp only at member
  induction entries with
  | nil => cases member
  | cons entry rest ih =>
      rw [List.map_cons, List.nodup_cons] at distinct
      unfold setEntries
      rcases List.mem_cons.mp member with rfl | later
      · rw [if_pos rfl]
      · have differs : entry.1 ≠ key := fun same =>
          distinct.1 (same ▸ List.mem_map_of_mem (f := Prod.fst) later)
        rw [if_neg differs, ih distinct.2 later]

theorem mem_values_iff {dict : Dict κ ν} {value : ν} :
    value ∈ dict.values ↔ ∃ key, dict.get? key = some value := by
  simp only [values, List.mem_map, get?_eq_some_iff, Prod.exists, exists_eq_right]

theorem get?_eq_none_iff {dict : Dict κ ν} {key : κ} :
    dict.get? key = none ↔ key ∉ dict.keys := by
  simp only [get?, keys, Option.map_eq_none_iff, List.find?_eq_none, decide_eq_true_eq,
    List.mem_map, not_exists, not_and]

/-- What an assignment does to a sum over the entries. -/
theorem sum_set {M : Type} [AddCommGroup M] (weight : κ → ν → M) (dict : Dict κ ν) (key : κ)
    (value : ν) :
    (dict.set key value).sum weight =
      dict.sum weight + weight key value - ((dict.get? key).map (weight key)).getD 0 := by
  obtain ⟨entries, nodup⟩ := dict
  simp only [sum, set, get?]
  induction entries with
  | nil => simp [setEntries]
  | cons entry rest ih =>
      rw [List.map_cons, List.nodup_cons] at nodup
      by_cases here : entry.1 = key
      · simp [setEntries, here]
        abel
      · simp only [setEntries, here, if_false, List.map_cons, List.sum_cons, ih nodup.2,
          List.find?_cons, decide_false]
        abel

/-- Weights that differ at one key only. -/
theorem sum_congr_except {M : Type} [AddCommGroup M] {weight weight' : κ → ν → M} {key : κ}
    (same : ∀ other value, other ≠ key → weight other value = weight' other value)
    (dict : Dict κ ν) :
    dict.sum weight' - ((dict.get? key).map (weight' key)).getD 0 =
      dict.sum weight - ((dict.get? key).map (weight key)).getD 0 := by
  obtain ⟨entries, nodup⟩ := dict
  simp only [sum, get?]
  induction entries with
  | nil => simp
  | cons entry rest ih =>
      rw [List.map_cons, List.nodup_cons] at nodup
      by_cases here : entry.1 = key
      · have later : (rest.map fun entry => weight' entry.1 entry.2) =
            rest.map fun entry => weight entry.1 entry.2 := by
          refine List.map_congr_left fun other member => (same _ _ ?_).symm
          rintro rfl
          exact nodup.1 (here ▸ List.mem_map_of_mem member)
        simp [here, later]
      · simp only [List.map_cons, List.sum_cons, List.find?_cons, here, decide_false,
          same _ _ here]
        rw [add_sub_assoc, ih nodup.2, add_sub_assoc]

/-- `dict.pop(key, None)`. -/
def erase (dict : Dict κ ν) (key : κ) : Dict κ ν where
  entries := dict.entries.filter fun entry => entry.1 ≠ key
  nodup := dict.nodup.sublist (List.filter_sublist.map Prod.fst)

theorem get?_erase (dict : Dict κ ν) (key other : κ) :
    (dict.erase key).get? other = if other = key then none else dict.get? other := by
  ext value
  rw [get?_eq_some_iff]
  split
  · rename_i same
    simp [erase, same]
  · rename_i differs
    rw [get?_eq_some_iff]
    simp [erase, differs]

/-- `dict.pop(next(iter(dict)))`. -/
def popFirst (dict : Dict κ ν) : Dict κ ν where
  entries := dict.entries.tail
  nodup := dict.nodup.sublist ((List.tail_sublist _).map Prod.fst)

theorem get?_of_popFirst {dict : Dict κ ν} {key : κ} {value : ν}
    (found : dict.popFirst.get? key = some value) : dict.get? key = some value :=
  get?_eq_some_iff.mpr (List.mem_of_mem_tail (get?_eq_some_iff.mp found))

/-! ### Sizes -/

omit [DecidableEq κ] in
@[simp] theorem length_empty : (empty : Dict κ ν).length = 0 :=
  rfl

theorem length_set_le (dict : Dict κ ν) (key : κ) (value : ν) :
    (dict.set key value).length ≤ dict.length + 1 := by
  change (setEntries dict.entries key value).length ≤ dict.entries.length + 1
  induction dict.entries with
  | nil => rfl
  | cons entry rest ih =>
      unfold setEntries
      split
      · exact Nat.le_succ _
      · exact Nat.succ_le_succ ih

theorem length_erase_le (dict : Dict κ ν) (key : κ) : (dict.erase key).length ≤ dict.length :=
  List.length_filter_le _ _

omit [DecidableEq κ] in
theorem length_popFirst (dict : Dict κ ν) : dict.popFirst.length = dict.length - 1 :=
  List.length_tail

/-! ### Equality -/

/-- `dict == other`, which does not look at the order of the keys. -/
def Same (dict other : Dict κ ν) : Prop :=
  ∀ key, dict.get? key = other.get? key

theorem Same.set {dict other : Dict κ ν} (same : dict.Same other) (key : κ) (value : ν) :
    (dict.set key value).Same (other.set key value) := by
  intro k
  rw [get?_set, get?_set, same k]

theorem Same.erase {dict other : Dict κ ν} (same : dict.Same other) (key : κ) :
    (dict.erase key).Same (other.erase key) := by
  intro k
  rw [get?_erase, get?_erase, same k]

/-! ### Collected lists -/

/-- The dictionary holds the items of a list that have a value, by key. -/
def Collects {α : Type} (dict : Dict κ ν) (items : List α) (key : α → κ) (value : α → Option ν) :
    Prop :=
  ∀ k v, dict.get? k = some v ↔ ∃ item ∈ items, key item = k ∧ value item = some v

section Collects

variable {α : Type} {dict : Dict κ ν} {items : List α} {key : α → κ} {value : α → Option ν} {item : α}

theorem Collects.empty : (Dict.empty : Dict κ ν).Collects [] key value := by
  simp [Collects]

/-- Assign the value of a new key. -/
theorem Collects.set (collects : dict.Collects items key value) (fresh : key item ∉ items.map key)
    {v : ν} (valued : value item = some v) :
    (dict.set (key item) v).Collects (items ++ [item]) key value := by
  intro k w
  rw [get?_set]
  split
  · rename_i here
    subst here
    have away : ∀ other ∈ items, key other ≠ key item :=
      fun other member same => fresh (same ▸ List.mem_map_of_mem member)
    constructor
    · rintro ⟨⟩
      exact ⟨item, by simp, rfl, valued⟩
    · rintro ⟨other, member, same, found⟩
      rcases List.mem_append.mp member with earlier | last
      · exact absurd same (away other earlier)
      · rw [List.mem_singleton.mp last, valued] at found
        exact found
  · rename_i differs
    rw [collects k w]
    simp [List.mem_append, or_and_right, exists_or, Ne.symm differs]

/-- An item without a value. -/
theorem Collects.skip (collects : dict.Collects items key value) (skipped : value item = none) :
    dict.Collects (items ++ [item]) key value := by
  intro k w
  rw [collects k w]
  simp [List.mem_append, or_and_right, exists_or, skipped]

theorem Collects.get?_eq (collects : dict.Collects items key value) (distinct : (items.map key).Nodup)
    (member : item ∈ items) : dict.get? (key item) = value item := by
  ext v
  rw [collects]
  constructor
  · rintro ⟨other, there, same, found⟩
    rwa [List.inj_on_of_nodup_map distinct there member same] at found
  · exact fun found => ⟨item, member, rfl, found⟩

theorem Collects.get?_eq_none (collects : dict.Collects items key value) {k : κ}
    (absent : k ∉ items.map key) : dict.get? k = none := by
  rw [Option.eq_none_iff_forall_not_mem]
  intro v found
  obtain ⟨item, member, rfl, -⟩ := (collects k v).mp found
  exact absent (List.mem_map_of_mem member)

end Collects

/-! ### Comprehensions and loops of assignments -/

/-- `{key: f(key, value) for ...}`, without the keys that `f` drops. -/
def filterMap {μ : Type} (select : κ → ν → Option μ) (dict : Dict κ ν) : Dict κ μ where
  entries := dict.entries.filterMap fun entry => (select entry.1 entry.2).map (entry.1, ·)
  nodup := by
    refine List.Nodup.sublist ?_ dict.nodup
    induction dict.entries with
    | nil => simp
    | cons entry rest ih =>
        cases chosen : select entry.1 entry.2 with
        | none => simpa [chosen] using ih.cons entry.1
        | some image => simpa [chosen] using ih

theorem get?_filterMap {μ : Type} (select : κ → ν → Option μ) (dict : Dict κ ν) (key : κ) :
    (dict.filterMap select).get? key = (dict.get? key).bind (select key) := by
  ext image
  rw [get?_eq_some_iff, Option.bind_eq_some_iff]
  simp only [filterMap, List.mem_filterMap, Option.map_eq_some_iff, Prod.mk.injEq]
  constructor
  · rintro ⟨⟨key', value⟩, member, _, chosen, rfl, rfl⟩
    exact ⟨value, get?_eq_some_iff.mpr member, chosen⟩
  · rintro ⟨value, found, chosen⟩
    exact ⟨(key, value), get?_eq_some_iff.mp found, image, chosen, rfl, rfl⟩

/-- `{key: f(key, value) for ...}`. -/
def map {μ : Type} (f : κ → ν → μ) (dict : Dict κ ν) : Dict κ μ :=
  dict.filterMap fun key value => some (f key value)

@[simp] theorem get?_map {μ : Type} (f : κ → ν → μ) (dict : Dict κ ν) (key : κ) :
    (dict.map f).get? key = (dict.get? key).map (f key) := by
  rw [map, get?_filterMap]
  exact Option.map_eq_bind.symm

omit [DecidableEq κ] in
theorem entries_map {μ : Type} (f : κ → ν → μ) (dict : Dict κ ν) :
    (dict.map f).entries = dict.entries.map fun entry => (entry.1, f entry.1 entry.2) := by
  simp only [map, filterMap, Option.map_some, List.filterMap_eq_map']

omit [DecidableEq κ] in
/-- Dictionaries with the same entries are the same. -/
theorem ext_entries {dict other : Dict κ ν} (same : dict.entries = other.entries) :
    dict = other := by
  obtain ⟨entries, nodup⟩ := dict
  obtain ⟨entries', nodup'⟩ := other
  cases same
  rfl

/-- An assignment and a projection of the values. -/
theorem map_set {μ : Type} (f : κ → ν → μ) (dict : Dict κ ν) (key : κ) (value : ν) :
    (dict.set key value).map f = (dict.map f).set key (f key value) := by
  apply ext_entries
  rw [entries_map]
  change (setEntries dict.entries key value).map _ = setEntries (dict.map f).entries key _
  rw [entries_map]
  generalize dict.entries = entries
  induction entries with
  | nil => rfl
  | cons entry rest ih =>
      rw [List.map_cons, setEntries, setEntries]
      by_cases here : entry.1 = key
      · rw [if_pos here, if_pos here, List.map_cons]
      · rw [if_neg here, if_neg here, List.map_cons, ih]

omit [DecidableEq κ] in
theorem sum_filterMap {μ M : Type} [AddCommMonoid M] (select : κ → ν → Option μ)
    (weight : κ → μ → M) (dict : Dict κ ν) :
    (dict.filterMap select).sum weight =
      dict.sum fun key value => ((select key value).map (weight key)).getD 0 := by
  obtain ⟨entries, nodup⟩ := dict
  simp only [sum, filterMap]
  clear nodup
  induction entries with
  | nil => simp
  | cons entry rest ih =>
      cases chosen : select entry.1 entry.2 with
      | none => simp [chosen, ih]
      | some image => simp [chosen, ih]

omit [DecidableEq κ] in
theorem sum_congr {M : Type} [AddCommMonoid M] {weight weight' : κ → ν → M} {dict : Dict κ ν}
    (same : ∀ key value, (key, value) ∈ dict.entries → weight key value = weight' key value) :
    dict.sum weight = dict.sum weight' := by
  unfold sum
  congr 1
  exact List.map_congr_left fun entry member => same entry.1 entry.2 member

/-- `for key in keys: dict[key] = value`. -/
def setAll (dict : Dict κ ν) (keys : List κ) (value : ν) : Dict κ ν :=
  keys.foldl (fun dict key => dict.set key value) dict

theorem get?_setAll (dict : Dict κ ν) (keys : List κ) (value : ν) (key : κ) :
    (dict.setAll keys value).get? key = if key ∈ keys then some value else dict.get? key := by
  induction keys generalizing dict with
  | nil => simp [setAll]
  | cons first rest ih =>
      have unrolled : dict.setAll (first :: rest) value = (dict.set first value).setAll rest value :=
        rfl
      rw [unrolled, ih, get?_set]
      by_cases later : key ∈ rest
      · simp [later]
      · by_cases here : key = first <;> simp [here, later]

/-- A loop that assigns a weightless value removes what the keys weighed. -/
theorem sum_setAll {M : Type} [AddCommGroup M] (weight : κ → ν → M) (dict : Dict κ ν)
    {keys : List κ} (distinct : keys.Nodup) {value : ν} (weightless : ∀ key, weight key value = 0) :
    (dict.setAll keys value).sum weight =
      dict.sum weight - (keys.map fun key => ((dict.get? key).map (weight key)).getD 0).sum := by
  induction keys generalizing dict with
  | nil => simp [setAll]
  | cons first rest ih =>
      obtain ⟨absent, distinct⟩ := List.nodup_cons.mp distinct
      have unrolled : dict.setAll (first :: rest) value = (dict.set first value).setAll rest value :=
        rfl
      have others : (rest.map fun key => (((dict.set first value).get? key).map (weight key)).getD 0) =
          rest.map fun key => ((dict.get? key).map (weight key)).getD 0 := by
        refine List.map_congr_left fun key member => ?_
        have differs : key ≠ first := fun same => absent (same ▸ member)
        rw [get?_set_ne _ differs]
      rw [unrolled, ih _ distinct, sum_set, weightless, others, List.map_cons, List.sum_cons]
      abel

end Dict
