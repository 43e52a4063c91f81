import Mathlib.Algebra.BigOperators.Group.Finset.Basic
import Mathlib.Algebra.Order.BigOperators.Group.List
import Polybot.Collections.Dict

/-!
Sums of a dictionary by label.

A second dictionary labels the keys. `groupSum` is what the keys of one label add
up to, and `groupSum_set` what an assignment and a new label of one key do to it.
A sum is determined by what every key weighs (`sum_eq_of_weights`), in whatever
order the dictionaries hold their keys.
-/

namespace Dict

variable {κ ν μ M : Type} [DecidableEq κ] [DecidableEq μ]

theorem sum_eq_sum_keys [AddCommMonoid M] (weight : κ → ν → M) (dict : Dict κ ν) :
    dict.sum weight =
      ∑ key ∈ dict.keys.toFinset, ((dict.get? key).map (weight key)).getD 0 := by
  unfold sum keys
  rw [List.sum_toFinset _ dict.nodup, List.map_map]
  congr 1
  refine List.map_congr_left fun entry member => ?_
  have found : dict.get? entry.1 = some entry.2 := get?_eq_some_iff.mpr member
  simp [found]

/-- Dictionaries in which every key weighs the same have the same sum. -/
theorem sum_eq_of_weights [AddCommMonoid M] {weight weight' : κ → ν → M} {dict dict' : Dict κ ν}
    (same : ∀ key, ((dict.get? key).map (weight key)).getD 0 =
      ((dict'.get? key).map (weight' key)).getD 0) : dict.sum weight = dict'.sum weight' := by
  have absent {dict : Dict κ ν} {weight : κ → ν → M} {key : κ} (away : key ∉ dict.keys.toFinset) :
      ((dict.get? key).map (weight key)).getD 0 = 0 := by
    rw [List.mem_toFinset] at away
    rw [get?_eq_none_iff.mpr away]
    rfl
  rw [sum_eq_sum_keys, sum_eq_sum_keys]
  calc ∑ key ∈ dict.keys.toFinset, ((dict.get? key).map (weight key)).getD 0
      = ∑ key ∈ dict.keys.toFinset ∪ dict'.keys.toFinset,
          ((dict.get? key).map (weight key)).getD 0 :=
        Finset.sum_subset Finset.subset_union_left fun _ _ away => absent away
    _ = ∑ key ∈ dict.keys.toFinset ∪ dict'.keys.toFinset,
          ((dict'.get? key).map (weight' key)).getD 0 := Finset.sum_congr rfl fun key _ => same key
    _ = ∑ key ∈ dict'.keys.toFinset, ((dict'.get? key).map (weight' key)).getD 0 :=
        (Finset.sum_subset Finset.subset_union_right fun _ _ away => absent away).symm

/-- The sum of the values whose key has the label. -/
def groupSum [AddCommMonoid M] (values : Dict κ M) (labels : Dict κ μ) (label : μ) : M :=
  values.sum fun key value => if labels.get? key = some label then value else 0

/-- Groups are determined by the values and the labels that the keys have. -/
theorem groupSum_congr [AddCommMonoid M] {values values' : Dict κ M} {labels labels' : Dict κ μ}
    (same : ∀ key, (values.get? key).getD 0 = (values'.get? key).getD 0)
    (labelled : ∀ key, (values.get? key).getD 0 ≠ 0 → labels.get? key = labels'.get? key) (label : μ) :
    values.groupSum labels label = values'.groupSum labels' label := by
  have weight (values : Dict κ M) (labels : Dict κ μ) (key : κ) :
      ((values.get? key).map fun value => if labels.get? key = some label then value else 0).getD 0 =
        if labels.get? key = some label then (values.get? key).getD 0 else 0 := by
    cases values.get? key with
    | none => simp
    | some value => rfl
  refine sum_eq_of_weights fun key => ?_
  rw [weight, weight, ← same]
  by_cases none : (values.get? key).getD 0 = 0
  · simp [none]
  · rw [labelled key none]

@[simp] theorem groupSum_empty [AddCommMonoid M] (labels : Dict κ μ) (label : μ) :
    (empty : Dict κ M).groupSum labels label = 0 := rfl

/-- Only the group that the key leaves and the group that it enters change. -/
theorem groupSum_set [AddCommGroup M] {labels labels' : Dict κ μ} {key : κ}
    (others : ∀ other, other ≠ key → labels'.get? other = labels.get? other)
    (values : Dict κ M) (value : M) (label : μ) :
    (values.set key value).groupSum labels' label =
      values.groupSum labels label
        - (if labels.get? key = some label then (values.get? key).getD 0 else 0)
        + (if labels'.get? key = some label then value else 0) := by
  have weight (labels : Dict κ μ) : ((values.get? key).map fun value =>
      if labels.get? key = some label then value else 0).getD 0 =
        if labels.get? key = some label then (values.get? key).getD 0 else 0 := by
    cases values.get? key with
    | none => simp
    | some value => rfl
  have moved : (values.sum fun other value => if labels'.get? other = some label then value else 0)
        - ((values.get? key).map fun value =>
          if labels'.get? key = some label then value else 0).getD 0 =
      (values.sum fun other value => if labels.get? other = some label then value else 0)
        - ((values.get? key).map fun value =>
          if labels.get? key = some label then value else 0).getD 0 :=
    sum_congr_except (fun other value differs => by rw [others other differs]) values
  unfold groupSum
  rw [sum_set, add_sub_right_comm, moved, weight]

/-- A member of a group without negative values is within its sum. -/
theorem le_groupSum [AddCommMonoid M] [LinearOrder M] [IsOrderedAddMonoid M] {values : Dict κ M}
    {labels : Dict κ μ} (nonneg : ∀ key, 0 ≤ (values.get? key).getD 0) {key : κ} {label : μ}
    (labelled : labels.get? key = some label) :
    (values.get? key).getD 0 ≤ values.groupSum labels label := by
  have entry_nonneg : ∀ entry ∈ values.entries,
      0 ≤ if labels.get? entry.1 = some label then entry.2 else 0 := by
    rintro ⟨other, value⟩ member
    split
    · have here := nonneg other
      rwa [get?_eq_some_iff.mpr member] at here
    · exact le_rfl
  unfold groupSum Dict.sum
  cases found : values.get? key with
  | none =>
      refine List.sum_nonneg fun value member => ?_
      obtain ⟨entry, here, rfl⟩ := List.mem_map.mp member
      exact entry_nonneg entry here
  | some value =>
      refine List.single_le_sum (fun value member => ?_) value ?_
      · obtain ⟨entry, here, rfl⟩ := List.mem_map.mp member
        exact entry_nonneg entry here
      · exact List.mem_map.mpr ⟨(key, value), get?_eq_some_iff.mp found, by simp [labelled]⟩

end Dict
