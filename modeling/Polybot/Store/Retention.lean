import Mathlib.Data.List.Sort
import Mathlib.Data.List.Perm.Basic
import Polybot.Interaction.Machine
import Polybot.Models

/-!
The retention of the history tables (`0020_data_retention.sql`, and `prune_history` of
`MemoryStore`).

A pass removes rows that are older than the window of their table, up to a batch limit. The
database removes the oldest of all rows, the memory store goes through its accounts in turn,
so the two keep different old rows. Both remove as many, and which fresh rows there are is
the same: with `Alike` as the relation, `prune_stands_in_iff` says for which parameters no
run can tell the two apart.
-/

namespace Polybot

open Interaction

/-- A row of a history table, as far as a pass reads it. -/
structure HistoryRow where
  id : Nat
  accountId : String
  recordedAt : Instant

/-- The rows before a cutoff. -/
def HistoryRow.isOld (cutoff : Instant) (row : HistoryRow) : Bool :=
  decide (row.recordedAt < cutoff)

structure PruneParameters where
  aiUsageDays : Int
  equityDays : Int
  snapshotDays : Int
  batchLimit : Int

/-- What a pass reports. -/
structure PruneCounts where
  aiUsageLedger : Nat
  equityHistory : Nat
  snapshots : Nat

def cutoffOf (now : Instant) (days : Int) : Instant :=
  now - days * 86400000000

/-! ### The database -/

structure HistoryTables where
  aiUsageLedger : List HistoryRow
  equityHistory : List HistoryRow
  snapshots : List HistoryRow

/-- The rows of `doomed`; those of one time are taken in the order of the table. -/
def doomedRows (cutoff : Instant) (limit : Nat) (rows : List HistoryRow) : List HistoryRow :=
  ((rows.filter (HistoryRow.isOld cutoff)).insertionSort
    fun row other => row.recordedAt ≤ other.recordedAt).take limit

/-- Whether a row is deleted `using doomed`. -/
def isDoomed (cutoff : Instant) (limit : Nat) (rows : List HistoryRow) (row : HistoryRow) : Bool :=
  decide (row.id ∈ (doomedRows cutoff limit rows).map HistoryRow.id)

/-- One `delete`: the rows that remain, and the row count. -/
def deleteDoomed (cutoff : Instant) (limit : Nat) (rows : List HistoryRow) :
    List HistoryRow × Nat :=
  (rows.filter fun row => !isDoomed cutoff limit rows row,
    (rows.filter (isDoomed cutoff limit rows)).length)

/-- The windows that both stores accept. -/
def PruneParameters.WindowsValid (given : PruneParameters) : Prop :=
  7 ≤ given.aiUsageDays ∧ 30 ≤ given.equityDays ∧ 1 ≤ given.snapshotDays

instance (given : PruneParameters) : Decidable given.WindowsValid :=
  inferInstanceAs (Decidable (_ ∧ _))

/-- `prune_polybot_history`; `none` where it raises. -/
def HistoryTables.prune (given : PruneParameters) (now : Instant) (tables : HistoryTables) :
    HistoryTables × Option PruneCounts :=
  if given.WindowsValid then
    if 100 ≤ given.batchLimit ∧ given.batchLimit ≤ 200000 then
      let limit := given.batchLimit.toNat
      let usage := deleteDoomed (cutoffOf now given.aiUsageDays) limit tables.aiUsageLedger
      let equity := deleteDoomed (cutoffOf now given.equityDays) limit tables.equityHistory
      let snapshots := deleteDoomed (cutoffOf now given.snapshotDays) limit tables.snapshots
      (⟨usage.1, equity.1, snapshots.1⟩, some ⟨usage.2, equity.2, snapshots.2⟩)
    else (tables, none)
  else (tables, none)

/-! ### The memory store -/

/-- The histories of `MemoryStore`, two of them as the items of a dictionary by account. -/
structure MemoryHistory where
  aiUsage : List (String × List HistoryRow)
  equityHistory : List (String × List HistoryRow)
  snapshots : List HistoryRow

/-- The rows without the first so many old ones. -/
def dropOld (cutoff : Instant) : Nat → List HistoryRow → List HistoryRow
  | _, [] => []
  | 0, row :: rest => row :: rest
  | budget + 1, row :: rest =>
      if row.isOld cutoff = true then dropOld cutoff budget rest
      else row :: dropOld cutoff (budget + 1) rest

/-- The loop over the accounts, with what is left of the budget. -/
def pruneAccounts (cutoff : Instant) (budget : Nat) :
    List (String × List HistoryRow) → List (String × List HistoryRow) × Nat
  | [] => ([], 0)
  | (account, rows) :: rest =>
      let doomed := (rows.filter (HistoryRow.isOld cutoff)).take budget
      if doomed.isEmpty = true then
        let later := pruneAccounts cutoff budget rest
        ((account, rows) :: later.1, later.2)
      else if budget ≤ doomed.length then
        ((account, dropOld cutoff budget rows) :: rest, doomed.length)
      else
        let later := pruneAccounts cutoff (budget - doomed.length) rest
        ((account, dropOld cutoff budget rows) :: later.1, doomed.length + later.2)

/-- `MemoryStore.prune_history`; `none` where it raises. -/
def MemoryHistory.prune (given : PruneParameters) (now : Instant) (memory : MemoryHistory) :
    MemoryHistory × Option PruneCounts :=
  if given.WindowsValid then
    if 100 ≤ given.batchLimit then
      let limit := given.batchLimit.toNat
      let usage := pruneAccounts (cutoffOf now given.aiUsageDays) limit memory.aiUsage
      let equity := pruneAccounts (cutoffOf now given.equityDays) limit memory.equityHistory
      let cutoff := cutoffOf now given.snapshotDays
      let doomed := (memory.snapshots.filter (HistoryRow.isOld cutoff)).take limit
      (⟨usage.1, equity.1, dropOld cutoff limit memory.snapshots⟩,
        some ⟨usage.2, equity.2, doomed.length⟩)
    else (memory, none)
  else (memory, none)

/-- `setdefault(account_id, []).append(...)`. -/
def appendRow (row : HistoryRow) :
    List (String × List HistoryRow) → List (String × List HistoryRow)
  | [] => [(row.accountId, [row])]
  | (account, rows) :: rest =>
      if account = row.accountId then (account, rows ++ [row]) :: rest
      else (account, rows) :: appendRow row rest

/-! ### Runs -/

/-- A row is recorded, or a pass is made. -/
inductive HistoryEvent where
  | recordUsage (row : HistoryRow)
  | recordEquity (row : HistoryRow)
  | saveSnapshot (row : HistoryRow)
  | prune (now : Instant)

def HistoryTables.next (given : PruneParameters) (tables : HistoryTables) :
    HistoryEvent → HistoryTables × Option (Option PruneCounts)
  | .recordUsage row => ({ tables with aiUsageLedger := tables.aiUsageLedger ++ [row] }, none)
  | .recordEquity row => ({ tables with equityHistory := tables.equityHistory ++ [row] }, none)
  | .saveSnapshot row => ({ tables with snapshots := tables.snapshots ++ [row] }, none)
  | .prune now => ((tables.prune given now).1, some (tables.prune given now).2)

def MemoryHistory.next (given : PruneParameters) (memory : MemoryHistory) :
    HistoryEvent → MemoryHistory × Option (Option PruneCounts)
  | .recordUsage row => ({ memory with aiUsage := appendRow row memory.aiUsage }, none)
  | .recordEquity row => ({ memory with equityHistory := appendRow row memory.equityHistory }, none)
  | .saveSnapshot row => ({ memory with snapshots := memory.snapshots ++ [row] }, none)
  | .prune now => ((memory.prune given now).1, some (memory.prune given now).2)

/-- New rows have new keys, and the passes are made in the order of their times. -/
def HistoryInOrder (given : PruneParameters) (clock : Instant) (tables : HistoryTables) :
    List HistoryEvent → Prop
  | [] => True
  | event :: rest =>
      (match event with
        | .recordUsage row => row.id ∉ tables.aiUsageLedger.map HistoryRow.id
        | .recordEquity row => row.id ∉ tables.equityHistory.map HistoryRow.id
        | .saveSnapshot row => row.id ∉ tables.snapshots.map HistoryRow.id
        | .prune now => clock ≤ now) ∧
      HistoryInOrder given (match event with | .prune now => now | _ => clock)
        (tables.next given event).1 rest

/-- The memory store reports what the database does, in every run from empty stores. -/
def PruneStandsIn (given : PruneParameters) : Prop :=
  ∀ clock events, HistoryInOrder given clock ⟨[], [], []⟩ events →
    answers (MemoryHistory.next given) ⟨[], [], []⟩ events =
      answers (HistoryTables.next given) ⟨[], [], []⟩ events

/-! ### What a pass does to old and to fresh rows -/

section Passes

variable {cutoff : Instant} {limit budget : Nat} {rows : List HistoryRow}

/-- The number of old rows. -/
def oldCount (cutoff : Instant) (rows : List HistoryRow) : Nat :=
  rows.countP (HistoryRow.isOld cutoff)

/-- The other rows. -/
def freshRows (cutoff : Instant) (rows : List HistoryRow) : List HistoryRow :=
  rows.filter fun row => !row.isOld cutoff

theorem dropOld_zero : dropOld cutoff 0 rows = rows := by
  cases rows <;> rfl

theorem oldCount_dropOld :
    oldCount cutoff (dropOld cutoff budget rows) = oldCount cutoff rows - budget := by
  induction rows generalizing budget with
  | nil => simp [dropOld, oldCount]
  | cons row rest ih =>
      cases budget with
      | zero => rfl
      | succ budget =>
          unfold dropOld
          split
          · rename_i old
            rw [ih, oldCount, oldCount, List.countP_cons_of_pos old]
            omega
          · rename_i fresh
            have kept := @ih (budget + 1)
            unfold oldCount at kept ⊢
            rw [List.countP_cons_of_neg fresh, List.countP_cons_of_neg fresh, kept]

theorem freshRows_dropOld :
    freshRows cutoff (dropOld cutoff budget rows) = freshRows cutoff rows := by
  induction rows generalizing budget with
  | nil => rfl
  | cons row rest ih =>
      cases budget with
      | zero => rfl
      | succ budget =>
          unfold dropOld
          split
          · rename_i old
            rw [ih]
            simp [freshRows, old]
          · rename_i fresh
            have kept := @ih (budget + 1)
            unfold freshRows at kept ⊢
            simp [fresh, kept]

theorem length_doomed (cutoff : Instant) (limit : Nat) (rows : List HistoryRow) :
    ((rows.filter (HistoryRow.isOld cutoff)).take limit).length =
      min limit (oldCount cutoff rows) := by
  rw [List.length_take, ← List.countP_eq_length_filter]
  rfl

/-- The rows of all accounts. -/
def allRows (accounts : List (String × List HistoryRow)) : List HistoryRow :=
  accounts.flatMap Prod.snd

/-- The loop over the accounts removes as many old rows as the budget allows. -/
theorem pruneAccounts_spec (cutoff : Instant) (budget : Nat)
    (accounts : List (String × List HistoryRow)) :
    (pruneAccounts cutoff budget accounts).2 = min budget (oldCount cutoff (allRows accounts)) ∧
      oldCount cutoff (allRows (pruneAccounts cutoff budget accounts).1) =
        oldCount cutoff (allRows accounts) - budget ∧
      freshRows cutoff (allRows (pruneAccounts cutoff budget accounts).1) =
        freshRows cutoff (allRows accounts) := by
  induction accounts generalizing budget with
  | nil => simp [pruneAccounts, allRows, oldCount]
  | cons entry rest ih =>
      obtain ⟨account, rows⟩ := entry
      have count : ∀ kept later, oldCount cutoff (allRows ((account, kept) :: later)) =
          oldCount cutoff kept + oldCount cutoff (allRows later) := by
        intro kept later
        simp [allRows, oldCount]
      have fresh : ∀ kept later, freshRows cutoff (allRows ((account, kept) :: later)) =
          freshRows cutoff kept ++ freshRows cutoff (allRows later) := by
        intro kept later
        simp [allRows, freshRows]
      have doomed := length_doomed cutoff budget rows
      unfold pruneAccounts
      dsimp only
      split
      · rename_i empty
        obtain ⟨removed, olds, freshes⟩ := ih budget
        rw [List.isEmpty_iff] at empty
        rw [empty, List.length_nil] at doomed
        dsimp only
        rw [count, count, fresh, fresh, removed, olds, freshes]
        refine ⟨?_, ?_, rfl⟩ <;> omega
      · split
        · rename_i spent
          rw [doomed] at spent
          dsimp only
          rw [count, count, fresh, fresh, doomed, oldCount_dropOld, freshRows_dropOld]
          refine ⟨?_, ?_, rfl⟩ <;> omega
        · rename_i left
          rw [doomed] at left
          obtain ⟨removed, olds, freshes⟩ :=
            ih (budget - ((rows.filter (HistoryRow.isOld cutoff)).take budget).length)
          dsimp only
          rw [count, count, fresh, fresh, removed, olds, freshes, doomed, oldCount_dropOld,
            freshRows_dropOld]
          refine ⟨?_, ?_, rfl⟩ <;> omega

/-- A `delete` of rows with distinct keys removes as many old rows as the limit allows. -/
theorem deleteDoomed_spec (cutoff : Instant) (limit : Nat)
    (distinct : (rows.map HistoryRow.id).Nodup) :
    (deleteDoomed cutoff limit rows).2 = min limit (oldCount cutoff rows) ∧
      oldCount cutoff (deleteDoomed cutoff limit rows).1 = oldCount cutoff rows - limit ∧
      freshRows cutoff (deleteDoomed cutoff limit rows).1 = freshRows cutoff rows := by
  have sorted := List.perm_insertionSort
    (fun row other : HistoryRow => row.recordedAt ≤ other.recordedAt)
    (rows.filter (HistoryRow.isOld cutoff))
  have doomedOld : ∀ row ∈ doomedRows cutoff limit rows, row ∈ rows ∧ row.isOld cutoff = true := by
    intro row member
    exact List.mem_filter.mp (sorted.mem_iff.mp (List.mem_of_mem_take member))
  -- A key belongs to one row, so what is deleted is what is doomed.
  have same : ∀ row ∈ rows,
      isDoomed cutoff limit rows row = true ↔ row ∈ doomedRows cutoff limit rows := by
    intro row member
    unfold isDoomed
    rw [decide_eq_true_iff, List.mem_map]
    constructor
    · rintro ⟨other, doomed, key⟩
      rw [← List.inj_on_of_nodup_map distinct (doomedOld other doomed).1 member key]
      exact doomed
    · exact fun doomed => ⟨row, doomed, rfl⟩
  have nodup : rows.Nodup := distinct.of_map _
  have deleted : (rows.filter (isDoomed cutoff limit rows)).Perm
      (doomedRows cutoff limit rows) := by
    refine (List.perm_ext_iff_of_nodup (nodup.filter _)
      ((sorted.nodup_iff.mpr (nodup.filter _)).sublist (List.take_sublist _ _))).mpr fun row => ?_
    rw [List.mem_filter]
    exact ⟨fun both => (same row both.1).mp both.2, fun doomed =>
      ⟨(doomedOld row doomed).1, (same row (doomedOld row doomed).1).mpr doomed⟩⟩
  have count : (rows.filter (isDoomed cutoff limit rows)).length =
      min limit (oldCount cutoff rows) := by
    rw [deleted.length_eq, doomedRows, List.length_take, sorted.length_eq,
      ← List.countP_eq_length_filter]
    rfl
  have olds : ∀ row ∈ rows, isDoomed cutoff limit rows row = true → row.isOld cutoff = true :=
    fun row member doomed => (doomedOld row ((same row member).mp doomed)).2
  refine ⟨count, ?_, ?_⟩
  · have split : oldCount cutoff rows =
        oldCount cutoff (rows.filter fun row => !isDoomed cutoff limit rows row) +
          (rows.filter (isDoomed cutoff limit rows)).length := by
      unfold oldCount
      rw [List.countP_filter, ← List.countP_eq_length_filter, List.countP_eq_countP_filter_add rows
        (HistoryRow.isOld cutoff) (fun row => !isDoomed cutoff limit rows row)]
      rw [List.countP_filter, List.countP_filter]
      congr 1
      refine List.countP_congr fun row member => ?_
      have old := olds row member
      cases doomed : isDoomed cutoff limit rows row <;> simp_all
    change oldCount cutoff (rows.filter _) = _
    omega
  · change freshRows cutoff (rows.filter _) = _
    unfold freshRows
    rw [List.filter_filter]
    refine List.filter_congr fun row member => ?_
    have old := olds row member
    cases doomed : isDoomed cutoff limit rows row <;> simp_all

end Passes

/-! ### Two histories that report alike -/

/-- As many old rows, and the same fresh ones. -/
structure Alike (cutoff : Instant) (rows other : List HistoryRow) : Prop where
  olds : oldCount cutoff rows = oldCount cutoff other
  freshes : (freshRows cutoff rows).Perm (freshRows cutoff other)

namespace Alike

variable {cutoff cutoff' : Instant} {rows other rows' other' : List HistoryRow} {row : HistoryRow}

theorem oldCount_of_le (order : cutoff ≤ cutoff') (rows : List HistoryRow) :
    oldCount cutoff' rows = oldCount cutoff rows + oldCount cutoff' (freshRows cutoff rows) := by
  induction rows with
  | nil => rfl
  | cons row rest ih =>
      unfold oldCount freshRows HistoryRow.isOld at ih ⊢
      simp only [List.countP_cons, List.filter_cons, decide_eq_true_eq]
      by_cases old : row.recordedAt < cutoff
      · have before : row.recordedAt < cutoff' := old.trans_le order
        simp only [old, before, decide_true, Bool.not_true, if_true, if_false, ih,
          Bool.false_eq_true]
        omega
      · simp only [old, decide_false, Bool.not_false, if_true, if_false, List.countP_cons,
          decide_eq_true_eq, ih]
        omega

theorem freshRows_of_le (order : cutoff ≤ cutoff') (rows : List HistoryRow) :
    freshRows cutoff' rows = freshRows cutoff' (freshRows cutoff rows) := by
  unfold freshRows
  rw [List.filter_filter]
  refine List.filter_congr fun row _ => ?_
  unfold HistoryRow.isOld
  by_cases old : row.recordedAt < cutoff
  · simp [old, old.trans_le order]
  · simp [old]

/-- The relation is kept as the clock advances. -/
theorem later (alike : Alike cutoff rows other) (order : cutoff ≤ cutoff') :
    Alike cutoff' rows other where
  olds := by
    rw [oldCount_of_le order rows, oldCount_of_le order other, alike.olds]
    congr 1
    exact alike.freshes.countP_eq _
  freshes := by
    rw [freshRows_of_le order rows, freshRows_of_le order other]
    exact alike.freshes.filter _

theorem perm (alike : Alike cutoff rows other) (same : other.Perm other') :
    Alike cutoff rows other' where
  olds := alike.olds.trans (same.countP_eq _)
  freshes := alike.freshes.trans (same.filter _)

/-- The relation is kept by a row that both record. -/
theorem append (alike : Alike cutoff rows other) (row : HistoryRow) :
    Alike cutoff (rows ++ [row]) (other ++ [row]) where
  olds := by
    unfold oldCount
    rw [List.countP_append, List.countP_append]
    congr 1
    exact alike.olds
  freshes := by
    unfold freshRows
    rw [List.filter_append, List.filter_append]
    exact alike.freshes.append_right _

/-- The relation is kept by passes that remove as many old rows and nothing else. -/
theorem pruned (alike : Alike cutoff rows other) {limit : Nat}
    (olds : oldCount cutoff rows' = oldCount cutoff rows - limit)
    (freshes : freshRows cutoff rows' = freshRows cutoff rows)
    (olds' : oldCount cutoff other' = oldCount cutoff other - limit)
    (freshes' : freshRows cutoff other' = freshRows cutoff other) : Alike cutoff rows' other' where
  olds := by rw [olds, olds', alike.olds]
  freshes := by
    rw [freshes, freshes']
    exact alike.freshes

end Alike

theorem allRows_appendRow (row : HistoryRow) (accounts : List (String × List HistoryRow)) :
    (allRows accounts ++ [row]).Perm (allRows (appendRow row accounts)) := by
  induction accounts with
  | nil => exact List.Perm.refl _
  | cons entry rest ih =>
      obtain ⟨account, rows⟩ := entry
      unfold appendRow
      split
      · change (rows ++ allRows rest ++ [row]).Perm (rows ++ [row] ++ allRows rest)
        rw [List.append_assoc, List.append_assoc]
        exact List.Perm.append_left _ List.perm_append_comm
      · change (rows ++ allRows rest ++ [row]).Perm (rows ++ allRows (appendRow row rest))
        rw [List.append_assoc]
        exact ih.append_left _

/-- The tables of the database and the histories of the memory store, at a time. -/
structure StoresAlike (given : PruneParameters) (clock : Instant) (tables : HistoryTables)
    (memory : MemoryHistory) : Prop where
  usage : Alike (cutoffOf clock given.aiUsageDays) tables.aiUsageLedger (allRows memory.aiUsage)
  equity : Alike (cutoffOf clock given.equityDays) tables.equityHistory
    (allRows memory.equityHistory)
  snapshots : Alike (cutoffOf clock given.snapshotDays) tables.snapshots memory.snapshots
  usageIds : (tables.aiUsageLedger.map HistoryRow.id).Nodup
  equityIds : (tables.equityHistory.map HistoryRow.id).Nodup
  snapshotIds : (tables.snapshots.map HistoryRow.id).Nodup

namespace StoresAlike

variable {given : PruneParameters} {clock now : Instant} {tables : HistoryTables}
  {memory : MemoryHistory}

theorem cutoff_le (order : clock ≤ now) (days : Int) : cutoffOf clock days ≤ cutoffOf now days := by
  exact sub_le_sub_right order _

theorem later (alike : StoresAlike given clock tables memory) (order : clock ≤ now) :
    StoresAlike given now tables memory :=
  ⟨alike.usage.later (cutoff_le order _), alike.equity.later (cutoff_le order _),
    alike.snapshots.later (cutoff_le order _), alike.usageIds, alike.equityIds, alike.snapshotIds⟩

theorem nodup_append {rows : List HistoryRow} {row : HistoryRow}
    (distinct : (rows.map HistoryRow.id).Nodup) (fresh : row.id ∉ rows.map HistoryRow.id) :
    ((rows ++ [row]).map HistoryRow.id).Nodup := by
  rw [List.map_append, List.map_singleton]
  exact distinct.append (List.nodup_singleton _) (List.disjoint_singleton.mpr fresh)

theorem nodup_deleted {cutoff : Instant} {limit : Nat} {rows : List HistoryRow}
    (distinct : (rows.map HistoryRow.id).Nodup) :
    ((deleteDoomed cutoff limit rows).1.map HistoryRow.id).Nodup :=
  distinct.sublist (List.filter_sublist.map _)

/-- Both passes report the same and leave the stores alike. -/
theorem prune (alike : StoresAlike given now tables memory)
    (sound : ¬ (given.WindowsValid ∧ 200000 < given.batchLimit)) :
    (memory.prune given now).2 = (tables.prune given now).2 ∧
      StoresAlike given now (tables.prune given now).1 (memory.prune given now).1 := by
  unfold MemoryHistory.prune HistoryTables.prune
  by_cases windows : given.WindowsValid
  · rw [if_pos windows, if_pos windows]
    have most : given.batchLimit ≤ 200000 := not_lt.mp fun large => sound ⟨windows, large⟩
    by_cases least : 100 ≤ given.batchLimit
    · rw [if_pos least, if_pos ⟨least, most⟩]
      obtain ⟨removed, olds, freshes⟩ := deleteDoomed_spec (cutoffOf now given.aiUsageDays)
        given.batchLimit.toNat alike.usageIds
      obtain ⟨removed', olds', freshes'⟩ := pruneAccounts_spec (cutoffOf now given.aiUsageDays)
        given.batchLimit.toNat memory.aiUsage
      obtain ⟨equities, eolds, efreshes⟩ := deleteDoomed_spec (cutoffOf now given.equityDays)
        given.batchLimit.toNat alike.equityIds
      obtain ⟨equities', eolds', efreshes'⟩ := pruneAccounts_spec (cutoffOf now given.equityDays)
        given.batchLimit.toNat memory.equityHistory
      obtain ⟨shots, solds, sfreshes⟩ := deleteDoomed_spec (cutoffOf now given.snapshotDays)
        given.batchLimit.toNat alike.snapshotIds
      dsimp only
      refine ⟨?_, ⟨alike.usage.pruned olds freshes olds' freshes',
        alike.equity.pruned eolds efreshes eolds' efreshes',
        alike.snapshots.pruned solds sfreshes oldCount_dropOld freshRows_dropOld,
        nodup_deleted alike.usageIds, nodup_deleted alike.equityIds,
        nodup_deleted alike.snapshotIds⟩⟩
      rw [removed, removed', equities, equities', shots, length_doomed, alike.usage.olds,
        alike.equity.olds, alike.snapshots.olds]
    · rw [if_neg least, if_neg fun both => least both.1]
      exact ⟨rfl, alike⟩
  · rw [if_neg windows, if_neg windows]
    exact ⟨rfl, alike⟩

/-- What both stores serve alike keeps them alike. -/
theorem serve {event : HistoryEvent} {rest : List HistoryEvent}
    (sound : ¬ (given.WindowsValid ∧ 200000 < given.batchLimit))
    (alike : StoresAlike given clock tables memory)
    (order : HistoryInOrder given clock tables (event :: rest)) :
    (memory.next given event).2 = (tables.next given event).2 ∧
      ∃ clock', StoresAlike given clock' (tables.next given event).1 (memory.next given event).1 ∧
        HistoryInOrder given clock' (tables.next given event).1 rest := by
  obtain ⟨enabled, onward⟩ := order
  cases event with
  | recordUsage row =>
      refine ⟨rfl, clock, ⟨?_, alike.equity, alike.snapshots, ?_, alike.equityIds,
        alike.snapshotIds⟩, onward⟩
      · exact (alike.usage.append row).perm (allRows_appendRow row _)
      · exact nodup_append alike.usageIds enabled
  | recordEquity row =>
      refine ⟨rfl, clock, ⟨alike.usage, ?_, alike.snapshots, alike.usageIds, ?_,
        alike.snapshotIds⟩, onward⟩
      · exact (alike.equity.append row).perm (allRows_appendRow row _)
      · exact nodup_append alike.equityIds enabled
  | saveSnapshot row =>
      exact ⟨rfl, clock, ⟨alike.usage, alike.equity, alike.snapshots.append row, alike.usageIds,
        alike.equityIds, nodup_append alike.snapshotIds enabled⟩, onward⟩
  | prune now =>
      obtain ⟨same, after⟩ := (alike.later enabled).prune sound
      exact ⟨congrArg some same, now, after, onward⟩

end StoresAlike

/-- In every run of records and passes both stores report the same, unless the batch limit is
one that only the memory store accepts. -/
theorem prune_stands_in_iff (given : PruneParameters) :
    PruneStandsIn given ↔ ¬ (given.WindowsValid ∧ 200000 < given.batchLimit) := by
  constructor
  · rintro standsIn ⟨windows, large⟩
    have told := standsIn 0 [.prune 0] ⟨le_rfl, trivial⟩
    have least : 100 ≤ given.batchLimit := by omega
    simp [answers, MemoryHistory.next, HistoryTables.next, MemoryHistory.prune,
      HistoryTables.prune, windows, least, not_le.mpr large] at told
  · intro sound clock events order
    have start : StoresAlike given clock ⟨[], [], []⟩ ⟨[], [], []⟩ :=
      ⟨⟨rfl, .refl _⟩, ⟨rfl, .refl _⟩, ⟨rfl, .refl _⟩, List.nodup_nil, List.nodup_nil,
        List.nodup_nil⟩
    refine answers_eq_of_simulation (R := fun memory tables rest => ∃ clock,
      StoresAlike given clock tables memory ∧ HistoryInOrder given clock tables rest) ?_
      ⟨clock, start, order⟩
    rintro memory tables event rest ⟨clock, alike, inOrder⟩
    exact alike.serve sound inOrder

end Polybot
