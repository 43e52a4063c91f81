import Polybot.Ledger.Cache

/-!
The pages of a snapshot.

A snapshot reads the fills in pages of a thousand, ordered by the time they were matched
and stored, while other calls insert fills and change their settlement. A fill that
stays as it is should be replayed exactly once. `row_counted_iff` says that it is if
and only if its place moves as often from the pages that were read to those still to
read as it moves back.
-/

namespace Polybot

open Checked Interaction

/-! ### The rows of one read -/

section Rows

variable {createdAt : String × String → Instant} {store : LedgerStore} {ordered : List FillEntry}

/-- The fills have distinct keys. -/
theorem LedgerStore.fillEntries_nodup : (store.fillEntries createdAt).Nodup := by
  unfold fillEntries
  refine List.nodup_flatMap.mpr ⟨fun order _ => ?_, ?_⟩
  · refine List.Nodup.of_map (fun entry : FillEntry => entry.fillKey.1) ?_
    rw [List.map_map]
    exact order.2.fills.nodup
  · have distinct := store.tables.orders.nodup
    rw [List.nodup_iff_pairwise_ne, List.pairwise_map] at distinct
    refine distinct.imp fun {a b} differ entry left right => differ ?_
    obtain ⟨fill, -, rfl⟩ := List.mem_map.mp left
    obtain ⟨fill', -, same⟩ := List.mem_map.mp right
    exact (congrArg (fun entry : FillEntry => entry.fillKey.2) same).symm

theorem LedgerStore.OrdersFills.nodup (orders : store.OrdersFills createdAt ordered) :
    ordered.Nodup :=
  orders.perm.nodup_iff.mpr (store.fillEntries_nodup.filter _)

theorem LedgerStore.OrdersFills.mem_iff (orders : store.OrdersFills createdAt ordered)
    {entry : FillEntry} : entry ∈ ordered ↔
      entry ∈ store.fillEntries createdAt ∧ entry.fill.settlementStatus ≠ .failed := by
  rw [orders.perm.mem_iff, List.mem_filter, decide_eq_true_iff]

end Rows

section Runs

variable {ι : Type} [DecidableEq ι] {createdAt : String × String → Instant}
  {digest : String × String → String} {store : LedgerStore} {calls : ι → LedgerCall}
  {labels : List (ι × LedgerCallEvent)} {final : LedgerPool ι} {i : ι} {entry : FillEntry}

/-- Whenever call `i` is served a request, the fill is stored as it is, and did not fail. -/
def StaysDuring (createdAt : String × String → Instant) (start : LedgerPool ι)
    (labels : List (ι × LedgerCallEvent)) (i : ι) (entry : FillEntry) : Prop :=
  ∀ front event back mid, labels = front ++ (i, event) :: back →
    Run (Pool.Step (LedgerServe createdAt)) start front mid →
    entry ∈ mid.shared.fillEntries createdAt ∧ entry.fill.settlementStatus ≠ .failed

/-- The last page of fills was read. -/
def HasReadFills (log : List LedgerCallEvent) : Prop :=
  Paging.EndsShort pageSize 0 (fillReads log)

/-- A read of the fills finds them all, each once. -/
theorem LedgerServe.reads {store next : LedgerStore} {event : LedgerCallEvent}
    {log : List LedgerCallEvent} (served : LedgerServe createdAt store event next)
    {ordered : List FillEntry} (read : ordered ∈ fillReads (log ++ [event])) :
    ordered ∈ fillReads log ∨ store.OrdersFills createdAt ordered := by
  unfold fillReads at read ⊢
  rw [List.filterMap_append, List.mem_append] at read
  rcases read with earlier | now
  · exact .inl earlier
  · cases served with
    | fills page rows orders =>
        obtain rfl := List.mem_singleton.mp now
        exact .inr orders
    | failed request problem awaited => cases request <;> exact absurd now List.not_mem_nil
    | unanswered request problem next applied =>
        cases request <;> exact absurd now List.not_mem_nil
    | _ => exact absurd now List.not_mem_nil

theorem reads_of_stays
    (run : Run (Pool.Step (LedgerServe createdAt)) (ledgerPool digest store calls) labels final)
    (stays : StaysDuring createdAt (ledgerPool digest store calls) labels i entry) :
    ∀ ordered ∈ fillReads (final.log i), entry ∈ ordered ∧ ordered.Nodup := by
  have steps := run.of_prefixes (Q := fun p label => label.1 = i →
      entry ∈ p.shared.fillEntries createdAt ∧ entry.fill.settlementStatus ≠ .failed) (by
    rintro front ⟨j, event⟩ back mid split reach rfl
    exact stays front event back mid split reach)
  refine steps.invariant (P := fun pool : LedgerPool ι =>
    ∀ ordered ∈ fillReads (pool.log i), entry ∈ ordered ∧ ordered.Nodup) ?_ ?_
  · rintro p ⟨j, event⟩ q known ⟨step, here⟩ ordered read
    rw [Pool.log_of_run (.single step) i] at read
    by_cases same : j = i
    · subst same
      rw [Pool.own_cons_self] at read
      rcases step.serves.reads read with earlier | orders
      · exact known ordered earlier
      · exact ⟨orders.mem_iff.mpr (here rfl), orders.nodup⟩
    · rw [Pool.own_cons_of_ne same] at read
      exact known ordered (by simpa [Pool.own] using read)
  · exact fun _ read => absurd read List.not_mem_nil

/-- A fill that stays as it is during a call is replayed exactly once if and only if,
between the reads, its place moves to the pages still to read as often as back. -/
theorem row_counted_iff
    (run : Run (Pool.Step (LedgerServe createdAt)) (ledgerPool digest store calls) labels final)
    (whole : HasReadFills (final.log i))
    (stays : StaysDuring createdAt (ledgerPool digest store calls) labels i entry) :
    (replayedFills (final.log i)).count entry = 1 ↔
      Paging.forwards pageSize entry 0 (fillReads (final.log i)) =
        Paging.backwards pageSize entry 0 (fillReads (final.log i)) := by
  have known := reads_of_stays run stays
  exact Paging.count_collect_eq_one_iff (fun ordered read => (known ordered read).1)
    (fun ordered read => (known ordered read).2) whole

/-- The fills that stay as they are during a call are each replayed once if and only if
the moves of each of them balance. -/
theorem pages_exact_iff
    (run : Run (Pool.Step (LedgerServe createdAt)) (ledgerPool digest store calls) labels final)
    (whole : HasReadFills (final.log i)) :
    (∀ entry, StaysDuring createdAt (ledgerPool digest store calls) labels i entry →
        (replayedFills (final.log i)).count entry = 1) ↔
      ∀ entry, StaysDuring createdAt (ledgerPool digest store calls) labels i entry →
        Paging.forwards pageSize entry 0 (fillReads (final.log i)) =
          Paging.backwards pageSize entry 0 (fillReads (final.log i)) :=
  forall₂_congr fun _ stays => row_counted_iff run whole stays

end Runs

/-- A ledger of one page is read at once. -/
theorem one_page_is_exact :
    ∃ labels final, Run (Pool.Step (LedgerServe fun _ => 0)) inFlightPool labels final ∧
      (replayedFills (final.log 0)).length = 1 ∧
      ∀ entry, StaysDuring (fun _ => 0) inFlightPool labels 0 entry →
        (replayedFills (final.log 0)).count entry = 1 := by
  have replayed : (Pool.replay (fun _ => answerLedger) [1, 1, 1, 1, 1, 1, 1, 0, 0, 0, 0, 0]
      inFlightPool).map (fun result => decide ((replayedFills (result.2.log 0)).length = 1 ∧
        (fillReads (result.2.log 0)).map List.length = [1])) = some true := by
    decide +kernel
  obtain ⟨⟨labels, final⟩, replay, shown⟩ := Option.map_eq_some_iff.mp replayed
  obtain ⟨length, lengths⟩ := of_decide_eq_true shown
  obtain ⟨ordered, reads, single⟩ := List.map_eq_singleton_iff.mp lengths
  have whole : HasReadFills (final.log 0) := by
    refine ⟨[], ordered, reads, ?_⟩
    rw [Paging.page, List.length_take, List.length_drop, single]
    decide
  refine ⟨labels, final, replay_ledger replay, length, ?_⟩
  refine (pages_exact_iff (replay_ledger replay) whole).mpr fun entry _ => ?_
  rw [reads]
  rfl

/-! ### A page that moves -/

/-- The key of a trade. -/
def bulkKey (n : Nat) : String :=
  String.ofList (List.replicate n 'a')

theorem bulkKey_injective : Function.Injective bulkKey := by
  intro n m same
  have lists := congrArg List.length (String.ofList_injective same)
  rwa [List.length_replicate, List.length_replicate] at lists

/-- A fill of a thousandth of a share, matched at `n`. -/
def bulkFill (n : Nat) (settlementStatus : SettlementStatus) : FillRow where
  marketId := "market"
  clobTradeId := bulkKey n
  outcomeTokenId := "yes"
  side := .buy
  liquidityRole := none
  price := 1 / 2
  size := 1 / 1000
  feePusd := 0
  settlementStatus := settlementStatus
  transactionHash := none
  matchedAt := (n : Int)
  minedAt := none
  confirmedAt := none
  rawPayload := "trade"
  price_pos := Literal.half_pos
  price_lt_one := Literal.half_lt_one
  size_pos := by norm_num
  fee_nonneg := Literal.zero_nonneg

/-- The row of a fill. -/
def bulkEntry (n : Nat) (settlementStatus : SettlementStatus) : FillEntry :=
  ⟨(bulkKey n, "intent"), 0, bulkFill n settlementStatus⟩

/-- The fills 1 to 1000. -/
def laterEntries : List FillEntry :=
  (List.range 1000).map fun n => bulkEntry (n + 1) .matched

/-- An order with 1001 fills, the oldest of which has the given settlement. -/
def bulkTables (oldest : SettlementStatus) : SettlementTables where
  intents := .empty
  orders := Dict.empty.set "intent"
    { row := submittedOrder.row
      fills :=
        { entries := (bulkKey 0, bulkFill 0 oldest) ::
            (List.range 1000).map fun n => (bulkKey (n + 1), bulkFill (n + 1) .matched)
          nodup := by
            rw [List.map_cons, List.map_map, List.nodup_cons, List.mem_map]
            refine ⟨?_, ?_⟩
            · rintro ⟨n, -, same⟩
              exact absurd (bulkKey_injective same) (Nat.succ_ne_zero n)
            · refine List.nodup_range.map fun n m same => ?_
              exact Nat.succ_injective (bulkKey_injective same) } }

theorem fillEntries_bulk {store : LedgerStore} {oldest : SettlementStatus}
    (tables : store.tables = bulkTables oldest) :
    store.fillEntries (fun _ => 0) = bulkEntry 0 oldest :: laterEntries := by
  unfold LedgerStore.fillEntries laterEntries
  rw [tables, show (bulkTables oldest).orders.entries = [("intent", _)] from rfl,
    List.flatMap_singleton, List.map_cons, List.map_map]
  rfl

theorem laterEntries_sorted : laterEntries.Pairwise FillEntry.NotAfter := by
  unfold laterEntries
  refine List.pairwise_map.mpr (List.pairwise_lt_range.imp fun {n m} lower => .inl ?_)
  exact Int.ofNat_lt.mpr (Nat.succ_lt_succ lower)

theorem unfailed_of_mem_later {entry : FillEntry} (later : entry ∈ laterEntries) :
    entry.fill.settlementStatus = .matched := by
  obtain ⟨n, -, rfl⟩ := List.mem_map.mp later
  rfl

/-- What is read while all fills count. -/
theorem ordersFills_before {store : LedgerStore} (tables : store.tables = bulkTables .matched) :
    store.OrdersFills (fun _ => 0) (bulkEntry 0 .matched :: laterEntries) where
  perm := by
    rw [fillEntries_bulk tables, List.filter_eq_self.mpr]
    intro entry member
    rcases List.mem_cons.mp member with rfl | later
    · decide
    · simp [unfailed_of_mem_later later]
  sorted := by
    refine List.pairwise_cons.mpr ⟨fun entry later => ?_, laterEntries_sorted⟩
    obtain ⟨n, -, rfl⟩ := List.mem_map.mp later
    exact .inl (Int.ofNat_lt.mpr (Nat.succ_pos n))

/-- What is read when the oldest fill has failed. -/
theorem ordersFills_after {store : LedgerStore} (tables : store.tables = bulkTables .failed) :
    store.OrdersFills (fun _ => 0) laterEntries where
  perm := by
    rw [fillEntries_bulk tables, List.filter_cons_of_neg (by decide), List.filter_eq_self.mpr]
    intro entry later
    simp [unfailed_of_mem_later later]
  sorted := laterEntries_sorted

/-- A snapshot, and a process that commits once. -/
def twoReads (tables : SettlementTables) : Bool → LedgerCall
  | false => .snapshot "midnight" (.aware 0)
  | true => .other [(tables, .empty)]

/-- The process commits between the two reads. -/
def twoReadLabels (tables : SettlementTables) (first second : List FillEntry) :
    List (Bool × LedgerCallEvent) :=
  [(false, ⟨.lookup "midnight", .ok (0, none)⟩), (false, ⟨.orderedFills 0, .ok first⟩),
    (true, ⟨.commit tables .empty, .ok ()⟩), (false, ⟨.orderedFills 1, .ok second⟩)]

/-- The calls on a store without activities. -/
def twoReadPool (before after : SettlementTables) : LedgerPool Bool :=
  ledgerPool (fun key => key.1 ++ key.2) ⟨before, .empty, none, 0⟩ (twoReads after)

/-- A full page is followed by another read. -/
theorem twoReads_run {before after : SettlementTables} {first second : List FillEntry}
    (orders : LedgerStore.OrdersFills ⟨before, .empty, none, 0⟩ (fun _ => 0) first)
    (full : ¬ (Paging.page pageSize 0 first).length < pageSize)
    (orders' : LedgerStore.OrdersFills ⟨after, .empty, none, 0⟩ (fun _ => 0) second) :
    ∃ final, Run (Pool.Step (LedgerServe fun _ => 0)) (twoReadPool before after)
      (twoReadLabels after first second) final := by
  obtain ⟨resume, goes⟩ : ∃ resume, ((if (Paging.page pageSize 0 first).length < pageSize then
          pure (Paging.page pageSize 0 first)
        else do
          let later ← readFillPages 99 1
          pure (Paging.page pageSize 0 first ++ later)) >>=
      replayRows (fun key => key.1 ++ key.2) "midnight" (.aware 0) 0 >>= fun value =>
        pure (some value) : LedgerProgram (Option FillLedgerSnapshot)) =
      .call (.orderedFills 1) resume := by
    rw [if_neg full]
    exact ⟨_, rfl⟩
  exact ⟨_, .cons ⟨_, _, rfl, .looked "midnight" 0 le_rfl, rfl⟩ (.cons ⟨_, _, rfl,
    .fills 0 _ orders, rfl⟩ (.cons ⟨_, _, rfl, .committed _ _ _ rfl, rfl⟩
      (.cons ⟨resume, _, goes, .fills 1 _ orders', rfl⟩ (.refl _))))⟩

/-- Only a call of the settlement path or another process changes the fills. -/
theorem LedgerServe.tables {createdAt : String × String → Instant} {store next : LedgerStore}
    {event : LedgerCallEvent} (served : LedgerServe createdAt store event next) :
    next.tables = store.tables ∨ (∃ request, event.request = .settle request) ∨
      ∃ activities, event.request = .commit next.tables activities := by
  have kept {request : LedgerRequest} (applied : store.applyActivity request = some next) :
      next.tables = store.tables ∨ (∃ settle, request = .settle settle) ∨
        ∃ activities, request = .commit next.tables activities :=
    (LedgerStore.applyActivity_cases applied).2.2.imp_right .inr
  cases served with
  | settled request answer tables served other => exact .inr (.inl ⟨request, rfl⟩)
  | upserted update next applied => exact kept applied
  | moved activityKey scope reason next applied => exact kept applied
  | committed tables activities next applied => exact kept applied
  | unanswered request problem next applied => exact kept applied
  | _ => exact .inl rfl

/-- The thousand later fills are stored in every state of the run. -/
theorem later_stays {n : Nat} (bound : n < 1000) : StaysDuring (fun _ => 0)
    (twoReadPool (bulkTables .matched) (bulkTables .failed))
    (twoReadLabels (bulkTables .failed) (bulkEntry 0 .matched :: laterEntries) laterEntries) false
    (bulkEntry (n + 1) .matched) := by
  have listed : bulkEntry (n + 1) .matched ∈ laterEntries :=
    List.mem_map.mpr ⟨n, List.mem_range.mpr bound, rfl⟩
  intro front event back mid split run
  have tables : ∃ oldest, mid.shared.tables = bulkTables oldest := by
    refine (run.of_labels (Q := fun label => label ∈ twoReadLabels (bulkTables .failed)
      (bulkEntry 0 .matched :: laterEntries) laterEntries) fun label member => ?_).invariant
      (P := fun pool : LedgerPool Bool => ∃ oldest, pool.shared.tables = bulkTables oldest) ?_
      ⟨.matched, rfl⟩
    · rw [split]
      exact List.mem_append_left _ member
    · rintro p ⟨i, event⟩ q ⟨oldest, stored⟩ ⟨step, member⟩
      have asked : (∀ request, event.request ≠ .settle request) ∧
          ∀ tables activities, event.request = .commit tables activities →
            tables = bulkTables .failed := by
        simp only [twoReadLabels, List.mem_cons, Prod.mk.injEq, List.not_mem_nil, or_false] at member
        rcases member with ⟨-, rfl⟩ | ⟨-, rfl⟩ | ⟨-, rfl⟩ | ⟨-, rfl⟩
        · exact ⟨fun _ => nofun, fun _ _ => nofun⟩
        · exact ⟨fun _ => nofun, fun _ _ => nofun⟩
        · refine ⟨fun _ => nofun, fun tables activities commits => ?_⟩
          exact (LedgerRequest.commit.inj commits).1.symm
        · exact ⟨fun _ => nofun, fun _ _ => nofun⟩
      rcases step.serves.tables with same | ⟨request, settles⟩ | ⟨activities, commits⟩
      · exact ⟨oldest, same.trans stored⟩
      · exact absurd settles (asked.1 request)
      · exact ⟨.failed, asked.2 _ activities commits⟩
  obtain ⟨oldest, tables⟩ := tables
  rw [fillEntries_bulk tables]
  exact ⟨List.mem_cons_of_mem _ listed, by rw [unfailed_of_mem_later listed]; decide⟩

/-- The oldest of 1001 fills fails between the two reads, and the youngest moves to the
page that was read: it is not replayed. -/
theorem youngest_fill_is_skipped :
    ∃ labels final, Run (Pool.Step (LedgerServe fun _ => 0))
        (twoReadPool (bulkTables .matched) (bulkTables .failed)) labels final ∧
      HasReadFills (final.log false) ∧
      (replayedFills (final.log false)).count (bulkEntry 1000 .matched) = 0 ∧
      ¬ ∀ entry, StaysDuring (fun _ => 0)
          (twoReadPool (bulkTables .matched) (bulkTables .failed)) labels false entry →
        (replayedFills (final.log false)).count entry = 1 := by
  obtain ⟨final, run⟩ := twoReads_run (ordersFills_before rfl)
    (by simp [Paging.page, laterEntries, pageSize]) (ordersFills_after rfl)
  have reads : fillReads (final.log false) = [bulkEntry 0 .matched :: laterEntries, laterEntries] := by
    rw [Pool.log_of_run run]
    rfl
  have rest : Paging.page pageSize 1 laterEntries = [] := by
    simp [Paging.page, laterEntries, pageSize]
  have skipped : (replayedFills (final.log false)).count (bulkEntry 1000 .matched) = 0 := by
    rw [replayedFills, reads, List.count_eq_zero]
    simp only [Paging.collect_cons, Paging.collect_nil, List.append_nil, rest]
    intro member
    have head : Paging.page pageSize 0 (bulkEntry 0 .matched :: laterEntries) =
        bulkEntry 0 .matched :: (List.range 999).map fun n => bulkEntry (n + 1) .matched := by
      simp [Paging.page, laterEntries, pageSize, ← List.map_take, List.take_range]
    obtain ⟨n, bound, same⟩ : ∃ n, n < 1000 ∧ bulkEntry n .matched = bulkEntry 1000 .matched := by
      rw [head] at member
      rcases List.mem_cons.mp member with same | later
      · exact ⟨0, by norm_num, same.symm⟩
      · obtain ⟨n, listed, same⟩ := List.mem_map.mp later
        exact ⟨n + 1, Nat.succ_lt_succ (List.mem_range.mp listed), same⟩
    have place : (n : Int) = (1000 : Nat) := congrArg (fun entry => entry.fill.matchedAt) same
    exact absurd (Int.ofNat.inj place) bound.ne
  refine ⟨_, final, run, ⟨[_], laterEntries, reads, ?_⟩, skipped, fun once => ?_⟩
  · rw [show 0 + [bulkEntry 0 .matched :: laterEntries].length = 1 from rfl, rest]
    decide
  · have counted := once _ (later_stays (n := 999) (by norm_num))
    rw [skipped] at counted
    cases counted

end Polybot
