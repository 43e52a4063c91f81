import Polybot.Reconcile.Books

/-!
What the reconciler quarantines.

A quarantined token is one that the engine no longer trades, so it should be none that the
bot has reserved. The reconciler judges by the footprint in its memory, which a pass drops
when it starts and anyone who needs it reads again. `tokens_spared` says when that is
enough: no row of the token may have been inserted since the read of that footprint began.
-/

namespace Polybot

open Checked Interaction

/-! ### Footprints -/

/-- The rows that a table had when its read began. -/
def Footprint.began (footprint : Footprint) (table : FootprintTable) : List DurableRow :=
  (footprint.reads table).head?.getD []

/-- A token that was in a table when its read began was found. -/
def Footprint.Complete (footprint : Footprint) : Prop :=
  ∀ table, ∀ row ∈ footprint.began table, row.tokenId ≠ "" → row.tokenId ∈ footprint.tokens

theorem mem_footprint_tokens {footprint : Footprint} {tokenId : String} :
    tokenId ∈ footprint.tokens ↔ ∃ table, tokenId ∈ durableValues (footprint.reads table) := by
  unfold Footprint.tokens
  rw [List.mem_append, List.mem_append]
  constructor
  · rintro ((intents | orders) | fills)
    · exact ⟨.orderIntents, intents⟩
    · exact ⟨.orders, orders⟩
    · exact ⟨.fills, fills⟩
  · rintro ⟨table, found⟩
    cases table with
    | orderIntents => exact .inl (.inl found)
    | orders => exact .inl (.inr found)
    | fills => exact .inr found

theorem mem_durableTokens {reconciler : Reconciler} {tokenId : String} :
    tokenId ∈ reconciler.durableTokens ↔
      tokenId ≠ "" ∧ ∃ table, ∃ row ∈ reconciler.rows table, row.tokenId = tokenId := by
  have every : ∀ table, table ∈ [FootprintTable.orderIntents, .orders, .fills] := by
    intro table
    cases table <;> simp
  simp only [Reconciler.durableTokens, List.mem_flatMap, List.mem_filter, List.mem_map,
    decide_eq_true_eq]
  constructor
  · rintro ⟨table, -, found, named⟩
    exact ⟨named, table, found⟩
  · rintro ⟨named, table, found⟩
    exact ⟨table, every table, found, named⟩

/-- Rows of tables that only grow, read to the end, make a complete footprint. -/
theorem Footprint.ReadBy.complete {footprint : Footprint} {log : List PassEvent}
    (read : footprint.ReadBy log)
    (grown : ∀ table, (tableReads table log).Pairwise List.Sublist)
    (distinct : ∀ table, ∀ rows ∈ tableReads table log, rows.Nodup) : footprint.Complete := by
  intro table row began named
  obtain ⟨among, whole⟩ := read table
  have collected := Paging.mem_collect_of_grown ((grown table).sublist among)
    (fun rows member => distinct table rows (among.subset member)) whole began
  refine mem_footprint_tokens.mpr ⟨table, List.mem_filter.mpr ⟨?_, decide_eq_true named⟩⟩
  exact List.mem_map_of_mem collected

/-! ### What is served -/

section Serve

variable {reconciler next : Reconciler} {event : PassEvent}

theorem Reconciler.Inserts.grows {table : FootprintTable} {row : DurableRow}
    (inserts : reconciler.Inserts table row next) (other : FootprintTable) :
    (reconciler.rows other).Sublist (next.rows other) := by
  obtain ⟨before, after, inserted, split, whole, rfl⟩ := inserts
  by_cases same : other = table
  · subst same
    rw [split]
    simp only [Reconciler.rows, Function.update_self]
    rw [whole]
    exact (List.sublist_cons_self row after).append_left before
  · simp only [Reconciler.rows, Function.update_of_ne same]
    exact List.Sublist.refl _

theorem Reconciler.Inserts.cache {table : FootprintTable} {row : DurableRow}
    (inserts : reconciler.Inserts table row next) :
    next.botTokensCache = reconciler.botTokensCache := by
  obtain ⟨before, after, inserted, split, whole, rfl⟩ := inserts
  rfl

theorem Reconciler.AfterStore.cases {request : StoreRequest}
    (stored : reconciler.AfterStore request next) :
    next.botTokensCache = reconciler.botTokensCache ∧
      ∀ table, (reconciler.rows table).Sublist (next.rows table) := by
  rcases stored with rfl | ⟨update, row, -, -, inserts⟩
  · exact ⟨rfl, fun _ => List.Sublist.refl _⟩
  · exact ⟨inserts.cache, inserts.grows⟩

/-- The tables only grow. -/
theorem PassServe.grows (served : PassServe reconciler event next) (table : FootprintTable) :
    (reconciler.rows table).Sublist (next.rows table) := by
  cases served with
  | recalled request => cases request <;> exact List.Sublist.refl _
  | stored request answer next stored => exact stored.cases.2 table
  | reserved other row answer next inserts => exact inserts.grows table
  | _ => exact List.Sublist.refl _

/-- The cache holds what it held or what was just stored in it. -/
theorem PassServe.caches (served : PassServe reconciler event next) {footprint : Footprint}
    (cached : next.botTokensCache = some footprint) :
    reconciler.botTokensCache = some footprint ∨
      event.request = .memory (.cacheTokens footprint) := by
  cases served with
  | recalled request =>
      cases request with
      | resetTokens => cases cached
      | cacheTokens other =>
          cases cached
          exact .inr rfl
      | _ => exact .inl cached
  | stored request answer next stored => exact .inl (stored.cases.1 ▸ cached)
  | reserved other row answer next inserts => exact .inl (inserts.cache ▸ cached)
  | _ => exact .inl cached

/-- A table answers with its rows. -/
theorem PassServe.reads (served : PassServe reconciler event next) {table : FootprintTable}
    {rows : List DurableRow} (read : rows ∈ tableReads table [event]) :
    rows = reconciler.rows table := by
  cases served with
  | read other page =>
      by_cases same : other = table
      · subst same
        have answered : tableReads other
            [⟨.durableRows other page, .ok (reconciler.rows other)⟩] = [reconciler.rows other] :=
          List.filterMap_cons_some (if_pos rfl)
        rw [answered] at read
        exact List.mem_singleton.mp read
      · have none : tableReads table
            [⟨.durableRows other page, .ok (reconciler.rows other)⟩] = [] :=
          List.filterMap_cons_none (if_neg same)
        rw [none] at read
        exact absurd read List.not_mem_nil
  | stored request answer next stored => exact absurd read List.not_mem_nil
  | recalled request => exact absurd read List.not_mem_nil
  | _ => exact absurd read List.not_mem_nil

/-- A call judges by the cached footprint or by one that it caches. -/
theorem PassServe.judges (served : PassServe reconciler event next) {footprint : Footprint}
    (seen : footprint ∈ footprintsOf [event]) :
    reconciler.botTokensCache = some footprint ∨
      event.request = .memory (.cacheTokens footprint) := by
  cases served with
  | recalled request =>
      cases request with
      | cachedTokens =>
          cases here : reconciler.botTokensCache with
          | none => simp [footprintsOf, Reconciler.remember, here] at seen
          | some cached => simpa [footprintsOf, Reconciler.remember, here, eq_comm] using seen
      | cacheTokens other =>
          obtain rfl := List.mem_singleton.mp seen
          exact .inr rfl
      | _ => exact absurd seen List.not_mem_nil
  | stored request answer next stored => exact absurd seen List.not_mem_nil
  | _ => exact absurd seen List.not_mem_nil

theorem PassServe.iterates (served : PassServe reconciler event next) {values order : List String}
    (same : event = ⟨.iterate values, .ok order⟩) : order.Perm values := by
  cases served with
  | iterated values order perm =>
      cases same
      exact perm
  | _ => cases same

end Serve

/-! ### Runs -/

/-- What the reads and the footprints of a run are. -/
structure Footed {ι : Type} (pool : PassPool ι) : Prop where
  grown : ∀ i table, (tableReads table (pool.log i)).Pairwise List.Sublist
  below : ∀ i table, ∀ rows ∈ tableReads table (pool.log i), rows.Sublist (pool.shared.rows table)
  iterates : ∀ i, Iterates (pool.log i)
  seen : ∀ i, ∀ footprint ∈ footprintsOf (pool.log i), footprint.Complete
  cached : ∀ footprint, pool.shared.botTokensCache = some footprint → footprint.Complete

theorem Reconciler.nodup_rows (reconciler : Reconciler) (table : FootprintTable) :
    (reconciler.rows table).Nodup :=
  List.Nodup.of_map _ (reconciler.tables table).distinct

/-- What a call caches is complete. -/
theorem Footed.complete {ι : Type} {pool : PassPool ι} (footed : Footed pool) {i : ι}
    {footprint : Footprint} (read : footprint.ReadBy (pool.log i)) : footprint.Complete :=
  read.complete (footed.grown i) fun table rows member =>
    (pool.shared.nodup_rows table).sublist (footed.below i table rows member)

/-- One event reads a table at most once. -/
theorem tableReads_single (table : FootprintTable) (event : PassEvent) :
    (tableReads table [event]).Pairwise List.Sublist := by
  unfold tableReads
  rw [List.filterMap_cons]
  split
  · exact .nil
  · exact List.pairwise_singleton _ _

/-- What is quarantined is no token of the bot. -/
def SparesBot {ι : Type} (pool : PassPool ι) (label : ι × PassEvent) : Prop :=
  ∀ tokenId conditionId, label.2.request = .memory (.quarantineToken tokenId conditionId) →
    tokenId ∉ pool.shared.durableTokens

/-- Since the read of a footprint that misses a quarantined token began, no row of the
token was inserted. -/
def UnreservedSince {ι : Type} (pool : PassPool ι) (label : ι × PassEvent) : Prop :=
  ∀ tokenId conditionId, label.2.request = .memory (.quarantineToken tokenId conditionId) →
    ∀ footprint ∈ footprintsOf (pool.log label.1), tokenId ∉ footprint.tokens →
      ∀ table, ∀ row ∈ pool.shared.rows table, row.tokenId = tokenId → tokenId ≠ "" →
        row ∈ footprint.began table

/-- The footprint of a quarantine is as good as it is new. -/
theorem Footed.sparesBot_iff {ι : Type} {pool : PassPool ι} {label : ι × PassEvent}
    (footed : Footed pool) (obeys : PassObeys (pool.log label.1) label.2) :
    SparesBot pool label ↔ UnreservedSince pool label := by
  constructor
  · intro spares tokenId conditionId quarantines footprint _ _ table row member same named
    exact absurd (mem_durableTokens.mpr ⟨named, table, row, member, same⟩)
      (spares tokenId conditionId quarantines)
  · intro unreserved tokenId conditionId quarantines durable
    obtain ⟨named, table, row, member, rfl⟩ := mem_durableTokens.mp durable
    rcases obeys.quarantines _ conditionId quarantines (footed.iterates _) with empty | judged
    · exact named empty
    · obtain ⟨footprint, seen, foreign⟩ := judged
      have began := unreserved _ conditionId quarantines footprint seen foreign table row member rfl
        named
      exact foreign (footed.seen _ footprint seen table row began named)

theorem footed_start {ι : Type} {config : ReconcilerConfig} {tables : FootprintTable → DurableTable}
    {calls : ι → PassCall} : Footed (passPool config tables calls) where
  grown _ _ := .nil
  below _ _ _ member := absurd member List.not_mem_nil
  iterates _ _ _ member := absurd member List.not_mem_nil
  seen _ _ member := absurd member List.not_mem_nil
  cached _ cached := nomatch cached

section Runs

variable {ι : Type} [DecidableEq ι] {config : ReconcilerConfig}
  {tables : FootprintTable → DurableTable} {calls : ι → PassCall} {pool next : PassPool ι}
  {labels : List (ι × PassEvent)} {final : PassPool ι}

/-- The log of a worker after a step, its own or another one's. -/
theorem log_after_step {label : ι × PassEvent} (step : Pool.Step PassServe pool label next) (i : ι) :
    next.log i = pool.log i ∨ i = label.1 ∧ next.log i = pool.log i ++ [label.2] := by
  obtain ⟨resume, shared, -, -, rfl⟩ := step
  by_cases same : i = label.1
  · subst same
    exact .inr ⟨rfl, by simp [Pool.after]⟩
  · exact .inl (by simp [Pool.after, same])

theorem Footed.step {label : ι × PassEvent} (footed : Footed pool)
    (step : Pool.Step PassServe pool label next)
    (obeys : PassObeys (pool.log label.1) label.2) : Footed next := by
  have served := step.serves
  have fresh : ∀ footprint, label.2.request = .memory (.cacheTokens footprint) →
      footprint.Complete := fun footprint same => footed.complete (obeys.caches footprint same)
  refine ⟨fun i table => ?_, fun i table rows member => ?_, fun i => ?_, fun i footprint member => ?_,
    fun footprint cached => ?_⟩
  · rcases log_after_step step i with same | ⟨rfl, longer⟩
    · exact same ▸ footed.grown i table
    · rw [longer, tableReads_append, List.pairwise_append]
      refine ⟨footed.grown _ table, ?_, fun rows earlier other now => ?_⟩
      · exact tableReads_single table label.2
      · exact served.reads now ▸ footed.below _ table rows earlier
  · rcases log_after_step step i with same | ⟨rfl, longer⟩
    · exact (footed.below i table rows (same ▸ member)).trans (served.grows table)
    · rw [longer, tableReads_append, List.mem_append] at member
      rcases member with earlier | now
      · exact (footed.below _ table rows earlier).trans (served.grows table)
      · exact served.reads now ▸ served.grows table
  · rcases log_after_step step i with same | ⟨rfl, longer⟩
    · exact same ▸ footed.iterates i
    · intro values order member
      rw [longer, List.mem_append] at member
      rcases member with earlier | now
      · exact footed.iterates _ values order earlier
      · exact served.iterates (List.mem_singleton.mp now).symm
  · rcases log_after_step step i with same | ⟨rfl, longer⟩
    · exact footed.seen i footprint (same ▸ member)
    · rw [longer, footprintsOf_append, List.mem_append] at member
      rcases member with earlier | now
      · exact footed.seen _ footprint earlier
      · exact (served.judges now).elim (footed.cached footprint) (fresh footprint)
  · exact (served.caches cached).elim (footed.cached footprint) (fresh footprint)

/-- A run quarantines no token of the bot if and only if no row of a token was inserted
between the read by which it was judged foreign and its quarantine. -/
theorem tokens_spared :
    Run (fun p label q => Pool.Step PassServe p label q ∧ SparesBot p label)
        (passPool config tables calls) labels final ↔
      Run (fun p label q => Pool.Step PassServe p label q ∧ UnreservedSince p label)
        (passPool config tables calls) labels final := by
  have obeyed : ∀ {p q : PassPool ι} {label : ι × PassEvent},
      (∀ i, (p.program i).Obeys PassObeys (p.log i) fun _ _ => True) →
        Pool.Step PassServe p label q →
        (∀ i, (q.program i).Obeys PassObeys (q.log i) fun _ _ => True) ∧
          PassObeys (p.log label.1) label.2 := by
    intro p q label obeys step
    obtain ⟨later, run⟩ := Pool.run_obeys (G := fun _ => PassObeys)
      (Q := fun _ _ _ => True) obeys (.single step)
    obtain ⟨t, first, -⟩ := Run.cons_iff.mp run
    exact ⟨later, first.2⟩
  refine Run.restrict_iff_of (P := fun p : PassPool ι => Footed p ∧
    ∀ i, (p.program i).Obeys PassObeys (p.log i) fun _ _ => True) ?_ ?_
    ⟨footed_start, fun i => ((calls i).program_obeys.weaken fun _ _ obeys =>
      obeys.obeys).mono fun _ _ _ => trivial⟩
  · rintro p label q ⟨footed, obeys⟩ step
    obtain ⟨later, good⟩ := obeyed obeys step
    exact ⟨footed.step step good, later⟩
  · rintro p label q ⟨footed, obeys⟩ step
    exact footed.sparesBot_iff (obeyed obeys step).2

end Runs

/-! ### A footprint that is too old -/

/-- A trade of an order that is not stored. -/
def unmappedTrade (tokenId : String) : AccountTrade where
  id := "trade"
  conditionId := "condition"
  traderSide := some "TAKER"
  status := "MATCHED"
  transactionHash := none
  matchedAt := none
  otherwise := 0
  updatedAt := 0
  raw := "trade"
  taker := ⟨some "order", tokenId, .buy, 1 / 2, 1, none⟩
  makerOrders := []

/-- A foreign trade, a reservation of the bot, and a trade of it whose order is not stored
yet. -/
def lateReservation : Fin 3 → PassCall
  | 0 => .event (.trade (unmappedTrade "foreign"))
  | 1 => .reservations [(.orderIntents, ⟨1, "bot"⟩)]
  | 2 => .event (.trade (unmappedTrade "bot"))

def lateReservationPool : PassPool (Fin 3) :=
  passPool quarantineConfig (fun _ => ⟨[], List.nodup_nil⟩) lateReservation

/-- The event quarantines a token. -/
def PassEvent.quarantines (tokenId : String) : PassEvent → Bool
  | ⟨.memory (.quarantineToken other _), _⟩ => decide (other = tokenId)
  | _ => false

theorem PassEvent.request_of_quarantines {tokenId : String} {event : PassEvent}
    (quarantines : event.quarantines tokenId = true) :
    ∃ conditionId, event.request = .memory (.quarantineToken tokenId conditionId) := by
  unfold PassEvent.quarantines at quarantines
  split at quarantines
  · rename_i other conditionId answer
    exact ⟨conditionId, by rw [of_decide_eq_true quarantines]⟩
  · cases quarantines

/-- The foreign trade leaves its footprint behind, by which the token of the bot is judged
after it was reserved. -/
theorem stale_footprint_quarantines_bot :
    ∃ labels mid event next,
      Run (Pool.Step PassServe) lateReservationPool labels mid ∧
      Pool.Step PassServe mid (2, event) next ∧ ¬ SparesBot mid (2, event) := by
  have replayed : ((Pool.replay (fun _ => answerPass [] emptyLedger)
      [0, 0, 0, 0, 0, 0, 0, 0, 0, 1, 2, 2, 2, 2] lateReservationPool).bind fun result =>
        (result.2.advance (fun _ => answerPass [] emptyLedger) 2).map fun step =>
          decide (PassEvent.quarantines "bot" step.1 = true ∧
            "bot" ∈ result.2.shared.durableTokens)) = some true := by
    decide +kernel
  obtain ⟨⟨labels, mid⟩, replay, advanced⟩ := Option.bind_eq_some_iff.mp replayed
  obtain ⟨⟨event, next⟩, advanced, shown⟩ := Option.map_eq_some_iff.mp advanced
  obtain ⟨quarantines, durable⟩ := of_decide_eq_true shown
  have sound := fun (_ : Fin 3) => answerPass_serves [] emptyLedger
  obtain ⟨conditionId, request⟩ := PassEvent.request_of_quarantines quarantines
  exact ⟨labels, mid, event, next, Pool.replay_run sound replay, Pool.advance_step sound advanced,
    fun spares => spares "bot" conditionId request durable⟩

end Polybot
