import Polybot.Reconcile.OrderLedger

/-!
Repeated saves of the executions of an order.

The engine and the broker save the same result, and a late save can follow what the
reconciler wrote. `mergeExecutionOrderPayload` makes this safe: it is idempotent
(`merge_twice`), and no sequence of saves takes back what the row knows
(`executions_forward`).
-/

namespace Polybot

open Checked Interaction

/-! ### Merged objects -/

namespace JsonObject

/-- The entries of the second object are those of the merged one. -/
theorem get?_merge {front back : JsonObject} {key value : String}
    (member : (key, value) ∈ back.entries) : (merge front back).get? key = some value := by
  obtain ⟨entries, distinct⟩ := back
  unfold merge
  dsimp only at member ⊢
  induction entries using List.reverseRecOn with
  | nil => cases member
  | append_singleton before entry ih =>
      rw [List.map_append, List.nodup_append'] at distinct
      obtain ⟨apart, -, disjoint⟩ := distinct
      rw [List.foldl_append, List.foldl_cons, List.foldl_nil, Dict.get?_set]
      rcases List.mem_append.mp member with earlier | now
      · have differs : key ≠ entry.1 := fun same =>
          disjoint (List.mem_map_of_mem (f := Prod.fst) earlier) (by simp [same])
        rw [if_neg differs]
        exact ih apart earlier
      · obtain rfl := List.mem_singleton.mp now
        exact if_pos rfl

/-- `{**{**front, **back}, **back}` is `{**front, **back}`. -/
theorem merge_merge (front back : JsonObject) : merge (merge front back) back = merge front back := by
  have kept : ∀ entries : List (String × String), (∀ entry ∈ entries, entry ∈ back.entries) →
      entries.foldl (fun merged entry => merged.set entry.1 entry.2) (merge front back) =
        merge front back := by
    intro entries among
    induction entries with
    | nil => rfl
    | cons entry rest ih =>
        rw [List.forall_mem_cons] at among
        rw [List.foldl_cons, Dict.set_of_get? (get?_merge among.1)]
        exact ih among.2
  exact kept back.entries fun _ member => member

end JsonObject

theorem eitherText_eitherText (text other : Option String) :
    eitherText (eitherText text other) other = eitherText text other := by
  unfold eitherText
  by_cases set : truthy text
  · rw [if_pos set, if_pos set]
  · rw [if_neg set]
    exact ite_self _

theorem orElse_orElse {α : Type} (value other : Option α) :
    ((value <|> other) <|> other) = (value <|> other) := by
  cases value <;> cases other <;> rfl

/-! ### One save -/

section Merge

variable (existing incoming : ExecutionColumns)

/-- The status after a save. -/
def savedStatus (current incoming : OrderStatus) : OrderStatus :=
  if current.transitionAllowed incoming then incoming else current

/-- What goes with the status is not replaced by the second of two equal saves. -/
theorem savedStatus_twice {column : Type} (current incoming : OrderStatus) (new old : column) :
    (if (savedStatus current incoming).transitionAllowed incoming then new
      else if current.transitionAllowed incoming then new else old) =
      if current.transitionAllowed incoming then new else old := by
  unfold savedStatus
  by_cases allowed : current.transitionAllowed incoming
  · rw [if_pos allowed, if_pos allowed, ite_self]
  · rw [if_neg allowed, if_neg allowed, if_neg allowed]

/-- The order type after a save. -/
def savedType (current incoming : String) : String :=
  if Text.upper current = "GTD" ∨ Text.upper incoming = "GTD" then "GTD"
  else if current ≠ "" then current
  else incoming

theorem savedType_gtd {current incoming : String} :
    Text.upper (savedType current incoming) = "GTD" ↔
      Text.upper current = "GTD" ∨ Text.upper incoming = "GTD" := by
  unfold savedType
  split
  · rename_i signed
    exact iff_of_true (by decide) signed
  · rename_i unsigned
    rw [not_or] at unsigned
    refine iff_of_false ?_ (not_or.mpr unsigned)
    split
    · exact unsigned.1
    · exact unsigned.2

theorem savedType_twice (current incoming : String) :
    savedType (savedType current incoming) incoming = savedType current incoming := by
  by_cases signed : Text.upper current = "GTD" ∨ Text.upper incoming = "GTD"
  · have first : savedType current incoming = "GTD" := if_pos signed
    rw [first]
    exact if_pos (.inl (by decide))
  · have again : ¬ (Text.upper (savedType current incoming) = "GTD" ∨ Text.upper incoming = "GTD") :=
      fun either => signed (either.elim savedType_gtd.mp .inr)
    rw [savedType, if_neg again]
    split
    · rfl
    · rename_i empty
      rw [not_ne_iff] at empty
      rw [empty]
      rw [savedType, if_neg signed] at empty
      split at empty
      · rename_i named
        exact absurd empty named
      · exact empty

/-- The expiry after a save. -/
def savedExpiry (currentType incomingType : String) (current incoming : Option Instant) :
    Option Instant :=
  if Text.upper currentType = "GTD" ∨ ¬ Text.upper incomingType = "GTD" then current <|> incoming
  else incoming <|> current

theorem savedExpiry_twice (currentType incomingType : String) (current incoming : Option Instant) :
    savedExpiry (savedType currentType incomingType) incomingType
        (savedExpiry currentType incomingType current incoming) incoming =
      savedExpiry currentType incomingType current incoming := by
  have keeps : savedExpiry (savedType currentType incomingType) incomingType
      (savedExpiry currentType incomingType current incoming) incoming =
        (savedExpiry currentType incomingType current incoming <|> incoming) := by
    refine if_pos ?_
    by_cases becomes : Text.upper incomingType = "GTD"
    · exact .inl (savedType_gtd.mpr (.inr becomes))
    · exact .inr becomes
  rw [keeps]
  unfold savedExpiry
  split
  · exact orElse_orElse current incoming
  · cases current <;> cases incoming <;> rfl

/-- The filled size after a save. -/
def savedSize (original current incoming : ℚ) : ℚ :=
  min original (max current incoming)

theorem savedSize_twice (original current incoming : ℚ) :
    savedSize original (savedSize original current incoming) incoming =
      savedSize original current incoming := by
  unfold savedSize
  rcases le_total original (max current incoming) with whole | part
  · rw [min_eq_left whole, min_eq_left (le_max_left _ _)]
  · rw [min_eq_right part, max_eq_left (le_max_right _ _), min_eq_right part]

/-- The average price after a save. -/
def savedAverage (filled reported : ℚ) (current incoming : Option ℚ) : Option ℚ :=
  if reported < filled ∧ current ≠ none then current else incoming

theorem savedAverage_twice {original filled reported : ℚ} (within : filled ≤ original)
    (current incoming : Option ℚ) :
    savedAverage (savedSize original filled reported) reported
        (savedAverage filled reported current incoming) incoming =
      savedAverage filled reported current incoming := by
  by_cases less : reported < filled
  · have same : savedSize original filled reported = filled := by
      unfold savedSize
      rw [max_eq_left less.le, min_eq_right within]
    rw [same]
    unfold savedAverage
    split <;> simp_all
  · have reports : savedAverage filled reported current incoming = incoming :=
      if_neg fun both => less both.1
    have no_more : ¬ reported < savedSize original filled reported := by
      unfold savedSize
      rw [max_eq_right (not_lt.mp less)]
      exact (min_le_right _ _).not_gt
    rw [reports]
    exact if_neg fun both => no_more both.1

/-- The merge, column by column. -/
theorem merge_eq : mergeExecutionOrderPayload existing incoming =
    { incoming with
      status := savedStatus existing.status incoming.status
      originalSize := existing.originalSize
      filledSize := savedSize existing.originalSize existing.filledSize incoming.filledSize
      remainingSize := max 0 (existing.originalSize -
        savedSize existing.originalSize existing.filledSize incoming.filledSize)
      averageFillPrice := savedAverage existing.filledSize incoming.filledSize
        existing.averageFillPrice incoming.averageFillPrice
      clobOrderId := eitherText existing.clobOrderId incoming.clobOrderId
      attemptCount := max existing.attemptCount incoming.attemptCount
      submittedAt := existing.submittedAt <|> incoming.submittedAt
      orderType := savedType existing.orderType incoming.orderType
      expiresAt := savedExpiry existing.orderType incoming.orderType existing.expiresAt
        incoming.expiresAt
      responsePayload := existing.responsePayload.merge incoming.responsePayload
      lastErrorDetail :=
        if existing.status.transitionAllowed incoming.status then incoming.lastErrorDetail
        else existing.lastErrorDetail } := rfl

variable {existing incoming}

/-- Merging a payload twice is merging it once. -/
theorem merge_twice (within : existing.filledSize ≤ existing.originalSize) :
    mergeExecutionOrderPayload (mergeExecutionOrderPayload existing incoming) incoming =
      mergeExecutionOrderPayload existing incoming := by
  rw [merge_eq, merge_eq]
  dsimp only
  rw [savedSize_twice, savedAverage_twice within, eitherText_eitherText, savedType_twice,
    savedExpiry_twice, JsonObject.merge_merge, orElse_orElse, savedStatus_twice,
    max_eq_left (le_max_right existing.attemptCount incoming.attemptCount)]
  congr 1
  exact savedStatus_twice existing.status incoming.status incoming.status existing.status

end Merge

/-- The row after a save, which the store may refuse. -/
def saveRow (row : StoredOrder) (payload : ExecutionColumns) : StoredOrder :=
  (OrderRow.store { row.val with
    toExecutionColumns := mergeExecutionOrderPayload row.val.toExecutionColumns payload }).toOption.getD
      row

/-- The row after a sequence of saves. -/
def saveRows (row : StoredOrder) (payloads : List ExecutionColumns) : StoredOrder :=
  payloads.foldl saveRow row

section Saves

variable {row : StoredOrder} {payload : ExecutionColumns}

/-- A save is refused, or merges its payload. -/
theorem saveRow_cases (row : StoredOrder) (payload : ExecutionColumns) : saveRow row payload = row ∨
    (saveRow row payload).val =
      { row.val with
        toExecutionColumns := mergeExecutionOrderPayload row.val.toExecutionColumns payload } := by
  unfold saveRow
  cases stored : OrderRow.store { row.val with
    toExecutionColumns := mergeExecutionOrderPayload row.val.toExecutionColumns payload } with
  | error problem => exact .inl rfl
  | ok after => exact .inr (OrderRow.store_ok_iff.mp stored)

/-- Saving a payload twice is saving it once. -/
theorem saveRow_twice (row : StoredOrder) (payload : ExecutionColumns) :
    saveRow (saveRow row payload) payload = saveRow row payload := by
  rcases saveRow_cases row payload with refused | merged
  · rw [refused, refused]
  · rcases saveRow_cases (saveRow row payload) payload with refused | again
    · exact refused
    · refine Subtype.ext (again.trans ?_)
      rw [merged, merge_twice row.property.filled_le]

end Saves

/-! ### Sequences of saves -/

/-- What the row knows is not taken back. -/
structure OrderRow.Forward (before after : OrderRow) : Prop where
  originalSize : after.originalSize = before.originalSize
  status : before.status ∈ OrderStatus.terminalStatuses → after.status = before.status
  filledSize : before.filledSize ≤ after.filledSize
  clobOrderId : truthy before.clobOrderId → after.clobOrderId = before.clobOrderId
  submittedAt : before.submittedAt ≠ none → after.submittedAt = before.submittedAt
  orderType : before.orderType = "GTD" → after.orderType = "GTD"
  expiresAt : before.orderType = "GTD" → after.expiresAt = before.expiresAt
  attemptCount : before.attemptCount ≤ after.attemptCount

namespace OrderRow.Forward

variable {first before after : OrderRow}

theorem refl (row : OrderRow) : row.Forward row :=
  ⟨rfl, fun _ => rfl, le_rfl, fun _ => rfl, fun _ => rfl, id, fun _ => rfl, le_rfl⟩

theorem trans (forward : first.Forward before) (more : before.Forward after) :
    first.Forward after where
  originalSize := more.originalSize.trans forward.originalSize
  status terminal := by
    have kept := forward.status terminal
    exact (more.status (kept ▸ terminal)).trans kept
  filledSize := forward.filledSize.trans more.filledSize
  clobOrderId set := by
    have kept := forward.clobOrderId set
    exact (more.clobOrderId (kept ▸ set)).trans kept
  submittedAt set := by
    have kept := forward.submittedAt set
    exact (more.submittedAt (kept ▸ set)).trans kept
  orderType signed := more.orderType (forward.orderType signed)
  expiresAt signed := (more.expiresAt (forward.orderType signed)).trans (forward.expiresAt signed)
  attemptCount := forward.attemptCount.trans more.attemptCount

end OrderRow.Forward

/-- No payload of an execution leaves a terminal status. -/
theorem savedStatus_of_terminal {current : OrderStatus}
    (terminal : current ∈ OrderStatus.terminalStatuses) (incoming : OrderStatus) :
    savedStatus current incoming = current := by
  unfold savedStatus
  split
  · rename_i allowed
    cases current <;> first
      | exact absurd terminal (by decide)
      | cases incoming <;> first | rfl | exact absurd allowed (by decide)
  · rfl

/-- A sequence of saves moves a row forward, within its size and with its balance. -/
structure SavesForward (row : StoredOrder) (payloads : List ExecutionColumns) : Prop where
  forward : ∀ front back, payloads = front ++ back →
    (saveRows row front).val.Forward (saveRows row payloads).val
  filled_le : (saveRows row payloads).val.filledSize ≤ row.val.originalSize
  balanced : saveRows row payloads = row ∨
    (saveRows row payloads).val.remainingSize =
      (saveRows row payloads).val.originalSize - (saveRows row payloads).val.filledSize
  twice : ∀ payload, saveRow (saveRow (saveRows row payloads) payload) payload =
    saveRow (saveRows row payloads) payload

/-- One save moves a row forward. -/
theorem saveRow_forward (row : StoredOrder) (payload : ExecutionColumns) :
    row.val.Forward (saveRow row payload).val := by
  rcases saveRow_cases row payload with refused | merged
  · rw [refused]
    exact .refl row.val
  · rw [merged, merge_eq]
    exact
      { originalSize := rfl
        status := fun terminal => savedStatus_of_terminal terminal payload.status
        filledSize := le_min row.property.filled_le (le_max_left _ _)
        clobOrderId := fun set => if_pos set
        submittedAt := fun set => by
          cases submitted : row.val.submittedAt with
          | none => exact absurd submitted set
          | some time => rfl
        orderType := fun signed => by
          refine if_pos (.inl ?_)
          rw [signed]
          decide
        expiresAt := fun signed => by
          have expires := row.property.gtd_has_expiry signed
          have first : savedExpiry row.val.orderType payload.orderType row.val.expiresAt
              payload.expiresAt = (row.val.expiresAt <|> payload.expiresAt) := by
            refine if_pos (.inl ?_)
            rw [signed]
            decide
          refine first.trans ?_
          cases expiry : row.val.expiresAt with
          | none => exact absurd expiry expires
          | some time => rfl
        attemptCount := le_max_left _ _ }

theorem saveRows_append (row : StoredOrder) (front back : List ExecutionColumns) :
    saveRows row (front ++ back) = saveRows (saveRows row front) back :=
  List.foldl_append

theorem saveRows_forward (row : StoredOrder) (payloads : List ExecutionColumns) :
    row.val.Forward (saveRows row payloads).val := by
  induction payloads using List.reverseRecOn with
  | nil => exact .refl row.val
  | append_singleton front payload ih =>
      rw [saveRows_append]
      exact ih.trans (saveRow_forward _ payload)

/-- A row that a save has written is balanced. -/
theorem saveRows_balanced (row : StoredOrder) (payloads : List ExecutionColumns) :
    saveRows row payloads = row ∨
      (saveRows row payloads).val.remainingSize =
        (saveRows row payloads).val.originalSize - (saveRows row payloads).val.filledSize := by
  induction payloads using List.reverseRecOn with
  | nil => exact .inl rfl
  | append_singleton front payload ih =>
      rw [saveRows_append]
      change saveRow (saveRows row front) payload = row ∨ _
      rcases saveRow_cases (saveRows row front) payload with refused | merged
      · rw [refused]
        change _ ∨ (saveRow _ _).val.remainingSize =
          (saveRow _ _).val.originalSize - (saveRow _ _).val.filledSize
        rwa [refused]
      · refine .inr ?_
        change (saveRow _ _).val.remainingSize =
          (saveRow _ _).val.originalSize - (saveRow _ _).val.filledSize
        rw [merged, merge_eq]
        exact max_eq_right (sub_nonneg.mpr (min_le_left _ _))

/-- Executions that are saved in any order and number take nothing back. -/
theorem executions_forward (row : StoredOrder) (payloads : List ExecutionColumns) :
    SavesForward row payloads where
  forward front back split := by
    rw [split, saveRows_append]
    exact saveRows_forward _ back
  filled_le := by
    rw [← (saveRows_forward row payloads).originalSize]
    exact (saveRows row payloads).property.filled_le
  balanced := saveRows_balanced row payloads
  twice payload := saveRow_twice _ payload

/-! ### The ledger -/

section Ledger

variable {markets : List MarketRow} {ledger : OrderLedger} {durable : DurableOrder}

/-- `save_execution` saves the payload of its result. -/
theorem serve_execution (markets : List MarketRow) (known : ledger.order = some durable) (result : ExecutionReport) :
    (ledger.serve markets (.execution result)).order =
        some { durable with row := saveRow durable.row (ledger.intent.executionPayload result) } ∧
      (ledger.serve markets (.execution result)).intent.executionPayload =
        ledger.intent.executionPayload := by
  unfold OrderLedger.serve OrderLedger.saveExecution saveRow
  rw [known]
  dsimp only
  cases stored : OrderRow.store { durable.row.val with
    toExecutionColumns := mergeExecutionOrderPayload durable.row.val.toExecutionColumns
      (ledger.intent.executionPayload result) } with
  | error problem => exact ⟨known, rfl⟩
  | ok row =>
      refine ⟨rfl, ?_⟩
      change IntentRow.executionPayload (if _ then _ else _) = _
      split
      · unfold IntentRow.executed
        split <;> rfl
      · rfl

/-- A sequence of executions of a stored order is a sequence of saves. -/
theorem serve_executions (known : ledger.order = some durable) (results : List ExecutionReport) :
    (results.foldl (fun ledger result => ledger.serve markets (.execution result)) ledger).order =
      some { durable with row := saveRows durable.row (results.map ledger.intent.executionPayload) } := by
  induction results generalizing ledger durable with
  | nil => exact known
  | cons result rest ih =>
      obtain ⟨order, payload⟩ := serve_execution markets known result
      rw [List.foldl_cons, ih order, payload]
      rfl

end Ledger

end Polybot
