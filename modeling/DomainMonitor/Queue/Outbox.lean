import Mathlib.Data.Prod.Lex
import DomainMonitor.Basic
import DomainMonitor.Lib.Json
import DomainMonitor.Lib.KeyedTable
import DomainMonitor.Lib.OrderBy
import DomainMonitor.Lib.Rfc3339
import DomainMonitor.Lib.Utf8
import DomainMonitor.Lib.Uuid

/-! # The transactional outbox (`internal/queue/outbox.go`)

    The table `job_outbox`, the insertion of an event, and the statements of a
    dispatcher: claim a batch, add each event to its Redis stream, mark it.
-/

namespace DomainMonitor.Queue

open OrderBy

/-! ### The table -/

/-- `outbox_status`. -/
inductive OutboxStatus where
  | pending | dispatching | dispatched | failed
  deriving DecidableEq, Repr

/-- What `last_error_code` is set to. -/
inductive OutboxError where
  | dispatchLeaseExpired | redisDispatchFailed
  deriving DecidableEq, Repr

structure Event where
  id : UUID
  idempotencyKey : GoString
  type : GoString
  stream : GoString
  payload : Json.Value
  createdAt : Int

/-- A row of `job_outbox`. -/
structure OutboxRow where
  event : Event
  status : OutboxStatus
  attempts : Int
  availableAt : Int
  lockedAt : Option Int
  lockedBy : Option WorkerID
  dispatchedAt : Option Int
  lastErrorCode : Option OutboxError
  lastErrorMessage : Option GoString

variable (event : Event) (worker : WorkerID) (now : Int) (row : OutboxRow)

def OutboxRow.id : UUID := row.event.id

/-- `length(trim(...)) > 0`: something other than spaces. -/
def notBlank (s : GoString) : Bool := s.any (· ≠ 32)

/-- `CHECK` constraints and text columns. -/
def OutboxRow.Checks : Prop :=
  0 ≤ row.attempts ∧ row.attempts ≤ 100 ∧
  notBlank row.event.idempotencyKey = true ∧ notBlank row.event.type = true ∧
  notBlank row.event.stream = true ∧
  Utf8.Storable row.event.idempotencyKey ∧ Utf8.Storable row.event.type ∧
  Utf8.Storable row.event.stream ∧ ∀ message ∈ row.lastErrorMessage, Utf8.Storable message

instance : DecidablePred OutboxRow.Checks :=
  fun _ => inferInstanceAs (Decidable (_ ∧ _))

abbrev Outbox : Type := KeyedTable OutboxRow.id

/-! ### EnqueueTx -/

/-- The row that is inserted, with the defaults of the other columns. -/
def newRow : OutboxRow where
  event := event
  status := .pending
  attempts := 0
  availableAt := event.createdAt
  lockedAt := none
  lockedBy := none
  dispatchedAt := none
  lastErrorCode := none
  lastErrorMessage := none

/-- `EnqueueTx`: `none` when a constraint refuses the row; `idempotency_key` is
    unique. -/
def enqueueTx (outbox : Outbox) : Option Outbox :=
  if ¬ (newRow event).Checks then none
  else if outbox.any (fun row => row.event.idempotencyKey = event.idempotencyKey) then none
  else outbox.insert (newRow event)

/-! ### Dispatcher -/

structure Dispatcher where
  batchSize : Int
  lease : Int
  maxAttempts : Int
  deriving DecidableEq, Repr

/-- The first statement of `claim` and its columns. -/
def OutboxRow.isStale (d : Dispatcher) (now : Int) (row : OutboxRow) : Bool :=
  row.status = .dispatching && row.lockedAt.any (· < now - milliseconds d.lease * millisecond)

def OutboxRow.requeue : OutboxRow :=
  { row with
    status := .pending, lockedAt := none, lockedBy := none
    lastErrorCode := some .dispatchLeaseExpired
    lastErrorMessage := some (lit "Dispatch lease expired before completion.") }

@[simp] theorem OutboxRow.requeue_id : row.requeue.id = row.id := rfl

def OutboxRow.isCandidate (d : Dispatcher) (now : Int) (row : OutboxRow) : Bool :=
  row.status = .pending && row.availableAt ≤ now && row.attempts < d.maxAttempts

/-- `available_at, created_at`. -/
def OutboxRow.order : Int ×ₗ Int := toLex (row.availableAt, row.event.createdAt)

def OutboxRow.hold : OutboxRow :=
  { row with status := .dispatching, lockedAt := some now, lockedBy := some worker }

@[simp] theorem OutboxRow.hold_id :
    (row.hold worker now).id = row.id := rfl

/-- One call of `claim`: the database clock when its transaction began, the rows
    that went stale too late for its first statement, and the rows that another
    transaction has locked (`SKIP LOCKED`). -/
structure ClaimCall where
  now : Int
  isUnseen : UUID → Bool
  isLocked : UUID → Bool

def requeueStale (d : Dispatcher) (call : ClaimCall) (outbox : Outbox) : Outbox :=
  outbox.updateWhere (fun row => row.isStale d call.now && !call.isUnseen row.id)
    OutboxRow.requeue OutboxRow.requeue_id

def candidates (d : Dispatcher) (call : ClaimCall) (outbox : Outbox) : List OutboxRow :=
  (orderBy OutboxRow.order (outbox.rows.filter (fun row =>
    row.isCandidate d call.now && !call.isLocked row.id))).take d.batchSize.toNat

/-- `claim`: the new table and the events that are returned. -/
def claim (d : Dispatcher) (worker : WorkerID) (call : ClaimCall) (outbox : Outbox) :
    Outbox × List Event :=
  let requeued := requeueStale d call outbox
  let batch := candidates d call requeued
  (requeued.updateWhere (fun row => row.id ∈ batch.map OutboxRow.id) (OutboxRow.hold worker call.now)
    (OutboxRow.hold_id worker call.now), batch.map OutboxRow.event)

/-- `WHERE id = $1 AND status = 'dispatching' AND locked_by = $2`. -/
def heldBy (id : UUID) (outbox : Outbox) : Option OutboxRow :=
  (outbox.get? id).filter (fun row => row.status = .dispatching && row.lockedBy = some worker)

def OutboxRow.complete : OutboxRow :=
  { row with
    status := .dispatched, dispatchedAt := some now, lockedAt := none, lockedBy := none
    lastErrorCode := none, lastErrorMessage := none }

@[simp] theorem OutboxRow.complete_id :
    (row.complete now).id = row.id := rfl

/-- `markDispatched`; `none` is `lease lost`. -/
def markDispatched (id : UUID) (now : Int) (outbox : Outbox) : Option Outbox :=
  (heldBy worker id outbox).map (fun _ =>
    outbox.modify id (OutboxRow.complete now) (OutboxRow.complete_id now))

/-- One call of `markFailure`: the error of `dispatch`, the database clock and
    `rand.IntN(1001)`. -/
structure FailureCall where
  dispatchErr : GoString
  now : Int
  jitterMilliseconds : Int

def FailureCall.message (call : FailureCall) : GoString := (Utf8.trimSpace call.dispatchErr).take 500

def OutboxRow.fail (d : Dispatcher) (call : FailureCall) (row : OutboxRow) : OutboxRow :=
  { row with
    attempts := row.attempts + 1
    status := if row.attempts + 1 ≥ d.maxAttempts then .failed else .pending
    availableAt := call.now + min 300 (2 ^ (row.attempts + 1).toNat) * second +
      call.jitterMilliseconds * millisecond
    lockedAt := none, lockedBy := none
    lastErrorCode := some .redisDispatchFailed
    lastErrorMessage := some call.message }

@[simp] theorem OutboxRow.fail_id (d : Dispatcher) (call : FailureCall) (row : OutboxRow) :
    (row.fail d call).id = row.id := rfl

/-- `markFailure`; `none` when no row is returned or the new row is refused (the cut
    may split a character of the message). -/
def markFailure (d : Dispatcher) (worker : WorkerID) (id : UUID) (call : FailureCall)
    (outbox : Outbox) : Option Outbox :=
  (heldBy worker id outbox).bind (fun row =>
    if (row.fail d call).Checks then
      some (outbox.modify id (OutboxRow.fail d call) (OutboxRow.fail_id d call))
    else none)

/-! ### Redis -/

/-- The fields `dispatch` adds to a stream. -/
structure StreamEntry where
  stream : GoString
  jobId : GoString
  idempotencyKey : GoString
  eventType : GoString
  payload : GoString
  createdAt : GoString
  deriving DecidableEq, Repr

def Event.entry : StreamEntry where
  stream := event.stream
  jobId := Uuid.text event.id
  idempotencyKey := event.idempotencyKey
  eventType := event.type
  payload := Json.text Json.spaced event.payload
  createdAt := Rfc3339.formatNano event.createdAt

/-! ### What the statements can do to a row -/

variable {worker : WorkerID} {id : UUID} {outbox outbox' : Outbox} {row : OutboxRow}
  {d : Dispatcher}

theorem heldBy_some (h : heldBy worker id outbox = some row) :
    outbox.get? id = some row ∧ row.status = .dispatching ∧ row.lockedBy = some worker := by
  simpa [heldBy, Option.filter_eq_some_iff] using h

theorem get?_enqueueTx {event : Event} (h : enqueueTx event outbox = some outbox') (id : UUID) :
    outbox.get? event.id = none ∧
      outbox'.get? id = if id = event.id then some (newRow event) else outbox.get? id := by
  unfold enqueueTx at h
  split at h
  · cases h
  · split at h
    · cases h
    · exact ⟨(KeyedTable.insert_eq_some h).1, KeyedTable.get?_insert h id⟩

theorem mem_candidates {call : ClaimCall} (h : row ∈ candidates d call outbox) :
    row ∈ outbox.rows ∧ row.status = .pending ∧ row.attempts < d.maxAttempts := by
  have hmem := List.mem_filter.mp (mem_orderBy.mp (List.mem_of_mem_take h))
  have hcandidate := hmem.2
  simp only [OutboxRow.isCandidate, Bool.and_eq_true, decide_eq_true_eq] at hcandidate
  exact ⟨hmem.1, hcandidate.1.1.1, hcandidate.1.2⟩

/-- What a claim can make of a row: leave it, requeue it, take it. -/
inductive Claimed (d : Dispatcher) (worker : WorkerID) (now : Int) (row : OutboxRow) :
    OutboxRow → Prop where
  | left : Claimed d worker now row row
  | requeued (h : row.isStale d now = true) : Claimed d worker now row row.requeue
  | taken (h : row.status = .pending) (hattempts : row.attempts < d.maxAttempts) :
      Claimed d worker now row (row.hold worker now)
  | retaken (h : row.isStale d now = true) (hattempts : row.attempts < d.maxAttempts) :
      Claimed d worker now row (row.requeue.hold worker now)

theorem get?_claim (d : Dispatcher) (worker : WorkerID) (call : ClaimCall)
    (h : outbox.get? id = some row) :
    ∃ row', (claim d worker call outbox).1.get? id = some row' ∧
      Claimed d worker call.now row row' := by
  -- The row after the first statement.
  obtain ⟨row₁, hrow₁, hcases⟩ : ∃ row₁, (requeueStale d call outbox).get? id = some row₁ ∧
      (row₁ = row ∨ row.isStale d call.now = true ∧ row₁ = row.requeue) := by
    rw [requeueStale, KeyedTable.get?_updateWhere, h, Option.map_some]
    refine ⟨_, rfl, ?_⟩
    split
    · rename_i hstale
      exact .inr ⟨(Bool.and_eq_true_iff.mp hstale).1, rfl⟩
    · exact .inl rfl
  rw [claim, KeyedTable.get?_updateWhere, hrow₁, Option.map_some]
  refine ⟨_, rfl, ?_⟩
  by_cases hin : row₁.id ∈ (candidates d call (requeueStale d call outbox)).map OutboxRow.id
  · -- The candidate under this id is the row itself.
    obtain ⟨c, hc, hid⟩ := List.mem_map.mp hin
    obtain ⟨hmem, hpending, hattempts⟩ := mem_candidates hc
    rw [KeyedTable.eq_of_key_eq _ hmem (KeyedTable.get?_some hrow₁).1 hid] at hpending hattempts
    simp only [hin, decide_true, if_true]
    rcases hcases with rfl | ⟨hstale, rfl⟩
    · exact .taken hpending hattempts
    · exact .retaken hstale hattempts
  · simp only [hin, decide_false, Bool.false_eq_true, if_false]
    rcases hcases with rfl | ⟨hstale, rfl⟩
    · exact .left
    · exact .requeued hstale

/-- The events a claim returns are those of rows it holds. -/
theorem mem_claim {call : ClaimCall} {event : Event} (h : event ∈ (claim d worker call outbox).2) :
    ∃ row, (claim d worker call outbox).1.get? event.id = some row ∧ row.event = event := by
  obtain ⟨c, hc, rfl⟩ := List.mem_map.mp h
  obtain ⟨hmem, -, -⟩ := mem_candidates hc
  refine ⟨c.hold worker call.now, ?_, rfl⟩
  rw [claim, KeyedTable.get?_updateWhere, show c.event.id = OutboxRow.id c from rfl,
    KeyedTable.get?_of_mem hmem, Option.map_some]
  simp [List.mem_map_of_mem hc]

theorem claim_get?_none (d : Dispatcher) (worker : WorkerID) (call : ClaimCall)
    (h : outbox.get? id = none) : (claim d worker call outbox).1.get? id = none := by
  rw [claim, KeyedTable.get?_updateWhere, requeueStale, KeyedTable.get?_updateWhere, h]
  rfl

theorem markDispatched_some {now : Int} (h : markDispatched worker id now outbox = some outbox') :
    ∃ row, outbox.get? id = some row ∧ row.status = .dispatching ∧ row.lockedBy = some worker ∧
      outbox' = outbox.modify id (OutboxRow.complete now) (OutboxRow.complete_id now) := by
  obtain ⟨row, hheld, rfl⟩ := Option.map_eq_some_iff.mp h
  obtain ⟨hrow, hstatus, hby⟩ := heldBy_some hheld
  exact ⟨row, hrow, hstatus, hby, rfl⟩

theorem markFailure_some {call : FailureCall}
    (h : markFailure d worker id call outbox = some outbox') :
    ∃ row, outbox.get? id = some row ∧ row.status = .dispatching ∧ row.lockedBy = some worker ∧
      outbox' = outbox.modify id (OutboxRow.fail d call) (OutboxRow.fail_id d call) := by
  obtain ⟨row, hheld, h⟩ := Option.bind_eq_some_iff.mp h
  obtain ⟨hrow, hstatus, hby⟩ := heldBy_some hheld
  split at h
  · cases h
    exact ⟨row, hrow, hstatus, hby, rfl⟩
  · cases h

end DomainMonitor.Queue
