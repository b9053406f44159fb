import Mathlib.Data.Prod.Lex
import DomainMonitor.Basic
import DomainMonitor.Lib.HashChain
import DomainMonitor.Lib.Marshal
import DomainMonitor.Lib.Rfc3339
import DomainMonitor.Lib.Uuid

/-! # The audit log (`internal/audit/store.go`)

    `AppendTx`: it takes an advisory lock, reads the hash of the newest entry, hashes
    the new entry together with it and inserts the row. SHA-256 is a parameter, and
    so is the way `jsonb` writes numbers.
-/

namespace DomainMonitor.Audit

/-! ### Entries -/

/-- `Entry`. A snapshot is the JSON document `json.Marshal` makes of it; `nil` makes
    the document `null`. -/
structure Entry where
  actorUserID : Option UUID
  action : GoString
  resourceType : GoString
  resourceID : Option UUID
  requestID : GoString
  reason : GoString
  before : Json.Value
  after : Json.Value
  metadata : Json.Value

/-- The columns of a row that are hashed. -/
structure Fields where
  id : UUID
  previousHash : List UInt8
  entry : Entry
  createdAt : Int

/-- A row of `audit_logs`. -/
structure Row where
  fields : Fields
  entryHash : List UInt8

def Row.id (row : Row) : UUID := row.fields.id

def Row.prevHash (row : Row) : List UInt8 := row.fields.previousHash

/-! ### The hash -/

/-- A string in the hashed document. -/
def jsonString (s : GoString) : Json.Value := .str (Marshal.string s)

/-- A `*uuid.UUID`. -/
def jsonUUID : Option UUID → Json.Value
  | none => .null
  | some id => jsonString (Uuid.text id)

/-- `hashPayload`. -/
def hashPayload (f : Fields) : List (GoString × Json.Value) :=
  [(lit "id", jsonString (Uuid.text f.id)),
   (lit "previous_hash", jsonString (Encoding.hexEncode f.previousHash)),
   (lit "actor_user_id", jsonUUID f.entry.actorUserID),
   (lit "action", jsonString f.entry.action),
   (lit "resource_type", jsonString f.entry.resourceType),
   (lit "resource_id", jsonUUID f.entry.resourceID),
   (lit "request_id", jsonString f.entry.requestID),
   (lit "reason", jsonString f.entry.reason),
   -- Raw messages are compacted and escaped.
   (lit "before", Json.escapeHTML f.entry.before),
   (lit "after", Json.escapeHTML f.entry.after),
   (lit "metadata", Json.escapeHTML f.entry.metadata),
   (lit "created_at", jsonString (Rfc3339.formatNano f.createdAt))]

/-- `json.Marshal(hashPayload)`. -/
def canonical (f : Fields) : List UInt8 :=
  Json.text Json.compact (.obj ((hashPayload f).map (fun m => (Marshal.string m.1, m.2))))

/-- What the store is built on. -/
structure Library where
  /-- `sha256.Sum256`. -/
  sha256 : List UInt8 → List UInt8
  sha256_length : ∀ bytes, (sha256 bytes).length = 32
  /-- How `jsonb` writes a number back. -/
  numeric : Json.Num → Option Json.Num

variable (lib : Library)

/-- The hash of an entry with these columns. -/
def Fields.hash (f : Fields) : List UInt8 := lib.sha256 (canonical f)

/-! ### What PostgreSQL keeps -/

/-- A document in a `jsonb` column. -/
def storeDocument (v : Json.Value) : Option Json.Value :=
  if Utf8.Valid (Json.text Json.compact v) then Jsonb.normalize lib.numeric v else none

/-- The texts of an entry. -/
def Entry.texts (e : Entry) : List GoString := [e.action, e.resourceType, e.requestID, e.reason]

def storeEntry (e : Entry) : Option Entry := do
  let before ← storeDocument lib e.before
  let after ← storeDocument lib e.after
  let metadata ← storeDocument lib e.metadata
  if ∀ s ∈ e.texts, Utf8.Storable s then some { e with before, after, metadata } else none

/-- The columns as they are read back. -/
def store (f : Fields) : Option Fields :=
  (storeEntry lib f.entry).map (fun entry =>
    { f with entry, createdAt := timestamptz f.createdAt })

/-! ### AppendTx -/

/-- `ORDER BY created_at, id`. -/
def Row.order (row : Row) : Int ×ₗ UUID := toLex (row.fields.createdAt, row.fields.id)

/-- One call: the entry, the id that is drawn, and what `time.Now()` returned. -/
structure AppendCall where
  entry : Entry
  id : UUID
  goNow : Int

/-- The hash of the row the query returns, or no bytes at all. -/
def previousHash (visible : List Row) : List UInt8 :=
  HashChain.greatest Row.entryHash [] Row.order visible

/-- What is hashed. -/
def AppendCall.fields (call : AppendCall) (visible : List Row) : Fields where
  id := call.id
  previousHash := previousHash visible
  entry := call.entry
  createdAt := call.goNow

/-- `AppendTx`, seeing the rows `visible`: the row it inserts, or `none` when the
    `INSERT` is refused. -/
def appendTx (call : AppendCall) (visible : List Row) : Option Row := do
  let fields := call.fields visible
  let entryHash := fields.hash lib
  let stored ← store lib fields
  if call.id ∈ visible.map Row.id ∨ entryHash ∈ visible.map Row.entryHash then none
  else some ⟨stored, entryHash⟩

/-- What is known of the inserted row. -/
theorem appendTx_spec {lib : Library} {call : AppendCall} {visible : List Row} {row : Row}
    (h : appendTx lib call visible = some row) :
    row.prevHash = previousHash visible ∧ row.entryHash = (call.fields visible).hash lib ∧
    store lib (call.fields visible) = some row.fields ∧ row.id ∉ visible.map Row.id ∧
    row.entryHash ∉ visible.map Row.entryHash := by
  simp only [appendTx, Option.bind_eq_bind, Option.bind_eq_some_iff] at h
  obtain ⟨stored, hstore, hrow⟩ := h
  split at hrow
  · cases hrow
  · rename_i hfresh
    cases hrow
    obtain ⟨entry, -, hstored⟩ := Option.map_eq_some_iff.mp hstore
    refine ⟨?_, rfl, hstore, ?_, fun hmem => hfresh (.inr hmem)⟩
    · show stored.previousHash = _
      rw [← hstored]
      rfl
    · intro hmem
      apply hfresh
      left
      have hid : stored.id = call.id := by
        rw [← hstored]
        rfl
      exact hid ▸ hmem

/-! ### Samples -/

def sampleEntry : Entry where
  actorUserID := none
  action := lit "DOMAIN_CREATED"
  resourceType := lit "domain"
  resourceID := some 7
  requestID := lit "req-1"
  reason := []
  before := .null
  after := .null
  metadata := .null

/-- A stand-in for SHA-256 that looks at the end of the document, where the time is. -/
def sampleLibrary : Library where
  sha256 bytes := (bytes.reverse ++ List.replicate 32 0).take 32
  sha256_length := by
    intro bytes
    simp
  numeric := some

def sampleCall (id : UUID) (goNow : Int) : AppendCall := ⟨sampleEntry, id, goNow⟩

end DomainMonitor.Audit
