import Mathlib.Data.Prod.Lex
import DomainMonitor.Lib.OrderBy
import DomainMonitor.Sheets.Model

/-! # Previews (`internal/sheets/service.go`)

    `previewSnapshot` compares the rows of a snapshot with the inventory and stores
    the result as an import: rows to add, to modify, unchanged and invalid ones,
    and a `MISSING` row for every domain that came from this source and that no
    valid row names.
-/

namespace DomainMonitor.Sheets

open Utf8 Strings Inventory

/-! ### Imports -/

inductive SourceKind where
  | googleSheets | googleDrive | excel
  deriving DecidableEq, Repr

/-- `inventorySourceType`, and `expectedType` of the preview. -/
def inventorySourceType : SourceKind → SourceType
  | .excel => .imported
  | .googleSheets | .googleDrive => .googleSheet

/-- Where the rows of an import come from. -/
structure Source where
  kind : SourceKind
  spreadsheetID : GoString
  sheetName : GoString
  deriving DecidableEq, Repr

/-- `sheet_import_status`. -/
inductive ImportStatus where
  | preview | applying | applied | rejected | failed
  deriving DecidableEq, Repr

/-- A row of `google_sheet_imports` with its `google_sheet_import_rows`. -/
structure Import where
  id : UUID
  source : Source
  status : ImportStatus
  sourceHash : GoString
  idempotencyKey : GoString
  applyIdempotencyKey : Option GoString
  validRowsApplied : Nat
  previewedAt : Int
  appliedAt : Option Int
  rejectedAt : Option Int
  rows : List ImportRow

abbrev Imports : Type := KeyedTable Import.id

structure DB where
  inventory : Inventory.Tables
  imports : Imports

/-! ### The inventory as a preview sees it -/

/-- Open costs that came from a sheet. -/
def openSheetCosts (db : Inventory.Tables) (domainID : UUID) (costType : CostType) : List Cost :=
  db.costs.rows.filter (fun c => c.domainID = domainID && c.costType = costType &&
    c.priceSource = .googleSheet && c.effectiveTo.isNone)

/-- `ORDER BY effective_from DESC, created_at DESC LIMIT 1`. -/
def latestSheetCost (db : Inventory.Tables) (domainID : UUID) (costType : CostType) : Option Cost :=
  OrderBy.lastBy (fun c => toLex (c.effectiveFrom, c.createdAt)) (openSheetCosts db domainID costType)

variable (db : DB) (source : Source) (row : ImportRow)

/-- Rows that say which import a domain came from. -/
def originRows (domainID : UUID) : List Provenance :=
  db.inventory.provenance.rows.filter (fun p => p.domainID = domainID && p.field = .domain &&
    p.source = .googleSheet && (p.sourceReference.importID.bind db.imports.get?).isSome)

/-- The source of the import that was recorded last. -/
def originOf (domainID : UUID) : Option Source := do
  let p ← OrderBy.lastBy (fun p => toLex (p.observedAt, p.createdAt)) (originRows db domainID)
  let i ← p.sourceReference.importID
  (db.imports.get? i).map Import.source

/-- `currentDomain`. -/
structure CurrentDomain where
  id : UUID
  domain : GoString
  domainUnicode : GoString
  registrableDomain : GoString
  registrar : GoString
  purchasePrice : GoString
  renewalPrice : GoString
  currency : GoString
  taxRate : GoString
  purchaseDate : GoString
  expirationDate : GoString
  priority : GoString
  notes : GoString
  active : Bool
  sourceType : SourceType
  sourceStatus : SourceStatus
  source : Option Source
  deriving DecidableEq, Repr

/-- `expiration_at::date`, in UTC. -/
def dayOf (t : Int) : Int := t / (86400 * second) + Rfc3339.unixEpoch

/-- One row of the query of `currentDomains`. -/
def currentDomain (d : Domain) : CurrentDomain :=
  let purchase := latestSheetCost db.inventory d.id .purchase
  let renewal := latestSheetCost db.inventory d.id .renewal
  { id := d.id
    domain := d.domainASCII
    domainUnicode := d.domainUnicode
    registrableDomain := d.registrableDomain
    registrar := ((d.registrarID.bind db.inventory.registrars.get?).map Registrar.name).getD []
    purchasePrice := (purchase.map (fun c => Decimal.fixed 6 c.amount)).getD []
    renewalPrice := (renewal.map (fun c => Decimal.fixed 6 c.amount)).getD []
    currency := ((renewal.map Cost.currencyCode).or (purchase.map Cost.currencyCode)).getD []
    taxRate := ((renewal.bind Cost.taxRate).map (Decimal.fixed 10)).getD []
    purchaseDate := (d.purchaseDate.map TimeParse.columnText).getD []
    expirationDate := (d.expirationAt.map (fun t => TimeParse.columnText (dayOf t))).getD []
    priority := d.businessPriority.text
    notes := d.notes
    active := d.monitored
    sourceType := d.sourceType
    sourceStatus := d.sourceStatus
    source := originOf db d.id }

/-- `currentDomains`. -/
def currentDomains : List CurrentDomain :=
  db.inventory.domains.rows.map (currentDomain db)

/-- `existing[name]`. -/
def existing (name : GoString) : Option CurrentDomain :=
  (currentDomains db).find? (fun current => current.domain = name)

/-! ### Differences -/

/-- `compare` of `sheetDiff`. -/
def compareField (field : String) (before after : GoString) : List Change :=
  if trimSpace before ≠ trimSpace after then [⟨field, some before, some after⟩] else []

def boolText (b : Bool) : GoString := if b then lit "true" else lit "false"

/-- `sheetDiff`. -/
def sheetDiff (current : CurrentDomain) (next : NormalizedRow) : List Change :=
  compareField "registrar" current.registrar next.registrar ++
  compareField "purchase_price" current.purchasePrice (next.purchasePrice.getD []) ++
  compareField "renewal_price" current.renewalPrice (next.renewalPrice.getD []) ++
  compareField "currency" current.currency next.currency ++
  compareField "tax_rate" current.taxRate (next.taxRate.getD []) ++
  compareField "purchase_date" current.purchaseDate (next.purchaseDate.getD []) ++
  compareField "expiration_date" current.expirationDate (next.expirationDate.getD []) ++
  compareField "business_priority" current.priority next.businessPriority ++
  compareField "notes" current.notes next.notes ++
  if current.active ≠ next.active then
    [⟨"active", some (boolText current.active), some (boolText next.active)⟩]
  else []

/-- A parsed row against the inventory; rows that are not valid stay as they are. -/
def matchRow : ImportRow :=
  match row.valid, row.normalizedValues with
  | true, some normalized =>
    match existing db normalized.domain with
    | none =>
      { row with
        action := .add
        diff := [⟨"domain", none, some normalized.domain⟩] }
    | some current =>
      let diff := sheetDiff current normalized
      { row with
        matchedDomainID := some current.id
        diff := diff
        action := if diff.isEmpty then .unchanged else .modify }
  | _, _ => row

/-- The domain was last seen in this source. -/
def CurrentDomain.listedIn (current : CurrentDomain) : Bool :=
  current.sourceType = inventorySourceType source.kind && current.sourceStatus = .present &&
    current.source = some source

/-- The row of a domain that is gone from its source. -/
def missingRow (rowNumber : Int) (current : CurrentDomain) : ImportRow where
  rowNumber := rowNumber
  matchedDomainID := some current.id
  action := .missing
  valid := true
  rawValues := fun field => if field = .domain then some current.domain else none
  normalizedValues := some
    { domain := current.domain
      domainUnicode := current.domainUnicode
      registrableDomain := current.registrableDomain
      registrar := []
      purchasePrice := none
      renewalPrice := none
      currency := []
      taxRate := none
      purchaseDate := none
      expirationDate := none
      businessPriority := []
      notes := []
      active := false }
  validationErrors := []
  diff := [⟨"source_status", some (lit "present"), some (lit "missing_from_source")⟩]

/-- The domains of the source that no valid row names. -/
def missingDomains (rows : List ImportRow) : List CurrentDomain :=
  (currentDomains db).filter (fun current =>
    current.listedIn source && !rows.any (fun row => row.validDomain = some current.domain))

/-- The rows of a preview. -/
def previewRows (lib : Library) (snapshot : Snapshot) (configured : Semantic → GoString)
    (source : Source) (db : DB) : Except Error (List ImportRow) := do
  let (rows, _) ← parseRows lib snapshot configured
  let missing := (missingDomains db source rows).mapIdx
    (fun i current => missingRow (snapshot.values.length + 1 + i) current)
  .ok (rows.map (matchRow db) ++ missing)

/-! ### Storing a preview -/

def NormalizedRow.stored (r : NormalizedRow) : NormalizedRow where
  domain := toValid r.domain
  domainUnicode := toValid r.domainUnicode
  registrableDomain := toValid r.registrableDomain
  registrar := toValid r.registrar
  purchasePrice := r.purchasePrice.map toValid
  renewalPrice := r.renewalPrice.map toValid
  currency := toValid r.currency
  taxRate := r.taxRate.map toValid
  purchaseDate := r.purchaseDate.map toValid
  expirationDate := r.expirationDate.map toValid
  businessPriority := toValid r.businessPriority
  notes := toValid r.notes
  active := r.active

/-- A row after its trip through the `jsonb` columns. -/
def ImportRow.stored : ImportRow :=
  { row with
    rawValues := fun field => (row.rawValues field).map toValid
    normalizedValues := row.normalizedValues.map NormalizedRow.stored
    validationErrors := row.validationErrors.map toValid
    diff := row.diff.map (fun change =>
      { change with before := change.before.map toValid, after := change.after.map toValid }) }

/-- The texts of a row that go into `jsonb`. -/
def ImportRow.texts : List GoString :=
  Semantic.all.filterMap row.rawValues ++
  (row.normalizedValues.toList.flatMap (fun r =>
    [r.domain, r.domainUnicode, r.registrableDomain, r.registrar, r.currency, r.notes]))

/-- A `jsonb` document holds no NUL. -/
def ImportRow.storable : Bool := row.texts.all (fun s => !s.contains 0)

/-- One call of `previewSnapshot`: the identifier it draws, the hash of the
    snapshot, and the clock. -/
structure PreviewCall where
  id : UUID
  key : GoString
  source : Source
  configured : Semantic → GoString
  snapshot : Snapshot
  hash : GoString
  now : Int

def invalidKey (key : GoString) : Bool := key.length < 8 || 200 < key.length

/-- `importByIdempotency`. -/
def importByIdempotency (key : GoString) : Option Import :=
  db.imports.rows.find? (fun item => item.idempotencyKey = key)

/-- `openImportByHash`. -/
def openImportByHash (hash : GoString) : Option Import :=
  db.imports.rows.find? (fun item =>
    item.source = source && item.sourceHash = hash && item.status = .preview)

/-- `previewSnapshot`. -/
def previewSnapshot (lib : Library) (call : PreviewCall) (db : DB) : Except Error (DB × Import) :=
  let key := trimSpace call.key
  if invalidKey key then .error (.validation (lit "idempotency key"))
  else
    match importByIdempotency db key with
    | some item => .ok (db, item)
    | none =>
      match openImportByHash db call.source call.hash with
      | some item => .ok (db, item)
      | none => do
        let rows ← previewRows lib call.snapshot call.configured call.source db
        if rows.all ImportRow.storable then
          let result : Import :=
            { id := call.id
              source := call.source
              status := .preview
              sourceHash := call.hash
              idempotencyKey := key
              applyIdempotencyKey := none
              validRowsApplied := 0
              previewedAt := call.now
              appliedAt := none
              rejectedAt := none
              rows := rows.map ImportRow.stored }
          match db.imports.insert result with
          | some imports => .ok ({ db with imports := imports }, result)
          | none => .error .database
        else .error .database

theorem previewRows_eq_ok {lib : Library} {snapshot : Snapshot} {configured : Semantic → GoString}
    {source : Source} {db : DB} {rows : List ImportRow} :
    previewRows lib snapshot configured source db = .ok rows ↔
      ∃ parsed indexes, parseRows lib snapshot configured = .ok (parsed, indexes) ∧
        rows = parsed.map (matchRow db) ++ (missingDomains db source parsed).mapIdx
          (fun i current => missingRow (snapshot.values.length + 1 + i) current) := by
  simp only [previewRows, except_bind_ok]
  constructor
  · intro h
    obtain ⟨⟨parsed, indexes⟩, hparse, hrows⟩ := h
    cases hrows
    exact ⟨parsed, indexes, hparse, rfl⟩
  · intro h
    obtain ⟨parsed, indexes, hparse, rfl⟩ := h
    exact ⟨(parsed, indexes), hparse, rfl⟩

/-- `previewSnapshot` either finds an import, or stores a new one. -/
theorem previewSnapshot_eq_ok {lib : Library} {call : PreviewCall} {db : DB} {result : DB × Import}
    (h : previewSnapshot lib call db = .ok result) :
    (result.1 = db ∧ (importByIdempotency db (trimSpace call.key) = some result.2 ∨
        openImportByHash db call.source call.hash = some result.2)) ∨
      ∃ rows imports, previewRows lib call.snapshot call.configured call.source db = .ok rows ∧
        db.imports.insert result.2 = some imports ∧ result.1 = { db with imports := imports } ∧
        result.2.id = call.id ∧ result.2.source = call.source ∧ result.2.status = .preview ∧
        result.2.rows = rows.map ImportRow.stored := by
  simp only [previewSnapshot] at h
  split at h
  · cases h
  · split at h
    · cases h
      exact .inl ⟨rfl, .inl ‹_›⟩
    · split at h
      · cases h
        exact .inl ⟨rfl, .inr ‹_›⟩
      · rw [except_bind_ok] at h
        obtain ⟨rows, hrows, h⟩ := h
        split at h
        · split at h
          · rename_i imports hinsert
            cases h
            exact .inr ⟨rows, imports, hrows, hinsert, rfl, rfl, rfl, rfl, rfl⟩
          · cases h
        · cases h

/-! ### A small source

    ASCII tables and a public suffix list on which the last label of a name is its
    suffix; a workbook with one sheet, and a domain that came from it. -/

def sampleNames : Names where
  tables := Strings.asciiTables
  url := ⟨id, id⟩
  toASCII := some
  toUnicode := some
  publicSuffix := fun name => ((name.splitOn 46).getLastD [], true)
  effectiveTLDPlusOne := fun name => some name

def sampleLibrary : Library where
  names := sampleNames
  allowUnknownTLD := false
  toUpper := Char.toUpper
  isDigit := Char.isDigit

def sampleSource : Source := ⟨.excel, lit "excel:domains", lit "Sheet1"⟩

def sampleSnapshot (lines : List (List String)) : Snapshot :=
  ⟨[], lines.map (fun line => line.map lit)⟩

/-- A saved mapping with the given headers; every other field is looked for under a
    header that no sheet has. -/
def sampleMapping (headers : List (Semantic × String)) (field : Semantic) : GoString :=
  lit ((headers.lookup field).getD "-")

/-- A domain that an import of the sample source added. -/
def sampleDomain : Domain where
  id := 1
  originalInput := lit "example.com"
  domainASCII := lit "example.com"
  domainUnicode := lit "example.com"
  registrableDomain := lit "example.com"
  registrarID := none
  lifecycleStatus := .active
  sourceStatus := .present
  sourceType := .imported
  businessPriority := .medium
  monitoringEnabled := true
  monitoringEnabledBeforeArchive := true
  expectedContentMode := .html
  purchaseDate := none
  expirationAt := none
  notes := []
  archivedAt := none
  version := 1

def sampleImport : Import where
  id := 10
  source := sampleSource
  status := .applied
  sourceHash := lit "first"
  idempotencyKey := lit "preview-1"
  applyIdempotencyKey := some (lit "apply-01")
  validRowsApplied := 1
  previewedAt := 0
  appliedAt := some 0
  rejectedAt := none
  rows := []

def sampleProvenance : Provenance where
  id := 20
  domainID := 1
  field := .domain
  source := .googleSheet
  sourceReference := .sheetImport 10 2
  observedAt := 0
  isCurrent := true
  supersedesID := none
  createdAt := 0

def sampleDB : DB where
  inventory :=
    { Inventory.Tables.empty with
      domains := ⟨⟨[sampleDomain], List.nodup_singleton _⟩, List.nodup_singleton _⟩
      provenance := ⟨⟨[sampleProvenance], List.nodup_singleton _⟩, by decide⟩ }
  imports := ⟨[sampleImport], List.nodup_singleton _⟩

end DomainMonitor.Sheets
