import Mathlib.Data.List.MinMax
import DomainMonitor.Sheets.Preview

/-! # Applying imports (`internal/sheets/apply.go`)

    `Apply` runs the rows of a preview in one transaction: domains are added,
    modified or marked missing, with their schedules, the provenance of their
    fields and their costs. `Reject` closes a preview without effect.
-/

namespace DomainMonitor.Sheets

open Utf8 Inventory

/-! ### The call -/

/-- What PostgreSQL contributes: `lower`, and the rows of `currencies`. -/
structure Postgres where
  lower : GoString → GoString
  currencies : List GoString

/-- The identifiers drawn and the instants read while one row is applied. -/
structure RowDraws where
  domainID : UUID
  registrarID : UUID
  scheduleID : UUID
  provenanceID : Field → UUID
  observed : Field → Int
  costID : CostType → UUID

/-- One call of `Apply`: `now` is the transaction's `now()`, whose day is
    `current_date`, and `goNow` the clock of the service. -/
structure ApplyCall where
  importID : UUID
  key : GoString
  reason : GoString
  now : Int
  goNow : Int
  draws : Int → RowDraws

variable (pg : Postgres) (call : ApplyCall) (item : Import) (row : ImportRow) (id domainID : UUID)
  (value : NormalizedRow) (db : Inventory.Tables)

def ApplyCall.today : Int := dayOf call.now

/-- A statement of the inventory, as a statement of an import. -/
def statement {α : Type} (e : Except ServiceError α) : Except Error α :=
  e.mapError (fun _ => .database)

/-! ### Registrars -/

/-- `SELECT id FROM registrars WHERE lower(name)=lower($1) ORDER BY id LIMIT 1`. -/
def registrarNamed (registrars : Registrars) (name : GoString) : Option Registrar :=
  (registrars.rows.filter (fun r => pg.lower r.name = pg.lower name)).argmin Registrar.id

/-- `ensureRegistrar`; the name that is inserted has no blanks around it. -/
def ensureRegistrar (newID : UUID) (name : GoString) (registrars : Registrars) :
    Except Error (Option UUID × Registrars) :=
  let name := trimSpace name
  if name = [] then .ok (none, registrars)
  else
    match registrarNamed pg registrars name with
    | some registrar => .ok (some registrar.id, registrars)
    | none =>
      if Storable name ∧ LengthBetween 1 200 name then
        match registrars.insert ⟨newID, name⟩ with
        | some registrars =>
          match registrarNamed pg registrars name with
          | some registrar => .ok (some registrar.id, registrars)
          | none => .error .notFound
        | none => .error .database
      else .error .database

/-! ### Provenance and costs -/

def retired (p : Provenance) : Provenance := { p with isCurrent := false }

/-- `setProvenance`, for an observation of a sheet. -/
def setProvenance (now observed : Int) (domainID : UUID) (field : Field) (reference : Reference)
    (provenance : Provenances) : Option Provenances := do
  let previous := provenance.find? (domainID, field)
  let provenance ← match previous with
    | some p => provenance.modify p.id retired (fun _ => rfl)
    | none => some provenance
  provenance.insert
    { id := id
      domainID := domainID
      field := field
      source := .googleSheet
      sourceReference := reference
      observedAt := observed
      isCurrent := true
      supersedesID := previous.map Provenance.id
      createdAt := now }

/-- The day a cost is closed on when another one starts today. -/
def closedCost (today : Int) (c : Cost) : Cost :=
  { c with effectiveTo := some (if c.effectiveFrom < today then today - 1 else today) }

/-- A cost that `upsertSheetCost` closes. -/
def replacedBy (costType : CostType) (c : Cost) : Bool :=
  c.domainID = domainID && c.costType = costType && c.priceSource = .googleSheet &&
    c.effectiveTo.isNone

/-- `upsertSheetCost`. -/
def upsertSheetCost (now today : Int) (domainID : UUID) (costType : CostType)
    (amount currency : GoString) (taxRate : Option GoString) (costs : Costs) :
    Option Costs := do
  let closed := costs.updateWhere (replacedBy domainID costType) (closedCost today)
    (fun _ => rfl)
  let amount ← Decimal.numeric 20 6 amount
  let rate ← match taxRate with
    | none => some none
    | some rate => (Decimal.numeric 20 10 rate).map some
  let cost : Cost :=
    { id := id
      domainID := domainID
      costType := costType
      amount := amount
      currencyCode := currency
      priceSource := .googleSheet
      taxRate := rate
      taxInclusive := false
      taxMode := if rate.isSome then .exclusive else .unknown
      billingCycleMonths := 12
      effectiveFrom := today
      effectiveTo := none
      createdAt := now }
  if (∀ c ∈ closed.rows, c.Checks) ∧ cost.Checks ∧ currency ∈ pg.currencies then closed.insert cost
  else none

/-- The provenance `applySheetFields` records, in the order of its map. -/
def sheetFields : List Field :=
  [.domain, .registrar, .businessPriority, .notes, .active] ++
    (if value.purchaseDate.isSome then [.purchaseDate] else []) ++
    (if value.expirationDate.isSome then [.expirationDate] else [])

/-- The costs `applySheetFields` records. -/
def sheetCosts : List (CostType × GoString) :=
  (value.purchasePrice.toList.map (fun amount => (.purchase, amount))) ++
    (value.renewalPrice.toList.map (fun amount => (.renewal, amount)))

/-- `applySheetFields`. -/
def applySheetFields : Except Error Inventory.Tables :=
  let draws := call.draws row.rowNumber
  let recorded := (sheetFields value).foldlM (fun provenance field =>
    setProvenance (draws.provenanceID field) call.now (draws.observed field) domainID field
      (.sheetImport item.id row.rowNumber) provenance) db.provenance
  match recorded with
  | none => .error .database
  | some provenance =>
    let priced := (sheetCosts value).foldlM (fun costs price =>
      upsertSheetCost pg (draws.costID price.1) call.now call.today domainID price.1 price.2
        value.currency value.taxRate costs) db.costs
    match priced with
    | none => .error .database
    | some costs => .ok { db with provenance := provenance, costs := costs }

/-! ### Rows -/

/-- `nullableDate`. -/
def nullableDate : Option GoString → Except Error (Option Int)
  | none => .ok none
  | some text =>
    match TimeParse.date? text with
    | some day => .ok (some day)
    | none => .error (.validation text)

/-- Midnight UTC of a day. -/
def midnight (day : Int) : Int := (day - Rfc3339.unixEpoch) * (86400 * second)

/-- The cast to `business_priority`. -/
def castPriority (text : GoString) : Except Error BusinessPriority :=
  match BusinessPriority.ofText? text with
  | some priority => .ok priority
  | none => .error .database

def ensureCall : Monitor.EnsureCall :=
  ⟨(call.draws row.rowNumber).scheduleID, 0, call.now⟩

/-- The fields with an active override. -/
def activeOverride (now : Int) (domainID : UUID) (field : Field) : Bool :=
  db.overrides.any (fun o => o.domainID = domainID && o.field = field && o.activeAt now)

/-- What a row says about a domain, ready to be stored. -/
structure RowColumns where
  registrarID : Option UUID
  purchaseDate : Option Int
  expirationAt : Option Int
  priority : BusinessPriority

/-- The `UPDATE` of `applyModify`. -/
def modifiedBy (columns : RowColumns) (source : SourceType) (keepExpiration keepPriority : Bool)
    (d : Domain) : Domain :=
  { d with
    registrarID := columns.registrarID
    purchaseDate := columns.purchaseDate
    expirationAt := if keepExpiration then d.expirationAt else columns.expirationAt
    businessPriority := if keepPriority then d.businessPriority else columns.priority
    notes := value.notes
    -- An archived domain stays archived and is not monitored.
    lifecycleStatus := if d.lifecycleStatus = .archived then .archived
      else if value.active then .active else .inactive
    monitoringEnabled := if d.lifecycleStatus = .archived then false else value.active
    sourceType := source
    sourceStatus := .present
    version := d.version + 1 }

/-- The registrar, dates and priority of a row. -/
def rowColumns : Except Error (RowColumns × Inventory.Tables) := do
  let (registrarID, registrars) ← ensureRegistrar pg (call.draws row.rowNumber).registrarID
    value.registrar db.registrars
  let purchaseDate ← nullableDate value.purchaseDate
  let expiration ← nullableDate value.expirationDate
  let priority ← castPriority value.businessPriority
  .ok (⟨registrarID, purchaseDate, expiration.map midnight, priority⟩,
    { db with registrars := registrars })

/-- `applyModify`. -/
def applyModify : Except Error Inventory.Tables :=
  match db.domains.get? domainID with
  | none => .error .notFound
  | some before => do
    let keepExpiration := activeOverride db call.now domainID .expirationDate
    let keepPriority := activeOverride db call.now domainID .businessPriority
    let (columns, db) ← rowColumns pg call row value db
    let change := modifiedBy value columns (inventorySourceType item.source.kind)
      keepExpiration keepPriority
    let db ← statement (db.updateDomain domainID change (fun _ => rfl))
    let db ← statement (db.ensureSchedule (ensureCall call row) domainID (change before).monitored)
    applySheetFields pg call item row domainID value db

/-- The row `applyAdd` inserts. -/
def addedDomain (columns : RowColumns) (source : SourceType) : Domain where
  id := id
  originalInput := value.domain
  domainASCII := value.domain
  domainUnicode := value.domainUnicode
  registrableDomain := value.registrableDomain
  registrarID := columns.registrarID
  lifecycleStatus := if value.active then .active else .inactive
  sourceStatus := .present
  sourceType := source
  businessPriority := columns.priority
  monitoringEnabled := value.active
  monitoringEnabledBeforeArchive := true
  expectedContentMode := .html
  purchaseDate := columns.purchaseDate
  expirationAt := columns.expirationAt
  notes := value.notes
  archivedAt := none
  version := 1

/-- `applyAdd`: a domain that exists by now is modified. -/
def applyAdd : Except Error Inventory.Tables :=
  match db.domains.find? value.domain with
  | some d => applyModify pg call item row d.id value db
  | none => do
    let id := (call.draws row.rowNumber).domainID
    let (columns, db) ← rowColumns pg call row value db
    let db ← statement (db.insertDomain
      (addedDomain id value columns (inventorySourceType item.source.kind)))
    let db ← statement (db.ensureSchedule (ensureCall call row) id value.active)
    applySheetFields pg call item row id value db

/-- The `UPDATE` of `applyMissing`: only a domain that still has the source type of
    the import. -/
def missingFrom (source : SourceType) (d : Domain) : Domain :=
  if d.sourceType = source then
    { d with
      sourceStatus := .missingFromSource
      monitoringEnabled := false
      version := d.version + 1 }
  else d

theorem missingFrom_id (source : SourceType) (d : Domain) :
    (missingFrom source d).id = d.id := by
  unfold missingFrom
  split <;> rfl

/-- `applyMissing`: the schedule is disabled whether or not the domain was. -/
def applyMissing : Except Error Inventory.Tables := do
  let db ← statement (db.updateDomain domainID
    (missingFrom (inventorySourceType item.source.kind))
    (missingFrom_id _))
  statement (db.ensureSchedule (ensureCall call row) domainID false)

/-- The `UPDATE` for an unchanged row. -/
def seenAgain (d : Domain) : Domain :=
  if d.sourceStatus ≠ .present then { d with sourceStatus := .present, version := d.version + 1 }
  else d

theorem seenAgain_id (d : Domain) : (seenAgain d).id = d.id := by
  unfold seenAgain
  split <;> rfl

/-- The body of the loop of `Apply`, for a row that is not skipped. -/
def applyRow : Except Error Inventory.Tables :=
  match row.action with
  | .add =>
    match row.normalizedValues with
    | some value => applyAdd pg call item row value db
    | none => .error (.validation (lit "missing normalized row"))
  | .modify =>
    match row.normalizedValues, row.matchedDomainID with
    | some value, some domainID => applyModify pg call item row domainID value db
    | _, _ => .error (.validation (lit "invalid modify row"))
  | .missing =>
    match row.matchedDomainID with
    | some domainID => applyMissing call item row domainID db
    | none => .error (.validation (lit "invalid missing row"))
  | .unchanged =>
    match row.matchedDomainID with
    | some domainID =>
      statement (db.updateDomain domainID seenAgain seenAgain_id)
    | none => .ok db
  | .invalid => .ok db

/-- A row that the loop skips. -/
def ImportRow.skipped : Bool := !row.valid || row.action = .invalid

/-- One iteration of the loop of `Apply`, with the count of applied rows. -/
def applyNext (state : Inventory.Tables × Nat) (row : ImportRow) :
    Except Error (Inventory.Tables × Nat) :=
  if row.skipped then .ok state
  else do
    let db ← applyRow pg call item row state.1
    .ok (db, state.2 + 1)

/-- The loop of `Apply`. -/
def applyRows : Except Error (Inventory.Tables × Nat) :=
  (OrderBy.orderBy ImportRow.rowNumber item.rows).foldlM (applyNext pg call item) (db, 0)

/-! ### What a row changes -/

theorem statement_eq_ok {α : Type} {e : Except ServiceError α} {a : α} :
    statement e = .ok a ↔ e = .ok a := by
  cases e <;> simp [statement, Except.mapError]

section

variable {pg : Postgres} {call : ApplyCall} {item : Import} {row : ImportRow} {k : UUID}
  {value : NormalizedRow} {db db' : Inventory.Tables}

theorem rowColumns_eq_ok {columns : RowColumns}
    (h : rowColumns pg call row value db = .ok (columns, db')) :
    ∃ registrars, ensureRegistrar pg (call.draws row.rowNumber).registrarID value.registrar
        db.registrars = .ok (columns.registrarID, registrars) ∧
      nullableDate value.purchaseDate = .ok columns.purchaseDate ∧
      (∃ day, nullableDate value.expirationDate = .ok day ∧ columns.expirationAt = day.map midnight) ∧
      castPriority value.businessPriority = .ok columns.priority ∧
      db' = { db with registrars := registrars } := by
  simp only [rowColumns, except_bind_ok] at h
  obtain ⟨⟨registrarID, registrars⟩, hregistrar, purchase, hpurchase, expiration, hexpiration,
    priority, hpriority, hresult⟩ := h
  cases hresult
  exact ⟨registrars, hregistrar, hpurchase, ⟨expiration, hexpiration, rfl⟩, hpriority, rfl⟩

theorem applySheetFields_eq_ok (h : applySheetFields pg call item row k value db = .ok db') :
    ∃ provenance costs,
      (sheetFields value).foldlM (fun provenance field =>
        setProvenance ((call.draws row.rowNumber).provenanceID field) call.now
          ((call.draws row.rowNumber).observed field) k field
          (.sheetImport item.id row.rowNumber) provenance) db.provenance = some provenance ∧
      (sheetCosts value).foldlM (fun costs price =>
        upsertSheetCost pg ((call.draws row.rowNumber).costID price.1) call.now call.today k price.1
          price.2 value.currency value.taxRate costs) db.costs = some costs ∧
      db' = { db with provenance := provenance, costs := costs } := by
  simp only [applySheetFields] at h
  split at h
  · cases h
  · split at h
    · cases h
    · cases h
      exact ⟨_, _, ‹_›, ‹_›, rfl⟩

/-- Everything that `applyModify` does. -/
theorem applyModify_eq_ok (h : applyModify pg call item row k value db = .ok db') :
    ∃ before columns registrars domains schedules,
      db.domains.get? k = some before ∧
      rowColumns pg call row value db = .ok (columns, { db with registrars := registrars }) ∧
      db.domains.modify k (modifiedBy value columns (inventorySourceType item.source.kind)
        (activeOverride db call.now k .expirationDate)
        (activeOverride db call.now k .businessPriority)) (fun _ => rfl) = some domains ∧
      Monitor.ensureSchedule (ensureCall call row) k
        (modifiedBy value columns (inventorySourceType item.source.kind)
          (activeOverride db call.now k .expirationDate)
          (activeOverride db call.now k .businessPriority) before).monitored db.schedules =
          some schedules ∧
      applySheetFields pg call item row k value
        { db with registrars := registrars, domains := domains, schedules := schedules } = .ok db' := by
  unfold applyModify at h
  split at h
  · cases h
  · rename_i before hbefore
    simp only [except_bind_ok, statement_eq_ok] at h
    obtain ⟨⟨columns, db₁⟩, hcolumns, db₂, hupdate, db₃, hschedule, hfields⟩ := h
    obtain ⟨registrars, -, -, -, -, rfl⟩ := rowColumns_eq_ok hcolumns
    obtain ⟨domains, hmodify, rfl⟩ := Tables.updateDomain_eq_ok hupdate
    obtain ⟨schedules, hensure, rfl⟩ := Tables.ensureSchedule_eq_ok hschedule
    exact ⟨before, columns, registrars, domains, schedules, hbefore, hcolumns, hmodify, hensure, hfields⟩

/-- Everything that `applyAdd` does for a new domain. -/
theorem applyAdd_eq_ok (hnew : db.domains.find? value.domain = none)
    (h : applyAdd pg call item row value db = .ok db') :
    ∃ columns registrars domains schedules,
      rowColumns pg call row value db = .ok (columns, { db with registrars := registrars }) ∧
      db.domains.insert (addedDomain (call.draws row.rowNumber).domainID value columns
        (inventorySourceType item.source.kind)) = some domains ∧
      Monitor.ensureSchedule (ensureCall call row) (call.draws row.rowNumber).domainID value.active
        db.schedules = some schedules ∧
      applySheetFields pg call item row (call.draws row.rowNumber).domainID value
        { db with registrars := registrars, domains := domains, schedules := schedules } = .ok db' := by
  simp only [applyAdd, hnew, except_bind_ok, statement_eq_ok] at h
  obtain ⟨⟨columns, db₁⟩, hcolumns, db₂, hinsert, db₃, hschedule, hfields⟩ := h
  obtain ⟨registrars, -, -, -, -, rfl⟩ := rowColumns_eq_ok hcolumns
  obtain ⟨-, domains, hinserted, rfl⟩ := Tables.insertDomain_eq_ok hinsert
  obtain ⟨schedules, hensure, rfl⟩ := Tables.ensureSchedule_eq_ok hschedule
  exact ⟨columns, registrars, domains, schedules, hcolumns, hinserted, hensure, hfields⟩

theorem applyMissing_eq_ok (h : applyMissing call item row k db = .ok db') :
    ∃ domains schedules,
      db.domains.modify k (missingFrom (inventorySourceType item.source.kind)) (missingFrom_id _) =
        some domains ∧
      Monitor.ensureSchedule (ensureCall call row) k false db.schedules = some schedules ∧
      db' = { db with domains := domains, schedules := schedules } := by
  simp only [applyMissing, except_bind_ok, statement_eq_ok] at h
  obtain ⟨db₁, hupdate, hschedule⟩ := h
  obtain ⟨domains, hmodify, rfl⟩ := Tables.updateDomain_eq_ok hupdate
  obtain ⟨schedules, hensure, rfl⟩ := Tables.ensureSchedule_eq_ok hschedule
  exact ⟨domains, schedules, hmodify, hensure, rfl⟩

end

/-- The row modifies domain `k`: it was matched with it, or it is to be added under
    the name that `k` has by now. -/
def ImportRow.Modifies (k : UUID) (value : NormalizedRow) : Prop :=
  row.normalizedValues = some value ∧
    ((row.action = .modify ∧ row.matchedDomainID = some k) ∨
      (row.action = .add ∧ ∃ d, db.domains.find? value.domain = some d ∧ d.id = k))

/-- What a row that is applied without error does. -/
inductive RowRun (db' : Inventory.Tables) : Prop where
  | modify (k : UUID) (value : NormalizedRow) (hrow : row.Modifies db k value)
      (h : applyModify pg call item row k value db = .ok db')
  | add (value : NormalizedRow) (haction : row.action = .add)
      (hvalue : row.normalizedValues = some value) (hnew : db.domains.find? value.domain = none)
      (h : applyAdd pg call item row value db = .ok db')
  | missing (k : UUID) (haction : row.action = .missing) (hmatched : row.matchedDomainID = some k)
      (h : applyMissing call item row k db = .ok db')
  | unchanged (k : UUID) (haction : row.action = .unchanged)
      (hmatched : row.matchedDomainID = some k)
      (h : statement (db.updateDomain k seenAgain seenAgain_id) = .ok db')
  | nothing (haction : row.action = .unchanged ∨ row.action = .invalid) (h : db' = db)

theorem rowRun_of_ok {pg : Postgres} {call : ApplyCall} {item : Import} {row : ImportRow}
    {db db' : Inventory.Tables} (h : applyRow pg call item row db = .ok db') :
    RowRun pg call item row db db' := by
  unfold applyRow at h
  split at h
  · rename_i haction
    split at h
    · rename_i value hvalue
      cases hfind : db.domains.find? value.domain with
      | none => exact .add value haction hvalue hfind h
      | some d =>
        simp only [applyAdd, hfind] at h
        exact .modify d.id value ⟨hvalue, .inr ⟨haction, d, hfind, rfl⟩⟩ h
    · cases h
  · rename_i haction
    split at h
    · rename_i value k hvalue hmatched
      exact .modify k value ⟨hvalue, .inl ⟨haction, hmatched⟩⟩ h
    · cases h
  · rename_i haction
    split at h
    · rename_i k hmatched
      exact .missing k haction hmatched h
    · cases h
  · rename_i haction
    split at h
    · rename_i k hmatched
      exact .unchanged k haction hmatched h
    · cases h
      exact .nothing (.inl haction) rfl
  · rename_i haction
    cases h
    exact .nothing (.inr haction) rfl

/-! ### Apply and Reject -/

/-- The guarded `UPDATE` of `Apply`. -/
def Import.apply (key : GoString) (now : Int) (applied : Nat) (item : Import) : Import :=
  if item.status = .preview then
    { item with
      status := .applied
      applyIdempotencyKey := some key
      appliedAt := some now
      validRowsApplied := applied }
  else item

theorem Import.apply_id (key : GoString) (now : Int) (applied : Nat) (item : Import) :
    (item.apply key now applied).id = item.id := by
  unfold Import.apply
  split <;> rfl

theorem ApplyCall.apply_id (applied : Nat) :
    ∀ item : Import, (item.apply (trimSpace call.key) call.goNow applied).id = item.id :=
  Import.apply_id _ _ _

/-- `google_sheet_imports_apply_idempotency_idx`: another import was applied under
    the key. -/
def keyTaken (imports : Imports) (id : UUID) (key : GoString) : Bool :=
  imports.any (fun item => item.id ≠ id && item.applyIdempotencyKey = some key)

def applyKeyInvalid : Bool :=
  invalidKey (trimSpace call.key) || trimSpace call.reason = []

/-- `Apply`; the result is the import as `GetImport` reads it. -/
def apply (db : DB) : Except Error (DB × Import) :=
  let key := trimSpace call.key
  if applyKeyInvalid call then
    .error (.validation (lit "idempotency key and reason are required"))
  else
    match db.imports.get? call.importID with
    | none => .error .notFound
    | some item =>
      if item.status = .applied then
        if item.applyIdempotencyKey = some key then .ok (db, item) else .error .conflict
      else if item.status ≠ .preview then .error .conflict
      else do
        let (inventory, applied) ← applyRows pg call item db.inventory
        if keyTaken db.imports item.id key then .error .database
        else
          .ok
            ({ inventory := inventory
               imports := db.imports.modify item.id (Import.apply key call.goNow applied)
                 (Import.apply_id _ _ _) },
              item.apply key call.goNow applied)

/-- The guarded `UPDATE` of `Reject`. -/
def Import.reject (now : Int) (item : Import) : Import :=
  if item.status = .preview then { item with status := .rejected, rejectedAt := some now } else item

theorem Import.reject_id (now : Int) (item : Import) : (item.reject now).id = item.id := by
  unfold Import.reject
  split <;> rfl

/-- `Reject`. -/
def reject (importID : UUID) (reason : GoString) (now : Int) (db : DB) : Except Error (DB × Import) :=
  if trimSpace reason = [] then .error (.validation (lit "reason"))
  else
    match db.imports.get? importID with
    | none => .error .notFound
    | some item =>
      if item.status ≠ .preview then .error .conflict
      else .ok
        ({ db with imports := db.imports.modify item.id (Import.reject now) (Import.reject_id _) },
          item.reject now)

/-! ### What a call does -/

section

variable {pg : Postgres} {call : ApplyCall} {db : DB} {result : DB × Import}

/-- `Apply` either finds the import applied under the same key, or runs its rows. -/
theorem apply_eq_ok (h : apply pg call db = .ok result) :
    applyKeyInvalid call = false ∧ ∃ item, db.imports.get? call.importID = some item ∧
      ((item.status = .applied ∧ item.applyIdempotencyKey = some (trimSpace call.key) ∧
          result.1 = db ∧ result.2 = item) ∨
        (item.status = .preview ∧ ∃ inventory applied,
          applyRows pg call item db.inventory = .ok (inventory, applied) ∧
          keyTaken db.imports item.id (trimSpace call.key) = false ∧
          result.1 =
            { inventory := inventory
              imports := db.imports.modify item.id
                (Import.apply (trimSpace call.key) call.goNow applied) (Import.apply_id _ _ _) } ∧
          result.2 = item.apply (trimSpace call.key) call.goNow applied)) := by
  simp only [apply] at h
  split at h
  · cases h
  · rename_i hkey
    refine ⟨Bool.eq_false_iff.mpr hkey, ?_⟩
    split at h
    · cases h
    · rename_i item hitem
      refine ⟨item, hitem, ?_⟩
      split at h
      · rename_i hstatus
        split at h
        · cases h
          exact .inl ⟨hstatus, ‹_›, rfl, rfl⟩
        · cases h
      · split at h
        · cases h
        · rename_i hstatus
          obtain ⟨⟨inventory, applied⟩, hrows, hdone⟩ := except_bind_ok.mp h
          split at hdone
          · cases hdone
          · rename_i htaken
            cases hdone
            exact .inr ⟨not_not.mp hstatus, inventory, applied, hrows,
              Bool.eq_false_iff.mpr htaken, rfl, rfl⟩

theorem reject_eq_ok {importID : UUID} {reason : GoString} {now : Int}
    (h : reject importID reason now db = .ok result) :
    trimSpace reason ≠ [] ∧ ∃ item, db.imports.get? importID = some item ∧ item.status = .preview ∧
      result.1 = { db with
        imports := db.imports.modify item.id (Import.reject now) (Import.reject_id _) } ∧
      result.2 = item.reject now := by
  unfold reject at h
  split at h
  · cases h
  · rename_i hreason
    refine ⟨hreason, ?_⟩
    split at h
    · cases h
    · rename_i item hitem
      split at h
      · cases h
      · rename_i hstatus
        cases h
        exact ⟨item, hitem, not_not.mp hstatus, rfl, rfl⟩

end

/-! ### A small database -/

def emptyDB : DB := ⟨Inventory.Tables.empty, KeyedTable.empty⟩

def samplePostgres : Postgres where
  lower := fun s => s.map Strings.lowerByte
  currencies := [lit "THB"]

/-- Identifiers of one import, distinct for every row. -/
def sampleDraws (base : Nat) (rowNumber : Int) : RowDraws :=
  let start := base + 100 * rowNumber.toNat
  { domainID := start
    registrarID := start + 1
    scheduleID := start + 2
    provenanceID := fun field => start + 3 + field.ctorIdx
    observed := fun _ => base
    costID := fun costType => start + 50 + costType.ctorIdx }

def samplePreview (key : String) (source : Source) (lines : List (List String)) : PreviewCall where
  id := id
  key := lit key
  source := source
  configured := sampleMapping [(.domain, "Domain"), (.notes, "Notes")]
  snapshot := sampleSnapshot lines
  hash := lit key
  now := id

def sampleApply (importID : UUID) (key : String) : ApplyCall where
  importID := importID
  key := lit key
  reason := lit "reviewed"
  now := importID
  goNow := importID
  draws := sampleDraws (1000 * importID)

end DomainMonitor.Sheets
