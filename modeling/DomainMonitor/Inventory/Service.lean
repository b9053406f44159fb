import DomainMonitor.Config
import DomainMonitor.Inventory.Normalize
import DomainMonitor.Inventory.Schema

/-! # Editing domains (`internal/domain/service.go`, `internal/domain/store.go`)

    `Create`, `Patch`, `Archive` and `Restore`, each one transaction over the
    domain and its schedule. A transaction that returns an error is rolled back,
    so its effect is the tables it returns or none.
-/

namespace DomainMonitor.Inventory

open Utf8 Strings

/-- The errors of the service. -/
inductive ServiceError where
  | validation (e : ValidationError)
  | notFound
  | conflict
  | duplicate
  /-- A constraint other than the unique name. -/
  | database
  deriving DecidableEq, Repr

/-! ### Validation -/

def validatePriority (tables : Strings.Tables) (value : GoString) :
    Except ValidationError BusinessPriority :=
  let value := toLower tables (trimSpace value)
  if value = [] then .ok .medium
  else
    match BusinessPriority.ofText? value with
    | some priority => .ok priority
    | none => .error
        { field := lit "business_priority"
          reasonCode := lit "INVALID_BUSINESS_PRIORITY"
          reason := lit "must be low, medium, high, or critical" }

def validateContentMode (upper : Char → Char) (value : GoString) :
    Except ValidationError Httpcheck.ContentMode :=
  let value := toUpper upper (trimSpace value)
  if value = [] ∨ value = lit "HTML" then .ok .html
  else if value = lit "ANY" then .ok .any
  else if value = lit "STATUS_ONLY" then .ok .statusOnly
  else .error
    { field := lit "expected_content_mode"
      reasonCode := lit "INVALID_CONTENT_MODE"
      reason := lit "must be HTML, ANY, or STATUS_ONLY" }

def validateRenewalDecision (upper : Char → Char) (value : GoString) :
    Except ValidationError Unit :=
  if toUpper upper (trimSpace value) ∈
      [lit "RENEW", lit "DO_NOT_RENEW", lit "HOLD", lit "UNDECIDED"] then .ok ()
  else .error
    { field := lit "renewal_decision"
      reasonCode := lit "INVALID_RENEWAL_DECISION"
      reason := lit "must be RENEW, DO_NOT_RENEW, HOLD, or UNDECIDED" }

def versionRequired : ValidationError where
  field := lit "version"
  reasonCode := lit "VALUE_MUST_BE_POSITIVE"
  reason := lit "must be positive"

def reasonRequired : ValidationError where
  field := lit "reason"
  reasonCode := lit "VALUE_REQUIRED"
  reason := lit "is required"

/-! ### Statements -/

variable (db : Tables) (lib : Library) (call : Monitor.EnsureCall) (id : UUID) (version : Int)
  (input : PatchInput)

/-- The references and checks of a row that is about to be written. -/
def Tables.Accepts (d : Domain) : Prop :=
  d.Checks ∧ ∀ r ∈ d.registrarID, (db.registrars.get? r).isSome

instance (db : Tables) (d : Domain) : Decidable (db.Accepts d) :=
  inferInstanceAs (Decidable (_ ∧ _))

/-- `INSERT INTO domains`. -/
def Tables.insertDomain (d : Domain) : Except ServiceError Tables :=
  if db.Accepts d then
    match db.domains.insert d with
    | some domains => .ok { db with domains := domains }
    | none => .error .duplicate
  else .error .database

/-- `UPDATE domains ... WHERE id = k`; `f` computes the new row. -/
def Tables.updateDomain (k : UUID) (f : Domain → Domain) (hf : ∀ d, (f d).id = d.id) :
    Except ServiceError Tables :=
  if ∀ d ∈ db.domains.get? k, db.Accepts (f d) then
    match db.domains.modify k f hf with
    | some domains => .ok { db with domains := domains }
    | none => .error .duplicate
  else .error .database

/-- `EnsureScheduleTx` as a statement of the transaction; the domain must exist. -/
def Tables.ensureSchedule (domainID : UUID) (enabled : Bool) : Except ServiceError Tables :=
  match db.domains.get? domainID, Monitor.ensureSchedule call domainID enabled db.schedules with
  | some _, some schedules => .ok { db with schedules := schedules }
  | _, _ => .error .database

/-! ### Create -/

/-- The normalizer and case tables the service uses. -/
structure Library where
  names : Names
  allowUnknownTLD : Bool
  toUpper : Char → Char

structure CreateInput where
  domain : GoString
  registrarID : Option UUID
  businessPriority : GoString
  monitoringEnabled : Bool
  expectedContentMode : GoString
  expirationAt : Option Int
  notes : GoString

/-- `Create`; `id` is the identifier it draws. -/
def create (call : Monitor.EnsureCall) (input : CreateInput) (db : Tables) :
    Except ServiceError Tables := do
  let normalized ← (normalize lib.names lib.allowUnknownTLD input.domain).mapError .validation
  let priority ← (validatePriority lib.names.tables input.businessPriority).mapError .validation
  let contentMode ← (validateContentMode lib.toUpper input.expectedContentMode).mapError .validation
  let item : Domain :=
    { id := id
      originalInput := normalized.originalInput
      domainASCII := normalized.ascii
      domainUnicode := normalized.unicode
      registrableDomain := normalized.registrableDomain
      registrarID := input.registrarID
      lifecycleStatus := .active
      sourceStatus := .present
      sourceType := .manual
      businessPriority := priority
      monitoringEnabled := input.monitoringEnabled
      monitoringEnabledBeforeArchive := true
      expectedContentMode := contentMode
      purchaseDate := none
      expirationAt := input.expirationAt.map timestamptz
      notes := trimSpace input.notes
      archivedAt := none
      version := 1 }
  let db ← db.insertDomain item
  db.ensureSchedule call id item.monitoringEnabled

/-! ### Patch -/

structure PatchInput where
  version : Int
  domain : Option GoString
  registrarID : Option UUID
  clearRegistrar : Bool
  businessPriority : Option GoString
  monitoringEnabled : Option Bool
  expectedContentMode : Option GoString
  expirationAt : Option Int
  clearExpiration : Bool
  notes : Option GoString
  renewalDecision : Option GoString

/-- The names of a domain after the optional new input. -/
def PatchInput.rename (before : Domain) : Except ServiceError Domain :=
  match input.domain with
  | none => .ok before
  | some name =>
    match normalize lib.names lib.allowUnknownTLD name with
    | .error e => .error (.validation e)
    | .ok normalized => .ok
        { before with
          originalInput := normalized.originalInput
          domainASCII := normalized.ascii
          domainUnicode := normalized.unicode
          registrableDomain := normalized.registrableDomain }

/-- An optional value, validated. -/
def validated {α : Type} (check : GoString → Except ValidationError α) (before : α) :
    Option GoString → Except ServiceError α
  | none => .ok before
  | some value => (check value).mapError .validation

/-- The row `UpdateTx` writes. -/
def PatchInput.after (before : Domain) :
    Except ServiceError Domain := do
  let renamed ← input.rename lib before
  let priority ← validated (validatePriority lib.names.tables) before.businessPriority
    input.businessPriority
  let contentMode ← validated (validateContentMode lib.toUpper) before.expectedContentMode
    input.expectedContentMode
  let () ← validated (validateRenewalDecision lib.toUpper) () input.renewalDecision
  .ok
    { renamed with
      registrarID := if input.clearRegistrar then none
      else input.registrarID.or before.registrarID
      businessPriority := priority
      monitoringEnabled := input.monitoringEnabled.getD before.monitoringEnabled
      expectedContentMode := contentMode
      expirationAt := if input.clearExpiration then none
      else (input.expirationAt.map timestamptz).or before.expirationAt
      notes := (input.notes.map trimSpace).getD before.notes
      version := before.version + 1 }

/-- `Patch`. -/
def patch (db : Tables) : Except ServiceError Tables :=
  if input.version < 1 then .error (.validation versionRequired)
  else
    match db.domains.get? id with
    | none => .error .notFound
    | some before =>
      if before.version ≠ input.version then .error .conflict
      else do
        let after ← input.after lib before
        let db ← db.updateDomain id (fun d => { after with id := d.id }) (fun _ => rfl)
        db.ensureSchedule call id after.monitored

/-! ### Archive and Restore -/

/-- `ArchiveTx`. -/
def Domain.archive (now : Int) (d : Domain) : Domain :=
  { d with
    lifecycleStatus := .archived
    monitoringEnabledBeforeArchive := d.monitoringEnabled
    monitoringEnabled := false
    archivedAt := some (timestamptz now)
    version := d.version + 1 }

/-- `RestoreTx`. -/
def Domain.restore (d : Domain) : Domain :=
  { d with
    lifecycleStatus := .active
    monitoringEnabled := d.monitoringEnabledBeforeArchive
    archivedAt := none
    version := d.version + 1 }

/-- `changeLifecycle`: `guard` is the condition of the statement, without which it
    changes no row and the call is a conflict. -/
def changeLifecycle (guard : Domain → Bool) (change : Domain → Domain)
    (hchange : ∀ d, (change d).id = d.id) (db : Tables) : Except ServiceError Tables :=
  if version < 1 then .error (.validation versionRequired)
  else
    match db.domains.get? id with
    | none => .error .notFound
    | some before =>
      if before.version ≠ version then .error .conflict
      else if !guard before then .error .conflict
      else do
        let db ← db.updateDomain id change hchange
        db.ensureSchedule call id (change before).monitored

/-- `Archive`. -/
def archive (reason : GoString) (db : Tables) : Except ServiceError Tables :=
  if trimSpace reason = [] then .error (.validation reasonRequired)
  else changeLifecycle call id version (fun d => d.lifecycleStatus ≠ .archived)
    (Domain.archive call.now) (fun _ => rfl) db

/-- `Restore`. -/
def restore (reason : GoString) (db : Tables) : Except ServiceError Tables :=
  if trimSpace reason = [] then .error (.validation reasonRequired)
  else changeLifecycle call id version (fun d => d.lifecycleStatus = .archived)
    Domain.restore (fun _ => rfl) db

/-! ### What the statements change -/

variable {change : Domain → Domain} {hchange : ∀ d, (change d).id = d.id} {guard : Domain → Bool}

section

variable {db db' : Tables}

theorem Tables.insertDomain_eq_ok {d : Domain} (h : db.insertDomain d = .ok db') :
    db.Accepts d ∧ ∃ domains, db.domains.insert d = some domains ∧ db' = { db with domains := domains } := by
  unfold Tables.insertDomain at h
  split at h
  · split at h
    · cases h
      exact ⟨‹_›, _, ‹_›, rfl⟩
    · cases h
  · cases h

theorem Tables.updateDomain_eq_ok {k : UUID} {f : Domain → Domain} {hf : ∀ d, (f d).id = d.id}
    (h : db.updateDomain k f hf = .ok db') :
    ∃ domains, db.domains.modify k f hf = some domains ∧ db' = { db with domains := domains } := by
  unfold Tables.updateDomain at h
  split at h
  · split at h
    · cases h
      exact ⟨_, ‹_›, rfl⟩
    · cases h
  · cases h

variable {id : UUID} {call : Monitor.EnsureCall}

theorem Tables.ensureSchedule_eq_ok {enabled : Bool}
    (h : db.ensureSchedule call id enabled = .ok db') :
    ∃ schedules, Monitor.ensureSchedule call id enabled db.schedules = some schedules ∧
      db' = { db with schedules := schedules } := by
  unfold Tables.ensureSchedule at h
  split at h
  · cases h
    exact ⟨_, ‹_›, rfl⟩
  · cases h

/-! ### What a call has done when it succeeds -/

theorem patch_eq_ok {lib : Library} {input : PatchInput} (h : patch lib call id input db = .ok db') :
    ∃ before after domains schedules, db.domains.get? id = some before ∧
      before.version = input.version ∧ input.after lib before = .ok after ∧
      db.domains.modify id (fun d => { after with id := d.id }) (fun _ => rfl) = some domains ∧
      Monitor.ensureSchedule call id after.monitored db.schedules = some schedules ∧
      db' = { db with domains := domains, schedules := schedules } := by
  unfold patch at h
  split_ifs at h
  split at h
  · cases h
  · rename_i before hbefore
    split_ifs at h with hversion
    simp only [except_bind_ok] at h
    obtain ⟨after, hafter, db₁, hupdate, hensure⟩ := h
    obtain ⟨domains, hmodify, rfl⟩ := Tables.updateDomain_eq_ok hupdate
    obtain ⟨schedules, hschedules, rfl⟩ := Tables.ensureSchedule_eq_ok hensure
    exact ⟨before, after, domains, schedules, hbefore, not_not.mp hversion, hafter, hmodify,
      hschedules, rfl⟩

theorem changeLifecycle_eq_ok {version : Int}
    (h : changeLifecycle call id version guard change hchange db = .ok db') :
    ∃ before domains schedules, db.domains.get? id = some before ∧ before.version = version ∧
      guard before = true ∧ db.domains.modify id change hchange = some domains ∧
      Monitor.ensureSchedule call id (change before).monitored db.schedules = some schedules ∧
      db' = { db with domains := domains, schedules := schedules } := by
  unfold changeLifecycle at h
  split_ifs at h
  split at h
  · cases h
  · rename_i before hbefore
    split_ifs at h with hversion hguard
    simp only [except_bind_ok] at h
    obtain ⟨db₁, hupdate, hensure⟩ := h
    obtain ⟨domains, hmodify, rfl⟩ := Tables.updateDomain_eq_ok hupdate
    obtain ⟨schedules, hschedules, rfl⟩ := Tables.ensureSchedule_eq_ok hensure
    exact ⟨before, domains, schedules, hbefore, not_not.mp hversion, by simpa using hguard, hmodify,
      hschedules, rfl⟩

/-- The domain and the flag of its schedule after a change of its lifecycle. -/
theorem changeLifecycle_result {version : Int} {before : Domain}
    (hbefore : db.domains.get? id = some before)
    (h : changeLifecycle call id version guard change hchange db = .ok db') :
    guard before = true ∧ db'.domains.get? id = some (change before) ∧
      (Monitor.Schedules.ofDomain db'.schedules id).map Monitor.Schedule.enabled =
        some (change before).monitored := by
  obtain ⟨row, domains, schedules, hrow, -, hguard, hmodify, hensure, rfl⟩ := changeLifecycle_eq_ok h
  rw [hbefore] at hrow
  cases hrow
  obtain ⟨⟨s, hs, henabled⟩, -⟩ := Monitor.ensureSchedule_ofDomain hensure
  refine ⟨hguard, ?_, ?_⟩
  · show domains.get? id = _
    rw [IndexedTable.get?_modify hmodify, if_pos rfl, hbefore, Option.map_some]
  · show (Monitor.Schedules.ofDomain schedules id).map _ = _
    rw [hs, Option.map_some, henabled]

end

end DomainMonitor.Inventory
