import DomainMonitor.Httpcheck.Types
import DomainMonitor.Lib.Decimal
import DomainMonitor.Lib.IndexedTable
import DomainMonitor.Lib.TimeParse
import DomainMonitor.Monitor.Schedules

/-! # The inventory (`migrations/00001_foundation.sql`, `00005_asset_intelligence.sql`)

    Domains with the columns their owners edit, registrars, costs, the provenance
    of each field, and manual overrides. The columns that monitoring writes are in
    `Monitor/Schema.lean`.

    Days count from 0001-01-01; instants are nanoseconds since the epoch.
-/

namespace DomainMonitor.Inventory

open Utf8

/-! ### Domains -/

/-- `source_type`; `imported` is `import`. -/
inductive SourceType where
  | manual | googleSheet | registrarAPI | rdap | imported
  deriving DecidableEq, Repr

/-- `source_presence_status`. -/
inductive SourceStatus where
  | present | missingFromSource | unknown
  deriving DecidableEq, Repr

inductive BusinessPriority where
  | low | medium | high | critical
  deriving DecidableEq, Repr

/-- `business_priority::text`. -/
def BusinessPriority.text : BusinessPriority → GoString
  | .low => lit "low"
  | .medium => lit "medium"
  | .high => lit "high"
  | .critical => lit "critical"

def BusinessPriority.all : List BusinessPriority := [.low, .medium, .high, .critical]

def BusinessPriority.ofText? (s : GoString) : Option BusinessPriority :=
  BusinessPriority.all.find? (fun p => p.text = s)

structure Domain where
  id : UUID
  originalInput : GoString
  domainASCII : GoString
  domainUnicode : GoString
  registrableDomain : GoString
  registrarID : Option UUID
  lifecycleStatus : LifecycleStatus
  sourceStatus : SourceStatus
  sourceType : SourceType
  businessPriority : BusinessPriority
  monitoringEnabled : Bool
  monitoringEnabledBeforeArchive : Bool
  expectedContentMode : Httpcheck.ContentMode
  purchaseDate : Option Int
  expirationAt : Option Int
  notes : GoString
  archivedAt : Option Int
  version : Int
  deriving DecidableEq

/-- The number of characters between two bounds, as `length` counts them. -/
def LengthBetween (low high : Nat) (s : GoString) : Prop :=
  low ≤ (decode s).length ∧ (decode s).length ≤ high

instance (low high : Nat) (s : GoString) : Decidable (LengthBetween low high s) :=
  inferInstanceAs (Decidable (_ ∧ _))

def Domain.texts (d : Domain) : List GoString :=
  [d.originalInput, d.domainASCII, d.domainUnicode, d.registrableDomain, d.notes]

/-- `CHECK` constraints of `domains`, and texts that PostgreSQL stores. -/
def Domain.Checks (d : Domain) : Prop :=
  (∀ s ∈ d.texts, Storable s) ∧
  LengthBetween 3 253 d.domainASCII ∧ LengthBetween 1 253 d.domainUnicode ∧
  LengthBetween 3 253 d.registrableDomain ∧
  (d.lifecycleStatus = .archived ↔ d.archivedAt.isSome) ∧ 0 < d.version

instance : DecidablePred Domain.Checks :=
  fun _ => inferInstanceAs (Decidable (_ ∧ _))

/-- The domain is to be monitored. -/
def Domain.monitored (d : Domain) : Bool := d.monitoringEnabled && d.lifecycleStatus = .active

/-- `domain_ascii` is unique. -/
abbrev Domains : Type := IndexedTable Domain.id (fun d => some d.domainASCII)

/-! ### Registrars -/

structure Registrar where
  id : UUID
  name : GoString
  deriving DecidableEq, Repr

/-- `name` is unique. -/
abbrev Registrars : Type := IndexedTable Registrar.id (fun r => some r.name)

/-! ### Costs -/

inductive CostType where
  | purchase | renewal
  deriving DecidableEq, Repr

inductive PriceSource where
  | registrarAPI | googleSheet | manual | estimate
  deriving DecidableEq, Repr

inductive TaxMode where
  | exclusive | inclusive | exempt | unknown
  deriving DecidableEq, Repr

/-- A row of `domain_costs`: `amount` in units of 0.000001 (`numeric(20,6)`) and
    `taxRate` in units of 0.0000000001 (`numeric(20,10)`). -/
structure Cost where
  id : UUID
  domainID : UUID
  costType : CostType
  amount : Nat
  currencyCode : GoString
  priceSource : PriceSource
  taxRate : Option Nat
  taxInclusive : Bool
  taxMode : TaxMode
  billingCycleMonths : Int
  effectiveFrom : Int
  effectiveTo : Option Int
  createdAt : Int
  deriving DecidableEq, Repr

/-- `CHECK` constraints of `domain_costs`. -/
def Cost.Checks (c : Cost) : Prop :=
  (∀ rate ∈ c.taxRate, rate ≤ 10 ^ 10) ∧
  (1 ≤ c.billingCycleMonths ∧ c.billingCycleMonths ≤ 120) ∧
  (∀ day ∈ c.effectiveTo, c.effectiveFrom ≤ day) ∧
  (match c.taxMode with
    | .unknown => c.taxRate = none
    | .exempt => c.taxRate.getD 0 = 0
    | .exclusive | .inclusive => c.taxRate.isSome)

instance : DecidablePred Cost.Checks := fun c => by
  unfold Cost.Checks
  cases c.taxMode <;> infer_instance

abbrev Costs : Type := KeyedTable Cost.id

/-! ### Provenance -/

/-- The fields whose provenance is recorded: those of a sheet row, those of an
    RDAP answer, and those that can be overridden. -/
inductive Field where
  | domain | registrar | businessPriority | notes | active | purchaseDate | expirationDate
  | registrarIANA | registrationDate | rdapUpdatedAt | nameservers | dnssec | domainStatuses
  | recommendation | renewalPrice | taxRate
  deriving DecidableEq, Repr

/-- `domain_field_provenance.source`. -/
inductive ProvenanceSource where
  | manual | googleSheet | registrarAPI | rdap | estimate
  deriving DecidableEq, Repr

/-- `source_reference`, in the formats the source builds it in:
    `sheet-import:<id>:row:<n>`, `google-sheet:<id>:row:<n>` of older imports,
    `manual-override:<id>`, and the URL of an RDAP answer. -/
inductive Reference where
  | sheetImport (id : UUID) (row : Int)
  | googleSheet (id : UUID) (row : Int)
  | manualOverride (id : UUID)
  | rdap (url : GoString)
  deriving DecidableEq, Repr

/-- The import a reference of a sheet names. -/
def Reference.importID : Reference → Option UUID
  | .sheetImport id _ | .googleSheet id _ => some id
  | .manualOverride _ | .rdap _ => none

/-- A row of `domain_field_provenance`. -/
structure Provenance where
  id : UUID
  domainID : UUID
  field : Field
  source : ProvenanceSource
  sourceReference : Reference
  observedAt : Int
  isCurrent : Bool
  supersedesID : Option UUID
  createdAt : Int
  deriving DecidableEq, Repr

/-- `domain_field_provenance_current_idx`. -/
def Provenance.currentIndex (p : Provenance) : Option (UUID × Field) :=
  if p.isCurrent then some (p.domainID, p.field) else none

abbrev Provenances : Type := IndexedTable Provenance.id Provenance.currentIndex

/-! ### Manual overrides -/

/-- A row of `manual_overrides`. -/
structure Override where
  id : UUID
  domainID : UUID
  field : Field
  effectiveFrom : Int
  expiresAt : Option Int
  revokedAt : Option Int
  deriving DecidableEq, Repr

abbrev Overrides : Type := KeyedTable Override.id

/-- `revoked_at IS NULL`. -/
def Override.unrevoked (o : Override) : Bool := o.revokedAt.isNone

/-- `revoked_at IS NULL AND effective_from <= now() AND (expires_at IS NULL OR
    expires_at > now())`. -/
def Override.activeAt (now : Int) (o : Override) : Bool :=
  o.unrevoked && o.effectiveFrom ≤ now && o.expiresAt.all (fun t => now < t)

/-! ### The tables -/

structure Tables where
  domains : Domains
  registrars : Registrars
  costs : Costs
  provenance : Provenances
  overrides : Overrides
  schedules : Monitor.Schedules

def Tables.empty : Tables where
  domains := IndexedTable.empty
  registrars := IndexedTable.empty
  costs := KeyedTable.empty
  provenance := IndexedTable.empty
  overrides := KeyedTable.empty
  schedules := KeyedTable.empty

end DomainMonitor.Inventory
