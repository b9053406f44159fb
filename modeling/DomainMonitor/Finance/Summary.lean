import Mathlib.Data.Prod.Lex
import DomainMonitor.Finance.Engine
import DomainMonitor.Inventory.Schema
import DomainMonitor.Lib.OrderBy
import DomainMonitor.Lib.Unmarshal

/-! # The budget summary (`internal/finance/summary.go`)

    `BudgetSummary` reads the cost of every active domain, lays the manual overrides
    over it, and adds up what can be converted into the reporting currency. A nil
    `Decimal` and a nil string are values here: adding or reading one ends the call,
    as it does in Go.

    The summary is made of four queries. They are taken to see the same tables.
-/

namespace DomainMonitor.Finance

open Utf8 Inventory

/-! ### Tables -/

/-- A row of `exchange_rates`: `rate` in units of 0.0000000001 (`numeric(20,10)`). -/
structure Rate where
  id : UUID
  baseCurrency : GoString
  quoteCurrency : GoString
  rate : Nat
  observedAt : Int
  createdAt : Int
  deriving DecidableEq, Repr

structure DB where
  inventory : Inventory.Tables
  /-- The column `override_value` of `manual_overrides`. -/
  overrideValue : UUID → Json.Value
  rates : KeyedTable Rate.id

/-- A call of `BudgetSummary`: the clock of the service, and the clock and the date
    of the database. -/
structure SummaryCall where
  reportingCurrency : GoString
  goNow : Int
  dbNow : Int
  today : Int
  fxMaxAge : Int
  deriving DecidableEq, Repr

/-! ### Costs in effect -/

/-- `CASE price_source WHEN … END`. -/
def precedence : PriceSource → Nat
  | .registrarAPI => 1
  | .googleSheet => 2
  | .manual => 3
  | .estimate => 4

variable (case : Case) (db : DB) (call : SummaryCall) (reportingCurrency : GoString)
  (rates : List (GoString × FxRate)) (tables : Inventory.Tables) (today : Int)

/-- `effective_from <= current_date AND (effective_to IS NULL OR effective_to >=
    current_date)`. -/
def inEffect (c : Cost) : Bool :=
  c.effectiveFrom ≤ today && c.effectiveTo.all (fun day => today ≤ day)

def costsInEffect (costType : CostType) : List Cost :=
  tables.costs.rows.filter (fun c => c.costType = costType && inEffect today c)

/-- The cost that is used for a domain: by price source, then the latest. -/
def effectiveCost (costType : CostType) (domainID : UUID) : Option Cost :=
  OrderBy.lastBy (fun c => toLex (4 - precedence c.priceSource, toLex (c.effectiveFrom, c.createdAt)))
    ((costsInEffect tables today costType).filter (fun c => c.domainID = domainID))

/-- `tax_mode`, as the column prints it. -/
def taxModeText : TaxMode → GoString
  | .exclusive => taxExclusive
  | .inclusive => taxInclusive
  | .exempt => taxExempt
  | .unknown => taxUnknown

/-- `amount::text`. -/
def amountText (c : Cost) : GoString := Decimal.fixed 6 c.amount

/-- `budgetCost`. -/
structure BudgetCost where
  domainID : UUID
  expiresAt : Option Int
  amount : Option GoString
  currency : Option GoString
  taxRate : Option GoString
  taxMode : Option GoString
  months : Option Int
  deriving DecidableEq, Repr

/-- A row of the first query. -/
def costRow (d : Domain) : BudgetCost :=
  let cost := effectiveCost db.inventory today .renewal d.id
  { domainID := d.id
    expiresAt := d.expirationAt
    amount := cost.map amountText
    currency := cost.map Cost.currencyCode
    taxRate := cost.bind (fun c => c.taxRate.map (Decimal.fixed 10))
    taxMode := cost.map (fun c => taxModeText c.taxMode)
    months := cost.map Cost.billingCycleMonths }

/-! ### Overrides -/

/-- `json.Unmarshal` into a string. -/
def unmarshalString : Json.Value → Option GoString
  | .str s => some (Unmarshal.readString s)
  | .null => some []
  | _ => none

/-- The entry of `activeOverrides` for a field of a domain: of the overrides in
    effect the latest, if it is a string. -/
def activeOverride (dbNow : Int) (domainID : UUID) (field : Field) : Option GoString :=
  (OrderBy.lastBy Override.effectiveFrom (db.inventory.overrides.rows.filter (fun o =>
      o.domainID = domainID && o.field = field && o.activeAt dbNow))).bind
    (fun o => unmarshalString (db.overrideValue o.id))

/-- Midnight UTC of a day. -/
def dayInstant (day : Int) : Int := (day - Rfc3339.unixEpoch) * (24 * hour)

/-- The overrides laid over a row. A date that is not one is passed over. -/
def overridden (dbNow : Int) (item : BudgetCost) : BudgetCost :=
  let override := activeOverride db dbNow item.domainID
  { item with
    amount := (override .renewalPrice).or item.amount
    taxRate := (override .taxRate).or item.taxRate
    taxMode := if (override .taxRate).isSome then some taxExclusive else item.taxMode
    expiresAt := (((override .expirationDate).bind TimeParse.date?).map dayInstant).or item.expiresAt }

def activeDomains : List Domain :=
  OrderBy.orderBy Domain.id (tables.domains.rows.filter (fun d => d.lifecycleStatus = .active))

/-- The effective renewal costs, one for each active domain. -/
def budgetCosts : List BudgetCost :=
  (activeDomains db.inventory).map (fun d => overridden db call.dbNow (costRow db call.today d))

/-! ### Conversion -/

/-- `fxRate`. -/
structure FxRate where
  rate : GoString
  observedAt : Int
  deriving DecidableEq, Repr

/-- `latestRates`: the latest rate of every base currency. -/
def latestRates (quoteCurrency : GoString) : List (GoString × FxRate) :=
  let rows := db.rates.rows.filter (fun r => r.quoteCurrency = quoteCurrency)
  (rows.map Rate.baseCurrency).dedup.filterMap (fun base =>
    (OrderBy.lastBy (fun r : Rate => toLex (r.observedAt, r.createdAt))
      (rows.filter (fun r => r.baseCurrency = base))).map
        (fun r => (normalizeCurrency case base, ⟨Decimal.fixed 10 r.rate, r.observedAt⟩)))

/-- A key of the map: of two entries the later one stands. -/
def rateOf (currency : GoString) : Option FxRate :=
  (rates.reverse.find? (fun entry => entry.1 = currency)).map Prod.snd

/-- `time.Time{}`. -/
def zeroTime : Int := dayInstant 0

/-- `convertForSummary`. -/
def convertForSummary (now maxAge : Int) (amount source target : GoString) : Option ℚ := do
  let parsed ← parseDecimal amount 6
  let source := normalizeCurrency case source
  if source = target then some parsed
  else
    let rate ← rateOf rates source
    if rate.observedAt = zeroTime ∨ timeSub now rate.observedAt > maxAge ∨
        now + 5 * minute < rate.observedAt then none
    else
      let parsedRate ← parseDecimal rate.rate 10
      if parsedRate ≤ 0 then none else some (parsed * parsedRate)

/-! ### Windows -/

inductive Window where
  | next30Days | next60Days | next90Days | thisYear
  deriving DecidableEq, Repr

/-- The year of an instant, in UTC. -/
def yearOf (t : Int) : Int := (Rfc3339.yearDay (t / (24 * hour) + Rfc3339.unixEpoch)).1

/-- `applicableWindows`. -/
def applicableWindows (now : Int) (expiration : Option Int) : List Window :=
  match expiration with
  | none => []
  | some date =>
    if date < now then []
    else
      (if date ≤ now + 30 * 24 * hour then [Window.next30Days] else []) ++
      (if date ≤ now + 60 * 24 * hour then [Window.next60Days] else []) ++
      (if date ≤ now + 90 * 24 * hour then [Window.next90Days] else []) ++
      (if yearOf date = yearOf now then [Window.thisYear] else [])

/-! ### Adding up -/

inductive SummaryError where
  | validation (field : GoString)
  | nilPointer
  deriving DecidableEq, Repr

/-- Reading through a pointer. -/
def deref {α : Type} : Option α → Except SummaryError α
  | some a => .ok a
  | none => .error .nilPointer

/-- `Decimal.Add`, to a decimal that may be nil. -/
def addDecimal (d : ℚ) (other : Option ℚ) : Except SummaryError ℚ := do
  let value ← deref other
  .ok (d + value)

/-- The counters of a `BudgetWindow`. -/
structure Counts where
  domainCount : Nat := 0
  knownRenewals : Nat := 0
  unknownCosts : Nat := 0
  deriving DecidableEq, Repr

inductive Warning where
  | taxPolicyUnknown | fxRateMissingOrStale | invalidCostRecord | purchaseTotalIncomplete
  deriving DecidableEq, Repr

def Warning.code : Warning → String
  | .taxPolicyUnknown => "TAX_POLICY_UNKNOWN"
  | .fxRateMissingOrStale => "FX_RATE_MISSING_OR_STALE"
  | .invalidCostRecord => "INVALID_COST_RECORD"
  | .purchaseTotalIncomplete => "PURCHASE_TOTAL_INCOMPLETE"

/-- The order in which they are listed. -/
def Warning.listed : List Warning :=
  [.taxPolicyUnknown, .fxRateMissingOrStale, .invalidCostRecord, .purchaseTotalIncomplete]

/-- The variables of the loop over the costs. -/
structure Totals where
  renewal : ℚ := 0
  tax : ℚ := 0
  annual : ℚ := 0
  windowTotals : Window → ℚ := fun _ => 0
  windows : Window → Counts := fun _ => {}
  unknownCostCount : Nat := 0
  unknownTaxCount : Nat := 0
  fxIncompleteCount : Nat := 0
  warnings : List Warning := []

/-- The loops over the windows of a domain. -/
def inWindows {α : Type} (names : List Window) (f : α → α) (windows : Window → α) : Window → α :=
  fun w => if w ∈ names then f (windows w) else windows w

def Counts.addDomain (c : Counts) : Counts := { c with domainCount := c.domainCount + 1 }
def Counts.addKnown (c : Counts) : Counts := { c with knownRenewals := c.knownRenewals + 1 }
def Counts.addUnknown (c : Counts) : Counts := { c with unknownCosts := c.unknownCosts + 1 }

/-- One iteration. -/
def budgetStep (totals : Totals) (item : BudgetCost) : Except SummaryError Totals :=
  let names := applicableWindows call.goNow item.expiresAt
  let totals := { totals with windows := inWindows names Counts.addDomain totals.windows }
  match item.amount, item.currency, item.taxMode, item.months with
  | some amount, some currency, some taxMode, some months =>
    match calculate case ⟨amount, currency, item.taxRate, taxMode, months⟩ with
    | .error _ =>
      .ok { totals with
        unknownCostCount := totals.unknownCostCount + 1
        warnings := .invalidCostRecord :: totals.warnings }
    | .ok calculation =>
      if !calculation.complete then
        .ok { totals with
          unknownTaxCount := totals.unknownTaxCount + 1
          warnings := .taxPolicyUnknown :: totals.warnings }
      else do
        let convert := fun amount => convertForSummary case rates call.goNow call.fxMaxAge amount
          calculation.currency reportingCurrency
        let cycleTotal ← deref calculation.cycleTotal
        match convert cycleTotal with
        | none =>
          .ok { totals with
            fxIncompleteCount := totals.fxIncompleteCount + 1
            warnings := .fxRateMissingOrStale :: totals.warnings }
        | some cycleConverted => do
          let taxAmount ← deref calculation.taxAmount
          let annualAmount ← deref calculation.annualEstimate
          -- The second results of these two conversions are not looked at.
          let tax ← addDecimal totals.tax (convert taxAmount)
          let annual ← addDecimal totals.annual (convert annualAmount)
          .ok { totals with
            renewal := totals.renewal + cycleConverted
            tax := tax
            annual := annual
            windowTotals := inWindows names (· + cycleConverted) totals.windowTotals
            windows := inWindows names Counts.addKnown totals.windows }
  | _, _, _, _ =>
    .ok { totals with
      unknownCostCount := totals.unknownCostCount + 1
      windows := inWindows names Counts.addUnknown totals.windows }

/-! ### Purchases -/

/-- The purchase cost in effect of every domain that has one, archived ones included. -/
def currentPurchases : List Cost :=
  ((costsInEffect tables today .purchase).map Cost.domainID).dedup.filterMap
    (effectiveCost tables today .purchase)

/-- What a purchase counts in the reporting currency. -/
def purchaseAmount (c : Cost) : Option ℚ :=
  convertForSummary case rates call.goNow call.fxMaxAge (amountText c) c.currencyCode reportingCurrency

/-- `currentPurchaseTotal`: the total, and how many are not in it. -/
def currentPurchaseTotal (purchases : List Cost) : ℚ × Nat :=
  purchases.foldl (fun (total, incomplete) c =>
    match purchaseAmount case call reportingCurrency rates c with
    | none => (total, incomplete + 1)
    | some converted => (total + converted, incomplete)) (0, 0)

/-! ### BudgetSummary -/

structure BudgetWindow where
  counts : Counts
  renewalTotal : GoString
  deriving DecidableEq, Repr

structure Summary where
  reportingCurrency : GoString
  generatedAt : Int
  totalCurrentDomainCost : GoString
  totalRenewalCost : GoString
  estimatedTax : GoString
  totalAnnualBudget : GoString
  complete : Bool
  unknownCostCount : Nat
  unknownTaxCount : Nat
  fxIncompleteCount : Nat
  warnings : List String
  windows : Window → BudgetWindow

/-- The end of `BudgetSummary`: totals are printed with six decimals. -/
def Totals.summary (totals : Totals) (reportingCurrency : GoString) (now : Int)
    (purchases : ℚ × Nat) : Summary :=
  let fxIncompleteCount := totals.fxIncompleteCount + purchases.2
  let warnings := if 0 < purchases.2 then .purchaseTotalIncomplete :: totals.warnings
    else totals.warnings
  { reportingCurrency := reportingCurrency
    generatedAt := now
    totalCurrentDomainCost := decimalString 6 purchases.1
    totalRenewalCost := decimalString 6 totals.renewal
    estimatedTax := decimalString 6 totals.tax
    totalAnnualBudget := decimalString 6 totals.annual
    complete := totals.unknownCostCount = 0 && totals.unknownTaxCount = 0 &&
      fxIncompleteCount = 0
    unknownCostCount := totals.unknownCostCount
    unknownTaxCount := totals.unknownTaxCount
    fxIncompleteCount := fxIncompleteCount
    warnings := (Warning.listed.filter (· ∈ warnings)).map Warning.code
    windows := fun w => ⟨totals.windows w, decimalString 6 (totals.windowTotals w)⟩ }

/-- `BudgetSummary`. -/
def budgetSummary (db : DB) : Except SummaryError Summary := do
  let reportingCurrency := normalizeCurrency case call.reportingCurrency
  if reportingCurrency.length ≠ 3 then .error (.validation (lit "reporting_currency"))
  else
    let rates := latestRates case db reportingCurrency
    let totals ← (budgetCosts db call).foldlM (budgetStep case call reportingCurrency rates) {}
    let purchases := currentPurchaseTotal case call reportingCurrency rates
      (currentPurchases db.inventory call.today)
    .ok (totals.summary reportingCurrency call.goNow purchases)

end DomainMonitor.Finance
