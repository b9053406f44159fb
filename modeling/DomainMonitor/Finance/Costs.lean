import DomainMonitor.Finance.Summary
import DomainMonitor.Lib.EffectiveDating
import DomainMonitor.Lib.Transition
import DomainMonitor.Sheets.Effects

/-! # Effective-dated costs (`internal/finance/service.go`)

    Two writers add rows to `domain_costs`. `AddCost` takes any date: it closes the
    open manual costs that start before that date. An applied import starts its costs
    today and closes every open cost of a sheet, on the day before or, when that
    started today as well, today.

    Whatever the order of the dates, the cost of a source that is selected for a day
    is the latest that has started by then (`costs_effective_dated`).
-/

namespace DomainMonitor.Finance

open Utf8 Inventory Strings
open Sheets (ApplyCall Postgres dayOf upsertSheetCost)

/-! ### AddCost -/

structure AddCostInput where
  costType : GoString
  amount : GoString
  currency : GoString
  taxRate : Option GoString
  taxMode : GoString
  billingCycleMonths : Int
  /-- The date of the time that was given; none for the zero time. -/
  effectiveFrom : Option Int
  deriving DecidableEq, Repr

/-- One call of `AddCost`: the identifier it draws, the clock of the service and the
    transaction's `now()`. -/
structure AddCostCall where
  id : UUID
  domainID : UUID
  input : AddCostInput
  goNow : Int
  now : Int
  deriving DecidableEq, Repr

inductive CostError where
  | validation (text : GoString)
  | notFound
  | database
  deriving DecidableEq, Repr

variable (case : Case) (pg : Postgres) (active : List GoString) (call : AddCostCall)
  (tables : Inventory.Tables)

def AddCostCall.day : Int := call.input.effectiveFrom.getD (dayOf call.goNow)

def costTypeText : CostType → GoString
  | .purchase => lit "purchase"
  | .renewal => lit "renewal"

def costTypeOf (text : GoString) : Option CostType :=
  [.purchase, .renewal].find? (fun t => costTypeText t = text)

def taxModeOf (text : GoString) : Option TaxMode :=
  [.exclusive, .inclusive, .exempt, .unknown].find? (fun mode => taxModeText mode = text)

/-- `$n::numeric`, written to a `numeric(precision, scale)` column: PostgreSQL skips
    the blanks around a number. -/
def castNumeric (precision scale : Nat) (text : GoString) : Option Nat :=
  let blank : UInt8 → Bool := fun b => b = 32 || (9 ≤ b && b ≤ 13)
  Decimal.numeric precision scale ((text.dropWhile blank).rdropWhile blank)

/-- The row `AddCost` inserts. -/
def manualCost (costType : CostType) (calculation : CostResult) :
    Option Cost := do
  let mode := toLower case.lower (trimSpace call.input.taxMode)
  let mode ← taxModeOf (if mode = [] then taxUnknown else mode)
  let amount ← castNumeric 20 6 calculation.cycleAmount
  let rate ← call.input.taxRate.mapM (castNumeric 20 10)
  some
    { id := call.id
      domainID := call.domainID
      costType := costType
      amount := amount
      currencyCode := calculation.currency
      priceSource := .manual
      taxRate := rate
      taxInclusive := mode = .inclusive
      taxMode := mode
      billingCycleMonths := calculation.billingCycleMonths
      effectiveFrom := call.day
      effectiveTo := none
      createdAt := call.now }

/-- A cost that `AddCost` closes. -/
def endedBy (domainID : UUID) (costType : CostType) (day : Int) (c : Cost) : Bool :=
  c.domainID = domainID && c.costType = costType && c.priceSource = .manual &&
    c.effectiveTo.isNone && c.effectiveFrom < day

def endedBefore (day : Int) (c : Cost) : Cost := { c with effectiveTo := some (day - 1) }

def orError {α : Type} (e : CostError) : Option α → Except CostError α
  | some a => .ok a
  | none => .error e

/-- `AddCost`; `active` lists the currencies that are active. -/
def addCost : Except CostError (Inventory.Tables × Cost) := do
  let input := call.input
  let costType ← orError (.validation (lit "cost_type"))
    (costTypeOf (toLower case.lower (trimSpace input.costType)))
  let calculation ← (calculate case ⟨input.amount, input.currency, input.taxRate, input.taxMode,
    input.billingCycleMonths⟩).mapError .validation
  if (tables.domains.get? call.domainID).isNone then .error .notFound
  else if calculation.currency ∉ active then .error (.validation (lit "currency"))
  else
    let closed := tables.costs.updateWhere (endedBy call.domainID costType call.day)
      (endedBefore call.day) (fun _ => rfl)
    let cost ← orError .database (manualCost case call costType calculation)
    if (∀ c ∈ closed.rows, c.Checks) ∧ cost.Checks ∧ calculation.currency ∈ pg.currencies then
      let costs ← orError .database (closed.insert cost)
      .ok ({ tables with costs := costs }, cost)
    else .error .database

/-! ### What the writers do to the rows -/

variable {item : Sheets.Import} {c : Cost} {t : CostType} {costs' costs : Costs}

theorem manualCost_eq_some {case : Case} {call : AddCostCall} {r : CostResult}
    (h : manualCost case call t r = some c) :
    c.domainID = call.domainID ∧ c.costType = t ∧ c.priceSource = .manual ∧
      c.effectiveFrom = call.day ∧ c.effectiveTo = none := by
  simp only [manualCost, Option.bind_eq_bind, Option.bind_eq_some_iff] at h
  obtain ⟨mode, -, amount, -, rate, -, h⟩ := h
  cases h
  exact ⟨rfl, rfl, rfl, rfl, rfl⟩

theorem orError_eq_ok {α : Type} {e : CostError} {o : Option α} {a : α} :
    orError e o = .ok a ↔ o = some a := by
  cases o <;> simp [orError]

theorem addCost_eq_ok {case : Case} {pg : Postgres} {active : List GoString} {call : AddCostCall}
    {tables tables' : Inventory.Tables} (h : addCost case pg active call tables = .ok (tables', c)) :
    c.domainID = call.domainID ∧ c.priceSource = .manual ∧ c.effectiveFrom = call.day ∧
      c.effectiveTo = none ∧
      tables'.costs.rows = tables.costs.rows.map (fun old =>
        if endedBy call.domainID c.costType call.day old then endedBefore call.day old else old) ++ [c] := by
  simp only [addCost, except_bind_ok] at h
  obtain ⟨t, -, calculation, -, h⟩ := h
  split_ifs at h
  obtain ⟨cost, hcost, h⟩ := except_bind_ok.mp h
  split_ifs at h
  obtain ⟨costs, hinsert, h⟩ := except_bind_ok.mp h
  cases h
  obtain ⟨hdomain, rfl, hsource, hday, hopen⟩ := manualCost_eq_some (orError_eq_ok.mp hcost)
  exact ⟨hdomain, hsource, hday, hopen, (KeyedTable.insert_eq_some (orError_eq_ok.mp hinsert)).2⟩

section

variable {pg : Postgres} {call : ApplyCall} {P : Costs → Prop}

/-- What every `upsertSheetCost` of a call keeps, the rows of an import keep. -/
theorem applyRow_costs {row : Sheets.ImportRow} {db db' : Inventory.Tables}
    (hupsert : ∀ id k t amount currency rate costs costs', P costs → upsertSheetCost pg id call.now call.today k t amount currency rate costs = some costs' → P costs')
    (h : Sheets.applyRow pg call item row db = .ok db') (hs : P db.costs) : P db'.costs := by
  have hfields : ∀ {k value} (tables : Inventory.Tables), P tables.costs →
      Sheets.applySheetFields pg call item row k value tables = .ok db' → P db'.costs := by
    intro k value tables hs h
    obtain ⟨provenance, costs, -, hpriced, rfl⟩ := Sheets.applySheetFields_eq_ok h
    exact Loop.foldlM_invariant (fun costs price costs' _ => hupsert _ _ _ _ _ _ costs costs') hs hpriced
  cases Sheets.rowRun_of_ok h with
  | modify k value _ h =>
    obtain ⟨before, columns, registrars, domains, schedules, -, -, -, -, hrest⟩ :=
      Sheets.applyModify_eq_ok h
    exact hfields { db with registrars, domains, schedules } hs hrest
  | add value _ _ hnew h =>
    obtain ⟨columns, registrars, domains, schedules, -, -, -, hrest⟩ := Sheets.applyAdd_eq_ok hnew h
    exact hfields { db with registrars, domains, schedules } hs hrest
  | missing k _ _ h =>
    obtain ⟨domains, schedules, -, -, rfl⟩ := Sheets.applyMissing_eq_ok h
    exact hs
  | unchanged k _ _ h =>
    obtain ⟨domains, -, rfl⟩ := Tables.updateDomain_eq_ok (Sheets.statement_eq_ok.mp h)
    exact hs
  | nothing _ h => rwa [h]

theorem apply_costs {db db' : Sheets.DB}
    (hupsert : ∀ id k t amount currency rate costs costs', P costs → upsertSheetCost pg id call.now call.today k t amount currency rate costs = some costs' → P costs')
    (h : Sheets.apply pg call db = .ok (db', item)) (hs : P db.inventory.costs) :
    P db'.inventory.costs := by
  obtain ⟨-, found, -, ⟨-, -, hsame, -⟩ | ⟨-, inventory, applied, hrows, -, hdb, -⟩⟩ :=
    Sheets.apply_eq_ok h
  · obtain rfl : db' = db := hsame
    exact hs
  · have hkeep : P inventory.costs := by
      refine Loop.foldlM_ok_invariant (P := fun state => P state.1.costs) ?_ hs hrows
      intro state row state' _ hstate hnext
      rcases Sheets.applyNext_eq_ok hnext with ⟨-, rfl⟩ | ⟨-, hrow, -⟩
      · exact hstate
      · exact applyRow_costs hupsert hrow hstate
    rwa [show db' = _ from hdb]

end

/-! ### Runs -/

structure CostState where
  db : Sheets.DB
  /-- The `now()` of the import that was applied last. -/
  clock : Int

inductive CostLabel where
  | addCost (call : AddCostCall)
  | apply (call : ApplyCall)
  | other

/-- Costs are added and imports applied, one call after the other. A call that fails
    changes nothing, and any other call leaves the costs alone. -/
inductive CostStep : CostState → CostLabel → CostState → Prop where
  | addCost {s : CostState} (call : AddCostCall) {tables : Inventory.Tables} {c : Cost}
      (h : Finance.addCost case pg active call s.db.inventory = .ok (tables, c)) :
      CostStep s (.addCost call) { s with db := { s.db with inventory := tables } }
  | apply {s : CostState} (call : ApplyCall) {db : Sheets.DB} {item : Sheets.Import}
      (hclock : s.clock ≤ call.now) (h : Sheets.apply pg call s.db = .ok (db, item)) :
      CostStep s (.apply call) ⟨db, call.now⟩
  | other {s : CostState} {db : Sheets.DB} (h : db.inventory.costs = s.db.inventory.costs) :
      CostStep s .other { s with db := db }

/-- Any sequence of calls, from a database without costs. -/
def costSystem : LTS.System CostState CostLabel where
  init := fun s => s.db.inventory.costs.rows = []
  step := CostStep case pg active

/-! ### The invariant -/

def dated : EffectiveDating.Columns Cost (UUID × CostType × PriceSource) Int where
  kind := fun c => (c.domainID, c.costType, c.priceSource)
  start := Cost.effectiveFrom
  finish := Cost.effectiveTo
  stamp := Cost.createdAt

structure Dated (clock : Int) (costs : Costs) : Prop where
  superseded : dated.Superseded costs.rows
  /-- The costs of a sheet start when they are written. -/
  sheets : ∀ c ∈ costs.rows, c.priceSource = .googleSheet →
    c.effectiveFrom ≤ dayOf clock ∧ c.createdAt ≤ clock

theorem dayOf_mono {t t' : Int} (h : t ≤ t') : dayOf t ≤ dayOf t' :=
  Int.add_le_add_right (Int.ediv_le_ediv (by decide) h) _

section

variable {case : Case} {pg : Postgres} {active : List GoString} {clock : Int}

/-- A writer closes some rows and adds one that takes over from them. -/
theorem Dated.replace {p : Cost → Bool} {new : Cost} (hs : Dated clock costs) (last : Cost → Int)
    (hrows : costs'.rows = costs.rows.map (fun c => if p c then { c with effectiveTo := some (last c) } else c) ++ [new])
    (htakes : ∀ c ∈ costs.rows, p c = true → dated.TakesOver new (last c) c)
    (hopen : new.effectiveTo = none)
    (hsheet : new.priceSource = .googleSheet → new.effectiveFrom ≤ dayOf clock ∧ new.createdAt ≤ clock) :
    Dated clock costs' := by
  constructor
  · rw [hrows]
    refine hs.superseded.replace (fun _ => rfl) (fun _ => rfl) ?_ hopen
    intro c hc hp day hday
    obtain rfl : last c = day := Option.some.inj hday
    exact htakes c hc hp
  · intro c' hc' hsource
    rw [hrows] at hc'
    rcases List.mem_append.mp hc' with hc' | hc'
    · obtain ⟨c, hc, rfl⟩ := List.mem_map.mp hc'
      by_cases hp : p c = true
      · rw [if_pos hp] at hsource ⊢
        exact hs.sheets c hc hsource
      · rw [if_neg hp] at hsource ⊢
        exact hs.sheets c hc hsource
    · rw [List.mem_singleton.mp hc'] at hsource ⊢
      exact hsheet hsource

theorem dated_addCost {call : AddCostCall} {tables tables' : Inventory.Tables}
    (hs : Dated clock tables.costs) (h : addCost case pg active call tables = .ok (tables', c)) :
    Dated clock tables'.costs := by
  obtain ⟨hdomain, hsource, hday, hopen, hrows⟩ := addCost_eq_ok h
  refine hs.replace (fun _ => call.day - 1) hrows ?_ hopen (by rw [hsource]; nofun)
  intro old _ hended
  -- The new cost starts the day after the old one ends.
  simp only [endedBy, Bool.and_eq_true, decide_eq_true_eq] at hended
  obtain ⟨⟨⟨⟨hk, ht⟩, hmanual⟩, -⟩, hbefore⟩ := hended
  have hstart : dated.start c = call.day := hday
  refine ⟨by simp only [dated, hk, ht, hmanual, hdomain, hsource], Int.le_sub_one_of_lt hbefore,
    by omega, ?_⟩
  exact Prod.Lex.toLex_le_toLex.mpr (.inl (hstart ▸ hbefore))

theorem dated_upsertSheetCost {id k : UUID} {amount currency : GoString} {rate : Option GoString}
    (hs : Dated clock costs)
    (h : upsertSheetCost pg id clock (dayOf clock) k t amount currency rate costs = some costs') :
    Dated clock costs' := by
  obtain ⟨c, hc, hfrom, hcreated, hrows⟩ := Sheets.upsertSheetCost_eq_some h
  obtain ⟨hdomain, htype, hsource, hopen⟩ := Sheets.replacedBy_iff.mp hc.open_
  refine hs.replace
    (fun old => if old.effectiveFrom < dayOf clock then dayOf clock - 1 else dayOf clock)
    hrows ?_ hopen (fun _ => ⟨hfrom.le, hcreated.le⟩)
  intro old hold hreplaced
  obtain ⟨hk, ht, hsheet, -⟩ := Sheets.replacedBy_iff.mp hreplaced
  obtain ⟨hstarted, hwritten⟩ := hs.sheets old hold hsheet
  have hstart : dated.start c = dayOf clock := hfrom
  have hold : dated.start old = old.effectiveFrom := rfl
  refine ⟨by simp only [dated, hk, ht, hsheet, hdomain, htype, hsource], ?_, ?_, ?_⟩
  · split_ifs <;> omega
  · split_ifs <;> omega
  · -- Of two costs that start on one day, the one written later is the greater.
    refine Prod.Lex.toLex_le_toLex.mpr ?_
    rcases lt_or_eq_of_le hstarted with hlt | heq
    · exact .inl (hstart ▸ hlt)
    · exact .inr ⟨heq.trans hstart.symm, hwritten.trans hcreated.ge⟩

/-- **Step lemma**. -/
theorem dated_step {s s' : CostState} {l : CostLabel} (hs : Dated s.clock s.db.inventory.costs)
    (h : CostStep case pg active s l s') : Dated s'.clock s'.db.inventory.costs := by
  cases h with
  | addCost call h => exact dated_addCost hs h
  | apply call hclock h =>
    have hlater : Dated call.now s.db.inventory.costs := by
      refine ⟨hs.superseded, ?_⟩
      intro c hc hsheet
      obtain ⟨hfrom, hcreated⟩ := hs.sheets c hc hsheet
      exact ⟨hfrom.trans (dayOf_mono hclock), hcreated.trans hclock⟩
    exact apply_costs (fun _ _ _ _ _ _ _ _ hs h => dated_upsertSheetCost hs h) h hlater
  | other h => exact h ▸ hs

/-- **Run lemma**. -/
theorem dated_reachable {s : CostState} (hr : (costSystem case pg active).Reachable s) :
    Dated s.clock s.db.inventory.costs := by
  induction hr with
  | init hs =>
    have hs : _ = [] := hs
    constructor
    · rw [hs]
      trivial
    · rw [hs]
      nofun
  | step l _ hstep ih => exact dated_step ih hstep

end

/-! ### Selection -/

/-- The costs of one source that are in effect on a day. -/
def costsOfSource (day : Int) (t : CostType) (k : UUID) (source : PriceSource) : List Cost :=
  (costsInEffect tables day t).filter (fun c => c.domainID = k && c.priceSource = source)

/-- A cost that `ORDER BY effective_from DESC, created_at DESC LIMIT 1` may return for
    a source. -/
def Selected (day : Int) (t : CostType) (k : UUID) (source : PriceSource) (c : Cost) : Prop :=
  OrderBy.MayReturn dated.key (costsOfSource tables day t k source) (some c)

section

variable {tables : Inventory.Tables} {day : Int} {t : CostType} {k : UUID} {source : PriceSource}
  {c : Cost}

theorem mem_costsOfSource : c ∈ costsOfSource tables day t k source ↔
    c ∈ tables.costs.rows ∧ dated.kind c = (k, t, source) ∧ dated.InEffect day c := by
  simp only [costsOfSource, costsInEffect, inEffect, dated, EffectiveDating.Columns.InEffect,
    List.mem_filter, Bool.and_eq_true, decide_eq_true_eq, Prod.mk.injEq, Option.all_eq_true,
    Option.mem_def]
  tauto

/-- The cost `BudgetSummary` takes is the one selected for its source. -/
theorem selected_effectiveCost (h : effectiveCost tables day t k = some c) :
    Selected tables day t k c.priceSource c := by
  have hlast := OrderBy.mayReturn_lastBy (fun c : Cost =>
    toLex (4 - precedence c.priceSource, toLex (c.effectiveFrom, c.createdAt)))
    ((costsInEffect tables day t).filter (fun c => c.domainID = k))
  rw [show OrderBy.lastBy _ _ = some c from h] at hlast
  obtain ⟨hmem, hmax⟩ := hlast
  obtain ⟨heffect, hk⟩ := List.mem_filter.mp hmem
  refine ⟨List.mem_filter.mpr ⟨heffect, by simpa using hk⟩, ?_⟩
  intro c' hc'
  obtain ⟨heffect', hc'⟩ := List.mem_filter.mp hc'
  obtain ⟨hk', hsource⟩ := Bool.and_eq_true_iff.mp hc'
  rcases Prod.Lex.toLex_le_toLex.mp (hmax c' (List.mem_filter.mpr ⟨heffect', hk'⟩)) with hlt | ⟨-, hle⟩
  · rw [of_decide_eq_true hsource] at hlt
    exact absurd hlt (lt_irrefl _)
  · exact hle

end

def manualSample (id : UUID) (day : Int) : AddCostCall :=
  ⟨id, 1, ⟨lit "renewal", lit "300", lit "THB", none, [], 0, some day⟩, 0, 0⟩

end DomainMonitor.Finance
