import Mathlib.Algebra.BigOperators.Group.List.Lemmas
import Mathlib.Algebra.Order.BigOperators.Group.List
import DomainMonitor.Finance.Summary

/-! # What the budget contains

    Every effective cost gets one verdict: a column is missing, `Calculate` refuses
    it, its tax is unknown, no exchange rate converts it, or it is known. The loop of
    `BudgetSummary` counts the verdicts and adds up the known costs, so the totals and
    the counters can be read off the list of verdicts.

    The amounts of a known cost are rounded before they are converted and added. That
    is once more than the reporting boundary asks for, and it shows in the totals.
-/

namespace DomainMonitor.Finance

open Inventory

/-! ### Verdicts -/

/-- A cost that is in the budget: its exact amounts, and the rate they are converted at. -/
structure Renewal where
  exact : ExactCost
  rate : ℚ
  deriving DecidableEq, Repr

/-- The share of a total: the amount rounded, then converted. -/
def Renewal.share (f : ExactCost → ℚ) (r : Renewal) : ℚ := Decimal.rounded 6 (f r.exact) * r.rate

structure Renewal.Sound (r : Renewal) : Prop where
  exact : r.exact.Sound
  rate : 0 < r.rate

inductive Verdict where
  | missing
  | invalid
  | taxUnknown
  | noRate
  | known (renewal : Renewal)
  deriving DecidableEq, Repr

def Verdict.renewal? : Verdict → Option Renewal
  | .known renewal => some renewal
  | _ => none

variable (case : Case) (es : List Entry)

/-- The rate between two currencies, if there is one that may be used. -/
def conversionRate (rates : List (GoString × FxRate)) (now maxAge : Int) (source target : GoString) :
    Option ℚ :=
  let source := normalizeCurrency case source
  if source = target then some 1
  else do
    let rate ← rateOf rates source
    if rate.observedAt = zeroTime ∨ timeSub now rate.observedAt > maxAge ∨
        now + 5 * minute < rate.observedAt then none
    else
      let parsedRate ← parseDecimal rate.rate 10
      if parsedRate ≤ 0 then none else some parsedRate

/-- What becomes of an effective cost. -/
def assess (call : SummaryCall) (reportingCurrency : GoString) (rates : List (GoString × FxRate))
    (item : BudgetCost) : Verdict :=
  match item.amount, item.currency, item.taxMode, item.months with
  | some amount, some currency, some taxMode, some months =>
    match quote case ⟨amount, currency, item.taxRate, taxMode, months⟩ with
    | .error _ => .invalid
    | .ok q =>
      match q.exact with
      | none => .taxUnknown
      | some exact =>
        match conversionRate case rates call.goNow call.fxMaxAge q.currency reportingCurrency with
        | none => .noRate
        | some rate => .known ⟨exact, rate⟩
  | _, _, _, _ => .missing

section Convert

variable {case : Case} {rates : List (GoString × FxRate)} {now maxAge : Int}
  {source target : GoString}

theorem conversionRate_pos {r : ℚ} (h : conversionRate case rates now maxAge source target = some r) :
    0 < r := by
  unfold conversionRate at h
  dsimp only at h
  split_ifs at h
  · cases h
    exact one_pos
  · simp only [Option.bind_eq_bind, Option.bind_eq_some_iff] at h
    obtain ⟨rate, -, h⟩ := h
    split_ifs at h
    simp only [Option.bind_eq_some_iff] at h
    obtain ⟨parsedRate, -, h⟩ := h
    split_ifs at h with hpos
    cases h
    exact not_le.mp hpos

/-- A conversion is a parse and a multiplication. -/
theorem convertForSummary_eq {amount : GoString} {parsed : ℚ} (h : parseDecimal amount 6 = some parsed) :
    convertForSummary case rates now maxAge amount source target =
      (conversionRate case rates now maxAge source target).map (fun rate => parsed * rate) := by
  simp only [convertForSummary, conversionRate, h, Option.bind_eq_bind, Option.bind_some]
  split_ifs
  · simp
  · cases rateOf rates (normalizeCurrency case source) with
    | none => rfl
    | some rate =>
      simp only [Option.bind_some]
      split_ifs
      · rfl
      · cases parseDecimal rate.rate 10 with
        | none => rfl
        | some parsedRate =>
          simp only [Option.bind_some]
          split_ifs <;> rfl

/-- An amount of the engine is converted if there is a rate. -/
theorem convertForSummary_printed {q : ℚ} (hq : 0 ≤ q) :
    convertForSummary case rates now maxAge (decimalString 6 q) source target =
      (conversionRate case rates now maxAge source target).map
        (fun rate => Decimal.rounded 6 q * rate) :=
  convertForSummary_eq (parseDecimal_decimalString (by decide) hq)

end Convert

/-! ### One iteration -/

/-- What an iteration of the loop does with a verdict. -/
def Totals.record (names : List Window) (totals : Totals) (verdict : Verdict) : Totals :=
  let totals := { totals with windows := inWindows names Counts.addDomain totals.windows }
  match verdict with
  | .missing =>
    { totals with
      unknownCostCount := totals.unknownCostCount + 1
      windows := inWindows names Counts.addUnknown totals.windows }
  | .invalid =>
    { totals with
      unknownCostCount := totals.unknownCostCount + 1
      warnings := .invalidCostRecord :: totals.warnings }
  | .taxUnknown =>
    { totals with
      unknownTaxCount := totals.unknownTaxCount + 1
      warnings := .taxPolicyUnknown :: totals.warnings }
  | .noRate =>
    { totals with
      fxIncompleteCount := totals.fxIncompleteCount + 1
      warnings := .fxRateMissingOrStale :: totals.warnings }
  | .known r =>
    { totals with
      renewal := totals.renewal + r.share ExactCost.total
      tax := totals.tax + r.share ExactCost.tax
      annual := totals.annual + r.share ExactCost.annual
      windowTotals := inWindows names (· + r.share ExactCost.total) totals.windowTotals
      windows := inWindows names Counts.addKnown totals.windows }

section Step

variable {case : Case} {call : SummaryCall} {currency : GoString} {rates : List (GoString × FxRate)}

theorem assess_sound {item : BudgetCost} {r : Renewal}
    (h : assess case call currency rates item = .known r) : r.Sound := by
  unfold assess at h
  split at h
  · split at h
    · cases h
    · rename_i q hq
      split at h
      · cases h
      · rename_i exact hexact
        split at h
        · cases h
        · rename_i rate hrate
          cases h
          exact ⟨quote_sound hq hexact, conversionRate_pos hrate⟩
  · cases h

/-- An iteration never reads a nil pointer: a complete calculation has its three
    amounts, and the rate that converts one of them converts the others. -/
theorem budgetStep_eq (totals : Totals) (item : BudgetCost) :
    budgetStep case call currency rates totals item =
      .ok (totals.record (applicableWindows call.goNow item.expiresAt)
        (assess case call currency rates item)) := by
  unfold budgetStep assess
  dsimp only
  -- A column that is missing counts the domain as one of unknown cost.
  cases item.amount with
  | none => rfl
  | some amount =>
  cases item.currency with
  | none => rfl
  | some itemCurrency =>
  cases item.taxMode with
  | none => rfl
  | some taxMode =>
  cases item.months with
  | none => rfl
  | some months =>
  dsimp only
  cases hq : quote case ⟨amount, itemCurrency, item.taxRate, taxMode, months⟩ with
  | error e =>
    rw [calculate_refused hq]
    rfl
  | ok q =>
    cases hexact : q.exact with
    | none =>
      obtain ⟨r, hr, hcomplete⟩ := calculate_taxUnknown hq hexact
      simp only [hr, hcomplete, hexact]
      rfl
    | some exact =>
      obtain ⟨r, hr, hcomplete, hc, htax, htotal, hannual, -⟩ := calculate_complete hq hexact
      have hsound := quote_sound hq hexact
      simp only [hr, hcomplete, hc, htax, htotal, hannual, hexact, deref, bind, Except.bind,
        Bool.not_true, Bool.false_eq_true, if_false, convertForSummary_printed hsound.tax,
        convertForSummary_printed hsound.total, convertForSummary_printed hsound.annual]
      cases conversionRate case rates call.goNow call.fxMaxAge q.currency currency with
      | none => rfl
      | some rate => rfl

end Step

/-! ### The whole loop -/

/-- A cost as the loop sees it: the windows of its domain, and its verdict. -/
structure Entry where
  windows : List Window
  verdict : Verdict
  deriving DecidableEq, Repr

/-- The entries of the effective costs. -/
def entries (call : SummaryCall) (currency : GoString) (rates : List (GoString × FxRate))
    (items : List BudgetCost) : List Entry :=
  items.map (fun item =>
    ⟨applicableWindows call.goNow item.expiresAt, assess case call currency rates item⟩)

/-- The known ones. -/
def known : List Renewal := es.filterMap (fun e => e.verdict.renewal?)

/-- Those that fall into a window. -/
def expiring (w : Window) (es : List Entry) : List Entry := es.filter (fun e => w ∈ e.windows)

/-- The sum of an amount over the known entries. -/
def total (f : ExactCost → ℚ) (es : List Entry) : ℚ := ((known es).map (Renewal.share f)).sum

def Verdict.warning? : Verdict → Option Warning
  | .invalid => some .invalidCostRecord
  | .taxUnknown => some .taxPolicyUnknown
  | .noRate => some .fxRateMissingOrStale
  | _ => none

/-- The totals as the entries determine them. -/
def accounted : Totals where
  renewal := total ExactCost.total es
  tax := total ExactCost.tax es
  annual := total ExactCost.annual es
  windowTotals w := total ExactCost.total (expiring w es)
  windows w :=
    { domainCount := (expiring w es).length
      knownRenewals := (known (expiring w es)).length
      unknownCosts := (expiring w es).countP (fun e => e.verdict = .missing) }
  unknownCostCount := es.countP (fun e => e.verdict = .missing ∨ e.verdict = .invalid)
  unknownTaxCount := es.countP (fun e => e.verdict = .taxUnknown)
  fxIncompleteCount := es.countP (fun e => e.verdict = .noRate)
  warnings := (es.filterMap (fun e => e.verdict.warning?)).reverse

theorem known_append (e : Entry) : known (es ++ [e]) = known es ++ e.verdict.renewal?.toList := by
  unfold known
  rw [List.filterMap_append]
  cases h : e.verdict.renewal? <;> simp [h]

theorem total_append (f : ExactCost → ℚ) (es : List Entry) (e : Entry) :
    total f (es ++ [e]) = total f es + (e.verdict.renewal?.map (Renewal.share f)).getD 0 := by
  unfold total
  rw [known_append]
  cases e.verdict.renewal? <;> simp

theorem expiring_append (w : Window) (es : List Entry) (e : Entry) :
    expiring w (es ++ [e]) = if w ∈ e.windows then expiring w es ++ [e] else expiring w es := by
  unfold expiring
  by_cases h : w ∈ e.windows <;> simp [h]

/-- One more entry. -/
theorem accounted_append (e : Entry) :
    accounted (es ++ [e]) = (accounted es).record e.windows e.verdict := by
  obtain ⟨names, verdict⟩ := e
  unfold accounted
  simp only [total_append, expiring_append]
  cases verdict <;>
    simp only [Totals.record, Totals.mk.injEq, Verdict.renewal?, Verdict.warning?] <;>
    refine ⟨?_, ?_, ?_, ?_, ?_, ?_, ?_, ?_, ?_⟩ <;>
    first
      | (funext w; by_cases h : w ∈ names <;>
          simp [inWindows, h, total_append, known_append, Verdict.renewal?, Counts.addDomain,
            Counts.addKnown, Counts.addUnknown])
      | simp

section Run

variable {case : Case} {call : SummaryCall} {currency : GoString} {rates : List (GoString × FxRate)}

/-- The loop computes what the entries determine. -/
theorem foldlM_budgetStep (items : List BudgetCost) :
    items.foldlM (budgetStep case call currency rates) {} =
      .ok (accounted (entries case call currency rates items)) := by
  induction items using List.reverseRecOn with
  | nil => rfl
  | append_singleton items item ih =>
    rw [List.foldlM_append, ih]
    simp only [bind, Except.bind, List.foldlM_cons, List.foldlM_nil, budgetStep_eq, entries,
      List.map_append, List.map_cons, List.map_nil, accounted_append]
    rfl

/-- The loop over the purchases. -/
theorem currentPurchaseTotal_eq (purchases : List Cost) :
    currentPurchaseTotal case call currency rates purchases =
      ((purchases.filterMap (purchaseAmount case call currency rates)).sum,
        purchases.countP (fun c => (purchaseAmount case call currency rates c).isNone)) := by
  induction purchases using List.reverseRecOn with
  | nil => rfl
  | append_singleton purchases c ih =>
    unfold currentPurchaseTotal at ih ⊢
    rw [List.foldl_append, ih]
    cases h : purchaseAmount case call currency rates c <;> simp [h]

end Run

/-! ### The summary -/

section Summary

variable (case : Case) (call : SummaryCall) (db : DB)

/-- The verdict on the effective renewal cost of a domain. -/
def verdictOf (d : Domain) : Verdict :=
  let currency := normalizeCurrency case call.reportingCurrency
  assess case call currency (latestRates case db currency)
    (overridden db call.dbNow (costRow db call.today d))

/-- The windows a domain falls into. -/
def windowsOf (d : Domain) : List Window :=
  applicableWindows call.goNow (overridden db call.dbNow (costRow db call.today d)).expiresAt

/-- The domains of a summary, as its loop sees them. -/
def budgetEntries : List Entry :=
  (activeDomains db.inventory).map (fun d => ⟨windowsOf call db d, verdictOf case call db d⟩)

/-- The purchases of a summary, as far as they can be converted. -/
def convertedPurchase (c : Cost) : Option ℚ :=
  let currency := normalizeCurrency case call.reportingCurrency
  purchaseAmount case call currency (latestRates case db currency) c

def purchaseSummary : ℚ × Nat :=
  let purchases := currentPurchases db.inventory call.today
  ((purchases.filterMap (convertedPurchase case call db)).sum,
    purchases.countP (fun c => (convertedPurchase case call db c).isNone))

/-- The summary, from the verdicts. -/
def budgetOf : Summary :=
  (accounted (budgetEntries case call db)).summary (normalizeCurrency case call.reportingCurrency)
    call.goNow (purchaseSummary case call db)

variable {case call db}

theorem known_budgetEntries : known (budgetEntries case call db) =
    (activeDomains db.inventory).filterMap (fun d => (verdictOf case call db d).renewal?) := by
  simp only [known, budgetEntries, List.filterMap_map]
  rfl

theorem budgetSummary_ok_iff {summary : Summary} : budgetSummary case call db = .ok summary ↔
    (normalizeCurrency case call.reportingCurrency).length = 3 ∧ summary = budgetOf case call db := by
  have hentries : entries case call (normalizeCurrency case call.reportingCurrency)
      (latestRates case db (normalizeCurrency case call.reportingCurrency)) (budgetCosts db call) =
      budgetEntries case call db := by
    simp only [entries, budgetCosts, budgetEntries, List.map_map]
    rfl
  unfold budgetSummary
  dsimp only
  rw [foldlM_budgetStep, currentPurchaseTotal_eq, hentries]
  split_ifs with hlength
  · exact ⟨fun h => h.elim, fun h => absurd h.1 hlength⟩
  · refine ⟨fun h => ⟨not_not.mp hlength, ?_⟩, fun h => ?_⟩
    · exact (Except.ok.inj h).symm
    · rw [h.2]
      rfl

/-! ### Order between totals -/

variable {r : Renewal}

theorem Renewal.Sound.share_nonneg (h : r.Sound) (f : ExactCost → ℚ) :
    0 ≤ r.share f :=
  mul_nonneg (Decimal.rounded_nonneg 6 _) h.rate.le

theorem Renewal.Sound.tax_le (h : r.Sound) :
    r.share ExactCost.tax ≤ r.share ExactCost.total :=
  mul_le_mul_of_nonneg_right (Decimal.rounded_mono 6 h.exact.tax h.exact.part) h.rate.le

theorem mem_known {es : List Entry} : r ∈ known es ↔ ∃ e ∈ es, e.verdict = .known r := by
  have hrenewal : ∀ v : Verdict, v.renewal? = some r ↔ v = .known r := by
    intro v
    cases v <;> simp [Verdict.renewal?]
  simp only [known, List.mem_filterMap, hrenewal]

theorem known_sound (h : r ∈ known (budgetEntries case call db)) : r.Sound := by
  obtain ⟨e, he, hverdict⟩ := mem_known.mp h
  obtain ⟨d, -, rfl⟩ := List.mem_map.mp he
  exact assess_sound hverdict

section Order

variable {es es' : List Entry}

theorem total_nonneg (hsound : ∀ r ∈ known es, r.Sound) (f : ExactCost → ℚ) : 0 ≤ total f es := by
  apply List.sum_nonneg
  intro x hx
  obtain ⟨r, hr, rfl⟩ := List.mem_map.mp hx
  exact (hsound r hr).share_nonneg f

theorem total_tax_le (hsound : ∀ r ∈ known es, r.Sound) :
    total ExactCost.tax es ≤ total ExactCost.total es :=
  List.sum_le_sum (fun r hr => (hsound r hr).tax_le)

theorem total_le_of_sublist (h : es.Sublist es') (hsound : ∀ r ∈ known es', r.Sound)
    (f : ExactCost → ℚ) : total f es ≤ total f es' := by
  apply List.Sublist.sum_le_sum ((h.filterMap _).map _)
  intro x hx
  obtain ⟨r, hr, rfl⟩ := List.mem_map.mp hx
  exact (hsound r hr).share_nonneg f

end Order

/-- Both texts are amounts, and the first is not the greater one. -/
def PrintedLE (a b : GoString) : Prop :=
  ∃ x y, parseDecimal a 6 = some x ∧ parseDecimal b 6 = some y ∧ x ≤ y

theorem printedLE_of_le {x y : ℚ} (hx : 0 ≤ x) (h : x ≤ y) :
    PrintedLE (decimalString 6 x) (decimalString 6 y) :=
  ⟨_, _, parseDecimal_decimalString (by decide) hx, parseDecimal_decimalString (by decide) (hx.trans h),
    Decimal.rounded_mono 6 hx h⟩

/-! ### Nested windows -/

/-- One window shows no more than another one. -/
structure BudgetWindow.Within (a b : BudgetWindow) : Prop where
  domainCount : a.counts.domainCount ≤ b.counts.domainCount
  knownRenewals : a.counts.knownRenewals ≤ b.counts.knownRenewals
  unknownCosts : a.counts.unknownCosts ≤ b.counts.unknownCosts
  renewalTotal : PrintedLE a.renewalTotal b.renewalTotal

/-- A window of days contains a shorter one. -/
inductive Window.Contains : Window → Window → Prop where
  | sixty : Window.Contains .next60Days .next30Days
  | ninety : Window.Contains .next90Days .next60Days

variable {w w' : Window}

theorem Window.Contains.applicable (h : w'.Contains w) {now : Int} {expiration : Option Int}
    (hw : w ∈ applicableWindows now expiration) : w' ∈ applicableWindows now expiration := by
  cases expiration with
  | none => exact absurd hw List.not_mem_nil
  | some date =>
    unfold applicableWindows hour at hw ⊢
    cases h <;> grind

theorem expiring_sublist (case : Case) (call : SummaryCall) (db : DB) (h : w'.Contains w) :
    (expiring w (budgetEntries case call db)).Sublist (expiring w' (budgetEntries case call db)) := by
  have himp : ∀ e ∈ budgetEntries case call db, w ∈ e.windows → w' ∈ e.windows := by
    intro e he hw
    obtain ⟨d, -, rfl⟩ := List.mem_map.mp he
    exact h.applicable hw
  have heq : expiring w (budgetEntries case call db) =
      (expiring w' (budgetEntries case call db)).filter (fun e => w ∈ e.windows) := by
    unfold expiring
    rw [List.filter_filter]
    refine List.filter_congr (fun e he => ?_)
    by_cases hw : w ∈ e.windows
    · simp [hw, himp e he hw]
    · simp [hw]
  rw [heq]
  exact List.filter_sublist

theorem windows_within (h : w'.Contains w) :
    ((budgetOf case call db).windows w).Within ((budgetOf case call db).windows w') := by
  have hsub := expiring_sublist case call db h
  have hsound : ∀ w, ∀ r ∈ known (expiring w (budgetEntries case call db)), r.Sound := fun w r hr =>
    known_sound ((List.filter_sublist.filterMap _).subset hr)
  exact
    { domainCount := hsub.length_le
      knownRenewals := (hsub.filterMap _).length_le
      unknownCosts := hsub.countP_le
      renewalTotal := printedLE_of_le (total_nonneg (hsound w) _) (total_le_of_sublist hsub (hsound w') _) }

/-! ### Completeness -/

theorem countP_verdict_eq_zero (case : Case) (call : SummaryCall) (db : DB) (p : Verdict → Bool) :
    (budgetEntries case call db).countP (fun e => p e.verdict) = 0 ↔
      ∀ d ∈ activeDomains db.inventory, p (verdictOf case call db d) = false := by
  simp [budgetEntries, List.countP_eq_zero]

/-- The counters are zero when nothing is left out. -/
theorem budgetOf_complete_iff : (budgetOf case call db).complete = true ↔
    (∀ d ∈ activeDomains db.inventory, ∃ r, verdictOf case call db d = .known r) ∧
      ∀ c ∈ currentPurchases db.inventory call.today, (convertedPurchase case call db c).isSome := by
  have hknown : ∀ v : Verdict, (∃ r, v = .known r) ↔
      (v ≠ .missing ∧ v ≠ .invalid) ∧ v ≠ .taxUnknown ∧ v ≠ .noRate := by
    intro v
    cases v <;> simp
  have hcost := countP_verdict_eq_zero case call db
    (fun v => v = .missing ∨ v = .invalid)
  have htax := countP_verdict_eq_zero case call db (fun v => v = .taxUnknown)
  have hrate := countP_verdict_eq_zero case call db (fun v => v = .noRate)
  simp only [decide_eq_false_iff_not, not_or] at hcost htax hrate
  simp only [budgetOf, Totals.summary, accounted, purchaseSummary, Bool.and_eq_true, decide_eq_true_eq,
    Nat.add_eq_zero_iff, hcost, htax, hrate, List.countP_eq_zero, hknown, Bool.not_eq_true,
    Option.isNone_eq_false_iff]
  grind

/-- The summary never fails on a currency. Its three renewal totals are sums over the
    same domains, those with a known cost, and the purchase total is the sum over the
    purchases that can be converted. It is complete exactly when these are all active
    domains and all purchases. The tax is at most the renewal total, and the windows
    of 30, 60 and 90 days are nested. -/
theorem budget_complete_iff_all_included (case : Case) (call : SummaryCall) (db : DB)
    (hcurrency : (normalizeCurrency case call.reportingCurrency).length = 3) :
    ∃ summary, budgetSummary case call db = .ok summary ∧
      (let renewals := (activeDomains db.inventory).filterMap (fun d => (verdictOf case call db d).renewal?)
       let purchases := currentPurchases db.inventory call.today
       summary.totalRenewalCost =
          decimalString 6 (renewals.map (Renewal.share ExactCost.total)).sum ∧
        summary.estimatedTax =
          decimalString 6 (renewals.map (Renewal.share ExactCost.tax)).sum ∧
        summary.totalAnnualBudget =
          decimalString 6 (renewals.map (Renewal.share ExactCost.annual)).sum ∧
        summary.totalCurrentDomainCost =
          decimalString 6 (purchases.filterMap (convertedPurchase case call db)).sum ∧
        (summary.complete = true ↔
          (∀ d ∈ activeDomains db.inventory, (verdictOf case call db d).renewal?.isSome) ∧
            ∀ c ∈ purchases, (convertedPurchase case call db c).isSome)) ∧
      PrintedLE summary.estimatedTax summary.totalRenewalCost ∧
      (summary.windows .next30Days).Within (summary.windows .next60Days) ∧
      (summary.windows .next60Days).Within (summary.windows .next90Days) := by
  have hsome : ∀ v : Verdict, v.renewal?.isSome ↔ ∃ r, v = .known r := by
    intro v
    cases v <;> simp [Verdict.renewal?]
  refine ⟨budgetOf case call db, budgetSummary_ok_iff.mpr ⟨hcurrency, rfl⟩, ?_, ?_, ?_, ?_⟩
  · simp only [← known_budgetEntries, hsome]
    exact ⟨rfl, rfl, rfl, rfl, budgetOf_complete_iff⟩
  · exact printedLE_of_le (total_nonneg (fun _ => known_sound) _) (total_tax_le (fun _ => known_sound))
  · exact windows_within .sixty
  · exact windows_within .ninety

def sampleDomain : Domain where
  id := 1
  originalInput := lit "example.com"
  domainASCII := lit "example.com"
  domainUnicode := lit "example.com"
  registrableDomain := lit "example.com"
  registrarID := none
  lifecycleStatus := .active
  sourceStatus := .present
  sourceType := .manual
  businessPriority := .medium
  monitoringEnabled := true
  monitoringEnabledBeforeArchive := true
  expectedContentMode := .html
  purchaseDate := none
  expirationAt := some (24 * hour)
  notes := []
  archivedAt := none
  version := 1

/-- 100 USD a year, 7 % tax included. -/
def sampleCost : Cost where
  id := 2
  domainID := 1
  costType := .renewal
  amount := 100000000
  currencyCode := lit "USD"
  priceSource := .manual
  taxRate := some 700000000
  taxInclusive := true
  taxMode := .inclusive
  billingCycleMonths := 12
  effectiveFrom := 0
  effectiveTo := none
  createdAt := 0

/-- 35.5 THB for a dollar. -/
def sampleRate : Rate where
  id := 3
  baseCurrency := lit "USD"
  quoteCurrency := lit "THB"
  rate := 355000000000
  observedAt := 0
  createdAt := 0

def sampleBudget (cost : Cost) : DB where
  inventory := { Inventory.Tables.empty with
    domains := IndexedTable.single sampleDomain
    costs := KeyedTable.single cost }
  overrideValue := fun _ => .null
  rates := KeyedTable.single sampleRate

def sampleCall : SummaryCall where
  reportingCurrency := lit "thb"
  goNow := hour
  dbNow := hour
  today := Rfc3339.unixEpoch
  fxMaxAge := 24 * hour

theorem budget_complete_one_domain :
    (normalizeCurrency asciiCase sampleCall.reportingCurrency).length = 3 ∧
    ∃ summary, budgetSummary asciiCase sampleCall (sampleBudget sampleCost) = .ok summary ∧
      PrintedLE summary.estimatedTax summary.totalRenewalCost := by
  have hcurrency : (normalizeCurrency asciiCase sampleCall.reportingCurrency).length = 3 := by decide +kernel
  obtain ⟨summary, hok, -, hle, -⟩ :=
    budget_complete_iff_all_included asciiCase sampleCall (sampleBudget sampleCost) hcurrency
  exact ⟨hcurrency, summary, hok, hle⟩

/-! ### Rounding -/

/-- The sum that a total stands for: nothing is rounded. -/
def exactTotal (f : ExactCost → ℚ) (renewals : List Renewal) : ℚ :=
  (renewals.map (fun r => f r.exact * r.rate)).sum

/-- What rounding every amount before it is converted adds to the sum. -/
def roundingError (f : ExactCost → ℚ) (renewals : List Renewal) : ℚ :=
  (renewals.map (fun r => (Decimal.rounded 6 (f r.exact) - f r.exact) * r.rate)).sum

/-- An error that leaves a sum in its rounding cell. -/
def Absorbed (sum error : ℚ) : Prop :=
  (Decimal.units 6 sum : ℚ) - 1 / 2 ≤ (sum + error) * 10 ^ 6 ∧
    (sum + error) * 10 ^ 6 < Decimal.units 6 sum + 1 / 2

theorem total_eq_exact_add_error (f : ExactCost → ℚ) (es : List Entry) :
    total f es = exactTotal f (known es) + roundingError f (known es) := by
  unfold total exactTotal roundingError
  rw [← List.sum_map_add]
  congr 1
  refine List.map_congr_left (fun r _ => ?_)
  unfold Renewal.share
  ring

theorem exactTotal_nonneg {renewals : List Renewal} {f : ExactCost → ℚ}
    (h : ∀ r ∈ renewals, 0 ≤ f r.exact * r.rate) : 0 ≤ exactTotal f renewals := by
  apply List.sum_nonneg
  intro x hx
  obtain ⟨r, hr, rfl⟩ := List.mem_map.mp hx
  exact h r hr

/-- A total is printed as the exact sum is when the error is absorbed. -/
theorem printed_total_iff {es : List Entry} (hsound : ∀ r ∈ known es, r.Sound) {f : ExactCost → ℚ}
    (hf : ∀ exact : ExactCost, exact.Sound → 0 ≤ f exact) :
    decimalString 6 (total f es) = decimalString 6 (exactTotal f (known es)) ↔
      Absorbed (exactTotal f (known es)) (roundingError f (known es)) := by
  have hexact : 0 ≤ exactTotal f (known es) := exactTotal_nonneg (fun r hr =>
    mul_nonneg (hf r.exact (hsound r hr).exact) (hsound r hr).rate.le)
  have htotal := total_nonneg hsound f
  unfold decimalString
  rw [Decimal.floatString_eq_iff (by decide) htotal hexact, Decimal.units_eq_iff 6 htotal,
    total_eq_exact_add_error]
  rfl

/-- An entry that is counted as a domain only. -/
def Verdict.dropped (v : Verdict) : Bool := v = .invalid || v = .taxUnknown || v = .noRate

/-- Every entry is known, missing or dropped. -/
theorem length_eq_known_missing_dropped :
    es.length = (known es).length + es.countP (fun e => e.verdict = .missing) +
      es.countP (fun e => e.verdict.dropped) := by
  induction es with
  | nil => rfl
  | cons e es ih =>
    obtain ⟨names, verdict⟩ := e
    unfold known at ih ⊢
    cases verdict <;> simp [Verdict.renewal?, Verdict.dropped] at ih ⊢ <;> omega

/-- A window shows every domain as known or unknown exactly when none of its domains
    has an invalid cost, an unknown tax or no usable rate. -/
theorem window_counts_iff {summary : Summary} (h : budgetSummary case call db = .ok summary)
    (w : Window) :
    (summary.windows w).counts.domainCount =
        (summary.windows w).counts.knownRenewals + (summary.windows w).counts.unknownCosts ↔
      ∀ d ∈ activeDomains db.inventory, w ∈ windowsOf call db d →
        (verdictOf case call db d).dropped = false := by
  rw [(budgetSummary_ok_iff.mp h).2]
  have hpart := length_eq_known_missing_dropped (expiring w (budgetEntries case call db))
  have hzero : (expiring w (budgetEntries case call db)).countP (fun e => e.verdict.dropped) = 0 ↔
      ∀ d ∈ activeDomains db.inventory, w ∈ windowsOf call db d →
        (verdictOf case call db d).dropped = false := by
    simp [expiring, budgetEntries, List.countP_eq_zero]
  rw [← hzero]
  show (expiring w (budgetEntries case call db)).length = _ + _ ↔ _
  simp only [budgetOf, Totals.summary, accounted]
  omega

/-- A cost whose tax policy is not known. -/
def sampleUntaxed : Cost := { sampleCost with taxRate := none, taxInclusive := false, taxMode := .unknown }

/-- A domain that expires tomorrow, whose tax is unknown, is neither known nor unknown. -/
theorem unknown_tax_not_shown :
    (budgetSummary asciiCase sampleCall (sampleBudget sampleUntaxed)).toOption.map
        (fun summary => (summary.windows .next30Days).counts) =
      some { domainCount := 1, knownRenewals := 0, unknownCosts := 0 } := by
  decide +kernel

theorem window_counts_iff_one_domain :
    ∃ summary, budgetSummary asciiCase sampleCall (sampleBudget sampleCost) = .ok summary ∧
      (summary.windows .next30Days).counts.domainCount =
        (summary.windows .next30Days).counts.knownRenewals +
          (summary.windows .next30Days).counts.unknownCosts := by
  have hok : budgetSummary asciiCase sampleCall (sampleBudget sampleCost) =
      .ok (budgetOf asciiCase sampleCall (sampleBudget sampleCost)) :=
    budgetSummary_ok_iff.mpr ⟨by decide +kernel, rfl⟩
  exact ⟨_, hok, (window_counts_iff hok .next30Days).mpr (by decide +kernel)⟩

end Summary

end DomainMonitor.Finance
