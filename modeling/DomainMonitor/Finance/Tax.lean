import DomainMonitor.Finance.Engine

/-! # Tax and rounding

    The amounts of `Calculate` are exact until they are printed with six decimals. An
    amount has at most six decimals itself, so that only the tax is rounded in an
    exclusive total, and the printed parts still add up.
-/

namespace DomainMonitor.Finance

open Utf8 Strings Decimal

/-- The tax mode that a text stands for. -/
def modeOf (case : Case) (text : GoString) : GoString :=
  let mode := toLower case.lower (trimSpace text)
  if mode = [] then taxUnknown else mode

/-- A cost that can be taxed: everything but the mode is in order. -/
structure Taxable (case : Case) where
  amountText : GoString
  currency : GoString
  rateText : GoString
  months : Int
  amount : ℚ
  rate : ℚ
  amount_eq : parseDecimal amountText 6 = some amount
  nonneg : 0 ≤ amount
  letters : (normalizeCurrency case currency).length = 3
  rate_eq : parseDecimal rateText 10 = some rate
  range : 0 ≤ rate ∧ rate ≤ 1
  cycle : 1 ≤ months ∧ months ≤ 120

variable {case : Case}

def Taxable.input (t : Taxable case) (taxRate : Option GoString) (mode : GoString) : CostInput :=
  ⟨t.amountText, t.currency, taxRate, mode, t.months⟩

/-! ### What is calculated -/

variable {mode : GoString} {amount : ℚ} {taxRate : Option GoString}

theorem checkAmount_eq {raw : GoString} (h : parseDecimal raw 6 = some amount)
    (hnonneg : 0 ≤ amount) : checkAmount raw = .ok amount := by
  unfold checkAmount
  rw [h, Option.filter_some_pos (by simpa using hnonneg)]

theorem Taxable.exactCost_eq (t : Taxable case) (h : mode = taxExclusive ∨ mode = taxInclusive) :
    exactCost t.amount t.months mode (some t.rateText) =
      .ok (some (taxedCost t.amount t.months mode t.rate)) := by
  have hmode : mode ≠ taxUnknown ∧ mode ≠ taxExempt ∧ ¬ (mode ≠ taxExclusive ∧ mode ≠ taxInclusive) := by
    rcases h with rfl | rfl <;> decide
  unfold exactCost
  rw [if_neg hmode.1, if_neg hmode.2.1, if_neg hmode.2.2]
  dsimp only
  rw [t.rate_eq, Option.filter_some_pos (by simpa using t.range)]

theorem Taxable.quote_eq (t : Taxable case) {exact : Option ExactCost}
    (h : exactCost t.amount t.months (modeOf case mode) taxRate = .ok exact) :
    quote case (t.input taxRate mode) =
      .ok ⟨t.amount, normalizeCurrency case t.currency, t.months, exact⟩ := by
  obtain ⟨hlow, hhigh⟩ := t.cycle
  unfold quote Taxable.input
  simp only [checkAmount_eq t.amount_eq t.nonneg, bind, Except.bind]
  rw [if_neg (not_not.mpr t.letters), if_neg (show t.months ≠ 0 by omega), if_neg (by omega)]
  unfold modeOf at h
  dsimp only at h ⊢
  rw [h]

/-- The numbers that a result prints. -/
structure CostResult.Prints (r : CostResult) (amount tax total annual : ℚ) : Prop where
  amount : parseDecimal r.cycleAmount 6 = some amount
  tax : r.taxAmount.bind (parseDecimal · 6) = some tax
  total : r.cycleTotal.bind (parseDecimal · 6) = some total
  annual : r.annualEstimate.bind (parseDecimal · 6) = some annual

theorem Taxable.rounded_amount (t : Taxable case) : rounded 6 t.amount = t.amount := by
  obtain ⟨u, hu⟩ := parseDecimal_units t.amount_eq t.nonneg
  unfold rounded
  rw [hu, units_div]

/-- What is printed is the rounding of the exact amounts. -/
theorem Taxable.calculate_prints (t : Taxable case) {exact : ExactCost}
    (h : exactCost t.amount t.months (modeOf case mode) taxRate = .ok (some exact)) :
    ∃ r, calculate case (t.input taxRate mode) = .ok r ∧
      r.Prints t.amount (rounded 6 exact.tax) (rounded 6 exact.total) (rounded 6 exact.annual) ∧
      r.cycleTotal = some (decimalString 6 exact.total) := by
  have hquote := t.quote_eq h
  have hsound := quote_sound hquote rfl
  have hread : ∀ {q : ℚ}, 0 ≤ q → parseDecimal (decimalString 6 q) 6 = some (rounded 6 q) :=
    parseDecimal_decimalString (by decide)
  obtain ⟨r, hr, -, -, htax, htotal, hannual, hamount⟩ := calculate_complete hquote rfl
  refine ⟨r, hr, ⟨?_, ?_, ?_, ?_⟩, htotal⟩
  · rw [hamount, hread t.nonneg, t.rounded_amount]
  · rw [htax, Option.bind_some, hread hsound.tax]
  · rw [htotal, Option.bind_some, hread hsound.total]
  · rw [hannual, Option.bind_some, hread hsound.annual]

/-! ### The parts add up -/

/-- The tax that an exclusive total contains differs from the exact tax by a quarter of
    a unit at most. -/
theorem contained_tax {rate total : ℚ} (hrate : 0 ≤ rate ∧ rate ≤ 1)
    (htotal : |total - (amount + amount * rate)| ≤ 1 / 2 / 10 ^ 6) :
    |(total - total / (1 + rate)) - amount * rate| * 10 ^ 6 < 1 := by
  have hone : (0 : ℚ) < 1 + rate := by linarith [hrate.1]
  have hshare : 0 ≤ rate / (1 + rate) ∧ rate / (1 + rate) ≤ 1 := by
    constructor
    · exact div_nonneg hrate.1 hone.le
    · rw [div_le_one hone]
      linarith
  have hdiff : (total - total / (1 + rate)) - amount * rate =
      (total - (amount + amount * rate)) * (rate / (1 + rate)) := by
    field_simp
    ring
  rw [hdiff, abs_mul, abs_of_nonneg hshare.1]
  have hle := mul_le_mul htotal hshare.2 hshare.1 (by positivity)
  linarith

theorem exactCost_none_iff {months : Int} {exact : Option ExactCost}
    (h : exactCost amount months mode taxRate = .ok exact) : exact = none ↔ mode = taxUnknown := by
  unfold exactCost at h
  by_cases hmode : mode = taxUnknown
  · rw [if_pos hmode] at h
    split at h
    · cases h
    · cases h
      exact iff_of_true rfl hmode
  · rw [if_neg hmode] at h
    refine iff_of_false (fun hnone => ?_) hmode
    rw [hnone] at h
    split at h
    · split at h <;> cases h
    · split at h
      · cases h
      · split at h
        · cases h
        · split at h <;> cases h

theorem quote_exact_none_iff {input : CostInput} {q : Quote} (h : quote case input = .ok q) :
    q.exact = none ↔ modeOf case input.taxMode = taxUnknown := by
  simp only [quote, except_bind_ok] at h
  obtain ⟨amount, -, h⟩ := h
  split_ifs at h with hcurrency hmonths
  all_goals
    simp only [except_bind_ok] at h
    obtain ⟨exact, hcost, h⟩ := h
    cases h
    have hiff := exactCost_none_iff hcost
    unfold modeOf
    simpa [*] using hiff

/-- The mode decides whether the answer is complete. -/
theorem calculate_complete_iff {input : CostInput} {r : CostResult} (h : calculate case input = .ok r) :
    r.complete = true ↔ modeOf case input.taxMode ≠ taxUnknown := by
  cases hq : quote case input with
  | error e =>
    rw [calculate_refused hq] at h
    cases h
  | ok q =>
    rw [ne_eq, ← quote_exact_none_iff hq]
    cases hexact : q.exact with
    | none =>
      obtain ⟨r', hr', hcomplete⟩ := calculate_taxUnknown hq hexact
      cases hr'.symm.trans h
      simp [hcomplete]
    | some exact =>
      obtain ⟨r', hr', hcomplete, -⟩ := calculate_complete hq hexact
      cases hr'.symm.trans h
      simp [hcomplete]

/-- The estimate for a year is printed to half a unit. -/
def YearlyClose (t : Taxable case) (total annual : ℚ) : Prop :=
  |annual - annualEstimate total t.months| ≤ 1 / 2 / 10 ^ 6

/-- **Tax calculation**: for every amount, rate and cycle in range and however the mode
    is written, the answer of `Calculate` has parts that fit together as they are
    printed. -/
theorem tax_consistent (t : Taxable case) {exclusive inclusive exempt : GoString}
    (hexclusive : modeOf case exclusive = taxExclusive) (hinclusive : modeOf case inclusive = taxInclusive)
    (hexempt : modeOf case exempt = taxExempt) :
    (∃ r tax total annual text r' tax', calculate case (t.input (some t.rateText) exclusive) = .ok r ∧
      r.Prints t.amount tax total annual ∧ total = t.amount + tax ∧
      YearlyClose t (t.amount + t.amount * t.rate) annual ∧
      -- The printed total, as an amount that contains the tax.
      r.cycleTotal = some text ∧
      calculate case { t.input (some t.rateText) inclusive with amount := text } = .ok r' ∧
      r'.taxAmount.bind (parseDecimal · 6) = some tax' ∧ |tax' - tax| ≤ 1 / 10 ^ 6) ∧
    (∃ r tax total annual, calculate case (t.input (some t.rateText) inclusive) = .ok r ∧
      r.Prints t.amount tax total annual ∧ total = t.amount ∧ (0 ≤ tax ∧ tax ≤ t.amount) ∧
      YearlyClose t t.amount annual) ∧
    (∃ r annual, calculate case (t.input none exempt) = .ok r ∧
      r.Prints t.amount 0 t.amount annual ∧ YearlyClose t t.amount annual) ∧
    ∀ input r, calculate case input = .ok r →
      (r.complete = true ↔ modeOf case input.taxMode ≠ taxUnknown) := by
  obtain ⟨hrate, hrate'⟩ := t.range
  have htax : 0 ≤ t.amount * t.rate := mul_nonneg t.nonneg hrate
  have hyear : ∀ {total : ℚ}, 0 ≤ total → YearlyClose t total (rounded 6 (annualEstimate total t.months)) :=
    fun htotal => rounded_close 6 (annualEstimate_nonneg htotal t.cycle.1)
  obtain ⟨u, hu⟩ := parseDecimal_units t.amount_eq t.nonneg
  have hsum : rounded 6 (t.amount + t.amount * t.rate) = t.amount + rounded 6 (t.amount * t.rate) := by
    rw [hu] at htax ⊢
    exact rounded_add 6 u htax
  refine ⟨?_, ?_, ?_, fun input r => calculate_complete_iff⟩
  · obtain ⟨r, hr, hprints, htext⟩ := t.calculate_prints (by rw [hexclusive]; exact t.exactCost_eq (.inl rfl))
    set text := decimalString 6 (taxedCost t.amount t.months taxExclusive t.rate).total with htextdef
    -- The same cost with its total for an amount.
    let t' : Taxable case :=
      { t with
        amountText := text
        amount := rounded 6 (t.amount + t.amount * t.rate)
        amount_eq := parseDecimal_decimalString (by decide) (add_nonneg t.nonneg htax)
        nonneg := rounded_nonneg 6 _ }
    obtain ⟨r', hr', hprints', -⟩ := t'.calculate_prints
      (by rw [hinclusive]; exact t'.exactCost_eq (.inr rfl))
    refine ⟨r, _, _, _, text, r', _, hr, hprints, hsum, hyear (add_nonneg t.nonneg htax), htext, hr',
      hprints'.tax, ?_⟩
    have hshare : 0 ≤ t'.amount - t'.amount / (1 + t.rate) :=
      sub_nonneg.mpr (div_le_self t'.nonneg (le_add_of_nonneg_right hrate))
    exact rounded_near 6 hshare htax (contained_tax t.range (rounded_close 6 (add_nonneg t.nonneg htax)))
  · obtain ⟨r, hr, hprints, -⟩ := t.calculate_prints (by rw [hinclusive]; exact t.exactCost_eq (.inr rfl))
    have hsound := taxedCost_sound taxInclusive t.nonneg t.cycle.1 hrate
    refine ⟨r, _, _, _, hr, hprints, t.rounded_amount, ⟨rounded_nonneg 6 _, ?_⟩, hyear t.nonneg⟩
    calc rounded 6 (taxedCost t.amount t.months taxInclusive t.rate).tax
        ≤ rounded 6 t.amount := rounded_mono 6 hsound.tax hsound.part
      _ = t.amount := t.rounded_amount
  · have hexact : exactCost t.amount t.months (modeOf case exempt) none =
        .ok (some ⟨0, t.amount, annualEstimate t.amount t.months⟩) := by
      rw [hexempt]
      rfl
    obtain ⟨r, hr, hprints, -⟩ := t.calculate_prints hexact
    refine ⟨r, _, hr, ?_, hyear t.nonneg⟩
    have hzero : rounded 6 (0 : ℚ) = 0 := by decide +kernel
    rw [hzero, t.rounded_amount] at hprints
    exact hprints

/-- A hundred baht a year at seven percent. -/
def sampleTaxable : Taxable asciiCase where
  amountText := lit "100"
  currency := lit "THB"
  rateText := lit "0.07"
  months := 12
  amount := 100
  rate := 7 / 100
  amount_eq := by decide +kernel
  nonneg := by decide +kernel
  letters := by decide +kernel
  rate_eq := by decide +kernel
  range := by decide +kernel
  cycle := by decide

theorem tax_consistent_sample :
    ∃ r tax total annual, calculate asciiCase (sampleTaxable.input (some (lit "0.07")) (lit "Exclusive")) = .ok r ∧
      r.Prints 100 tax total annual ∧ total = 100 + tax := by
  obtain ⟨⟨r, tax, total, annual, -, -, -, hr, hprints, htotal, -⟩, -⟩ :=
    tax_consistent sampleTaxable (by decide +kernel : modeOf asciiCase (lit "Exclusive") = taxExclusive)
      (by decide +kernel : modeOf asciiCase (lit " inclusive ") = taxInclusive)
      (by decide +kernel : modeOf asciiCase (lit "exempt") = taxExempt)
  exact ⟨r, tax, total, annual, hr, hprints, htotal⟩

end DomainMonitor.Finance
