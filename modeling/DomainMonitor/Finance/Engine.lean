import Mathlib.Tactic.Linarith
import DomainMonitor.Config
import DomainMonitor.Finance.Decimal

/-! # The cost engine (`internal/finance/engine.go`)

    `Calculate` turns an amount, a tax policy and a billing cycle into the tax, the
    total of a cycle and the estimate for a year. All three are computed exactly and
    printed with six decimals.
-/

namespace DomainMonitor.Finance

open Utf8 Strings

/-! ### Tax modes -/

def taxExclusive : GoString := lit "exclusive"
def taxInclusive : GoString := lit "inclusive"
def taxExempt : GoString := lit "exempt"
def taxUnknown : GoString := lit "unknown"

/-- The `unicode` tables that the engine reads. -/
structure Case where
  upper : Char → Char
  lower : Tables

/-- Tables that know ASCII only. -/
def asciiCase : Case := ⟨Char.toUpper, asciiTables⟩

/-- `normalizeCurrency`. -/
def normalizeCurrency (case : Case) (value : GoString) : GoString := toUpper case.upper (trimSpace value)

/-! ### Calculate -/

structure CostInput where
  amount : GoString
  currency : GoString
  taxRate : Option GoString
  taxMode : GoString
  billingCycleMonths : Int
  deriving DecidableEq, Repr

structure CostResult where
  currency : GoString
  cycleAmount : GoString
  taxAmount : Option GoString := none
  cycleTotal : Option GoString := none
  annualEstimate : Option GoString := none
  billingCycleMonths : Int
  formula : GoString
  complete : Bool := false
  warnings : List String := []
  deriving DecidableEq, Repr

/-- The amounts before they are printed. -/
structure ExactCost where
  tax : ℚ
  total : ℚ
  annual : ℚ
  deriving DecidableEq, Repr

/-- `total * 12 / months`. -/
def annualEstimate (total : ℚ) (months : Int) : ℚ := total * 12 / months

/-- The amounts for a rate, on top of the amount or contained in it. -/
def taxedCost (amount : ℚ) (months : Int) (mode : GoString) (rate : ℚ) : ExactCost :=
  if mode = taxExclusive then
    let tax := amount * rate
    let total := amount + tax
    ⟨tax, total, annualEstimate total months⟩
  else
    let base := amount / (1 + rate)
    ⟨amount - base, amount, annualEstimate amount months⟩

/-- The amounts under a tax mode; `none` when the mode is unknown. -/
def exactCost (amount : ℚ) (months : Int) (mode : GoString) (taxRate : Option GoString) :
    Except GoString (Option ExactCost) :=
  if mode = taxUnknown then
    if taxRate.isSome then .error (lit "tax_rate must be null when tax_mode is unknown")
    else .ok none
  else if mode = taxExempt then
    -- A rate may stand there if it is zero.
    if taxRate.any (fun raw => (parseDecimal raw 10).all (fun rate => rate ≠ 0)) then
      .error (lit "tax_rate must be null or zero when tax_mode is exempt")
    else .ok (some ⟨0, amount, annualEstimate amount months⟩)
  else if mode ≠ taxExclusive ∧ mode ≠ taxInclusive then
    .error (lit "tax_mode must be exclusive, inclusive, exempt, or unknown")
  else
    match taxRate with
    | none => .error (lit "tax_rate is required for inclusive or exclusive tax")
    | some raw =>
      match (parseDecimal raw 10).filter (fun rate => 0 ≤ rate ∧ rate ≤ 1) with
      | none => .error (lit "tax_rate must be between 0 and 1 with at most 10 decimal places")
      | some rate => .ok (some (taxedCost amount months mode rate))

/-- What `Calculate` works with once its input is accepted. -/
structure Quote where
  amount : ℚ
  currency : GoString
  months : Int
  exact : Option ExactCost
  deriving DecidableEq, Repr

def checkAmount (raw : GoString) : Except GoString ℚ :=
  match (parseDecimal raw 6).filter (fun amount => 0 ≤ amount) with
  | some amount => .ok amount
  | none => .error (lit "amount must be a non-negative decimal string with at most 6 decimal places")

/-- The checks of `Calculate`, in their order. -/
def quote (case : Case) (input : CostInput) : Except GoString Quote := do
  let amount ← checkAmount input.amount
  let currency := normalizeCurrency case input.currency
  if currency.length ≠ 3 then .error (lit "currency must be a three-letter code")
  else
    let months := if input.billingCycleMonths = 0 then 12 else input.billingCycleMonths
    if months < 1 ∨ months > 120 then
      .error (lit "billing cycle must be between 1 and 120 months")
    else
      let mode := toLower case.lower (trimSpace input.taxMode)
      let mode := if mode = [] then taxUnknown else mode
      let exact ← exactCost amount months mode input.taxRate
      .ok { amount, currency, months, exact }

/-- `Calculate`. -/
def calculate (case : Case) (input : CostInput) : Except GoString CostResult := do
  let q ← quote case input
  let result : CostResult :=
    { currency := q.currency
      cycleAmount := decimalString 6 q.amount
      billingCycleMonths := q.months
      formula := lit "cycle_total * (12 / " ++ lit (toString q.months) ++ lit ")" }
  match q.exact with
  | none => .ok { result with warnings := ["TAX_POLICY_UNKNOWN"] }
  | some exact =>
    .ok
      { result with
        taxAmount := some (decimalString 6 exact.tax)
        cycleTotal := some (decimalString 6 exact.total)
        annualEstimate := some (decimalString 6 exact.annual)
        complete := true }

example : (calculate asciiCase
    ⟨lit "100", lit "thb", some (lit "0.07"), lit "inclusive", 6⟩).toOption.map
      (fun r => (r.taxAmount, r.cycleTotal, r.annualEstimate)) =
    some (some (lit "6.542056"), some (lit "100.000000"), some (lit "200.000000")) := by
  decide +kernel

/-! ### What an accepted cost satisfies -/

/-- Amounts that can be budgeted: nothing is negative, and the tax is a part of the
    total. -/
structure ExactCost.Sound (exact : ExactCost) : Prop where
  tax : 0 ≤ exact.tax
  part : exact.tax ≤ exact.total
  annual : 0 ≤ exact.annual

variable {exact : ExactCost} {amount : ℚ} {months : Int}

theorem ExactCost.Sound.total (h : exact.Sound) : 0 ≤ exact.total :=
  h.tax.trans h.part

theorem annualEstimate_nonneg {total : ℚ} (htotal : 0 ≤ total) (hmonths : 1 ≤ months) :
    0 ≤ annualEstimate total months := by
  have hpos : (0 : ℚ) < months := by exact_mod_cast hmonths
  unfold annualEstimate
  positivity

theorem taxedCost_sound {rate : ℚ} (mode : GoString) (hamount : 0 ≤ amount) (hmonths : 1 ≤ months)
    (hrate : 0 ≤ rate) : (taxedCost amount months mode rate).Sound := by
  unfold taxedCost
  dsimp only
  split_ifs
  · have htax : 0 ≤ amount * rate := mul_nonneg hamount hrate
    exact ⟨htax, le_add_of_nonneg_left hamount,
      annualEstimate_nonneg (add_nonneg hamount htax) hmonths⟩
  · -- The base is between zero and the amount.
    have hone : (1 : ℚ) ≤ 1 + rate := le_add_of_nonneg_right hrate
    have hbase : 0 ≤ amount / (1 + rate) := div_nonneg hamount (zero_le_one.trans hone)
    exact ⟨sub_nonneg.mpr (div_le_self hamount hone), sub_le_self _ hbase,
      annualEstimate_nonneg hamount hmonths⟩

theorem exactCost_sound {mode : GoString} {taxRate : Option GoString} (hamount : 0 ≤ amount)
    (hmonths : 1 ≤ months) (h : exactCost amount months mode taxRate = .ok (some exact)) :
    exact.Sound := by
  unfold exactCost at h
  split at h
  · split at h <;> cases h
  · split at h
    · split at h
      · cases h
      · cases h
        exact ⟨le_rfl, hamount, annualEstimate_nonneg hamount hmonths⟩
    · split at h
      · cases h
      · split at h
        · cases h
        · split at h
          · cases h
          · rename_i rate hrate
            cases h
            have hbounds : 0 ≤ rate ∧ rate ≤ 1 := of_decide_eq_true (Option.filter_eq_some_iff.mp hrate).2
            exact taxedCost_sound mode hamount hmonths hbounds.1

theorem checkAmount_nonneg {raw : GoString} (h : checkAmount raw = .ok amount) : 0 ≤ amount := by
  unfold checkAmount at h
  split at h
  · rename_i value hvalue
    cases h
    exact of_decide_eq_true (Option.filter_eq_some_iff.mp hvalue).2
  · cases h

theorem quote_sound {case : Case} {input : CostInput} {q : Quote} (h : quote case input = .ok q)
    (hexact : q.exact = some exact) : exact.Sound := by
  simp only [quote, except_bind_ok] at h
  obtain ⟨amount, hamount, h⟩ := h
  split_ifs at h with hcurrency hmonths
  all_goals
    simp only [except_bind_ok] at h
    obtain ⟨exact', hcost, h⟩ := h
    cases h
    dsimp only at hexact
    rw [hexact] at hcost
    exact exactCost_sound (checkAmount_nonneg hamount) (by omega) hcost

/-! ### The engine's answer -/

section Calculate

variable {case : Case} {input : CostInput} {q : Quote}

theorem calculate_refused {e : GoString} (h : quote case input = .error e) :
    calculate case input = .error e := by
  unfold calculate
  rw [h]
  rfl

theorem calculate_taxUnknown (h : quote case input = .ok q) (hexact : q.exact = none) :
    ∃ r, calculate case input = .ok r ∧ r.complete = false := by
  unfold calculate
  rw [h]
  simp only [bind, Except.bind, hexact]
  exact ⟨_, rfl, rfl⟩

theorem calculate_complete {exact : ExactCost} (h : quote case input = .ok q)
    (hexact : q.exact = some exact) :
    ∃ r, calculate case input = .ok r ∧ r.complete = true ∧ r.currency = q.currency ∧
      r.taxAmount = some (decimalString 6 exact.tax) ∧
      r.cycleTotal = some (decimalString 6 exact.total) ∧
      r.annualEstimate = some (decimalString 6 exact.annual) ∧
      r.cycleAmount = decimalString 6 q.amount := by
  unfold calculate
  rw [h]
  simp only [bind, Except.bind, hexact]
  exact ⟨_, rfl, rfl, rfl, rfl, rfl, rfl, rfl⟩

end Calculate

end DomainMonitor.Finance
