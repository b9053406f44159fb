import Mathlib.Tactic.Linarith
import DomainMonitor.Basic
import DomainMonitor.Lib.Decimal

/-! # Money and rates (`internal/finance/decimal.go`)

    `Decimal` keeps an exact rational; texts are read with `ParseDecimal` and
    printed with a fixed number of decimals.
-/

namespace DomainMonitor.Finance

open Utf8

/-- `ParseDecimal`: at most `maxScale` decimals. -/
def parseDecimal (raw : GoString) (maxScale : Nat) : Option ℚ := do
  let p ← Decimal.plain? (trimSpace raw)
  if maxScale < p.fraction.length then none else some p.value

/-- `Decimal.String`. -/
def decimalString (scale : Nat) (value : ℚ) : GoString := Decimal.floatString scale value

/-- What was printed is read back as the rounded number. -/
theorem parseDecimal_decimalString {scale : Nat} (hscale : 0 < scale) {q : ℚ} (hq : 0 ≤ q) :
    parseDecimal (decimalString scale q) scale = some (Decimal.rounded scale q) := by
  have hpow : 0 < 10 ^ scale := by positivity
  rw [decimalString, Decimal.floatString, if_neg (not_lt.mpr hq), parseDecimal,
    Strings.trimSpace_of_solid (Decimal.solid_fixed _ _), Decimal.plain?_fixed hscale]
  simp only [Option.bind_eq_bind, Option.bind_some]
  rw [Decimal.value_fixed, if_neg]
  · rfl
  · rw [Numeral.length_numeral (by decide) (Nat.mod_lt _ hpow)]
    omega

/-- A text with at most `scale` decimals denotes a whole number of units. -/
theorem parseDecimal_units {scale : Nat} {raw : GoString} {q : ℚ} (h : parseDecimal raw scale = some q)
    (hq : 0 ≤ q) : ∃ u : Nat, q = (u : ℚ) / 10 ^ scale := by
  unfold parseDecimal at h
  obtain ⟨p, -, h⟩ := Option.bind_eq_some_iff.mp h
  split_ifs at h with hscale
  have hvalue := Option.some.inj h
  have hmagnitude : p.magnitude = ((Decimal.digitsValue (p.whole ++ p.fraction) *
      10 ^ (scale - p.fraction.length) : Nat) : ℚ) / 10 ^ scale := by
    have hsplit : (10 : ℚ) ^ scale = 10 ^ p.fraction.length * 10 ^ (scale - p.fraction.length) := by
      rw [← pow_add]
      congr 1
      omega
    unfold Decimal.Plain.magnitude
    rw [hsplit]
    push_cast
    field_simp
  -- A minus sign is accepted before a zero only.
  have hsign : q = p.magnitude := by
    have hpos : 0 ≤ p.magnitude := by unfold Decimal.Plain.magnitude; positivity
    unfold Decimal.Plain.value at hvalue
    split_ifs at hvalue
    · linarith
    · exact hvalue.symm
  exact ⟨_, hsign.trans hmagnitude⟩

end DomainMonitor.Finance
