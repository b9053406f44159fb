import Mathlib.Data.Rat.Floor
import Mathlib.Tactic.FieldSimp
import Mathlib.Tactic.Positivity
import DomainMonitor.Lib.Numeral
import DomainMonitor.Lib.Strings

/-! # Plain decimals

    Decimal numerals without an exponent, as text and as exact rationals: reading
    them, printing a rational with a fixed number of decimals (Go's
    `big.Rat.FloatString`), and `numeric(p, s)` columns, which hold a whole number
    of units of the last decimal.

    What a column prints is what was written to it, when that was printed with the
    column's own number of decimals (`text_of_numeric`).
-/

namespace Decimal

open Encoding Numeral Strings

/-! ### Reading -/

def isDigit (c : UInt8) : Bool := 48 ≤ c.toNat && c.toNat ≤ 57

/-- The number a list of digits denotes, most significant first. -/
def digitsValue (ds : List UInt8) : Nat := Nat.ofDigits 10 (ds.map digitValue).reverse

/-- The parts of a plain decimal. -/
structure Plain where
  negative : Bool
  whole : List UInt8
  fraction : List UInt8
  deriving DecidableEq, Repr

def isNumeral (ds : List UInt8) : Bool := !ds.isEmpty && ds.all isDigit

/-- `[0-9]+(\.[0-9]+)?`, the whole text. -/
def unsigned? (negative : Bool) (s : List UInt8) : Option Plain :=
  match cut 46 s with
  | (whole, none) => if isNumeral whole then some ⟨negative, whole, []⟩ else none
  | (whole, some fraction) =>
    if isNumeral whole && isNumeral fraction then some ⟨negative, whole, fraction⟩ else none

/-- `[+-]?[0-9]+(\.[0-9]+)?`, the whole text. -/
def plain? : List UInt8 → Option Plain
  | 43 :: s => unsigned? false s
  | 45 :: s => unsigned? true s
  | s => unsigned? false s

def Plain.magnitude (p : Plain) : ℚ :=
  (digitsValue (p.whole ++ p.fraction) : ℚ) / 10 ^ p.fraction.length

def Plain.value (p : Plain) : ℚ := if p.negative then -p.magnitude else p.magnitude

/-! ### Printing -/

/-- The magnitude of a rational in units of the last of `scale` decimals, halves
    rounded up. -/
def units (scale : Nat) (q : ℚ) : Nat :=
  let n := q.num.natAbs * 10 ^ scale
  if q.den ≤ 2 * (n % q.den) then n / q.den + 1 else n / q.den

/-- `u` units of the last of `scale` decimals. -/
def fixed (scale u : Nat) : List UInt8 :=
  numeral 10 1 (u / 10 ^ scale) ++
    if scale = 0 then [] else 46 :: numeral 10 scale (u % 10 ^ scale)

/-- `big.Rat.FloatString`. -/
def floatString (scale : Nat) (q : ℚ) : List UInt8 :=
  if q < 0 then 45 :: fixed scale (units scale q) else fixed scale (units scale q)

example : floatString 6 (25 / 2) = "12.500000".toList.map byte := by decide +kernel

example : (plain? ("-007.25".toList.map byte)).map Plain.value = some (-29 / 4) := by decide +kernel

/-! ### Columns -/

/-- The text assigned to a `numeric(precision, scale)` column that must not be
    negative, in units of the last decimal. -/
def numeric (precision scale : Nat) (s : List UInt8) : Option Nat := do
  let p ← plain? s
  if p.value < 0 then none
  else if units scale p.value < 10 ^ precision then some (units scale p.value)
  else none

/-! ### Lemmas -/

variable {width d precision u : Nat} {c : UInt8}

theorem isDigit_hexDigit (h : d < 10) : isDigit (hexDigit d) = true := by
  have hall : ∀ d < 10, isDigit (hexDigit d) = true := by decide
  exact hall d h

theorem isNumeral_numeral (n : Nat) (h : 0 < width) : isNumeral (numeral 10 width n) = true := by
  have hlength := le_length_numeral 10 width n
  have hne : numeral 10 width n ≠ [] := by
    intro hnil
    rw [hnil, List.length_nil] at hlength
    omega
  simp only [isNumeral, Bool.and_eq_true, Bool.not_eq_true', List.isEmpty_eq_false_iff,
    List.all_eq_true]
  refine ⟨hne, ?_⟩
  intro c hc
  obtain ⟨d, hd, rfl⟩ := mem_numeral (by decide) hc
  exact isDigit_hexDigit hd

theorem digitsValue_append_numeral (a scale n : Nat) (h : n < 10 ^ scale) :
    digitsValue (numeral 10 1 a ++ numeral 10 scale n) = a * 10 ^ scale + n := by
  have hlength : (padded 10 scale n).length = scale := by
    have hnumeral := length_numeral (b := 10) (by decide) h
    simpa [numeral] using hnumeral
  unfold digitsValue
  rw [List.map_append, map_digitValue (by decide) (by decide),
    map_digitValue (by decide) (by decide), List.reverse_append, List.reverse_reverse,
    List.reverse_reverse, Nat.ofDigits_append, ofDigits_padded, ofDigits_padded, hlength]
  ring

variable {n scale : Nat} {q r : ℚ}

/-- A digit is not a sign and not the point. -/
theorem numeral_ne (h : c ∈ numeral 10 width n) : c ≠ 43 ∧ c ≠ 45 ∧ c ≠ 46 := by
  have hall : ∀ d < 10, hexDigit d ≠ 43 ∧ hexDigit d ≠ 45 ∧ hexDigit d ≠ 46 := by decide
  obtain ⟨d, hd, rfl⟩ := mem_numeral (by decide) h
  exact hall d hd

theorem plain?_of_unsigned {s : List UInt8} (hplus : c ≠ 43) (hminus : c ≠ 45) :
    plain? (c :: s) = unsigned? false (c :: s) := by
  unfold plain?
  split
  · exact absurd (List.cons.inj ‹_›).1 hplus
  · exact absurd (List.cons.inj ‹_›).1 hminus
  · rfl

/-- What is printed can be read back. -/
theorem plain?_fixed (hscale : 0 < scale) (u : Nat) :
    plain? (fixed scale u) =
      some ⟨false, numeral 10 1 (u / 10 ^ scale), numeral 10 scale (u % 10 ^ scale)⟩ := by
  have hwhole := isNumeral_numeral (u / 10 ^ scale) (Nat.lt_add_one 0)
  have hfraction := isNumeral_numeral (u % 10 ^ scale) hscale
  have hcut : cut 46 (fixed scale u) =
      (numeral 10 1 (u / 10 ^ scale), some (numeral 10 scale (u % 10 ^ scale))) := by
    rw [fixed, if_neg (by omega)]
    exact cut_append (fun h => (numeral_ne h).2.2 rfl) _
  have hunsigned : unsigned? false (fixed scale u) =
      some ⟨false, numeral 10 1 (u / 10 ^ scale), numeral 10 scale (u % 10 ^ scale)⟩ := by
    rw [unsigned?, hcut]
    simp [hwhole, hfraction]
  rw [← hunsigned]
  -- The text starts with a digit.
  cases hnumeral : numeral 10 1 (u / 10 ^ scale) with
  | nil => simp [isNumeral, hnumeral] at hwhole
  | cons c s =>
    obtain ⟨hplus, hminus, -⟩ := numeral_ne (hnumeral ▸ List.mem_cons_self : c ∈ numeral 10 1 (u / 10 ^ scale))
    rw [fixed, hnumeral, List.cons_append]
    exact plain?_of_unsigned hplus hminus

theorem solid_hexDigit (h : d < 10) : 32 < (hexDigit d).toNat ∧ (hexDigit d).toNat < 127 := by
  have hall : ∀ d < 10, 32 < (hexDigit d).toNat ∧ (hexDigit d).toNat < 127 := by decide
  exact hall d h

theorem solid_numeral (width n : Nat) : Solid (numeral 10 width n) := by
  intro c hc
  obtain ⟨d, hd, rfl⟩ := mem_numeral (by decide) hc
  exact solid_hexDigit hd

theorem solid_fixed (scale u : Nat) : Solid (fixed scale u) := by
  refine (solid_numeral _ _).append ?_
  split
  · intro c hc
    cases hc
  · intro c hc
    rcases List.mem_cons.mp hc with rfl | hc
    · decide
    · exact solid_numeral _ _ c hc

theorem fixed_ne_nil (scale u : Nat) : fixed scale u ≠ [] := by
  intro hnil
  have hlength := le_length_numeral 10 1 (u / 10 ^ scale)
  rw [(List.append_eq_nil_iff.mp hnil).1] at hlength
  cases hlength

theorem natAbs_num (hq : 0 ≤ q) : (q.num.natAbs : ℚ) = q * q.den := by
  have habs : ((q.num.natAbs : ℤ) : ℚ) = (q.num : ℚ) := by
    rw [Int.natAbs_of_nonneg (Rat.num_nonneg.mpr hq)]
  rw [Rat.mul_den_eq_num, ← habs]
  rfl

theorem units_div (scale u : Nat) : units scale ((u : ℚ) / 10 ^ scale) = u := by
  set q : ℚ := (u : ℚ) / 10 ^ scale with hq
  have hexact : q.num.natAbs * 10 ^ scale = u * q.den := by
    have hcast : (q.num.natAbs : ℚ) * 10 ^ scale = u * q.den := by
      rw [natAbs_num (by positivity), hq]
      field_simp
    exact_mod_cast hcast
  have hden := q.den_pos
  simp only [units, hexact, Nat.mul_mod_left, Nat.mul_div_cancel u hden]
  exact if_neg (by omega)

/-- The number that a fixed number of decimals denotes. -/
theorem value_fixed (scale u : Nat) :
    (⟨false, numeral 10 1 (u / 10 ^ scale), numeral 10 scale (u % 10 ^ scale)⟩ : Plain).value =
      (u : ℚ) / 10 ^ scale := by
  have hpow : 0 < 10 ^ scale := by positivity
  rw [Plain.value, if_neg (by simp), Plain.magnitude,
    digitsValue_append_numeral _ _ _ (Nat.mod_lt _ hpow),
    length_numeral (by decide) (Nat.mod_lt _ hpow), Nat.div_add_mod']

theorem fixed_inj (hscale : 0 < scale) {v : Nat} (h : fixed scale u = fixed scale v) : u = v := by
  have hplain : (plain? (fixed scale u)).map Plain.value = (plain? (fixed scale v)).map Plain.value := by
    rw [h]
  rw [plain?_fixed hscale, plain?_fixed hscale, Option.map_some, Option.map_some, value_fixed,
    value_fixed] at hplain
  have hunits := congrArg (units scale) (Option.some.inj hplain)
  rwa [units_div, units_div] at hunits

/-- A column reads what was printed with its own number of decimals. -/
theorem numeric_fixed (hscale : 0 < scale) (hu : u < 10 ^ precision) :
    numeric precision scale (fixed scale u) = some u := by
  simp only [numeric, plain?_fixed hscale, Option.bind_eq_bind, Option.bind_some, value_fixed, units_div]
  rw [if_neg (not_lt.mpr (by positivity)), if_pos hu]

/-- A column prints the text that was written to it, when that was printed with
    the column's number of decimals. -/
theorem text_of_numeric (hscale : 0 < scale) (hq : ¬ q < 0)
    (h : numeric precision scale (floatString scale q) = some n) :
    fixed scale n = floatString scale q := by
  rw [floatString, if_neg hq] at h ⊢
  set u := units scale q
  simp only [numeric, plain?_fixed hscale, Option.bind_eq_bind, Option.bind_some] at h
  rw [value_fixed, units_div] at h
  split at h
  · cases h
  · split at h
    · rw [Option.some.inj h]
    · cases h

/-! ### Order of texts -/

/-- The numeral of a number above one: it does not start with a zero, and a one is
    followed by another digit. -/
theorem numeral_of_two_le (hn : 2 ≤ n) : ∃ d ds, numeral 10 1 n = hexDigit d :: ds ∧
    d < 10 ∧ (2 ≤ d ∨ d = 1 ∧ ∃ e es, ds = hexDigit e :: es ∧ e < 10) := by
  have hne : Nat.digits 10 n ≠ [] := Nat.digits_ne_nil_iff_ne_zero.mpr (by omega)
  obtain ⟨low, d, hdigits⟩ : ∃ low d, Nat.digits 10 n = low ++ [d] :=
    ⟨_, _, (List.dropLast_append_getLast hne).symm⟩
  have hmem : ∀ e ∈ low ++ [d], e < 10 := fun e he => Nat.digits_lt_base (by decide) (hdigits ▸ he)
  have hd : d ≠ 0 := by
    have hlast := Nat.getLast_digit_ne_zero 10 (m := n) (by omega)
    simpa [hdigits] using hlast
  have htext : numeral 10 1 n = hexDigit d :: low.reverse.map hexDigit := by
    rw [numeral, padded, hdigits, List.length_append]
    simp
  refine ⟨d, _, htext, hmem d (by simp), ?_⟩
  by_cases htwo : 2 ≤ d
  · exact .inl htwo
  · obtain rfl : d = 1 := by omega
    refine .inr ⟨rfl, ?_⟩
    cases hlow : low.reverse with
    | nil =>
      rw [List.reverse_eq_nil_iff.mp hlow] at hdigits
      have hvalue := Nat.ofDigits_digits 10 n
      rw [hdigits] at hvalue
      simp at hvalue
      omega
    | cons e es =>
      have he : e ∈ low := List.mem_reverse.mp (hlow ▸ List.mem_cons_self)
      exact ⟨e, es.map hexDigit, rfl, hmem e (List.mem_append_left _ he)⟩

theorem replicate_lt_iff {z : UInt8} {l : List UInt8} (h : ∀ c ∈ l, z ≤ c) :
    List.replicate l.length z < l ↔ List.replicate l.length z ≠ l := by
  induction l with
  | nil => simp
  | cons c l ih =>
    obtain ⟨hc, hl⟩ := List.forall_mem_cons.mp h
    rw [List.length_cons, List.replicate_succ, List.cons_lt_cons_iff, ih hl]
    rcases UInt8.lt_or_eq_of_le hc with hlt | rfl
    · simp [hlt, UInt8.ne_of_lt hlt]
    · simp

/-- Zeros are the smallest digits. -/
theorem numeral_zero_lt (hn : n < 10 ^ scale) :
    numeral 10 scale 0 < numeral 10 scale n ↔ 0 < n := by
  have hdigits : ∀ c ∈ numeral 10 scale n, hexDigit 0 ≤ c := by
    intro c hc
    have hall : ∀ d < 10, hexDigit 0 ≤ hexDigit d := by decide
    obtain ⟨d, hd, rfl⟩ := mem_numeral (by decide) hc
    exact hall d hd
  have hzeros : numeral 10 scale 0 = List.replicate (numeral 10 scale n).length (hexDigit 0) := by
    rw [length_numeral (by decide) hn]
    simp [numeral, padded]
  rw [hzeros, replicate_lt_iff hdigits, ← hzeros]
  constructor
  · intro hne
    by_contra hzero
    rw [Nat.eq_zero_of_not_pos hzero] at hne
    exact hne rfl
  · intro hpos heq
    rw [← numeral_inj (by decide) (by decide) heq] at hpos
    exact absurd hpos (Nat.lt_irrefl 0)

/-- Among texts with the same number of decimals, those above that of 1 denote the
    numbers above 1. -/
theorem fixed_one_lt (hscale : 0 < scale) (u : Nat) :
    fixed scale (10 ^ scale) < fixed scale u ↔ 10 ^ scale < u := by
  have hpow : 0 < 10 ^ scale := by positivity
  have hsplit := Nat.div_add_mod u (10 ^ scale)
  have hmod := Nat.mod_lt u hpow
  have hone : fixed scale (10 ^ scale) = 49 :: 46 :: numeral 10 scale 0 := by
    rw [fixed, if_neg (by omega), Nat.div_self hpow, Nat.mod_self]
    rfl
  rw [hone, fixed, if_neg (by omega)]
  generalize hwhole : u / 10 ^ scale = w at hsplit ⊢
  generalize u % 10 ^ scale = m at hsplit hmod ⊢
  -- The digit before the point decides, unless it is a one as well.
  rcases (by omega : w = 0 ∨ w = 1 ∨ 2 ≤ w) with rfl | rfl | hw
  · have htext : numeral 10 1 0 ++ 46 :: numeral 10 scale m = 48 :: 46 :: numeral 10 scale m := rfl
    rw [htext, List.cons_lt_cons_iff]
    constructor
    · rintro (hlt | ⟨heq, -⟩)
      · exact absurd hlt (by decide)
      · exact absurd heq (by decide)
    · intro hlt
      omega
  · have htext : numeral 10 1 1 ++ 46 :: numeral 10 scale m = 49 :: 46 :: numeral 10 scale m := rfl
    rw [htext, List.cons_lt_cons_iff, List.cons_lt_cons_iff]
    simp only [UInt8.lt_irrefl, false_or, true_and, numeral_zero_lt hmod]
    omega
  · obtain ⟨d, ds, hnumeral, hd, hcases⟩ := numeral_of_two_le hw
    have hlarge : 10 ^ scale < u := by
      have hle : 10 ^ scale * 2 ≤ 10 ^ scale * w := Nat.mul_le_mul_left _ hw
      omega
    refine ⟨fun _ => hlarge, fun _ => ?_⟩
    rw [hnumeral, List.cons_append, List.cons_lt_cons_iff]
    rcases hcases with hd' | ⟨rfl, e, es, rfl, he⟩
    · have hall : ∀ d < 10, 2 ≤ d → 49 < hexDigit d := by decide
      exact .inl (hall d hd hd')
    · have hall : ∀ e < 10, 46 < hexDigit e := by decide
      refine .inr ⟨rfl, ?_⟩
      rw [List.cons_append, List.cons_lt_cons_iff]
      exact .inl (hall e he)

/-! ### Rounding -/

/-- A magnitude as it is printed. -/
def rounded (scale : Nat) (q : ℚ) : ℚ := (units scale q : ℚ) / 10 ^ scale

theorem rounded_nonneg (scale : Nat) (q : ℚ) : 0 ≤ rounded scale q := by
  unfold rounded
  positivity

/-- A magnitude is at most half a unit from what is printed. -/
theorem units_bounds (scale : Nat) (hq : 0 ≤ q) :
    (units scale q : ℚ) - 1 / 2 ≤ q * 10 ^ scale ∧ q * 10 ^ scale < units scale q + 1 / 2 := by
  have hden : (0 : ℚ) < q.den := by exact_mod_cast q.den_pos
  have hscaled : q * 10 ^ scale = ((q.num.natAbs * 10 ^ scale : Nat) : ℚ) / q.den := by
    rw [eq_div_iff hden.ne', Nat.cast_mul, Nat.cast_pow, natAbs_num hq]
    push_cast
    ring
  rw [hscaled, le_div_iff₀ hden, div_lt_iff₀ hden]
  unfold units
  dsimp only
  generalize q.num.natAbs * 10 ^ scale = n
  have hsplit : (n : ℚ) = q.den * (n / q.den : Nat) + (n % q.den : Nat) := by
    exact_mod_cast (Nat.div_add_mod n q.den).symm
  have hlt : ((n % q.den : Nat) : ℚ) < q.den := by exact_mod_cast Nat.mod_lt n q.den_pos
  have hnonneg : (0 : ℚ) ≤ (n % q.den : Nat) := by positivity
  -- The remainder decides between the two multiples.
  split_ifs with hhalf
  · have hhalf' : (q.den : ℚ) ≤ 2 * (n % q.den : Nat) := by exact_mod_cast hhalf
    push_cast
    constructor <;> linarith
  · have hhalf' : 2 * ((n % q.den : Nat) : ℚ) < q.den := by
      exact_mod_cast Nat.lt_of_not_le hhalf
    constructor <;> linarith

/-- The magnitudes that are printed as `u` units. -/
theorem units_eq_iff (scale : Nat) (hq : 0 ≤ q) (u : Nat) : units scale q = u ↔
    (u : ℚ) - 1 / 2 ≤ q * 10 ^ scale ∧ q * 10 ^ scale < u + 1 / 2 := by
  obtain ⟨hlow, hhigh⟩ := units_bounds scale hq
  constructor
  · rintro rfl
    exact ⟨hlow, hhigh⟩
  · rintro ⟨hlow', hhigh'⟩
    have hle : (units scale q : ℚ) < u + 1 := by linarith
    have hge : (u : ℚ) < units scale q + 1 := by linarith
    have hle' : units scale q < u + 1 := by exact_mod_cast hle
    have hge' : u < units scale q + 1 := by exact_mod_cast hge
    omega

theorem units_mono (scale : Nat) (hq : 0 ≤ q) (h : q ≤ r) : units scale q ≤ units scale r := by
  have hlow := (units_bounds scale hq).1
  have hhigh := (units_bounds scale (hq.trans h)).2
  have hscaled : q * 10 ^ scale ≤ r * 10 ^ scale := by gcongr
  have hlt : (units scale q : ℚ) < units scale r + 1 := by linarith
  have hlt' : units scale q < units scale r + 1 := by exact_mod_cast hlt
  omega

theorem rounded_mono (scale : Nat) (hq : 0 ≤ q) (h : q ≤ r) :
    rounded scale q ≤ rounded scale r := by
  have hunits : (units scale q : ℚ) ≤ units scale r := by exact_mod_cast units_mono scale hq h
  unfold rounded
  gcongr

/-- Whole units do not take part in rounding. -/
theorem rounded_add (scale u : Nat) (hq : 0 ≤ q) :
    rounded scale ((u : ℚ) / 10 ^ scale + q) = (u : ℚ) / 10 ^ scale + rounded scale q := by
  obtain ⟨hlow, hhigh⟩ := units_bounds scale hq
  have hscaled : ((u : ℚ) / 10 ^ scale + q) * 10 ^ scale = u + q * 10 ^ scale := by field_simp
  have hunits : units scale ((u : ℚ) / 10 ^ scale + q) = u + units scale q := by
    rw [units_eq_iff scale (by positivity), hscaled]
    push_cast
    constructor <;> linarith
  unfold rounded
  rw [hunits]
  push_cast
  ring

theorem rounded_close (scale : Nat) (hq : 0 ≤ q) : |rounded scale q - q| ≤ 1 / 2 / 10 ^ scale := by
  obtain ⟨hlow, hhigh⟩ := units_bounds scale hq
  have hpow : (0 : ℚ) < 10 ^ scale := by positivity
  unfold rounded
  rw [abs_le, neg_le_sub_iff_le_add, sub_le_iff_le_add, ← add_div, div_le_iff₀ hpow]
  constructor
  · rw [le_div_iff₀ hpow]
    linarith
  · have hsum : (1 / 2 / 10 ^ scale + q) * 10 ^ scale = 1 / 2 + q * 10 ^ scale := by field_simp
    rw [hsum]
    linarith

/-- Magnitudes less than a unit apart are printed at most a unit apart. -/
theorem rounded_near (scale : Nat) (hq : 0 ≤ q) (hr : 0 ≤ r) (h : |q - r| * 10 ^ scale < 1) :
    |rounded scale q - rounded scale r| ≤ 1 / 10 ^ scale := by
  have hpow : (0 : ℚ) < 10 ^ scale := by positivity
  obtain ⟨hlow, hhigh⟩ := units_bounds scale hq
  obtain ⟨hlow', hhigh'⟩ := units_bounds scale hr
  have hapart : |(q - r) * 10 ^ scale| < 1 := by rwa [abs_mul, abs_of_pos hpow]
  rw [sub_mul, abs_lt] at hapart
  have hle : (units scale q : ℚ) < units scale r + 2 := by linarith
  have hge : (units scale r : ℚ) < units scale q + 2 := by linarith
  have hle' : units scale q < units scale r + 2 := by exact_mod_cast hle
  have hge' : units scale r < units scale q + 2 := by exact_mod_cast hge
  have hunits : |(units scale q : ℚ) - units scale r| ≤ 1 := by
    rw [abs_le]
    constructor
    · have hcast : (units scale r : ℚ) ≤ units scale q + 1 := by exact_mod_cast Nat.lt_succ_iff.mp hge'
      linarith
    · have hcast : (units scale q : ℚ) ≤ units scale r + 1 := by exact_mod_cast Nat.lt_succ_iff.mp hle'
      linarith
  unfold rounded
  rw [← sub_div, abs_div, abs_of_pos hpow]
  gcongr

/-- Two magnitudes are printed alike when they are as many units. -/
theorem floatString_eq_iff (hscale : 0 < scale) (hq : 0 ≤ q) (hr : 0 ≤ r) :
    floatString scale q = floatString scale r ↔ units scale q = units scale r := by
  rw [floatString, floatString, if_neg (not_lt.mpr hq), if_neg (not_lt.mpr hr)]
  exact ⟨fixed_inj hscale, fun h => by rw [h]⟩

end Decimal
