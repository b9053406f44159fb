import Mathlib.Data.List.Basic
import DomainMonitor.Lib.Numeral
import DomainMonitor.Lib.Strings

/-! # RFC 3339 timestamps

    The text of an instant in UTC, as Go's layouts `time.RFC3339` and
    `time.RFC3339Nano` print it: proleptic Gregorian date, `T`, clock, for the
    second layout the fraction without trailing zeros, `Z`. Distinct instants have
    distinct texts.
-/

namespace Rfc3339

open Encoding Numeral

/-! ### Dates -/

variable (t days : Int) (leap : Bool)

/-- Year and day of the year (from 0) of a day counted from 0001-01-01. -/
def yearDay : Int × Int :=
  let cycle := days / 146097
  let d := days % 146097
  let century := min 3 (d / 36524)
  let d := d - 36524 * century
  let olympiad := d / 1461
  let d := d % 1461
  let year := min 3 (d / 365)
  (400 * cycle + 100 * century + 4 * olympiad + year + 1, d - 365 * year)

def isLeap (year : Int) : Bool := year % 4 = 0 && (year % 100 ≠ 0 || year % 400 = 0)

def monthLengths : List Nat :=
  [31, if leap then 29 else 28, 31, 30, 31, 30, 31, 31, 30, 31, 30, 31]

/-- Walks the months from `month` on; months and days count from 1. -/
def walkMonths (month : Nat) : List Nat → Nat → Nat × Nat
  | [], d => (month, d + 1)
  | length :: lengths, d => if d < length then (month, d + 1) else walkMonths (month + 1) lengths (d - length)

def monthDay (day : Nat) : Nat × Nat := walkMonths 1 (monthLengths leap) day

/-- Month and day of a day counted from 0001-01-01. -/
def monthDayOf : Nat × Nat :=
  monthDay (isLeap (yearDay days).1) (yearDay days).2.toNat

/-- The day of the year of a month and a day. -/
def dayOfYear (date : Nat × Nat) : Nat :=
  ((monthLengths leap).take (date.1 - 1)).sum + (date.2 - 1)

/-! ### Texts -/

/-- The days from 0001-01-01 to 1970-01-01. -/
def unixEpoch : Int := 719162

def yearText (year : Int) : List UInt8 :=
  if year < 0 then 45 :: numeral 10 4 year.natAbs else numeral 10 4 year.natAbs

def dateText : List UInt8 :=
  yearText (yearDay days).1 ++
    (45 :: numeral 10 2 (monthDayOf days).1 ++ (45 :: numeral 10 2 (monthDayOf days).2))

/-- Hours, minutes and seconds of a second of the day. -/
def clockText (s : Nat) : List UInt8 :=
  numeral 10 2 (s / 3600) ++ (58 :: numeral 10 2 (s / 60 % 60) ++ (58 :: numeral 10 2 (s % 60)))

/-- The nine digits of the nanoseconds without trailing zeros, least significant
    first. -/
def fractionDigits (nanos : Nat) : List Nat := (padded 10 9 nanos).dropWhile (· = 0)

def fractionText (nanos : Nat) : List UInt8 :=
  if nanos = 0 then [] else 46 :: (fractionDigits nanos).reverse.map hexDigit

/-- The second `t` of the Unix clock with a fraction. -/
def stamp (fraction : List UInt8) : List UInt8 :=
  dateText (t / 86400 + unixEpoch) ++ 84 :: (clockText (t % 86400).toNat ++ (fraction ++ [90]))

/-- `time.RFC3339`, of an instant in seconds. -/
def format : List UInt8 := stamp t []

/-- `time.RFC3339Nano`, of an instant in nanoseconds. -/
def formatNano : List UInt8 :=
  stamp (t / 1000000000) (fractionText (t % 1000000000).toNat)

example : format 1700000000 = "2023-11-14T22:13:20Z".toList.map (fun c => c.val.toUInt8) := by
  decide +kernel

example : formatNano 1500000 = "1970-01-01T00:00:00.0015Z".toList.map (fun c => c.val.toUInt8) := by
  decide +kernel

/-! ### Dates determine days -/

/-- The parts of a year, and the day they add up to. -/
theorem yearDay_parts (a : Int) : ∃ cycle century olympiad year rest : Int,
    yearDay a = (400 * cycle + 100 * century + 4 * olympiad + year + 1, rest) ∧
    (0 ≤ century ∧ century ≤ 3) ∧ (0 ≤ olympiad ∧ olympiad ≤ 24) ∧ (0 ≤ year ∧ year ≤ 3) ∧
    a = 146097 * cycle + 36524 * century + 1461 * olympiad + 365 * year + rest ∧
    -- The last olympiad of a century is short, except in the last century of a cycle.
    (rest = 365 → year = 3 ∧ (olympiad = 24 → century = 3)) := by
  refine ⟨_, _, _, _, _, rfl, ?_, ?_, ?_, ?_, ?_⟩ <;> omega

variable {a b t u : Int} {n s : Nat} {c : UInt8}

theorem yearDay_inj (h : yearDay a = yearDay b) : a = b := by
  obtain ⟨cycle, century, olympiad, year, rest, ha, hcentury, holympiad, hyear, hsum, -⟩ :=
    yearDay_parts a
  obtain ⟨cycle', century', olympiad', year', rest', hb, hcentury', holympiad', hyear', hsum', -⟩ :=
    yearDay_parts b
  rw [ha, hb, Prod.mk.injEq] at h
  -- The year determines its parts.
  have hparts : cycle = cycle' ∧ century = century' ∧ olympiad = olympiad' ∧ year = year' := by omega
  omega

theorem yearDay_bounds (a : Int) : 0 ≤ (yearDay a).2 ∧ (yearDay a).2 < 366 := by
  simp only [yearDay]
  omega

theorem dayOfYear_monthDay {day : Nat} (h : day < 366) :
    dayOfYear leap (monthDay leap day) = day := by
  have hall : ∀ leap, ∀ day < 366, dayOfYear leap (monthDay leap day) = day := by decide +kernel
  exact hall leap day h

theorem monthDayOf_bounds : (monthDayOf days).1 < 100 ∧ (monthDayOf days).2 < 100 := by
  have hall : ∀ leap, ∀ day < 366, (monthDay leap day).1 < 100 ∧ (monthDay leap day).2 < 100 := by
    decide +kernel
  have hday := yearDay_bounds days
  exact hall _ _ (by omega)

/-- Year, month and day determine the day. -/
theorem monthDayOf_inj (hyear : (yearDay a).1 = (yearDay b).1) (h : monthDayOf a = monthDayOf b) :
    a = b := by
  have ha := yearDay_bounds a
  have hb := yearDay_bounds b
  have hday := congrArg (dayOfYear (isLeap (yearDay a).1)) h
  rw [monthDayOf, monthDayOf, dayOfYear_monthDay _ (by omega), hyear,
    dayOfYear_monthDay _ (by omega)] at hday
  exact yearDay_inj (Prod.ext hyear (by omega))

theorem yearText_inj (h : yearText a = yearText b) : a = b := by
  -- A digit is not the minus sign.
  have hsign : ∀ (n m : Nat), 45 :: numeral 10 4 n ≠ numeral 10 4 m := by
    intro n m heq
    obtain ⟨d, hd, hc⟩ := mem_numeral (by decide) (heq ▸ List.mem_cons_self .. : 45 ∈ numeral 10 4 m)
    have hall : ∀ d < 10, hexDigit d ≠ 45 := by decide
    exact hall d hd hc.symm
  unfold yearText at h
  split at h <;> split at h
  · have := numeral_inj (by decide) (by decide) (List.cons.inj h).2
    omega
  · exact absurd h (hsign _ _)
  · exact absurd h.symm (hsign _ _)
  · have := numeral_inj (by decide) (by decide) h
    omega

theorem length_numeral2 (h : n < 100) : (numeral 10 2 n).length = 2 :=
  length_numeral (by decide) h

theorem dateText_inj (h : dateText a = dateText b) : a = b := by
  obtain ⟨hma, hda⟩ := monthDayOf_bounds a
  obtain ⟨hmb, hdb⟩ := monthDayOf_bounds b
  unfold dateText at h
  -- Month and day have two digits each.
  obtain ⟨hyear, h⟩ := List.append_inj' h (by
    simp only [List.length_append, List.length_cons, length_numeral2 hma, length_numeral2 hda,
      length_numeral2 hmb, length_numeral2 hdb])
  obtain ⟨hmonth, hday⟩ := List.append_inj h (by
    simp only [List.length_cons, length_numeral2 hma, length_numeral2 hmb])
  apply monthDayOf_inj (yearText_inj hyear)
  apply Prod.ext
  · exact numeral_inj (by decide) (by decide) (List.cons.inj hmonth).2
  · exact numeral_inj (by decide) (by decide) (List.cons.inj hday).2

theorem length_clockText (h : s < 86400) : (clockText s).length = 8 := by
  simp only [clockText, List.length_append, List.length_cons,
    length_numeral2 (show s / 3600 < 100 by omega), length_numeral2 (show s / 60 % 60 < 100 by omega),
    length_numeral2 (show s % 60 < 100 by omega)]

theorem clockText_inj {r : Nat} (hs : s < 86400) (hr : r < 86400) (h : clockText s = clockText r) :
    s = r := by
  unfold clockText at h
  obtain ⟨hh, h⟩ := List.append_inj h (by
    rw [length_numeral2 (by omega), length_numeral2 (by omega)])
  obtain ⟨hm, h⟩ := List.append_inj h (by
    rw [List.length_cons, List.length_cons, length_numeral2 (by omega), length_numeral2 (by omega)])
  have hh := numeral_inj (by decide) (by decide) hh
  have hm := numeral_inj (by decide) (by decide) (List.cons.inj hm).2
  have hs := numeral_inj (by decide) (by decide) (List.cons.inj h).2
  omega

/-! ### Fractions -/

/-- The digits are the kept ones after as many zeros as were dropped. -/
theorem padded_eq_fractionDigits (h : n < 1000000000) :
    padded 10 9 n = List.replicate (9 - (fractionDigits n).length) 0 ++ fractionDigits n := by
  have hlength : (padded 10 9 n).length = 9 := by
    have hnumeral : (numeral 10 9 n).length = 9 := length_numeral (by decide) h
    simpa [numeral] using hnumeral
  have hsplit : (padded 10 9 n).takeWhile (fun d => decide (d = 0)) ++ fractionDigits n =
      padded 10 9 n := List.takeWhile_append_dropWhile
  have hsum := congrArg List.length hsplit
  rw [List.length_append, hlength] at hsum
  have hzeros : (padded 10 9 n).takeWhile (fun d => decide (d = 0)) =
      List.replicate (9 - (fractionDigits n).length) 0 := by
    rw [List.eq_replicate_iff]
    refine ⟨by omega, fun d hd => ?_⟩
    have hall := List.all_takeWhile (p := fun d : Nat => decide (d = 0)) (l := padded 10 9 n)
    simpa using List.all_eq_true.mp hall d hd
  rw [← hzeros]
  exact hsplit.symm

theorem fractionDigits_lt {d : Nat} (h : d ∈ fractionDigits n) : d < 16 :=
  lt_trans (lt_of_mem_padded (by decide) ((List.dropWhile_sublist _).subset h)) (by decide)

theorem fractionText_inj {m : Nat} (hn : n < 1000000000) (hm : m < 1000000000)
    (h : fractionText n = fractionText m) : n = m := by
  unfold fractionText at h
  split at h <;> split at h
  · omega
  · cases h
  · cases h
  · have hdigits := congrArg (List.map digitValue) (List.cons.inj h).2
    have hvalue : ∀ k, ((fractionDigits k).reverse.map hexDigit).map digitValue =
        (fractionDigits k).reverse := by
      intro k
      rw [List.map_map]
      refine (List.map_congr_left ?_).trans (List.map_id _)
      intro d hd
      exact digitValue_hexDigit (fractionDigits_lt (List.mem_reverse.mp hd))
    rw [hvalue, hvalue] at hdigits
    have hpadded : padded 10 9 n = padded 10 9 m := by
      rw [padded_eq_fractionDigits hn, padded_eq_fractionDigits hm,
        List.reverse_injective hdigits]
    calc n = Nat.ofDigits 10 (padded 10 9 n) := ofDigits_padded.symm
      _ = Nat.ofDigits 10 (padded 10 9 m) := by rw [hpadded]
      _ = m := ofDigits_padded

/-! ### Timestamps determine instants -/

/-- The bytes of a date: digits and the minus sign. -/
theorem mem_dateText {days : Int} (h : c ∈ dateText days) : c = 45 ∨ ∃ d < 10, c = hexDigit d := by
  have hdigit : ∀ {w n : Nat}, c ∈ numeral 10 w n → c = 45 ∨ ∃ d < 10, c = hexDigit d :=
    fun hc => .inr (mem_numeral (by decide) hc)
  simp only [dateText, List.mem_append, List.mem_cons] at h
  rcases h with h | (h | h) | h | h
  · unfold yearText at h
    split at h
    · rcases List.mem_cons.mp h with h | h
      · exact .inl h
      · exact hdigit h
    · exact hdigit h
  · exact .inl h
  · exact hdigit h
  · exact .inl h
  · exact hdigit h

/-- A date has no letters. -/
theorem notMem_dateText (hc : 58 < c.toNat) (days : Int) : c ∉ dateText days := by
  have hdigit : ∀ d < 10, ¬ 58 < (hexDigit d).toNat := by decide
  intro h
  rcases mem_dateText h with rfl | ⟨d, hd, rfl⟩
  · exact absurd hc (by decide)
  · exact hdigit d hd hc

theorem stamp_inj {x y : List UInt8} (h : stamp t x = stamp u y) : t = u ∧ x = y := by
  obtain ⟨hdate, h⟩ := Strings.append_sep_inj (notMem_dateText (by decide) _)
    (notMem_dateText (by decide) _) h
  have ht : (t % 86400).toNat < 86400 := by omega
  have hu : (u % 86400).toNat < 86400 := by omega
  obtain ⟨hclock, h⟩ := List.append_inj h (by rw [length_clockText ht, length_clockText hu])
  have hdays := dateText_inj hdate
  have hseconds := clockText_inj ht hu hclock
  exact ⟨by omega, List.append_cancel_right h⟩

/-- The bytes of a clock: digits and colons. -/
theorem mem_clockText (h : c ∈ clockText s) : c = 58 ∨ ∃ d < 10, c = hexDigit d := by
  have hdigit : ∀ {w n : Nat}, c ∈ numeral 10 w n → c = 58 ∨ ∃ d < 10, c = hexDigit d :=
    fun hc => .inr (mem_numeral (by decide) hc)
  simp only [clockText, List.mem_append, List.mem_cons] at h
  rcases h with h | (h | h) | h | h
  · exact hdigit h
  · exact .inl h
  · exact hdigit h
  · exact .inl h
  · exact hdigit h

/-- The `Z` stands at the end of a timestamp and nowhere else. -/
theorem format_eq (t : Int) : ∃ body, format t = body ++ [90] ∧ 90 ∉ body := by
  refine ⟨dateText (t / 86400 + unixEpoch) ++ 84 :: clockText (t % 86400).toNat, ?_, ?_⟩
  · simp [format, stamp]
  · have hdigit : ∀ d < 10, hexDigit d ≠ 90 := by decide
    intro hmem
    rw [List.mem_append, List.mem_cons] at hmem
    rcases hmem with h | h | h
    · exact notMem_dateText (by decide) _ h
    · cases h
    · rcases mem_clockText h with h | ⟨d, hd, h⟩
      · cases h
      · exact hdigit d hd h.symm

/-- The bytes of a timestamp: digits and the punctuation of the layout. -/
theorem mem_formatNano (h : c ∈ formatNano t) :
    c ∈ [45, 46, 58, 84, 90] ∨ ∃ d < 16, c = hexDigit d := by
  have hwide : (∃ d < 10, c = hexDigit d) → ∃ d < 16, c = hexDigit d :=
    fun ⟨d, hd, hc⟩ => ⟨d, by omega, hc⟩
  simp only [formatNano, stamp, List.mem_append, List.mem_cons, List.not_mem_nil, or_false] at h
  rcases h with h | h | h | h | h
  · rcases mem_dateText h with rfl | hd
    · exact .inl (by decide)
    · exact .inr (hwide hd)
  · exact .inl (by rw [h]; decide)
  · rcases mem_clockText h with rfl | hd
    · exact .inl (by decide)
    · exact .inr (hwide hd)
  · unfold fractionText at h
    split at h
    · cases h
    · rcases List.mem_cons.mp h with rfl | h
      · exact .inl (by decide)
      · obtain ⟨d, hd, rfl⟩ := List.mem_map.mp h
        exact .inr ⟨d, fractionDigits_lt (List.mem_reverse.mp hd), rfl⟩
  · exact .inl (by rw [h]; decide)

/-- A timestamp can be cut off the text it stands in front of. -/
theorem format_append_inj {x y : List UInt8} (h : format t ++ x = format u ++ y) :
    t = u ∧ x = y := by
  obtain ⟨a, ha, hna⟩ := format_eq t
  obtain ⟨b, hb, hnb⟩ := format_eq u
  rw [ha, hb, List.append_assoc, List.append_assoc] at h
  obtain ⟨hbody, hrest⟩ := Strings.append_sep_inj hna hnb h
  exact ⟨(stamp_inj (ha.trans (hbody ▸ hb.symm))).1, hrest⟩

theorem formatNano_inj (h : formatNano t = formatNano u) : t = u := by
  obtain ⟨hseconds, hfraction⟩ := stamp_inj h
  have hnanos := fractionText_inj (by omega) (by omega) hfraction
  omega

end Rfc3339
