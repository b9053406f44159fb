import DomainMonitor.Lib.Decimal
import DomainMonitor.Lib.Rfc3339

/-! # Reading dates

    Go's `time.Parse` for the layouts `2006-01-02` and `time.RFC3339`, and the text
    of a PostgreSQL `date`. Days count from 0001-01-01, as in `Rfc3339.dateText`.

    A date between the years 0 and 9999 is read back from its text
    (`date?_dateText`); the column prints the same text from year 1 on.
-/

namespace TimeParse

open Encoding Numeral Decimal Rfc3339

/-! ### The parts of a layout -/

/-- Two digits. -/
def twoDigits : List UInt8 → Option (Nat × List UInt8)
  | a :: b :: s => if isDigit a && isDigit b then some (digitsValue [a, b], s) else none
  | _ => none

/-- One digit or two. -/
def upToTwoDigits : List UInt8 → Option (Nat × List UInt8)
  | a :: b :: s =>
    if isDigit a then
      if isDigit b then some (digitsValue [a, b], s) else some (digitsValue [a], b :: s)
    else none
  | [a] => if isDigit a then some (digitsValue [a], []) else none
  | [] => none

/-- `2006`. -/
def year? : List UInt8 → Option (Nat × List UInt8)
  | a :: b :: c :: d :: s =>
    if [a, b, c, d].all isDigit then some (digitsValue [a, b, c, d], s) else none
  | _ => none

/-- A character of the layout that stands for itself. -/
def literal (c : UInt8) : List UInt8 → Option (List UInt8)
  | b :: s => if b = c then some s else none
  | [] => none

variable (s : List UInt8) (year days : Int)

/-- The day number of 1 January. -/
def yearStart : Int :=
  365 * (year - 1) + (year - 1) / 4 - (year - 1) / 100 + (year - 1) / 400

def daysIn (month : Nat) : Nat := (monthLengths (isLeap year)).getD (month - 1) 0

/-- The day number of a date; `none` when there is no such date. -/
def dayNumber? (month day : Nat) : Option Int :=
  if 1 ≤ month ∧ month ≤ 12 ∧ 1 ≤ day ∧ day ≤ daysIn year month then
    some (yearStart year + dayOfYear (isLeap year) (month, day))
  else none

/-- `2006-01-02` at the start of a text. -/
def datePart : Option (Int × List UInt8) := do
  let (year, s) ← year? s
  let s ← literal 45 s
  let (month, s) ← twoDigits s
  let s ← literal 45 s
  let (day, s) ← twoDigits s
  let days ← dayNumber? year month day
  some (days, s)

/-- `time.Parse("2006-01-02", s)`. -/
def date? : Option Int :=
  match datePart s with
  | some (days, []) => some days
  | _ => none

/-- `15:04:05`, in seconds. -/
def clockPart : Option (Int × List UInt8) := do
  let (hour, s) ← upToTwoDigits s
  let s ← literal 58 s
  let (minute, s) ← twoDigits s
  let s ← literal 58 s
  let (second, s) ← twoDigits s
  if hour < 24 ∧ minute < 60 ∧ second < 60 then some (hour * 3600 + minute * 60 + second, s) else none

/-- A fraction that the layout does not have is skipped. -/
def skipFraction : List UInt8 → List UInt8
  | b :: c :: s => if (b = 46 || b = 44) && isDigit c then s.dropWhile isDigit else b :: c :: s
  | s => s

/-- `Z07:00`, in seconds east of UTC. -/
def zonePart : List UInt8 → Option (Int × List UInt8)
  | 90 :: s => some (0, s)
  | sign :: s => do
    let (hours, s) ← twoDigits s
    let s ← literal 58 s
    let (minutes, s) ← twoDigits s
    if hours ≤ 24 ∧ minutes ≤ 60 then
      if sign = 43 then some ((hours * 60 + minutes) * 60, s)
      else if sign = 45 then some (-((hours * 60 + minutes) * 60), s)
      else none
    else none
  | [] => none

/-- `time.Parse(time.RFC3339, s)`: the day the instant falls on in UTC. -/
def timestampDate? : Option Int := do
  let (days, s) ← datePart s
  let s ← literal 84 s
  let (seconds, s) ← clockPart s
  let (offset, s) ← zonePart (skipFraction s)
  if s.isEmpty then some ((days * 86400 + seconds - offset) / 86400) else none

example : timestampDate? ("2024-03-01T00:30:00.25+07:00".toList.map Strings.byte) =
    date? ("2024-02-29".toList.map Strings.byte) := by decide +kernel

/-! ### Columns -/

/-- `date::text`: years before 1 are counted backwards. -/
def columnText : List UInt8 :=
  if 1 ≤ (yearDay days).1 then dateText days
  else
    numeral 10 4 (1 - (yearDay days).1).toNat ++
      (45 :: numeral 10 2 (monthDayOf days).1 ++ (45 :: numeral 10 2 (monthDayOf days).2)) ++
      [32, 66, 67]

/-! ### Reading back -/

theorem yearStart_add_yearDay : yearStart (yearDay days).1 + (yearDay days).2 = days := by
  obtain ⟨cycle, century, olympiad, year, rest, hparts, hcentury, holympiad, hyear, hsum, -⟩ :=
    yearDay_parts days
  simp only [yearStart, hparts]
  have hfour : (400 * cycle + 100 * century + 4 * olympiad + year + 1 - 1) / 4 =
      100 * cycle + 25 * century + olympiad := by omega
  have hhundred : (400 * cycle + 100 * century + 4 * olympiad + year + 1 - 1) / 100 =
      4 * cycle + century := by omega
  have hall : (400 * cycle + 100 * century + 4 * olympiad + year + 1 - 1) / 400 = cycle := by omega
  rw [hfour, hhundred, hall]
  omega

/-- Only a leap year has a 366th day. -/
theorem isLeap_of_yearDay {days : Int} (h : (yearDay days).2 = 365) :
    isLeap (yearDay days).1 = true := by
  obtain ⟨cycle, century, olympiad, year, rest, hparts, hcentury, holympiad, hyear, -, hlast⟩ :=
    yearDay_parts days
  rw [hparts] at h ⊢
  obtain ⟨rfl, hshort⟩ := hlast h
  simp only [isLeap, ne_eq, Bool.and_eq_true, Bool.or_eq_true, decide_eq_true_eq]
  omega

theorem monthDayOf_valid :
    1 ≤ (monthDayOf days).1 ∧ (monthDayOf days).1 ≤ 12 ∧ 1 ≤ (monthDayOf days).2 ∧
      (monthDayOf days).2 ≤ daysIn (yearDay days).1 (monthDayOf days).1 := by
  have hall : ∀ leap, ∀ day < 366, (day = 365 → leap = true) →
      1 ≤ (monthDay leap day).1 ∧ (monthDay leap day).1 ≤ 12 ∧ 1 ≤ (monthDay leap day).2 ∧
      (monthDay leap day).2 ≤ (monthLengths leap).getD ((monthDay leap day).1 - 1) 0 := by
    decide +kernel
  have hday := yearDay_bounds days
  refine hall _ _ (by omega) ?_
  intro hlast
  exact isLeap_of_yearDay (by omega)

theorem dayNumber?_monthDayOf :
    dayNumber? (yearDay days).1 (monthDayOf days).1 (monthDayOf days).2 = some days := by
  have hday := yearDay_bounds days
  rw [dayNumber?, if_pos (monthDayOf_valid days)]
  have hnumber : dayOfYear (isLeap (yearDay days).1) (monthDayOf days) = (yearDay days).2.toNat :=
    dayOfYear_monthDay _ (by omega)
  rw [Prod.mk.eta, hnumber, Int.toNat_of_nonneg hday.1, yearStart_add_yearDay]

theorem digitsValue_numeral (width n : Nat) : digitsValue (numeral 10 width n) = n := by
  rw [digitsValue, map_digitValue (by decide) (by decide), List.reverse_reverse, ofDigits_padded]

theorem isDigit_of_mem {width n : Nat} {c : UInt8} (h : c ∈ numeral 10 width n) :
    isDigit c = true := by
  obtain ⟨d, hd, rfl⟩ := mem_numeral (by decide) h
  exact isDigit_hexDigit hd

theorem year?_numeral {y : Nat} (h : y < 10000) (rest : List UInt8) :
    year? (numeral 10 4 y ++ rest) = some (y, rest) := by
  have hlength : (numeral 10 4 y).length = 4 := length_numeral (by decide) h
  have hvalue := digitsValue_numeral 4 y
  have hdigits : ∀ c ∈ numeral 10 4 y, isDigit c = true := fun c hc => isDigit_of_mem hc
  obtain ⟨a, b, c, d, habcd⟩ : ∃ a b c d, numeral 10 4 y = [a, b, c, d] := by
    match numeral 10 4 y, hlength with
    | [a, b, c, d], _ => exact ⟨a, b, c, d, rfl⟩
  rw [habcd] at hvalue hdigits ⊢
  show (if [a, b, c, d].all isDigit then some (digitsValue [a, b, c, d], rest) else none) = _
  rw [if_pos (List.all_eq_true.mpr hdigits), hvalue]

theorem twoDigits_numeral {n : Nat} (h : n < 100) (rest : List UInt8) :
    twoDigits (numeral 10 2 n ++ rest) = some (n, rest) := by
  have hvalue := digitsValue_numeral 2 n
  have hdigits : ∀ c ∈ numeral 10 2 n, isDigit c = true := fun c hc => isDigit_of_mem hc
  obtain ⟨a, b, hab⟩ := List.length_eq_two.mp (length_numeral2 h)
  rw [hab] at hvalue hdigits ⊢
  simp only [twoDigits, List.cons_append, List.nil_append, hdigits a (by simp), hdigits b (by simp),
    Bool.and_self, if_true, hvalue]

/-- **Reading back**: a date of the years 0 to 9999. -/
theorem date?_dateText {days : Int} (h : 0 ≤ (yearDay days).1) (h' : (yearDay days).1 ≤ 9999) :
    date? (dateText days) = some days := by
  obtain ⟨hmonth, hday⟩ := monthDayOf_bounds days
  have hyear : ((yearDay days).1.natAbs : Int) = (yearDay days).1 := Int.natAbs_of_nonneg h
  have hpart : datePart (dateText days) = some (days, []) := by
    rw [dateText, yearText, if_neg (by omega), datePart, year?_numeral (by omega)]
    simp only [Option.bind_eq_bind, Option.bind_some, literal, List.cons_append, if_true,
      twoDigits_numeral hmonth]
    rw [← List.append_nil (numeral 10 2 (monthDayOf days).2), twoDigits_numeral hday,
      Option.bind_some, hyear, dayNumber?_monthDayOf, Option.bind_some]
  rw [date?, hpart]

theorem exists_cons_of_five_le {α : Type*} {l : List α} (h : 5 ≤ l.length) :
    ∃ a b c d e t, l = a :: b :: c :: d :: e :: t := by
  rcases l with _ | ⟨a, _ | ⟨b, _ | ⟨c, _ | ⟨d, _ | ⟨e, t⟩⟩⟩⟩⟩
  case cons.cons.cons.cons.cons => exact ⟨a, b, c, d, e, t, rfl⟩
  all_goals
    simp only [List.length_cons, List.length_nil] at h
    omega

/-- A year with more than four digits, or with a sign, is not read at all. -/
theorem eq_of_date?_dateText {days days' : Int} (h : date? (dateText days) = some days') :
    days' = days := by
  by_cases hrange : 0 ≤ (yearDay days).1 ∧ (yearDay days).1 ≤ 9999
  · rw [date?_dateText hrange.1 hrange.2] at h
    exact (Option.some.inj h).symm
  · exfalso
    have hnone : datePart (dateText days) = none := by
      rw [dateText, yearText, datePart]
      split
      · -- The text starts with a minus sign.
        have hyear : ∀ s, year? (45 :: s) = none := by
          intro s
          unfold year?
          split
          · rename_i heq
            rw [← (List.cons.inj heq).1]
            simp [isDigit]
          · rfl
        rw [List.cons_append, hyear]
        rfl
      · -- A fifth digit stands where the dash is expected.
        have hbig : 10 ^ 4 ≤ (yearDay days).1.natAbs := by omega
        have hlong : 5 ≤ (numeral 10 4 (yearDay days).1.natAbs).length := by
          have hdigits : 4 < (Nat.digits 10 (yearDay days).1.natAbs).length := by
            rw [Nat.lt_digits_length_iff (by decide)]
            exact hbig
          simp only [numeral, padded, List.length_map, List.length_reverse, List.length_append]
          omega
        have hdigit : ∀ c ∈ numeral 10 4 (yearDay days).1.natAbs, isDigit c = true :=
          fun c hc => isDigit_of_mem hc
        obtain ⟨a, b, c, d, e, t, hnumeral⟩ := exists_cons_of_five_le hlong
        rw [hnumeral] at hdigit ⊢
        have he : e ≠ 45 := by
          intro heq
          have := hdigit e (by simp)
          rw [heq] at this
          cases this
        have hdash : ∀ s, literal 45 (e :: s) = none := fun s => if_neg he
        simp only [List.cons_append, year?]
        split
        · simp only [Option.bind_eq_bind, Option.bind_some, hdash, Option.bind_none]
        · rfl
    rw [date?, hnone] at h
    cases h

/-- The column prints the layout's text from year 1 on, and another text before. -/
theorem columnText_eq_iff : columnText days = dateText days ↔ 1 ≤ (yearDay days).1 := by
  constructor
  · intro h
    by_contra hyear
    rw [columnText, if_neg hyear] at h
    -- Only the column's text has a letter.
    have hmem : (67 : UInt8) ∈ dateText days := by
      rw [← h]
      simp
    exact notMem_dateText (by decide) days hmem
  · intro h
    rw [columnText, if_pos h]

theorem solid_dateText : Strings.Solid (dateText days) := by
  intro c hc
  rcases mem_dateText hc with rfl | ⟨d, hd, rfl⟩
  · decide
  · exact Decimal.solid_hexDigit hd

theorem ascii_columnText : ∀ c ∈ columnText days, c.toNat < 128 := by
  have hnumeral : ∀ width n, ∀ c ∈ numeral 10 width n, c.toNat < 128 :=
    fun width n => (Decimal.solid_numeral width n).ascii
  intro c hc
  unfold columnText at hc
  split at hc
  · exact (solid_dateText days).ascii c hc
  · simp only [List.append_assoc, List.mem_append, List.mem_cons, List.not_mem_nil, or_false] at hc
    rcases hc with hc | (rfl | hc) | (rfl | hc) | rfl | rfl | rfl
    · exact hnumeral _ _ c hc
    · decide
    · exact hnumeral _ _ c hc
    · decide
    · exact hnumeral _ _ c hc
    · decide
    · decide
    · decide

/-- The two texts differ even without the blanks around them. -/
theorem trimSpace_columnText_eq_iff :
    Utf8.trimSpace (columnText days) = Utf8.trimSpace (dateText days) ↔ 1 ≤ (yearDay days).1 := by
  constructor
  · intro h
    by_contra hyear
    have hletter : (67 : UInt8) ∈ columnText days := by
      rw [columnText, if_neg hyear]
      simp
    have hmem := Strings.mem_trimSpace (ascii_columnText days) hletter (by decide)
    rw [h, Strings.trimSpace_of_solid (solid_dateText days)] at hmem
    exact notMem_dateText (by decide) days hmem
  · intro h
    rw [(columnText_eq_iff days).mpr h]

end TimeParse
