import Mathlib.Data.Nat.Digits.Lemmas
import DomainMonitor.Lib.Encoding

/-! # Numerals

    The digits of a number as text, most significant first and padded with zeros to
    a width. A wider numeral of the same number only has more leading zeros, so
    the text determines the number whatever the width.
-/

namespace Numeral

open Encoding

/-- The digits, least significant first, at least `width` of them. -/
def padded (b width n : Nat) : List Nat :=
  Nat.digits b n ++ List.replicate (width - (Nat.digits b n).length) 0

/-- The numeral of `n` to the base `b`, for `b` up to 16. -/
def numeral (b width n : Nat) : List UInt8 := (padded b width n).reverse.map hexDigit

/-- The value of a digit. -/
def digitValue (c : UInt8) : Nat := (hexValue? c).getD 0

theorem digitValue_hexDigit {d : Nat} (h : d < 16) : digitValue (hexDigit d) = d := by
  have hall : ∀ d < 16, digitValue (hexDigit d) = d := by decide
  exact hall d h

section

variable {b width n : Nat}

theorem lt_of_mem_padded (hb : 1 < b) {d : Nat} (h : d ∈ padded b width n) : d < b := by
  rcases List.mem_append.mp h with h | h
  · exact Nat.digits_lt_base hb h
  · rw [(List.mem_replicate.mp h).2]
    omega

theorem ofDigits_padded : Nat.ofDigits b (padded b width n) = n := by
  rw [padded, Nat.ofDigits_append_replicate_zero, Nat.ofDigits_digits]

theorem map_digitValue (hb : 1 < b) (hb' : b ≤ 16) :
    (numeral b width n).map digitValue = (padded b width n).reverse := by
  rw [numeral, List.map_map]
  refine (List.map_congr_left ?_).trans (List.map_id _)
  intro d hd
  have hlt := lt_of_mem_padded hb (List.mem_reverse.mp hd)
  exact digitValue_hexDigit (by omega)

/-- The text determines the number. -/
theorem numeral_inj {width' m : Nat} (hb : 1 < b) (hb' : b ≤ 16)
    (h : numeral b width n = numeral b width' m) : n = m := by
  have hreverse : (padded b width n).reverse = (padded b width' m).reverse := by
    rw [← map_digitValue hb hb', h, map_digitValue hb hb']
  have hpadded : padded b width n = padded b width' m := List.reverse_injective hreverse
  calc n = Nat.ofDigits b (padded b width n) := ofDigits_padded.symm
    _ = Nat.ofDigits b (padded b width' m) := by rw [hpadded]
    _ = m := ofDigits_padded

/-- A number that fits the width is padded to it. -/
theorem length_numeral (hb : 1 < b) (h : n < b ^ width) : (numeral b width n).length = width := by
  have hle : (Nat.digits b n).length ≤ width := (Nat.digits_length_le_iff hb n).mpr h
  simp only [numeral, padded, List.length_map, List.length_reverse, List.length_append,
    List.length_replicate]
  omega

theorem le_length_numeral (b width n : Nat) : width ≤ (numeral b width n).length := by
  simp only [numeral, padded, List.length_map, List.length_reverse, List.length_append,
    List.length_replicate]
  omega

/-- Only digits. -/
theorem mem_numeral (hb : 1 < b) {c : UInt8} (h : c ∈ numeral b width n) : ∃ d < b, c = hexDigit d := by
  obtain ⟨d, hd, rfl⟩ := List.mem_map.mp h
  exact ⟨d, lt_of_mem_padded hb (List.mem_reverse.mp hd), rfl⟩

end

end Numeral
