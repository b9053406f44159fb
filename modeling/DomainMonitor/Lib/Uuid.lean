import DomainMonitor.Lib.Numeral

/-! # The text of a UUID

    32 hexadecimal digits in groups of 8, 4, 4, 4 and 12, joined by dashes. The
    groups are counted from the right, so that the definition makes sense for
    every number.
-/

namespace Uuid

open Encoding Numeral

/-- Splits off the last `n` digits behind a dash. -/
def lastGroup (n : Nat) (digits : List UInt8) : List UInt8 × List UInt8 :=
  (digits.take (digits.length - n), 45 :: digits.drop (digits.length - n))

/-- `uuid.UUID.String`. -/
def text (id : Nat) : List UInt8 :=
  let (digits, e) := lastGroup 12 (numeral 16 32 id)
  let (digits, d) := lastGroup 4 digits
  let (digits, c) := lastGroup 4 digits
  let (a, b) := lastGroup 4 digits
  a ++ b ++ c ++ d ++ e

example : text 0x6ba7b8109dad11d180b400c04fd430c8 =
    "6ba7b810-9dad-11d1-80b4-00c04fd430c8".toList.map (fun c => c.val.toUInt8) := by decide +kernel

/-- The five groups. -/
theorem text_eq (id : Nat) : ∃ a b c d e : List UInt8,
    text id = a ++ 45 :: b ++ 45 :: c ++ 45 :: d ++ 45 :: e ∧
    numeral 16 32 id = a ++ b ++ c ++ d ++ e ∧
    b.length = 4 ∧ c.length = 4 ∧ d.length = 4 ∧ e.length = 12 := by
  have hlength := le_length_numeral 16 32 id
  refine ⟨_, _, _, _, _, rfl, ?_, ?_, ?_, ?_, ?_⟩
  · simp only [List.take_append_drop]
  all_goals
    simp only [List.length_drop, List.length_take]
    omega

theorem text_inj {x y : Nat} (h : text x = text y) : x = y := by
  obtain ⟨a, b, c, d, e, hx, hdigits, hb, hc, hd, he⟩ := text_eq x
  obtain ⟨a', b', c', d', e', hy, hdigits', hb', hc', hd', he'⟩ := text_eq y
  rw [hx, hy] at h
  obtain ⟨h₁, hte⟩ := List.append_inj' h (by simp only [List.length_cons, he, he'])
  obtain ⟨h₂, htd⟩ := List.append_inj' h₁ (by simp only [List.length_cons, hd, hd'])
  obtain ⟨h₃, htc⟩ := List.append_inj' h₂ (by simp only [List.length_cons, hc, hc'])
  obtain ⟨h₄, htb⟩ := List.append_inj' h₃ (by simp only [List.length_cons, hb, hb'])
  rw [h₄, (List.cons.inj htb).2, (List.cons.inj htc).2, (List.cons.inj htd).2,
    (List.cons.inj hte).2, ← hdigits'] at hdigits
  exact numeral_inj (by decide) (by decide) hdigits

/-- Only digits and dashes. -/
theorem mem_text {id : Nat} {c : UInt8} (h : c ∈ text id) : c = 45 ∨ ∃ d < 16, c = hexDigit d := by
  obtain ⟨a, b, g, d, e, htext, hdigits, -⟩ := text_eq id
  have hmem : c = 45 ∨ c ∈ numeral 16 32 id := by
    rw [htext] at h
    rw [hdigits]
    simp only [List.mem_append, List.mem_cons, or_assoc] at h ⊢
    grind
  rcases hmem with hc | hc
  · exact .inl hc
  · exact .inr (mem_numeral (by decide) hc)

end Uuid
