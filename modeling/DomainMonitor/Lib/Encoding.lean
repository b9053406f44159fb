import Mathlib.Tactic.Common

/-! # Hexadecimal and base64url

    `encoding/hex` and `base64.RawURLEncoding` over byte lists. What is encoded is
    decoded again (`hexDecode_hexEncode`, `base64Decode_base64Encode`).
-/

namespace Encoding

/-! ### Hexadecimal -/

def hexDigit (d : Nat) : UInt8 := if d < 10 then UInt8.ofNat (48 + d) else UInt8.ofNat (87 + d)

variable (bytes : List UInt8)

/-- `hex.EncodeToString`. -/
def hexEncode : List UInt8 :=
  bytes.flatMap (fun b => [hexDigit (b.toNat / 16), hexDigit (b.toNat % 16)])

/-- The value of a digit in either case. -/
def hexValue? (c : UInt8) : Option Nat :=
  let n := c.toNat
  if 48 ≤ n ∧ n ≤ 57 then some (n - 48)
  else if 97 ≤ n ∧ n ≤ 102 then some (n - 87)
  else if 65 ≤ n ∧ n ≤ 70 then some (n - 55)
  else none

/-- `hex.DecodeString`: `none` for an odd length or another byte. -/
def hexDecode : List UInt8 → Option (List UInt8)
  | [] => some []
  | [_] => none
  | high :: low :: rest => do
    let h ← hexValue? high
    let l ← hexValue? low
    let bytes ← hexDecode rest
    return UInt8.ofNat (16 * h + l) :: bytes

/-! ### base64url without padding -/

def base64Value? (c : UInt8) : Option Nat :=
  let n := c.toNat
  if 65 ≤ n ∧ n ≤ 90 then some (n - 65)
  else if 97 ≤ n ∧ n ≤ 122 then some (n - 71)
  else if 48 ≤ n ∧ n ≤ 57 then some (n + 4)
  else if n = 45 then some 62
  else if n = 95 then some 63
  else none

/-- Groups of four digits make three bytes; two or three digits may remain, and
    the bits they have too many are dropped. -/
def base64Groups : List Nat → Option (List UInt8)
  | [] => some []
  | [_] => none
  | [a, b] => some [UInt8.ofNat (4 * a + b / 16)]
  | [a, b, c] => some [UInt8.ofNat (4 * a + b / 16), UInt8.ofNat (16 * (b % 16) + c / 4)]
  | a :: b :: c :: d :: rest => do
    let bytes ← base64Groups rest
    return UInt8.ofNat (4 * a + b / 16) :: UInt8.ofNat (16 * (b % 16) + c / 4)
      :: UInt8.ofNat (64 * (c % 4) + d) :: bytes

/-- `base64.RawURLEncoding.DecodeString`, which skips line breaks. -/
def base64Decode (text : List UInt8) : Option (List UInt8) := do
  let digits ← (text.filter (fun c => c ≠ 10 && c ≠ 13)).mapM base64Value?
  base64Groups digits

def base64Digit (n : Nat) : UInt8 :=
  if n < 26 then UInt8.ofNat (65 + n)
  else if n < 52 then UInt8.ofNat (71 + n)
  else if n < 62 then UInt8.ofNat (n - 4)
  else if n = 62 then 45
  else 95

/-- Six bits at a time. -/
def base64Digits : List UInt8 → List Nat
  | [] => []
  | [a] => [a.toNat / 4, 16 * (a.toNat % 4)]
  | [a, b] => [a.toNat / 4, 16 * (a.toNat % 4) + b.toNat / 16, 4 * (b.toNat % 16)]
  | a :: b :: c :: rest =>
    a.toNat / 4 :: (16 * (a.toNat % 4) + b.toNat / 16) :: (4 * (b.toNat % 16) + c.toNat / 64)
      :: c.toNat % 64 :: base64Digits rest

/-- `base64.RawURLEncoding.EncodeToString`. -/
def base64Encode : List UInt8 := (base64Digits bytes).map base64Digit

/-! ### Round trips -/

theorem hexValue_hexDigit : ∀ d < 16, hexValue? (hexDigit d) = some d := by decide

theorem hexDecode_hexEncode : hexDecode (hexEncode bytes) = some bytes := by
  induction bytes with
  | nil => rfl
  | cons b bytes ih =>
    have hb := b.toNat_lt
    rw [hexEncode, List.flatMap_cons, ← hexEncode, List.cons_append, List.cons_append, List.nil_append,
      hexDecode, hexValue_hexDigit _ (by omega), hexValue_hexDigit _ (by omega), ih]
    have hbyte : UInt8.ofNat (16 * (b.toNat / 16) + b.toNat % 16) = b := by
      rw [Nat.div_add_mod, UInt8.ofNat_toNat]
    show some (UInt8.ofNat (16 * (b.toNat / 16) + b.toNat % 16) :: bytes) = some (b :: bytes)
    rw [hbyte]

theorem length_hexEncode : (hexEncode bytes).length = 2 * bytes.length := by
  induction bytes with
  | nil => rfl
  | cons b bytes ih =>
    rw [hexEncode, List.flatMap_cons, ← hexEncode, List.length_append, ih, List.length_cons]
    simp only [List.length_cons, List.length_nil]
    omega

theorem mem_hexEncode {bytes : List UInt8} {c : UInt8} (h : c ∈ hexEncode bytes) :
    ∃ d < 16, c = hexDigit d := by
  obtain ⟨b, -, hc⟩ := List.mem_flatMap.mp h
  have hb := b.toNat_lt
  simp only [List.mem_cons, List.not_mem_nil, or_false] at hc
  rcases hc with rfl | rfl
  · exact ⟨_, by omega, rfl⟩
  · exact ⟨_, by omega, rfl⟩

theorem base64Digits_lt : ∀ n ∈ base64Digits bytes, n < 64 := by
  fun_induction base64Digits bytes with
  | case1 => nofun
  | case2 a =>
    have ha := a.toNat_lt
    simp only [List.forall_mem_cons, List.not_mem_nil, false_implies, implies_true, and_true]
    omega
  | case3 a b =>
    have ha := a.toNat_lt
    have hb := b.toNat_lt
    simp only [List.forall_mem_cons, List.not_mem_nil, false_implies, implies_true, and_true]
    omega
  | case4 a b c rest ih =>
    have ha := a.toNat_lt
    have hb := b.toNat_lt
    have hc := c.toNat_lt
    simp only [List.forall_mem_cons]
    exact ⟨by omega, by omega, by omega, by omega, ih⟩

/-- The bytes are put together again. -/
theorem base64Groups_base64Digits : base64Groups (base64Digits bytes) = some bytes := by
  have hbyte : ∀ (a : UInt8) {n : Nat}, n = a.toNat → UInt8.ofNat n = a := by
    intro a n hn
    rw [hn, UInt8.ofNat_toNat]
  fun_induction base64Digits bytes with
  | case1 => rfl
  | case2 a =>
    have ha := a.toNat_lt
    rw [base64Groups, hbyte a (by omega)]
  | case3 a b =>
    have ha := a.toNat_lt
    have hb := b.toNat_lt
    rw [base64Groups, hbyte a (by omega), hbyte b (by omega)]
  | case4 a b c rest ih =>
    have ha := a.toNat_lt
    have hb := b.toNat_lt
    have hc := c.toNat_lt
    rw [base64Groups, ih, hbyte a (by omega), hbyte b (by omega), hbyte c (by omega)]
    rfl

theorem base64Value_base64Digit : ∀ n < 64, base64Value? (base64Digit n) = some n := by decide

theorem base64Digit_range : ∀ n < 64, 32 < (base64Digit n).toNat ∧ (base64Digit n).toNat < 127 := by
  decide

theorem mem_base64Encode {bytes : List UInt8} {c : UInt8} (h : c ∈ base64Encode bytes) :
    ∃ n < 64, c = base64Digit n := by
  obtain ⟨n, hn, rfl⟩ := List.mem_map.mp h
  exact ⟨n, base64Digits_lt bytes n hn, rfl⟩

theorem base64Decode_base64Encode : base64Decode (base64Encode bytes) = some bytes := by
  have hkeep : (base64Encode bytes).filter (fun c => c ≠ 10 && c ≠ 13) = base64Encode bytes := by
    rw [List.filter_eq_self]
    intro c hc
    obtain ⟨n, hn, rfl⟩ := mem_base64Encode hc
    have hall : ∀ n < 64, (base64Digit n ≠ 10 && base64Digit n ≠ 13) = true := by decide
    exact hall n hn
  have hdigits : (base64Encode bytes).mapM base64Value? = some (base64Digits bytes) := by
    have hlt := base64Digits_lt bytes
    unfold base64Encode
    generalize base64Digits bytes = digits at hlt
    induction digits with
    | nil => rfl
    | cons n ns ih =>
      rw [List.map_cons, List.mapM_cons, base64Value_base64Digit n (hlt n List.mem_cons_self),
        ih (fun m hm => hlt m (List.mem_cons_of_mem n hm))]
      rfl
  unfold base64Decode
  rw [hkeep, hdigits]
  exact base64Groups_base64Digits bytes

end Encoding
