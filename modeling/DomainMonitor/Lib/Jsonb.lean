import DomainMonitor.Lib.Json

/-! # jsonb

    What a `jsonb` column makes of a JSON text: strings are unescaped and written
    back with as few escapes as possible, the members of an object are ordered by
    the length of their key and then by its bytes, and the last of several members
    with one key wins. How a number is written back is a parameter.
-/

namespace Jsonb

open Json

/-! ### Strings -/

def hex4 (a b c d : UInt8) : Nat :=
  let digit := fun h => (Encoding.hexValue? h).getD 0
  4096 * digit a + 256 * digit b + 16 * digit c + digit d

/-- The character of a two-byte escape. -/
def escaped (e : UInt8) : UInt8 :=
  if e = 98 then 8 else if e = 102 then 12 else if e = 110 then 10
  else if e = 114 then 13 else if e = 116 then 9 else e

/-- The text of a string; `none` for a NUL character and for a surrogate without
    its other half, which cannot be stored. -/
def unescape : List UInt8 → Option (List UInt8)
  | [] => some []
  | 92 :: 117 :: a :: b :: c :: d :: rest =>
    let n := hex4 a b c d
    if n = 0 then none
    else if 0xD800 ≤ n ∧ n < 0xDC00 then
      match rest with
      | 92 :: 117 :: a :: b :: c :: d :: rest =>
        let m := hex4 a b c d
        if 0xDC00 ≤ m ∧ m < 0xE000 then
          (unescape rest).map (String.utf8EncodeChar
            (Char.ofNat (0x10000 + (n - 0xD800) * 0x400 + (m - 0xDC00))) ++ ·)
        else none
      | _ => none
    else if 0xDC00 ≤ n ∧ n < 0xE000 then none
    else (unescape rest).map (String.utf8EncodeChar (Char.ofNat n) ++ ·)
  | 92 :: e :: rest => (unescape rest).map (escaped e :: ·)
  | b :: rest => (unescape rest).map (b :: ·)

/-- A byte of a text as it is written in a string. -/
def escapeByte (b : UInt8) : List UInt8 :=
  if b = 34 then [92, 34] else if b = 92 then [92, 92]
  else if b = 8 then [92, 98] else if b = 12 then [92, 102] else if b = 10 then [92, 110]
  else if b = 13 then [92, 114] else if b = 9 then [92, 116]
  else if b < 32 then
    [92, 117, 48, 48, Encoding.hexDigit (b.toNat / 16), Encoding.hexDigit (b.toNat % 16)]
  else [b]

def escape (text : List UInt8) : List UInt8 := text.flatMap escapeByte

theorem isBody_escapeByte (b : UInt8) : isBody (escapeByte b) = true :=
  Utf8.forall_byte (P := fun b => isBody (escapeByte b) = true) (by decide +kernel) b

theorem isBody_escape_text (text : List UInt8) : isBody (escape text) = true := by
  induction text with
  | nil => rfl
  | cons b text ih => exact isBody_append (isBody_escapeByte b) ih

/-- The string that holds a text. -/
def ofText (text : List UInt8) : Str where
  raw := escape text
  body := isBody_escape_text text

/-! ### Objects -/

/-- The order of the members. -/
def before (k k' : List UInt8) : Bool :=
  k.length < k'.length || (k.length = k'.length && k.map UInt8.toNat < k'.map UInt8.toNat)

/-- Adds a member to ordered ones, in place of one with the same key. -/
def insertMember (k : List UInt8) (v : Value) :
    List (List UInt8 × Value) → List (List UInt8 × Value)
  | [] => [(k, v)]
  | (k', v') :: rest =>
    if k = k' then (k, v) :: rest
    else if before k k' then (k, v) :: (k', v') :: rest
    else (k', v') :: insertMember k v rest

variable (numeric : Json.Num → Option Json.Num)

mutual

/-- The stored form of a value; `none` when it cannot be stored. -/
def normalize : Value → Option Value
  | .null => some .null
  | .bool b => some (.bool b)
  | .num n => (numeric n).map .num
  | .str s => (unescape s.raw).map (fun text => .str (ofText text))
  | .arr items => (normalizeItems items).map .arr
  | .obj members =>
    (normalizeMembers members []).map (fun sorted =>
      .obj (sorted.map (fun m => (ofText m.1, m.2))))

def normalizeItems : List Value → Option (List Value)
  | [] => some []
  | v :: rest => do
    let v ← normalize v
    let rest ← normalizeItems rest
    return v :: rest

def normalizeMembers : List (Str × Value) → List (List UInt8 × Value) →
    Option (List (List UInt8 × Value))
  | [], sorted => some sorted
  | (k, v) :: rest, sorted => do
    let k ← unescape k.raw
    let v ← normalize v
    normalizeMembers rest (insertMember k v sorted)

end

/-- `$1::jsonb` of a text parameter. -/
def cast (s : List UInt8) : Option Value :=
  if Utf8.Valid s then (parse s).bind (normalize numeric) else none

end Jsonb
