import DomainMonitor.Lib.Jsonb
import DomainMonitor.Lib.Numeral
import DomainMonitor.Lib.Strings

/-! # json.Marshal and json.Unmarshal

    How Go's `encoding/json` writes a string: quotes, backslashes and control
    characters escaped, `<`, `>`, `&` and the two line separators escaped as well,
    and U+FFFD in place of bytes that are not UTF-8. A `json.RawMessage` in a struct
    is compacted and escaped in the same way (`Json.escapeHTML`).

    Read back, a string is unescaped (`unquote`) and a `json.RawMessage` is a copy of
    the bytes of its value.
-/

namespace Marshal

open Json Utf8

variable (n : Int) (r : Rune) (b : UInt8) (rest s : List UInt8)

def encodeByte : List UInt8 :=
  if b = 60 ∨ b = 62 ∨ b = 38 then
    [92, 117, 48, 48, Encoding.hexDigit (b.toNat / 16), Encoding.hexDigit (b.toNat % 16)]
  else Jsonb.escapeByte b

def encodeRune : Rune → List UInt8
  | .bad _ => [92, 117, 102, 102, 102, 100]
  | .char c =>
    if c.toNat < 128 then encodeByte (UInt8.ofNat c.toNat)
    else if c.toNat = 0x2028 then [92, 117, 50, 48, 50, 56]
    else if c.toNat = 0x2029 then [92, 117, 50, 48, 50, 57]
    else String.utf8EncodeChar c

def encode : List UInt8 := (decode s).flatMap encodeRune

/-! ### What is written is a string -/

/-- Bytes beyond ASCII are written as they stand. -/
theorem isBody_high {bytes : List UInt8} (h : ∀ b ∈ bytes, 128 ≤ b.toNat) : isBody bytes = true := by
  have hbyte := forall_byte (P := fun b => 128 ≤ b.toNat → isBody [b] = true) (by decide +kernel)
  induction bytes with
  | nil => rfl
  | cons b bytes ih =>
    exact isBody_append (hbyte b (h b List.mem_cons_self))
      (ih (fun c hc => h c (List.mem_cons_of_mem b hc)))

theorem isBody_encodeRune : isBody (encodeRune r) = true := by
  unfold encodeRune
  split
  · decide
  · split_ifs
    · exact forall_byte (P := fun b => isBody (encodeByte b) = true) (by decide +kernel) _
    · decide
    · decide
    · exact isBody_high (fun b hb => encode_ge (by omega) hb)

theorem isBody_encode : isBody (encode s) = true := by
  unfold encode
  induction decode s with
  | nil => rfl
  | cons r rs ih => exact isBody_append (isBody_encodeRune r) ih

/-- `json.Marshal` of a string. -/
def string : Str where
  raw := encode s
  body := isBody_encode s

/-! ### Plain texts -/

/-- A printable byte that needs no escape. -/
def isPlain : Bool :=
  32 ≤ b && b < 127 && b ≠ 34 && b ≠ 92 && b ≠ 60 && b ≠ 62 && b ≠ 38

/-- A text of such bytes is written as it stands. -/
theorem encode_plain {s : List UInt8} (h : ∀ b ∈ s, isPlain b = true) : encode s = s := by
  have hall := forall_byte (P := fun b => isPlain b = true → b.toNat < 128 ∧ encodeByte b = [b])
    (by decide +kernel)
  have hbyte : ∀ b ∈ s, b.toNat < 128 ∧ encodeByte b = [b] := fun b hb => hall b (h b hb)
  unfold encode
  rw [Strings.decode_ascii (fun b hb => (hbyte b hb).1), List.flatMap_map]
  clear h
  induction s with
  | nil => rfl
  | cons b s ih =>
    obtain ⟨hlow, hsame⟩ := hbyte b List.mem_cons_self
    rw [List.flatMap_cons, ih (fun c hc => hbyte c (List.mem_cons_of_mem b hc))]
    simp only [encodeRune, Strings.asciiChar_toNat hlow]
    rw [if_pos hlow, UInt8.ofNat_toNat, hsame]
    rfl

/-! ### Reading -/

/-- A surrogate on its own is read as U+FFFD. -/
def lone : Option Nat → List UInt8
  | none => []
  | some _ => [239, 191, 189]

/-- The text of a string of valid UTF-8; `high` is a surrogate that waits for its other
    half. -/
def unquoteFrom : (high : Option Nat) → List UInt8 → List UInt8
  | high, [] => lone high
  | high, 92 :: 117 :: a :: b :: c :: d :: rest =>
    let n := Jsonb.hex4 a b c d
    if 0xD800 ≤ n ∧ n < 0xDC00 then lone high ++ unquoteFrom (some n) rest
    else if 0xDC00 ≤ n ∧ n < 0xE000 then
      match high with
      | some h =>
        String.utf8EncodeChar (Char.ofNat (0x10000 + (h - 0xD800) * 0x400 + (n - 0xDC00))) ++
          unquoteFrom none rest
      | none => lone (some n) ++ unquoteFrom none rest
    else lone high ++ (String.utf8EncodeChar (Char.ofNat n) ++ unquoteFrom none rest)
  | high, 92 :: e :: rest => lone high ++ Jsonb.escaped e :: unquoteFrom none rest
  | high, b :: rest => lone high ++ b :: unquoteFrom none rest

def unquote : List UInt8 := unquoteFrom none s

/-- What `jsonb` writes for a byte is read as that byte. -/
theorem unquote_escapeByte : unquote (Jsonb.escapeByte b ++ rest) = b :: unquote rest := by
  have hcontrol : ∀ n < 32,
      let h := Jsonb.hex4 48 48 (Encoding.hexDigit (n / 16)) (Encoding.hexDigit (n % 16))
      ¬ (0xD800 ≤ h ∧ h < 0xDC00) ∧ ¬ (0xDC00 ≤ h ∧ h < 0xE000) ∧
        String.utf8EncodeChar (Char.ofNat h) = [UInt8.ofNat n] := by decide +kernel
  unfold Jsonb.escapeByte
  split_ifs with h34 h92 h8 h12 h10 h13 h9 h32
  · rw [h34]; rfl
  · rw [h92]; rfl
  · rw [h8]; rfl
  · rw [h12]; rfl
  · rw [h10]; rfl
  · rw [h13]; rfl
  · rw [h9]; rfl
  · obtain ⟨hhigh, hlow, hchar⟩ := hcontrol b.toNat (UInt8.lt_iff_toNat_lt.mp h32)
    simp only [List.cons_append, List.nil_append, unquote, unquoteFrom]
    rw [if_neg hhigh, if_neg hlow, hchar, UInt8.ofNat_toNat]
    rfl
  · simp only [List.cons_append, List.nil_append, unquote]
    rw [unquoteFrom]
    · rfl
    · exact fun _ _ _ _ _ hb => absurd hb h92
    · exact fun _ _ hb => absurd hb h92

theorem unquote_ofText (text : List UInt8) : unquote (Jsonb.ofText text).raw = text := by
  show unquote (text.flatMap Jsonb.escapeByte) = text
  induction text with
  | nil => rfl
  | cons b text ih => rw [List.flatMap_cons, unquote_escapeByte, ih]

theorem unquote_plain {b : UInt8} (h : b ≠ 92) (rest : List UInt8) :
    unquote (b :: rest) = b :: unquote rest := by
  unfold unquote
  rw [unquoteFrom]
  · rfl
  · exact fun _ _ _ _ _ hb => absurd hb h
  · exact fun _ _ hb => absurd hb h

/-- A character of the basic plane, written as an escape. -/
theorem unquote_hex (a b c d : UInt8) (rest : List UInt8)
    (h : Jsonb.hex4 a b c d < 0xD800 ∨ 0xE000 ≤ Jsonb.hex4 a b c d) :
    unquote (92 :: 117 :: a :: b :: c :: d :: rest) =
      String.utf8EncodeChar (Char.ofNat (Jsonb.hex4 a b c d)) ++ unquote rest := by
  simp only [unquote, unquoteFrom]
  rw [if_neg (by omega), if_neg (by omega)]
  rfl

theorem unquote_encodeByte : unquote (encodeByte b ++ rest) = b :: unquote rest := by
  unfold encodeByte
  split
  · rename_i hb
    rcases hb with rfl | rfl | rfl <;>
    · rw [List.cons_append, List.cons_append, List.cons_append, List.cons_append, List.cons_append,
        List.cons_append, List.nil_append, unquote_hex _ _ _ _ _ (by decide)]
      congr 1
  · exact unquote_escapeByte b rest

theorem unquote_append_high {bytes : List UInt8} (h : ∀ b ∈ bytes, 128 ≤ b.toNat) (rest : List UInt8) :
    unquote (bytes ++ rest) = bytes ++ unquote rest := by
  induction bytes with
  | nil => rfl
  | cons b bytes ih =>
    have hb : b ≠ 92 := by
      rintro rfl
      exact absurd (h 92 List.mem_cons_self) (by decide)
    rw [List.cons_append, unquote_plain hb, ih (fun c hc => h c (List.mem_cons_of_mem b hc))]
    rfl

/-- What is written for a rune is read as that rune. -/
theorem unquote_encodeRune :
    unquote (encodeRune r ++ rest) = String.utf8EncodeChar (Strings.Rune.value r) ++ unquote rest := by
  cases r with
  | bad b =>
    show unquote (92 :: 117 :: 102 :: 102 :: 102 :: 100 :: rest) = _
    rw [unquote_hex _ _ _ _ _ (by decide)]
    rfl
  | char c =>
    rw [encodeRune, Strings.Rune.value]
    split_ifs with hascii h2028 h2029
    · rw [unquote_encodeByte, encode_ascii hascii]
      rfl
    · show unquote (92 :: 117 :: 50 :: 48 :: 50 :: 56 :: rest) = _
      rw [unquote_hex _ _ _ _ _ (by decide)]
      congr 2
      rw [← Char.ofNat_toNat c, h2028]
      rfl
    · show unquote (92 :: 117 :: 50 :: 48 :: 50 :: 57 :: rest) = _
      rw [unquote_hex _ _ _ _ _ (by decide)]
      congr 2
      rw [← Char.ofNat_toNat c, h2029]
      rfl
    · exact unquote_append_high (fun b hb => encode_ge (by omega) hb) rest

/-- **Strings** come back as they were, except for bytes that are not UTF-8. -/
theorem unquote_encode : unquote (encode s) = Strings.toValid s := by
  unfold encode Strings.toValid
  induction decode s with
  | nil => rfl
  | cons r rs ih => rw [List.flatMap_cons, List.flatMap_cons, unquote_encodeRune, ih]

/-! ### What is written needs no further escapes -/

theorem escapeBody_append {bytes : List UInt8}
    (h : ∀ b ∈ bytes, b ≠ 60 ∧ b ≠ 62 ∧ b ≠ 38 ∧ b ≠ 226) (rest : List UInt8) :
    escapeBody (bytes ++ rest) = bytes ++ escapeBody rest := by
  induction bytes with
  | nil => rfl
  | cons b bytes ih =>
    obtain ⟨h60, h62, h38, h226⟩ := h b List.mem_cons_self
    rw [List.cons_append, escapeBody_cons _ h60 h62 h38 h226,
      ih (fun c hc => h c (List.mem_cons_of_mem b hc))]
    rfl

theorem escapeBody_encodeByte {b : UInt8} (h : b.toNat < 128) (rest : List UInt8) :
    escapeBody (encodeByte b ++ rest) = encodeByte b ++ escapeBody rest := by
  have hall : ∀ n < 128, (encodeByte (UInt8.ofNat n)).all
      (fun c => c ≠ 60 ∧ c ≠ 62 ∧ c ≠ 38 ∧ c ≠ 226) = true := by decide +kernel
  have hbytes := hall b.toNat h
  rw [UInt8.ofNat_toNat, List.all_eq_true] at hbytes
  exact escapeBody_append (fun c hc => of_decide_eq_true (hbytes c hc)) rest

/-- A character beyond ASCII that is no line separator. -/
theorem escapeBody_char {c : Char} (hc : 128 ≤ c.toNat) (h2028 : c.toNat ≠ 0x2028)
    (h2029 : c.toNat ≠ 0x2029) (rest : List UInt8) :
    escapeBody (String.utf8EncodeChar c ++ rest) = String.utf8EncodeChar c ++ escapeBody rest := by
  have hhigh : ∀ {b : UInt8}, 128 ≤ b.toNat → b ≠ 60 ∧ b ≠ 62 ∧ b ≠ 38 := by
    intro b hb
    refine ⟨?_, ?_, ?_⟩ <;>
    · rintro rfl
      exact absurd hb (by decide)
  have hfirst : ∀ b ∈ String.utf8EncodeChar c, 128 ≤ b.toNat := fun b hb => encode_ge hc hb
  have hlater : ∀ b ∈ (String.utf8EncodeChar c).tail, b.toNat < 192 := fun b hb => (encode_tail hb).2
  have hdecode := decodeChar?_encode_append c rest
  cases hbytes : String.utf8EncodeChar c with
  | nil => exact absurd hbytes (encode_ne_nil c)
  | cons b bytes =>
    rw [hbytes] at hfirst hlater hdecode
    obtain ⟨h60, h62, h38⟩ := hhigh (hfirst b List.mem_cons_self)
    -- The bytes of a line separator at the front would be that separator.
    have hseparator : ¬ ∃ d tail, (d = 168 ∨ d = 169) ∧ b = 226 ∧ bytes ++ rest = 128 :: d :: tail := by
      rintro ⟨d, tail, hd, rfl, htail⟩
      rw [List.cons_append, htail] at hdecode
      have hsame : ∀ x, decodeChar? (226 :: 128 :: d :: tail) = some x → c = x :=
        fun x hx => Option.some.inj (hdecode.symm.trans hx)
      rcases hd with rfl | rfl
      · exact h2028 (hsame _ (decodeChar?_encode_append (Char.ofNat 0x2028) tail) ▸ rfl)
      · exact h2029 (hsame _ (decodeChar?_encode_append (Char.ofNat 0x2029) tail) ▸ rfl)
    rw [List.cons_append, escapeBody_plain h60 h62 h38 hseparator, escapeBody_append]
    · rfl
    · intro d hd
      obtain ⟨d60, d62, d38⟩ := hhigh (hfirst d (List.mem_cons_of_mem b hd))
      refine ⟨d60, d62, d38, ?_⟩
      rintro rfl
      exact absurd (hlater 226 hd) (by decide)

theorem escapeBody_encodeRune :
    escapeBody (encodeRune r ++ rest) = encodeRune r ++ escapeBody rest := by
  cases r with
  | bad b =>
    rw [encodeRune]
    exact escapeBody_append (by decide +kernel) rest
  | char c =>
    rw [encodeRune]
    split_ifs with hascii h2028 h2029
    · refine escapeBody_encodeByte ?_ rest
      rw [UInt8.toNat_ofNat']
      omega
    · exact escapeBody_append (by decide +kernel) rest
    · exact escapeBody_append (by decide +kernel) rest
    · exact escapeBody_char (by omega) h2028 h2029 rest

theorem escapeStr_string : escapeStr (string s) = string s := by
  have hraw : escapeBody (encode s) = encode s := by
    unfold encode
    induction decode s with
    | nil => rfl
    | cons r rs ih => rw [List.flatMap_cons, escapeBody_encodeRune, ih]
  simp only [escapeStr, string, hraw]

/-! ### Integers -/

def intText : List UInt8 :=
  if n < 0 then 45 :: Numeral.numeral 10 1 n.natAbs else Numeral.numeral 10 1 n.natAbs

theorem isDigit_numeral {width n : Nat} : ∀ c ∈ Numeral.numeral 10 width n, isDigit c = true := by
  intro c hc
  obtain ⟨d, hd, rfl⟩ := Numeral.mem_numeral (by decide) hc
  have hall : ∀ d < 10, isDigit (Encoding.hexDigit d) = true := by decide
  exact hall d hd

/-- No zeros in front. -/
theorem numeral_head {n : Nat} (h : (Numeral.numeral 10 1 n).head? = some 48) :
    (Numeral.numeral 10 1 n).length = 1 := by
  by_cases hn : n = 0
  · rw [hn]
    decide
  · have hdigits : Nat.digits 10 n ≠ [] := Nat.digits_ne_nil_iff_ne_zero.mpr hn
    have hpos : 0 < (Nat.digits 10 n).length := List.length_pos_of_ne_nil hdigits
    have hpadded : Numeral.padded 10 1 n = Nat.digits 10 n := by
      rw [Numeral.padded, Nat.sub_eq_zero_of_le hpos, List.replicate_zero, List.append_nil]
    rw [Numeral.numeral, hpadded, List.head?_map, List.head?_reverse,
      List.getLast?_eq_some_getLast hdigits] at h
    have hlast := Nat.getLast_digit_ne_zero 10 hn
    have hlt : (Nat.digits 10 n).getLast hdigits < 10 :=
      Nat.digits_lt_base (by decide) (List.getLast_mem hdigits)
    have hall : ∀ d < 10, d ≠ 0 → Encoding.hexDigit d ≠ 48 := by decide
    exact absurd (Option.some.inj h) (hall _ hlt hlast)

/-- Digits without a zero in front are a number, and so they are after a minus sign. -/
theorem isNumber_digits {ds : List UInt8} (hne : ds ≠ []) (hdigit : ∀ c ∈ ds, isDigit c = true)
    (hhead : ds.head? = some 48 → ds.length = 1) : isNumber ds = true ∧ isNumber (45 :: ds) = true := by
  have hbytes : ds.all isNumberByte = true := by
    rw [List.all_eq_true]
    intro c hc
    simp [isNumberByte, hdigit c hc]
  have hzero : (ds.head? ≠ some 48 || ds.length = 1) = true := by
    by_cases h48 : ds.head? = some 48
    · simp [hhead h48]
    · simp [h48]
  have hsplit : (ds ++ []).takeWhile isDigit = ds ∧ (ds ++ []).dropWhile isDigit = [] :=
    takeWhile_append_of_ends (List.all_eq_true.mpr hdigit) (by nofun)
  obtain ⟨htake, hdrop⟩ := hsplit
  rw [List.append_nil] at htake hdrop
  have hrest : (ds.all isNumberByte && decide (ds.takeWhile isDigit ≠ []) &&
      (decide ((ds.takeWhile isDigit).head? ≠ some 48) || decide ((ds.takeWhile isDigit).length = 1)) &&
      isFraction (ds.dropWhile isDigit)) = true := by
    rw [htake, hdrop, hbytes, hzero]
    simp [hne, isFraction, isExponent]
  constructor
  · cases ds with
    | nil => exact absurd rfl hne
    | cons c ds =>
      have hminus : c ≠ 45 := by
        rintro rfl
        exact absurd (hdigit 45 List.mem_cons_self) (by decide)
      unfold isNumber
      split
      · exact absurd (List.cons.inj ‹_›).1 hminus
      · exact hrest
  · have hsign : (45 :: ds).all isNumberByte = ds.all isNumberByte := by
      rw [List.all_cons]
      rfl
    show ((45 :: ds).all isNumberByte && _ && _ && _) = true
    rw [hsign]
    exact hrest

theorem isNumber_intText : isNumber (intText n) = true := by
  have hne : Numeral.numeral 10 1 n.natAbs ≠ [] := by
    intro hnil
    have hlength := Numeral.le_length_numeral 10 1 n.natAbs
    rw [hnil] at hlength
    exact absurd hlength (by decide)
  obtain ⟨hplain, hsigned⟩ := isNumber_digits hne isDigit_numeral numeral_head
  unfold intText
  split
  · exact hsigned
  · exact hplain

def int : Json.Num where
  text := intText n
  number := isNumber_intText n

/-! ### Documents -/

/-- What `json.Marshal` makes of a Go value: strings are Go strings, and the members of
    an object are the fields of a struct in their order. -/
inductive Doc where
  | null
  | bool (b : Bool)
  | num (n : Json.Num)
  | str (s : List UInt8)
  | arr (items : List Doc)
  | obj (fields : List (List UInt8 × Doc))

mutual

def Doc.value : Doc → Value
  | .null => .null
  | .bool b => .bool b
  | .num n => .num n
  | .str s => .str (string s)
  | .arr items => .arr (itemValues items)
  | .obj fields => .obj (fieldValues fields)

def itemValues : List Doc → List Value
  | [] => []
  | d :: rest => d.value :: itemValues rest

def fieldValues : List (List UInt8 × Doc) → List (Str × Value)
  | [] => []
  | (name, d) :: rest => (string name, d.value) :: fieldValues rest

end

theorem fieldValues_eq_map : ∀ fields : List (List UInt8 × Doc),
    fieldValues fields = fields.map (fun f => (string f.1, f.2.value))
  | [] => rfl
  | (name, d) :: rest => by rw [fieldValues, fieldValues_eq_map rest, List.map_cons]

/-- `json.Marshal`. -/
def marshal (d : Doc) : List UInt8 := text compact d.value

mutual

/-- A document that was written is not escaped again. -/
theorem escapeHTML_value : ∀ d : Doc, escapeHTML d.value = d.value
  | .null => rfl
  | .bool _ => rfl
  | .num _ => rfl
  | .str s => by rw [Doc.value, escapeHTML, escapeStr_string]
  | .arr items => by rw [Doc.value, escapeHTML, escapeItems_values items]
  | .obj fields => by rw [Doc.value, escapeHTML, escapeMembers_values fields]

theorem escapeItems_values : ∀ items : List Doc, escapeItems (itemValues items) = itemValues items
  | [] => rfl
  | d :: rest => by rw [itemValues, escapeItems, escapeHTML_value d, escapeItems_values rest]

theorem escapeMembers_values : ∀ fields : List (List UInt8 × Doc),
    escapeMembers (fieldValues fields) = fieldValues fields
  | [] => rfl
  | (name, d) :: rest => by
    rw [fieldValues, escapeMembers, escapeStr_string, escapeHTML_value d, escapeMembers_values rest]

end

end Marshal
