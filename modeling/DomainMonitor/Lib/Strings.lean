import Mathlib.Data.List.DropRight
import DomainMonitor.Lib.Utf8

/-! # Case mapping and printable text

    The parts of Go's `strings` and `unicode` packages that look at characters.
    The Unicode tables are a parameter: what is used of them is their value on
    ASCII.
-/

namespace Strings

open Utf8

/-- The `unicode` tables. -/
structure Tables where
  toLower : Char → Char
  isLetter : Char → Bool
  isNumber : Char → Bool
  toLower_ascii : ∀ c : Char, c.toNat < 128 → toLower c = c.toLower

/-- Tables that know ASCII only. -/
def asciiTables : Tables where
  toLower := Char.toLower
  isLetter := Char.isAlpha
  isNumber := Char.isDigit
  toLower_ascii := fun _ _ => rfl

/-- U+FFFD, which stands for bytes that are not UTF-8. -/
def runeError : Char := '�'

/-- The character a `range` loop sees. -/
def Rune.value : Rune → Char
  | .char c => c
  | .bad _ => runeError

/-- `strings.ToLower`: bytes that are not UTF-8 become U+FFFD. -/
def toLower (t : Tables) (s : List UInt8) : List UInt8 :=
  (decode s).flatMap (fun r => String.utf8EncodeChar (t.toLower (Rune.value r)))

/-- `strings.ToUpper`, with the `unicode` table for upper case. -/
def toUpper (upper : Char → Char) (s : List UInt8) : List UInt8 :=
  (decode s).flatMap (fun r => String.utf8EncodeChar (upper (Rune.value r)))

/-- A string after a trip through JSON: bytes that are not UTF-8 become U+FFFD. -/
def toValid (s : List UInt8) : List UInt8 :=
  (decode s).flatMap (fun r => String.utf8EncodeChar (Rune.value r))

/-! ### Printable ASCII -/

/-- Bytes from the space to the tilde. -/
def Printable (s : List UInt8) : Prop := ∀ b ∈ s, 32 ≤ b.toNat ∧ b.toNat ≤ 126

instance (s : List UInt8) : Decidable (Printable s) :=
  List.decidableBAll _ s

/-- The character of an ASCII byte. -/
def asciiChar (b : UInt8) : Char := Char.ofNat b.toNat

variable {b : UInt8} {s : List UInt8} {c : Char}

theorem asciiChar_toNat (h : b.toNat < 128) : (asciiChar b).toNat = b.toNat := by
  have hvalid : b.toNat.isValidChar := .inl (by omega)
  unfold asciiChar
  rw [Char.ofNat, dif_pos hvalid]
  show (UInt32.ofNatLT b.toNat _).toNat = _
  exact UInt32.toNat_ofNatLT ..

theorem encode_asciiChar (h : b.toNat < 128) : String.utf8EncodeChar (asciiChar b) = [b] := by
  rw [encode_ascii (by rw [asciiChar_toNat h]; exact h), asciiChar_toNat h, UInt8.ofNat_toNat]

/-- ASCII text decodes byte by byte. -/
theorem decode_ascii (h : ∀ b ∈ s, b.toNat < 128) :
    decode s = s.map (fun b => .char (asciiChar b)) := by
  induction s with
  | nil => rfl
  | cons b s ih =>
    have hb := encode_asciiChar (h b List.mem_cons_self)
    have hcons : b :: s = String.utf8EncodeChar (asciiChar b) ++ s := by rw [hb]; rfl
    rw [hcons, decode_encode_append, ih (fun c hc => h c (List.mem_cons_of_mem _ hc)),
      ← hcons, List.map_cons]

theorem Printable.ascii (h : Printable s) : ∀ b ∈ s, b.toNat < 128 := by
  intro b hb
  have := h b hb
  omega

theorem Printable.storable (h : Printable s) : Storable s := by
  rw [storable_iff, decode_ascii h.ascii]
  intro r hr
  obtain ⟨b, hb, rfl⟩ := List.mem_map.mp hr
  have hrange := h b hb
  simp only [Rune.storable, decide_eq_true_eq, asciiChar_toNat (h.ascii b hb)]
  omega

theorem Printable.nil : Printable [] := by decide

theorem Printable.append {t : List UInt8} (hs : Printable s) (ht : Printable t) :
    Printable (s ++ t) :=
  List.forall_mem_append.mpr ⟨hs, ht⟩

theorem Printable.flatMap {β : Type} {l : List β} {f : β → List UInt8}
    (h : ∀ x ∈ l, Printable (f x)) : Printable (l.flatMap f) := by
  intro b hb
  obtain ⟨x, hx, hb⟩ := List.mem_flatMap.mp hb
  exact h x hx b hb

/-- Lower case of a printable character is printable. -/
theorem toLower_range (h : 32 ≤ c.toNat ∧ c.toNat ≤ 126) :
    32 ≤ c.toLower.toNat ∧ c.toLower.toNat ≤ 126 := by
  have hall : ∀ n < 127, 32 ≤ n →
      32 ≤ (Char.ofNat n).toLower.toNat ∧ (Char.ofNat n).toLower.toNat ≤ 126 := by decide
  have hc := hall c.toNat (by omega) h.1
  rwa [Char.ofNat_toNat] at hc

theorem Printable.toLower (t : Tables) (h : Printable s) : Printable (toLower t s) := by
  unfold Strings.toLower
  rw [decode_ascii h.ascii]
  apply Printable.flatMap
  intro r hr
  obtain ⟨b, hb, rfl⟩ := List.mem_map.mp hr
  have hascii := h.ascii b hb
  have hchar : (asciiChar b).toNat < 128 := by rw [asciiChar_toNat hascii]; exact hascii
  have hrange := toLower_range (by rw [asciiChar_toNat hascii]; exact h b hb)
  show Printable (String.utf8EncodeChar (t.toLower (asciiChar b)))
  rw [t.toLower_ascii _ hchar, encode_ascii (by omega)]
  intro b' hb'
  rw [List.mem_singleton.mp hb', UInt8.toNat_ofNat']
  omega

/-! ### Texts that trimming and JSON leave alone -/

theorem toValid_of_valid (h : Valid s) : toValid s = s := by
  obtain ⟨cs, rfl⟩ := (valid_iff_encoding s).mp h
  induction cs with
  | nil => rfl
  | cons c cs ih =>
    have htail : Valid (cs.flatMap String.utf8EncodeChar) := (valid_iff_encoding _).mpr ⟨cs, rfl⟩
    rw [List.flatMap_cons, toValid, decode_encode_append, List.flatMap_cons]
    exact congrArg (String.utf8EncodeChar c ++ ·) (ih htail)

theorem toValid_of_ascii (h : ∀ b ∈ s, b.toNat < 128) : toValid s = s := by
  refine toValid_of_valid ?_
  intro r hr
  rw [decode_ascii h] at hr
  obtain ⟨b, -, rfl⟩ := List.mem_map.mp hr
  rfl

theorem valid_toUpper (upper : Char → Char) (s : List UInt8) : Valid (toUpper upper s) :=
  (valid_iff_encoding _).mpr ⟨(decode s).map (fun r => upper (Rune.value r)), by
    rw [toUpper, List.flatMap_map]⟩

/-- ASCII characters that are no white space. -/
def Solid (s : List UInt8) : Prop := ∀ b ∈ s, 32 < b.toNat ∧ b.toNat < 127

theorem Solid.ascii (h : Solid s) : ∀ b ∈ s, b.toNat < 128 := by
  intro b hb
  have := h b hb
  omega

theorem Solid.append {t : List UInt8} (hs : Solid s) (ht : Solid t) : Solid (s ++ t) :=
  List.forall_mem_append.mpr ⟨hs, ht⟩

theorem isSpace_asciiChar (h : 32 < b.toNat ∧ b.toNat < 127) : isSpace (asciiChar b) = false := by
  have hall : ∀ n < 127, 32 < n → isSpace (Char.ofNat n) = false := by decide
  exact hall b.toNat h.2 h.1

theorem trimRunes_of_solid {rs : List Rune} (h : ∀ r ∈ rs, r.isSpace = false) : trimRunes rs = rs := by
  have hdrop : ∀ l : List Rune, (∀ r ∈ l, r.isSpace = false) → l.dropWhile Rune.isSpace = l := by
    intro l hl
    cases l with
    | nil => rfl
    | cons r l => rw [List.dropWhile_cons_of_neg (by simp [hl r])]
  rw [trimRunes, hdrop rs h, hdrop rs.reverse (fun r hr => h r (List.mem_reverse.mp hr)),
    List.reverse_reverse]

theorem trimSpace_of_solid (h : Solid s) : trimSpace s = s := by
  have hruns : trimRunes (decode s) = decode s := by
    apply trimRunes_of_solid
    intro r hr
    rw [decode_ascii h.ascii] at hr
    obtain ⟨b, hb, rfl⟩ := List.mem_map.mp hr
    exact isSpace_asciiChar (h b hb)
  rw [trimSpace, hruns, bytes_decode]

/-- Trimming keeps every character that is no white space. -/
theorem mem_trimSpace (hs : ∀ b ∈ s, b.toNat < 128) (hb : b ∈ s)
    (hsolid : 32 < b.toNat ∧ b.toNat < 127) : b ∈ trimSpace s := by
  obtain ⟨pre, post, hsplit, hpre, hpost⟩ := trimRunes_split (decode s)
  have hchar : Rune.char (asciiChar b) ∈ decode s := by
    rw [decode_ascii hs]
    exact List.mem_map_of_mem hb
  have hspace : (Rune.char (asciiChar b)).isSpace = false := isSpace_asciiChar hsolid
  rw [hsplit, List.mem_append, List.mem_append] at hchar
  have hmem : Rune.char (asciiChar b) ∈ trimRunes (decode s) := by
    rcases hchar with (h | h) | h
    · rw [hpre _ h] at hspace
      cases hspace
    · exact h
    · rw [hpost _ h] at hspace
      cases hspace
  refine List.mem_flatMap.mpr ⟨_, hmem, ?_⟩
  show b ∈ String.utf8EncodeChar (asciiChar b)
  rw [encode_asciiChar (by omega)]
  exact List.mem_singleton_self b

theorem trimRunes_trimRunes (rs : List Rune) : trimRunes (trimRunes rs) = trimRunes rs := by
  show List.rdropWhile Rune.isSpace ((trimRunes rs).dropWhile Rune.isSpace) = trimRunes rs
  have hprefix : trimRunes rs <+: rs.dropWhile Rune.isSpace := List.rdropWhile_prefix _ _
  -- The front of what is left is the front of the text without leading space.
  have hfront : (trimRunes rs).dropWhile Rune.isSpace = trimRunes rs := by
    cases htrim : trimRunes rs with
    | nil => rfl
    | cons r rest =>
      rw [htrim] at hprefix
      obtain ⟨tail, htail⟩ := hprefix
      have hhead : r.isSpace = false := by
        have hnot := List.head_dropWhile_not Rune.isSpace (l := rs) (by rw [← htail]; simp)
        simpa [← htail] using hnot
      rw [List.dropWhile_cons_of_neg (by simp [hhead])]
  rw [hfront]
  exact List.rdropWhile_idempotent _ _

theorem trimSpace_trimSpace (s : List UInt8) : trimSpace (trimSpace s) = trimSpace s := by
  rw [trimSpace, decode_trimSpace, trimRunes_trimRunes]
  rfl

theorem valid_toValid (s : List UInt8) : Valid (toValid s) :=
  (valid_iff_encoding _).mpr ⟨(decode s).map Rune.value, by rw [toValid, List.flatMap_map]⟩

theorem valid_trimSpace (h : Valid s) : Valid (trimSpace s) := by
  intro r hr
  rw [decode_trimSpace] at hr
  obtain ⟨pre, post, hsplit, -, -⟩ := trimRunes_split (decode s)
  apply h r
  rw [hsplit]
  exact List.mem_append_left _ (List.mem_append_right _ hr)

/-- A trip through JSON keeps a trimmed text exactly when it is UTF-8. -/
theorem trimSpace_toValid_eq_iff (hs : trimSpace s = s) : trimSpace (toValid s) = s ↔ Valid s := by
  constructor
  · intro h
    rw [← h]
    exact valid_trimSpace (valid_toValid s)
  · intro h
    rw [toValid_of_valid h, hs]

/-! ### Bytes of ASCII characters -/

/-- The byte of an ASCII character. -/
def byte (c : Char) : UInt8 := UInt8.ofNat c.toNat

/-- Lower case of an ASCII letter, every other byte unchanged. -/
def lowerByte (b : UInt8) : UInt8 := if 65 ≤ b.toNat ∧ b.toNat ≤ 90 then b + 32 else b

/-! ### Letter case -/

theorem lowerByte_ascii (h : b.toNat < 128) : (lowerByte b).toNat < 128 := by
  unfold lowerByte
  split_ifs with hupper
  · rw [UInt8.toNat_add]
    have : (32 : UInt8).toNat = 32 := rfl
    omega
  · exact h

theorem lowerByte_of_ge (h : 128 ≤ b.toNat) : lowerByte b = b := if_neg (by omega)

theorem map_lowerByte_encode (h : 128 ≤ c.toNat) :
    (String.utf8EncodeChar c).map lowerByte = String.utf8EncodeChar c :=
  (List.map_congr_left (fun _ hb => lowerByte_of_ge (encode_ge h hb))).trans (List.map_id _)

theorem lowerByte_ofNat (h : c.toNat < 128) :
    lowerByte (UInt8.ofNat c.toNat) = UInt8.ofNat c.toLower.toNat := by
  have hall : ∀ n < 128, lowerByte (UInt8.ofNat n) = UInt8.ofNat (Char.ofNat n).toLower.toNat := by
    decide
  have hc := hall c.toNat h
  rwa [Char.ofNat_toNat] at hc

/-- Lower case of an ASCII letter, every other rune unchanged. -/
def Rune.lower : Rune → Rune
  | .char c => .char (if c.toNat < 128 then c.toLower else c)
  | .bad b => .bad b

theorem toLower_lt (h : c.toNat < 128) : c.toLower.toNat < 128 := by
  have hall : ∀ n < 128, (Char.ofNat n).toLower.toNat < 128 := by decide
  have hc := hall c.toNat h
  rwa [Char.ofNat_toNat] at hc

/-- A byte that starts no character still starts none. -/
theorem decodeChar?_map_lowerByte (hb : 128 ≤ b.toNat) (h : decodeChar? (b :: s) = none) :
    decodeChar? (b :: s.map lowerByte) = none := by
  cases hd : decodeChar? (b :: s.map lowerByte) with
  | none => rfl
  | some c =>
    exfalso
    obtain ⟨u, hu⟩ := exists_append_of_decodeChar? hd
    -- The character is beyond ASCII, so its bytes were not changed.
    have hc : 128 ≤ c.toNat := by
      by_contra hlt
      rw [encode_ascii (by omega), List.singleton_append] at hu
      have hbyte := congrArg UInt8.toNat (List.cons.inj hu).1
      rw [UInt8.toNat_ofNat'] at hbyte
      omega
    have hlower : (b :: s).map lowerByte = String.utf8EncodeChar c ++ u := by
      rw [List.map_cons, lowerByte_of_ge hb, hu]
    obtain ⟨x, y, hxy, hx, -⟩ := List.map_eq_append_iff.mp hlower
    have hsame : x = String.utf8EncodeChar c := by
      rw [← hx]
      refine ((List.map_congr_left (fun d hd => ?_)).trans (List.map_id x)).symm
      have hmem : lowerByte d ∈ String.utf8EncodeChar c := hx ▸ List.mem_map_of_mem hd
      have hge := encode_ge hc hmem
      by_cases hascii : d.toNat < 128
      · have := lowerByte_ascii hascii
        omega
      · exact lowerByte_of_ge (by omega)
    rw [hxy, hsame, decodeChar?_encode_append] at h
    cases h

theorem bad_ge (h : decodeChar? (b :: s) = none) : 128 ≤ b.toNat := by
  by_contra hlt
  have hascii : b.toNat < 128 := by omega
  have hdec := decodeChar?_encode_append (asciiChar b) s
  rw [encode_asciiChar hascii, List.singleton_append, h] at hdec
  cases hdec

theorem bad_of_mem_decode (h : Rune.bad b ∈ decode s) : 128 ≤ b.toNat := by
  induction s using decode_induction with
  | nil => cases h
  | char c t ih =>
    rw [decode_encode_append] at h
    rcases List.mem_cons.mp h with h | h
    · cases h
    · exact ih h
  | bad x t hx ih =>
    rw [decode_bad hx] at h
    rcases List.mem_cons.mp h with h | h
    · cases h
      exact bad_ge hx
    · exact ih h

theorem decode_map_lowerByte (s : List UInt8) :
    decode (s.map lowerByte) = (decode s).map Rune.lower := by
  induction s using decode_induction with
  | nil => rfl
  | char c t ih =>
    rw [decode_encode_append, List.map_append, List.map_cons, ← ih, Rune.lower]
    split_ifs with hc
    · rw [encode_ascii hc, List.map_singleton, lowerByte_ofNat hc, ← encode_ascii (toLower_lt hc),
        decode_encode_append]
    · rw [map_lowerByte_encode (by omega), decode_encode_append]
  | bad b t hb ih =>
    have hge := bad_ge hb
    rw [List.map_cons, lowerByte_of_ge hge, decode_bad (decodeChar?_map_lowerByte hge hb),
      decode_bad hb, List.map_cons, ih]
    rfl

theorem bytes_lower (r : Rune) (hr : ∀ b, r = .bad b → 128 ≤ b.toNat) :
    (Rune.lower r).bytes = r.bytes.map lowerByte := by
  cases r with
  | char c =>
    show String.utf8EncodeChar _ = (String.utf8EncodeChar c).map lowerByte
    split_ifs with hc
    · rw [encode_ascii hc, encode_ascii (toLower_lt hc), List.map_singleton, lowerByte_ofNat hc]
    · rw [map_lowerByte_encode (by omega)]
  | bad b =>
    show [b] = [lowerByte b]
    rw [lowerByte_of_ge (hr b rfl)]

/-- A change of ASCII letters does not show in lower case. -/
theorem toLower_map_lowerByte (t : Tables) (s : List UInt8) :
    toLower t (s.map lowerByte) = toLower t s := by
  have hvalue : ∀ r : Rune, t.toLower (Rune.value (Rune.lower r)) = t.toLower (Rune.value r) := by
    intro r
    cases r with
    | char c =>
      show t.toLower (if c.toNat < 128 then c.toLower else c) = t.toLower c
      split_ifs with hc
      · have hall : ∀ n < 128, (Char.ofNat n).toLower.toLower = (Char.ofNat n).toLower := by decide
        have htwice := hall c.toNat hc
        rw [Char.ofNat_toNat] at htwice
        rw [t.toLower_ascii _ (toLower_lt hc), t.toLower_ascii _ hc, htwice]
      · rfl
    | bad b => rfl
  unfold toLower
  rw [decode_map_lowerByte, List.flatMap_map]
  simp only [hvalue]

theorem toLower_of_ascii (t : Tables) (h : ∀ b ∈ s, b.toNat < 128) :
    toLower t s = s.map lowerByte := by
  unfold toLower
  rw [decode_ascii h, List.flatMap_map]
  induction s with
  | nil => rfl
  | cons b s ih =>
    have hb := h b List.mem_cons_self
    have hchar : (asciiChar b).toNat < 128 := by rw [asciiChar_toNat hb]; exact hb
    have hbyte : UInt8.ofNat (asciiChar b).toNat = b := by
      rw [asciiChar_toNat hb, UInt8.ofNat_toNat]
    rw [List.flatMap_cons, ih (fun c hc => h c (List.mem_cons_of_mem b hc)), List.map_cons]
    show String.utf8EncodeChar (t.toLower (asciiChar b)) ++ _ = _
    rw [t.toLower_ascii _ hchar, encode_ascii (toLower_lt hchar), ← lowerByte_ofNat hchar, hbyte]
    rfl

theorem isSpace_lower (r : Rune) : (Rune.lower r).isSpace = r.isSpace := by
  cases r with
  | char c =>
    show isSpace (if c.toNat < 128 then c.toLower else c) = isSpace c
    split_ifs with hc
    · have hall : ∀ n < 128, isSpace (Char.ofNat n).toLower = isSpace (Char.ofNat n) := by decide
      have hspace := hall c.toNat hc
      rwa [Char.ofNat_toNat] at hspace
    · rfl
  | bad b => rfl

theorem trimRunes_map_lower (rs : List Rune) :
    trimRunes (rs.map Rune.lower) = (trimRunes rs).map Rune.lower := by
  have hspace : Rune.isSpace ∘ Rune.lower = Rune.isSpace := funext isSpace_lower
  unfold trimRunes
  rw [List.dropWhile_map, hspace, ← List.map_reverse, List.dropWhile_map, hspace, ← List.map_reverse]

theorem trimSpace_map_lowerByte (s : List UInt8) :
    trimSpace (s.map lowerByte) = (trimSpace s).map lowerByte := by
  obtain ⟨front, back, hsplit, -, -⟩ := trimRunes_split (decode s)
  have hbad : ∀ r ∈ trimRunes (decode s), ∀ b, r = .bad b → 128 ≤ b.toNat := by
    intro r hr b hb
    have hmem : r ∈ decode s := by
      rw [hsplit]
      exact List.mem_append_left _ (List.mem_append_right _ hr)
    exact bad_of_mem_decode (hb ▸ hmem)
  unfold trimSpace
  rw [decode_map_lowerByte, trimRunes_map_lower, List.map_flatMap, List.flatMap_map]
  exact List.flatMap_congr (fun r hr => bytes_lower r (hbad r hr))

/-! ### Cutting at a byte -/

/-- `strings.Cut` at the first separator; no second part when there is none. -/
def cut (sep : UInt8) : List UInt8 → List UInt8 × Option (List UInt8)
  | [] => ([], none)
  | b :: s => if b = sep then ([], some s) else (b :: (cut sep s).1, (cut sep s).2)

/-- The parts around the last separator. -/
def cutLast (sep : UInt8) (s : List UInt8) : Option (List UInt8 × List UInt8) :=
  match cut sep s.reverse with
  | (after, some before) => some (before.reverse, after.reverse)
  | (_, none) => none

theorem cut_eq (sep : UInt8) (s : List UInt8) :
    s = (cut sep s).1 ++ ((cut sep s).2.elim [] (sep :: ·)) := by
  induction s with
  | nil => rfl
  | cons b s ih =>
    unfold cut
    by_cases h : b = sep
    · simp [h]
    · simp only [h, if_false, List.cons_append]
      exact congrArg (b :: ·) ih

theorem cut_append {sep : UInt8} {a : List UInt8} (h : sep ∉ a) (x : List UInt8) :
    cut sep (a ++ sep :: x) = (a, some x) := by
  induction a with
  | nil => simp [cut]
  | cons b a ih =>
    have hb : b ≠ sep := fun hb => h (hb ▸ List.mem_cons_self ..)
    rw [List.cons_append, cut, if_neg hb, ih (fun ha => h (List.mem_cons_of_mem _ ha))]

/-- Texts that a separator ends are told apart by what follows them, too. -/
theorem append_sep_inj {sep : UInt8} {a b x y : List UInt8} (ha : sep ∉ a) (hb : sep ∉ b)
    (h : a ++ sep :: x = b ++ sep :: y) : a = b ∧ x = y := by
  have hcut := congrArg (cut sep) h
  rw [cut_append ha, cut_append hb] at hcut
  simpa using hcut

/-- Both parts of a storable text are storable. -/
theorem storable_cut (hc : c.toNat < 128) (h0 : c.toNat ≠ 0) (h : Storable s) :
    Storable (cut (byte c) s).1 ∧ ∀ after ∈ (cut (byte c) s).2, Storable after := by
  have heq := cut_eq (byte c) s
  cases hafter : (cut (byte c) s).2 with
  | none =>
    rw [hafter] at heq
    simp only [Option.elim_none, List.append_nil] at heq
    rw [← heq]
    simp [h]
  | some after =>
    rw [hafter] at heq
    rw [heq] at h
    obtain ⟨hbefore, hrest⟩ := (storable_append_ascii _ hc h0 after).mp h
    simp [hbefore, hrest]

end Strings
