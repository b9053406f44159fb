import Mathlib.Data.List.TakeWhile

/-! # UTF-8 over byte lists

    Decoding of a byte list into runes, the way a Go `range` loop over a string
    does it: a well-formed sequence yields its character, and any other byte
    yields an error rune of width one. The decoder for a single character is the
    one of the standard library; here it is iterated over a whole byte list, and
    validity is related to being an encoding.
-/

namespace Utf8

/-- Byte lists are compared by their bytes. -/
instance lawfulBEq_bytes : LawfulBEq (List UInt8) := inferInstance

/-- What is true of the numbers below 256 is true of all bytes. -/
theorem forall_byte {P : UInt8 → Prop} (h : ∀ n < 256, P (UInt8.ofNat n)) (b : UInt8) : P b := by
  have hb := h b.toNat b.toNat_lt
  rwa [UInt8.ofNat_toNat] at hb

/-! ### Decoding -/

/-- One step of a decoder: a character, or a byte that starts no character. -/
inductive Rune where
  | char (c : Char)
  | bad (b : UInt8)
  deriving DecidableEq, Repr

/-- The bytes a rune was decoded from. -/
def Rune.bytes : Rune → List UInt8
  | .char c => String.utf8EncodeChar c
  | .bad b => [b]

def Rune.isChar : Rune → Bool
  | .char _ => true
  | .bad _ => false

/-- The character at the front of a byte list, if the front is well formed. -/
def decodeChar? (bs : List UInt8) : Option Char := bs.toByteArray.utf8DecodeChar? 0

def decodeFuel : Nat → List UInt8 → List Rune
  | 0, _ => []
  | _ + 1, [] => []
  | n + 1, b :: bs =>
    match decodeChar? (b :: bs) with
    | some c => .char c :: decodeFuel n ((b :: bs).drop c.utf8Size)
    | none => .bad b :: decodeFuel n bs

/-- All runes of a byte list; every step consumes at least one byte. -/
def decode (bs : List UInt8) : List Rune := decodeFuel bs.length bs

theorem decodeChar?_encode_append (c : Char) (t : List UInt8) :
    decodeChar? (String.utf8EncodeChar c ++ t) = some c := by
  unfold decodeChar?
  rw [List.toByteArray_append]
  exact ByteArray.utf8DecodeChar?_utf8EncodeChar_append

variable {bs : List UInt8} {c : Char} {b : UInt8} {xs ys : List Rune}

theorem exists_append_of_decodeChar? (h : decodeChar? bs = some c) :
    ∃ t, bs = String.utf8EncodeChar c ++ t := by
  have hb := ByteArray.eq_of_utf8DecodeChar?_eq_some h
  have hl := congrArg (fun b => b.data.toList) hb
  simp only [List.data_toByteArray, ByteArray.data_append, Array.toList_append] at hl
  exact ⟨_, hl⟩

/-- The encoding of a character is never empty. -/
theorem encode_ne_nil (c : Char) : String.utf8EncodeChar c ≠ [] := by
  intro h
  have hlen := String.length_utf8EncodeChar c
  have hpos := c.utf8Size_pos
  rw [h, List.length_nil] at hlen
  omega

theorem drop_encode_append (c : Char) (t : List UInt8) :
    (String.utf8EncodeChar c ++ t).drop c.utf8Size = t := by
  rw [← String.length_utf8EncodeChar c, List.drop_left]

theorem length_encode_append (c : Char) (t : List UInt8) :
    ∃ k, (String.utf8EncodeChar c ++ t).length = k + 1 ∧ t.length ≤ k := by
  have hpos := c.utf8Size_pos
  rw [List.length_append, String.length_utf8EncodeChar]
  exact ⟨c.utf8Size - 1 + t.length, by omega, by omega⟩

theorem decodeFuel_encode (n : Nat) (c : Char) (t : List UInt8) :
    decodeFuel (n + 1) (String.utf8EncodeChar c ++ t) = .char c :: decodeFuel n t := by
  have hdec := decodeChar?_encode_append c t
  have hdrop := drop_encode_append c t
  cases hb : String.utf8EncodeChar c ++ t with
  | nil => exact absurd (List.append_eq_nil_iff.mp hb).1 (encode_ne_nil c)
  | cons b bs =>
    rw [hb] at hdec hdrop
    simp only [decodeFuel, hdec, hdrop]

/-- Induction along the decoder: every byte list is empty, or starts with the
    encoding of a character, or starts with a bad byte. -/
theorem decode_induction {P : List UInt8 → Prop} (nil : P [])
    (char : ∀ c t, P t → P (String.utf8EncodeChar c ++ t))
    (bad : ∀ b t, decodeChar? (b :: t) = none → P t → P (b :: t)) (bs : List UInt8) : P bs := by
  have key : ∀ (n : Nat) (bs : List UInt8), bs.length ≤ n → P bs := by
    intro n
    induction n with
    | zero =>
      intro bs h
      have : bs = [] := List.length_eq_zero_iff.mp (by omega)
      exact this ▸ nil
    | succ n ih =>
      intro bs h
      cases bs with
      | nil => exact nil
      | cons b t =>
        cases hc : decodeChar? (b :: t) with
        | none =>
          simp only [List.length_cons] at h
          exact bad b t hc (ih t (by omega))
        | some c =>
          obtain ⟨u, hu⟩ := exists_append_of_decodeChar? hc
          obtain ⟨k, hk, hle⟩ := length_encode_append c u
          rw [hu] at h ⊢
          exact char c u (ih u (by omega))
  exact key bs.length bs (Nat.le_refl _)

/-- Fuel beyond the length of the input changes nothing. -/
theorem decodeFuel_eq_decode (n : Nat) (h : bs.length ≤ n) : decodeFuel n bs = decode bs := by
  -- On both sides the step leaves the same bytes and enough fuel for them.
  induction bs using decode_induction generalizing n with
  | nil => cases n <;> rfl
  | char c t ih =>
    obtain ⟨k, hk, hle⟩ := length_encode_append c t
    obtain ⟨n, rfl⟩ : ∃ m, n = m + 1 := ⟨n - 1, by omega⟩
    rw [decode, hk, decodeFuel_encode, decodeFuel_encode, ih n (by omega), ih k hle]
  | bad b t hb ih =>
    rw [List.length_cons] at h
    obtain ⟨n, rfl⟩ : ∃ m, n = m + 1 := ⟨n - 1, by omega⟩
    simp only [decode, List.length_cons, decodeFuel, hb, ih n (by omega)]

@[simp] theorem decode_nil : decode [] = [] := rfl

/-- A well-formed sequence decodes to its character. -/
@[simp] theorem decode_encode_append (c : Char) (t : List UInt8) :
    decode (String.utf8EncodeChar c ++ t) = .char c :: decode t := by
  obtain ⟨k, hk, hle⟩ := length_encode_append c t
  rw [decode, hk, decodeFuel_encode, decodeFuel_eq_decode k hle]

/-- A byte that starts no character is one error rune. -/
theorem decode_bad (h : decodeChar? (b :: bs) = none) : decode (b :: bs) = .bad b :: decode bs := by
  simp only [decode, List.length_cons, decodeFuel, h]

/-- Decoding loses nothing: the bytes of the runes are the bytes decoded. -/
theorem bytes_decode (bs : List UInt8) : (decode bs).flatMap Rune.bytes = bs := by
  induction bs using decode_induction with
  | nil => rfl
  | char c t ih => rw [decode_encode_append, List.flatMap_cons, ih]; rfl
  | bad b t h ih => rw [decode_bad h, List.flatMap_cons, ih]; rfl

/-! ### Validity -/

/-- The byte list is well-formed UTF-8. -/
def Valid (bs : List UInt8) : Prop := ∀ r ∈ decode bs, r.isChar = true

instance (bs : List UInt8) : Decidable (Valid bs) :=
  inferInstanceAs (Decidable (∀ r ∈ decode bs, r.isChar = true))

@[simp] theorem valid_nil : Valid [] := by
  intro r hr
  cases hr

@[simp] theorem valid_encode_append (c : Char) (t : List UInt8) :
    Valid (String.utf8EncodeChar c ++ t) ↔ Valid t := by
  unfold Valid
  rw [decode_encode_append, List.forall_mem_cons]
  exact ⟨fun h => h.2, fun h => ⟨rfl, h⟩⟩

/-- The well-formed byte lists are the encodings of character lists. -/
theorem valid_iff_encoding (bs : List UInt8) :
    Valid bs ↔ ∃ cs : List Char, bs = cs.flatMap String.utf8EncodeChar := by
  induction bs using decode_induction with
  | nil => exact ⟨fun _ => ⟨[], rfl⟩, fun _ => valid_nil⟩
  | char c t ih =>
    rw [valid_encode_append, ih]
    constructor
    · rintro ⟨cs, rfl⟩
      exact ⟨c :: cs, rfl⟩
    · rintro ⟨cs, hcs⟩
      cases cs with
      | nil => exact absurd (List.append_eq_nil_iff.mp hcs).1 (encode_ne_nil c)
      | cons d ds =>
        have hd := congrArg decode hcs
        rw [List.flatMap_cons, decode_encode_append, decode_encode_append] at hd
        obtain ⟨-, htl⟩ := List.cons.inj hd
        exact ⟨ds, by rw [← bytes_decode t, htl, bytes_decode]⟩
  | bad b t h ih =>
    constructor
    · intro hv
      have := hv (.bad b) (by rw [decode_bad h]; exact List.mem_cons_self)
      cases this
    · rintro ⟨cs, hcs⟩
      cases cs with
      | nil => cases hcs
      | cons d ds =>
        rw [hcs, List.flatMap_cons, decodeChar?_encode_append] at h
        cases h

/-! ### Runs of runes

    A sublist of consecutive runes of a decoded text decodes to itself again, so
    cutting a text between runes neither creates nor hides an error rune. -/

/-- Re-encoding these runes and decoding the result gives them back. -/
def Stable (rs : List Rune) : Prop := decode (rs.flatMap Rune.bytes) = rs

theorem stable_decode (bs : List UInt8) : Stable (decode bs) := by
  unfold Stable
  rw [bytes_decode]

/-- A byte that starts no character in a longer text starts none in a shorter one. -/
theorem decodeChar?_none_of_append {t : List UInt8} (h : decodeChar? (bs ++ t) = none) :
    decodeChar? bs = none := by
  cases hc : decodeChar? bs with
  | none => rfl
  | some c =>
    obtain ⟨u, rfl⟩ := exists_append_of_decodeChar? hc
    rw [List.append_assoc, decodeChar?_encode_append] at h
    cases h

/-- The two ways a stable list of runes can start. -/
theorem stable_cons {r : Rune} {rs : List Rune} (h : Stable (r :: rs)) :
    Stable rs ∧ (∀ b, r = .bad b → decodeChar? (b :: rs.flatMap Rune.bytes) = none) := by
  unfold Stable at h
  rw [List.flatMap_cons] at h
  cases r with
  | char c =>
    rw [Rune.bytes, decode_encode_append] at h
    exact ⟨(List.cons.inj h).2, fun b hb => by cases hb⟩
  | bad b =>
    rw [Rune.bytes, List.singleton_append] at h
    cases hc : decodeChar? (b :: rs.flatMap Rune.bytes) with
    | none =>
      rw [decode_bad hc] at h
      exact ⟨(List.cons.inj h).2, fun b' hb => by cases hb; exact hc⟩
    | some c =>
      obtain ⟨u, hu⟩ := exists_append_of_decodeChar? hc
      rw [hu, decode_encode_append] at h
      cases (List.cons.inj h).1

theorem Stable.of_append_right (h : Stable (xs ++ ys)) : Stable ys := by
  induction xs with
  | nil => exact h
  | cons x xs ih => exact ih (stable_cons h).1

theorem Stable.of_append_left (h : Stable (xs ++ ys)) : Stable xs := by
  induction xs with
  | nil => rfl
  | cons x xs ih =>
    rw [List.cons_append] at h
    obtain ⟨htl, hbad⟩ := stable_cons h
    have hxs : decode (xs.flatMap Rune.bytes) = xs := ih htl
    unfold Stable
    rw [List.flatMap_cons]
    cases x with
    | char c => rw [Rune.bytes, decode_encode_append, hxs]
    | bad b =>
      have hnone := hbad b rfl
      rw [List.flatMap_append, ← List.cons_append] at hnone
      rw [Rune.bytes, List.singleton_append, decode_bad (decodeChar?_none_of_append hnone), hxs]

/-! ### Trimming white space -/

/-- `unicode.IsSpace`. -/
def isSpace (c : Char) : Bool :=
  [0x09, 0x0a, 0x0b, 0x0c, 0x0d, 0x20, 0x85, 0xa0, 0x1680, 0x2028, 0x2029, 0x202f, 0x205f,
    0x3000].contains c.toNat || (0x2000 ≤ c.toNat && c.toNat ≤ 0x200a)

def Rune.isSpace : Rune → Bool
  | .char c => Utf8.isSpace c
  | .bad _ => false

/-- The runes between the leading and the trailing white space. -/
def trimRunes (rs : List Rune) : List Rune :=
  ((rs.dropWhile Rune.isSpace).reverse.dropWhile Rune.isSpace).reverse

/-- `strings.TrimSpace`. -/
def trimSpace (bs : List UInt8) : List UInt8 := (trimRunes (decode bs)).flatMap Rune.bytes

/-- What trimming cuts off is white space on both sides. -/
theorem trimRunes_split (rs : List Rune) : ∃ pre post,
    rs = pre ++ trimRunes rs ++ post ∧ (∀ r ∈ pre, r.isSpace = true) ∧
      ∀ r ∈ post, r.isSpace = true := by
  refine ⟨rs.takeWhile Rune.isSpace,
    ((rs.dropWhile Rune.isSpace).reverse.takeWhile Rune.isSpace).reverse, ?_, ?_, ?_⟩
  · have hrev := List.takeWhile_append_dropWhile (p := Rune.isSpace)
      (l := (rs.dropWhile Rune.isSpace).reverse)
    have hcore := congrArg List.reverse hrev
    rw [List.reverse_append, List.reverse_reverse] at hcore
    rw [List.append_assoc, trimRunes, hcore, List.takeWhile_append_dropWhile]
  · intro r hr
    exact List.mem_takeWhile_imp hr
  · intro r hr
    exact List.mem_takeWhile_imp (List.mem_reverse.mp hr)

theorem decode_trimSpace (bs : List UInt8) : decode (trimSpace bs) = trimRunes (decode bs) := by
  obtain ⟨pre, post, hsplit, -, -⟩ := trimRunes_split (decode bs)
  have hst := stable_decode bs
  rw [hsplit] at hst
  exact hst.of_append_left.of_append_right

/-! ### ASCII separators -/

/-- An ASCII character is encoded as itself. -/
theorem encode_ascii (h : c.toNat < 128) : String.utf8EncodeChar c = [UInt8.ofNat c.toNat] := by
  have hle : c.val.toNat ≤ 127 := by
    change c.toNat ≤ 127
    omega
  simp only [String.utf8EncodeChar, hle, if_true]
  rfl

/-- The bytes after the first are continuation bytes. -/
theorem encode_tail (h : b ∈ (String.utf8EncodeChar c).tail) : 128 ≤ b.toNat ∧ b.toNat < 192 := by
  have hof : ∀ n : Nat, (UInt8.ofNat n).toNat = n % 256 := fun n => UInt8.toNat_ofNat'
  simp only [String.utf8EncodeChar] at h
  split_ifs at h <;> simp only [List.tail_cons, List.mem_cons, List.not_mem_nil, or_false] at h
  · rw [h, hof]; omega
  · rcases h with h | h <;> rw [h, hof] <;> omega
  · rcases h with h | h | h <;> rw [h, hof] <;> omega

/-- The encoding of a character beyond ASCII has no ASCII byte. -/
theorem encode_ge (hc : 128 ≤ c.toNat) (h : b ∈ String.utf8EncodeChar c) : 128 ≤ b.toNat := by
  have hof : ∀ n : Nat, (UInt8.ofNat n).toNat = n % 256 := fun n => UInt8.toNat_ofNat'
  change 128 ≤ c.val.toNat at hc
  simp only [String.utf8EncodeChar] at h
  split_ifs at h <;> simp only [List.mem_cons, List.not_mem_nil, or_false] at h
  · omega
  · rcases h with h | h <;> rw [h, hof] <;> omega
  · rcases h with h | h | h <;> rw [h, hof] <;> omega
  · rcases h with h | h | h | h <;> rw [h, hof] <;> omega

/-- A bad byte stays bad when ASCII follows. -/
theorem decodeChar?_append_ascii {s : List UInt8} (h : decodeChar? (b :: s) = none) {c : UInt8}
    (hc : c.toNat < 128) (t : List UInt8) : decodeChar? (b :: (s ++ c :: t)) = none := by
  cases hd : decodeChar? (b :: (s ++ c :: t)) with
  | none => rfl
  | some ch =>
    exfalso
    obtain ⟨u, hu⟩ := exists_append_of_decodeChar? hd
    rw [← List.cons_append] at hu
    -- Either the encoding ends before `c`, or it contains `c` as a later byte.
    rcases List.append_eq_append_iff.mp hu with ⟨w, hw, hct⟩ | ⟨w, hw, -⟩
    · cases w with
      | nil =>
        have hdec := decodeChar?_encode_append ch []
        rw [List.append_nil, hw, List.append_nil, h] at hdec
        cases hdec
      | cons x w =>
        have hx : c = x := (List.cons.inj hct).1
        have hmem : c ∈ (String.utf8EncodeChar ch).tail := by
          rw [hw, hx]
          simp
        have := (encode_tail hmem).1
        omega
    · rw [hw, decodeChar?_encode_append] at h
      cases h

/-- An ASCII byte always stands for itself, and what is before it decodes as if
    nothing followed. -/
theorem decode_append_ascii (a : List UInt8) (hc : c.toNat < 128) (b : List UInt8) :
    decode (a ++ UInt8.ofNat c.toNat :: b) = decode a ++ .char c :: decode b := by
  have hbyte : (UInt8.ofNat c.toNat).toNat < 128 := by
    rw [UInt8.toNat_ofNat']
    omega
  have hencode : String.utf8EncodeChar c = [UInt8.ofNat c.toNat] := encode_ascii hc
  induction a using decode_induction with
  | nil =>
    have hdec := decode_encode_append c b
    rwa [hencode] at hdec
  | char ch t ih =>
    rw [List.append_assoc, decode_encode_append, ih, decode_encode_append, List.cons_append]
  | bad x t hx ih =>
    rw [List.cons_append, decode_bad (decodeChar?_append_ascii hx hbyte b), ih, decode_bad hx,
      List.cons_append]

theorem Stable.append_ascii (hx : Stable xs) (hc : c.toNat < 128) (hy : Stable ys) :
    Stable (xs ++ .char c :: ys) := by
  unfold Stable at *
  have hbytes : (xs ++ .char c :: ys).flatMap Rune.bytes =
      xs.flatMap Rune.bytes ++ UInt8.ofNat c.toNat :: ys.flatMap Rune.bytes := by
    simp [Rune.bytes, encode_ascii hc]
  rw [hbytes, decode_append_ascii _ hc, hx, hy]

/-! ### Storable text -/

/-- What a UTF-8 database accepts as text: well formed and without NUL. -/
def Storable (bs : List UInt8) : Prop := Valid bs ∧ 0 ∉ bs

instance (bs : List UInt8) : Decidable (Storable bs) :=
  inferInstanceAs (Decidable (Valid bs ∧ 0 ∉ bs))

/-- Storability is a condition on each rune. -/
def Rune.storable : Rune → Bool
  | .char c => c.toNat ≠ 0
  | .bad _ => false

/-- Only NUL itself has a zero byte in its encoding. -/
theorem zero_mem_encode_iff (c : Char) : 0 ∈ String.utf8EncodeChar c ↔ c.toNat = 0 := by
  by_cases hc : c.toNat < 128
  · rw [encode_ascii hc, List.mem_singleton, ← UInt8.toNat_inj, UInt8.toNat_ofNat']
    change 0 = _ ↔ _
    omega
  · have hbytes : 0 ∉ String.utf8EncodeChar c := fun h => absurd (encode_ge (by omega) h) (by decide)
    exact iff_of_false hbytes (by omega)

theorem storable_iff (bs : List UInt8) : Storable bs ↔ ∀ r ∈ decode bs, r.storable = true := by
  have hzero : 0 ∈ bs ↔ ∃ r ∈ decode bs, 0 ∈ r.bytes := by
    rw [← List.mem_flatMap, bytes_decode]
  unfold Storable Valid
  rw [hzero]
  constructor
  · intro ⟨hv, hz⟩ r hr
    cases r with
    | char c =>
      have hc : c.toNat ≠ 0 := fun h => hz ⟨_, hr, (zero_mem_encode_iff c).mpr h⟩
      simpa [Rune.storable] using hc
    | bad b => exact absurd (hv _ hr) (by simp [Rune.isChar])
  · intro h
    constructor
    · intro r hr
      cases r with
      | char c => rfl
      | bad b => exact absurd (h _ hr) (by simp [Rune.storable])
    · rintro ⟨r, hr, hz⟩
      cases r with
      | char c =>
        have hc := (zero_mem_encode_iff c).mp hz
        exact absurd (h _ hr) (by simp [Rune.storable, hc])
      | bad b => exact absurd (h _ hr) (by simp [Rune.storable])

/-- Encoded characters are text unless one of them is NUL. -/
theorem storable_encode {β : Type} (l : List β) (f : β → Char) :
    Storable (l.flatMap (fun x => String.utf8EncodeChar (f x))) ↔ ∀ x ∈ l, (f x).toNat ≠ 0 := by
  have hdecode : decode (l.flatMap (fun x => String.utf8EncodeChar (f x))) =
      l.map (fun x => Rune.char (f x)) := by
    induction l with
    | nil => rfl
    | cons x l ih => rw [List.flatMap_cons, decode_encode_append, ih, List.map_cons]
  rw [storable_iff, hdecode]
  simp [Rune.storable]

/-- Text is storable when both sides of an ASCII separator are. -/
theorem storable_append_ascii (a : List UInt8) (hc : c.toNat < 128) (h0 : c.toNat ≠ 0)
    (b : List UInt8) : Storable (a ++ UInt8.ofNat c.toNat :: b) ↔ Storable a ∧ Storable b := by
  rw [storable_iff, storable_iff, storable_iff, decode_append_ascii a hc]
  simp only [List.forall_mem_append, List.forall_mem_cons, Rune.storable, h0, ne_eq,
    not_false_eq_true, decide_true, true_and]

theorem Rune.storable_of_isSpace {r : Rune} (h : r.isSpace = true) : r.storable = true := by
  cases r with
  | bad b => cases h
  | char c =>
    have hc : c.toNat ≠ 0 := by
      intro h0
      simp [Rune.isSpace, Utf8.isSpace, h0] at h
    simpa [Rune.storable] using hc

/-- Trimming neither helps nor hurts: white space is storable. -/
@[simp] theorem storable_trimSpace (bs : List UInt8) : Storable (trimSpace bs) ↔ Storable bs := by
  rw [storable_iff, storable_iff, decode_trimSpace]
  obtain ⟨pre, post, hsplit, hpre, hpost⟩ := trimRunes_split (decode bs)
  constructor
  · intro h r hr
    rw [hsplit, List.mem_append, List.mem_append] at hr
    rcases hr with (hr | hr) | hr
    · exact Rune.storable_of_isSpace (hpre r hr)
    · exact h r hr
    · exact Rune.storable_of_isSpace (hpost r hr)
  · intro h r hr
    apply h
    rw [hsplit, List.mem_append, List.mem_append]
    exact .inl (.inr hr)

end Utf8
