import DomainMonitor.Lib.Encoding
import DomainMonitor.Lib.Utf8

/-! # JSON texts

    JSON values whose strings and numbers keep the text they were written in, so
    that a value and a spacing determine a byte string.

    - `text`: the bytes of a value in a given spacing;
    - `parse`: the value of a byte string (RFC 8259, any white space);
    - `span`: the bytes of the value at the front of a byte string, found by
      counting brackets, the way `encoding/json` cuts out a `RawMessage`;
    - `escapeHTML`: what `encoding/json` does to the strings of a raw message it
      writes out.

    The main result is `span_text`: however a value is spaced, `span` finds its
    end. Two texts that put the same value boundary in different places therefore
    differ (`text_append_inj`).
-/

namespace Json

/-! ### Tokens -/

/-- What may stand between the quotes of a string: no quote, no control
    character, and only the escapes of the grammar. -/
def isBody : List UInt8 → Bool
  | [] => true
  | 92 :: 117 :: a :: b :: c :: d :: rest =>
    [a, b, c, d].all (fun h => (Encoding.hexValue? h).isSome) && isBody rest
  | 92 :: e :: rest => [34, 92, 47, 98, 102, 110, 114, 116].contains e && isBody rest
  | b :: rest => 32 ≤ b && b ≠ 34 && b ≠ 92 && isBody rest

/-- A string as it is written. -/
structure Str where
  raw : List UInt8
  body : isBody raw = true
  deriving DecidableEq

def quote (s : Str) : List UInt8 := 34 :: (s.raw ++ [34])

def isDigit (b : UInt8) : Bool := 48 ≤ b && b ≤ 57

/-- The bytes numbers are made of. -/
def isNumberByte (b : UInt8) : Bool :=
  isDigit b || b = 43 || b = 45 || b = 46 || b = 69 || b = 101

/-- The exponent of a number, or nothing. -/
def isExponent : List UInt8 → Bool
  | [] => true
  | e :: rest =>
    let digits := match rest with
      | 43 :: ds | 45 :: ds => ds
      | ds => ds
    (e = 69 || e = 101) && digits ≠ [] && digits.all isDigit

/-- The fraction and exponent of a number, or nothing. -/
def isFraction : List UInt8 → Bool
  | 46 :: rest => rest.takeWhile isDigit ≠ [] && isExponent (rest.dropWhile isDigit)
  | rest => isExponent rest

/-- The grammar of numbers. -/
def isNumber (text : List UInt8) : Bool :=
  let unsigned := match text with
    | 45 :: rest => rest
    | rest => rest
  let digits := unsigned.takeWhile isDigit
  text.all isNumberByte && digits ≠ [] && (digits.head? ≠ some 48 || digits.length = 1) &&
    isFraction (unsigned.dropWhile isDigit)

/-- A number as it is written. -/
structure Num where
  text : List UInt8
  number : isNumber text = true
  deriving DecidableEq

/-! ### Values -/

inductive Value where
  | null
  | bool (b : Bool)
  | num (n : Num)
  | str (s : Str)
  | arr (items : List Value)
  | obj (members : List (Str × Value))

/-- What is written between the items of an array or object, and between a key
    and its value. -/
structure Spacing where
  comma : List UInt8
  colon : List UInt8

/-- No spacing at all. -/
def compact : Spacing where
  comma := [44]
  colon := [58]

/-- A blank after every comma and colon. -/
def spaced : Spacing where
  comma := [44, 32]
  colon := [58, 32]

mutual

/-- The bytes of a value. -/
def text (sp : Spacing) : Value → List UInt8
  | .null => [110, 117, 108, 108]
  | .bool true => [116, 114, 117, 101]
  | .bool false => [102, 97, 108, 115, 101]
  | .num n => n.text
  | .str s => quote s
  | .arr items => 91 :: (itemsText sp items ++ [93])
  | .obj members => 123 :: (membersText sp members ++ [125])

def itemsText (sp : Spacing) : List Value → List UInt8
  | [] => []
  | v :: rest => text sp v ++ itemsTail sp rest

def itemsTail (sp : Spacing) : List Value → List UInt8
  | [] => []
  | v :: rest => sp.comma ++ (text sp v ++ itemsTail sp rest)

def membersText (sp : Spacing) : List (Str × Value) → List UInt8
  | [] => []
  | (k, v) :: rest => quote k ++ (sp.colon ++ (text sp v ++ membersTail sp rest))

def membersTail (sp : Spacing) : List (Str × Value) → List UInt8
  | [] => []
  | (k, v) :: rest => sp.comma ++ (quote k ++ (sp.colon ++ (text sp v ++ membersTail sp rest)))

end

/-! ### Parsing -/

def skipSpace (s : List UInt8) : List UInt8 :=
  s.dropWhile (fun b => b = 32 || b = 9 || b = 10 || b = 13)

/-- The rest of a string up to its closing quote, and what follows it. -/
def splitString : List UInt8 → Option (List UInt8 × List UInt8)
  | [] => none
  | 34 :: rest => some ([], rest)
  | 92 :: c :: rest => (splitString rest).map (fun p => (92 :: c :: p.1, p.2))
  | b :: rest => (splitString rest).map (fun p => (b :: p.1, p.2))

def parseString (s : List UInt8) : Option (Str × List UInt8) :=
  match s with
  | 34 :: rest =>
    (splitString rest).bind (fun p =>
      if h : isBody p.1 = true then some (⟨p.1, h⟩, p.2) else none)
  | _ => none

def parseNumber (s : List UInt8) : Option (Value × List UInt8) :=
  let token := s.takeWhile isNumberByte
  if h : isNumber token = true then some (.num ⟨token, h⟩, s.dropWhile isNumberByte) else none

mutual

/-- A value at the front of a text, and what follows it. The first argument
    bounds the number of calls. -/
def parseValue : Nat → List UInt8 → Option (Value × List UInt8)
  | 0, _ => none
  | n + 1, s =>
    match skipSpace s with
    | 110 :: 117 :: 108 :: 108 :: rest => some (.null, rest)
    | 116 :: 114 :: 117 :: 101 :: rest => some (.bool true, rest)
    | 102 :: 97 :: 108 :: 115 :: 101 :: rest => some (.bool false, rest)
    | 34 :: rest => (parseString (34 :: rest)).map (fun p => (.str p.1, p.2))
    | 91 :: rest =>
      match skipSpace rest with
      | 93 :: rest => some (.arr [], rest)
      | rest => (parseItems n rest).map (fun p => (.arr p.1, p.2))
    | 123 :: rest =>
      match skipSpace rest with
      | 125 :: rest => some (.obj [], rest)
      | rest => (parseMembers n rest).map (fun p => (.obj p.1, p.2))
    | rest => parseNumber rest

/-- The items of an array up to the closing bracket. -/
def parseItems : Nat → List UInt8 → Option (List Value × List UInt8)
  | 0, _ => none
  | n + 1, s => do
    let (v, rest) ← parseValue n s
    match skipSpace rest with
    | 44 :: rest => (parseItems n rest).map (fun p => (v :: p.1, p.2))
    | 93 :: rest => some ([v], rest)
    | _ => none

/-- The members of an object up to the closing brace. -/
def parseMembers : Nat → List UInt8 → Option (List (Str × Value) × List UInt8)
  | 0, _ => none
  | n + 1, s => do
    let (k, rest) ← parseString (skipSpace s)
    match skipSpace rest with
    | 58 :: rest => do
      let (v, rest) ← parseValue n rest
      match skipSpace rest with
      | 44 :: rest => (parseMembers n rest).map (fun p => ((k, v) :: p.1, p.2))
      | 125 :: rest => some ([(k, v)], rest)
      | _ => none
    | _ => none

end

/-- The value of a whole text. -/
def parse (s : List UInt8) : Option Value := do
  let (v, rest) ← parseValue (2 * s.length + 2) s
  if skipSpace rest = [] then some v else none

/-! ### Cutting out a value -/

/-- Puts bytes in front of the first part. -/
def consumed (front : List UInt8) (o : Option (List UInt8 × List UInt8)) :
    Option (List UInt8 × List UInt8) :=
  o.map (fun p => (front ++ p.1, p.2))

/-- Where a scanner is: between tokens, in a string, or after a backslash in one. -/
inductive Mode where
  | outside | inside | escaped
  deriving DecidableEq

/-- The bytes up to the bracket that closes the `depth + 1` open ones. Brackets
    inside strings do not count. -/
def scan : (depth : Nat) → Mode → List UInt8 → Option (List UInt8 × List UInt8)
  | _, _, [] => none
  | depth, .escaped, b :: rest => consumed [b] (scan depth .inside rest)
  | depth, .inside, b :: rest =>
    consumed [b] (scan depth (if b = 92 then .escaped else if b = 34 then .outside else .inside) rest)
  | depth, .outside, b :: rest =>
    if b = 34 then consumed [b] (scan depth .inside rest)
    else if b = 91 ∨ b = 123 then consumed [b] (scan (depth + 1) .outside rest)
    else if b = 93 ∨ b = 125 then
      if depth = 0 then some ([b], rest) else consumed [b] (scan (depth - 1) .outside rest)
    else consumed [b] (scan depth .outside rest)

/-- A byte that ends a number or a literal. -/
def isDelimiter (b : UInt8) : Bool :=
  b = 44 || b = 93 || b = 125 || b = 32 || b = 9 || b = 10 || b = 13

/-- The bytes of the value at the front, and what follows it. -/
def span (s : List UInt8) : Option (List UInt8 × List UInt8) :=
  match s with
  | [] => none
  | b :: rest =>
    if b = 34 then (splitString rest).map (fun p => (34 :: (p.1 ++ [34]), p.2))
    else if b = 91 ∨ b = 123 then consumed [b] (scan 0 .outside rest)
    else some (s.takeWhile (!isDelimiter ·), s.dropWhile (!isDelimiter ·))

@[simp] theorem consumed_consumed (a b : List UInt8) (o : Option (List UInt8 × List UInt8)) :
    consumed a (consumed b o) = consumed (a ++ b) o := by
  unfold consumed
  rw [Option.map_map]
  congr 1
  funext p
  simp

@[simp] theorem consumed_nil (o : Option (List UInt8 × List UInt8)) : consumed [] o = o := by
  simp [consumed]

/-! ### Strings end at their quote -/

/-- Every backslash has a byte after it, and no other byte is a quote: what a
    scanner needs to know about the body of a string. -/
def isClosed : List UInt8 → Bool
  | [] => true
  | 92 :: _ :: rest => isClosed rest
  | b :: rest => b ≠ 34 && b ≠ 92 && isClosed rest

theorem isClosed_cons {b : UInt8} {rest : List UInt8} (hquote : b ≠ 34) (hslash : b ≠ 92) :
    isClosed (b :: rest) = isClosed rest := by
  rw [isClosed]
  · simp [hquote, hslash]
  · intro _ _ h
    exact absurd h hslash

variable {bytes n : List UInt8} {c : UInt8}

theorem hexValue_ne (h : (Encoding.hexValue? c).isSome = true) : c ≠ 34 ∧ c ≠ 92 := by
  constructor
  · rintro rfl
    exact absurd h (by decide)
  · rintro rfl
    exact absurd h (by decide)

variable {r : List UInt8} {sp : Spacing}

theorem isClosed_of_isBody (h : isBody r = true) : isClosed r = true := by
  fun_induction isBody r with
  | case1 => rfl
  | case2 a b c d rest ih =>
    simp only [List.all_cons, List.all_nil, Bool.and_true, Bool.and_eq_true] at h
    obtain ⟨⟨ha, hb, hc, hd⟩, hrest⟩ := h
    obtain ⟨ha, ha'⟩ := hexValue_ne ha
    obtain ⟨hb, hb'⟩ := hexValue_ne hb
    obtain ⟨hc, hc'⟩ := hexValue_ne hc
    obtain ⟨hd, hd'⟩ := hexValue_ne hd
    rw [isClosed, isClosed_cons ha ha', isClosed_cons hb hb', isClosed_cons hc hc',
      isClosed_cons hd hd']
    exact ih hrest
  | case3 e rest _ ih =>
    rw [Bool.and_eq_true] at h
    rw [isClosed]
    exact ih h.2
  | case4 b rest _ _ ih =>
    simp only [Bool.and_eq_true, decide_eq_true_eq, ne_eq] at h
    obtain ⟨⟨⟨-, hquote⟩, hslash⟩, hrest⟩ := h
    rw [isClosed_cons hquote hslash]
    exact ih hrest

theorem splitString_closed (h : isClosed r = true) (rest : List UInt8) :
    splitString (r ++ 34 :: rest) = some (r, rest) := by
  fun_induction isClosed r with
  | case1 => rfl
  | case2 c r ih => 
    rw [List.cons_append, List.cons_append, splitString, ih h]
    rfl
  | case3 b r hne ih =>
    simp only [Bool.and_eq_true, decide_eq_true_eq, ne_eq] at h
    obtain ⟨⟨hquote, hslash⟩, hrest⟩ := h
    rw [List.cons_append, splitString, ih hrest]
    · rfl
    · exact fun h => hquote h
    · exact fun _ _ h => absurd h hslash

theorem scan_closed (h : isClosed r = true) (depth : Nat) (rest : List UInt8) :
    scan depth .inside (r ++ 34 :: rest) = consumed (r ++ [34]) (scan depth .outside rest) := by
  fun_induction isClosed r with
  | case1 => rfl
  | case2 c r ih =>
    rw [List.cons_append, List.cons_append, scan, if_pos rfl, scan, ih h, consumed_consumed,
      consumed_consumed]
    rfl
  | case3 b r hne ih =>
    simp only [Bool.and_eq_true, decide_eq_true_eq, ne_eq] at h
    obtain ⟨⟨hquote, hslash⟩, hrest⟩ := h
    rw [List.cons_append, scan, if_neg hslash, if_neg hquote, ih hrest, consumed_consumed]
    rfl

theorem scan_quote (s : Str) (depth : Nat) (rest : List UInt8) :
    scan depth .outside (quote s ++ rest) = consumed (quote s) (scan depth .outside rest) := by
  have hclosed := isClosed_of_isBody s.body
  have hassoc : quote s ++ rest = 34 :: (s.raw ++ 34 :: rest) := by simp [quote]
  rw [hassoc, scan, if_pos rfl, scan_closed hclosed, consumed_consumed]
  rfl

/-! ### Brackets balance -/

/-- A byte that neither opens a string nor opens or closes a bracket. -/
def isPlain (b : UInt8) : Bool := b ≠ 34 && b ≠ 91 && b ≠ 123 && b ≠ 93 && b ≠ 125

theorem scan_plain (h : bytes.all isPlain = true) (depth : Nat) (rest : List UInt8) :
    scan depth .outside (bytes ++ rest) = consumed bytes (scan depth .outside rest) := by
  induction bytes with
  | nil => simp
  | cons b bytes ih =>
    rw [List.all_cons, Bool.and_eq_true] at h
    obtain ⟨hb, hbytes⟩ := h
    simp only [isPlain, Bool.and_eq_true, decide_eq_true_eq, ne_eq] at hb
    obtain ⟨⟨⟨⟨h34, h91⟩, h123⟩, h93⟩, h125⟩ := hb
    rw [List.cons_append, scan, if_neg h34, if_neg (by simp [h91, h123]),
      if_neg (by simp [h93, h125]), ih hbytes, consumed_consumed]
    rfl

/-- Numbers are made of bytes that are neither brackets nor quotes nor delimiters. -/
theorem number_token (h : isNumber n = true) :
    n.all (fun b => isPlain b && !isDelimiter b) = true := by
  have hall := Utf8.forall_byte
    (P := fun b => isNumberByte b = true → (isPlain b && !isDelimiter b) = true) (by decide +kernel)
  simp only [isNumber, Bool.and_eq_true, List.all_eq_true] at h
  exact List.all_eq_true.mpr (fun b hb => hall b (h.1.1.1 b hb))

theorem itemsText_cons_cons (sp : Spacing) (v w : Value) (items : List Value) :
    itemsText sp (v :: w :: items) =
      text sp v ++ (sp.comma ++ itemsText sp (w :: items)) := by
  rw [itemsText, itemsTail, itemsText]

theorem membersText_singleton (sp : Spacing) (k : Str) (v : Value) :
    membersText sp [(k, v)] = quote k ++ (sp.colon ++ text sp v) := by
  rw [membersText, membersTail, List.append_nil]

theorem membersText_cons_cons (sp : Spacing) (k : Str) (v : Value) (m : Str × Value)
    (members : List (Str × Value)) :
    membersText sp ((k, v) :: m :: members) =
      quote k ++ (sp.colon ++ (text sp v ++ (sp.comma ++ membersText sp (m :: members)))) := by
  rw [membersText, membersTail, membersText]

section Spaced

variable (hcomma : sp.comma.all isPlain = true) (hcolon : sp.colon.all isPlain = true)

include hcomma hcolon

mutual

/-- **Step lemma**: reading over a value leaves the scanner at the same depth. -/
theorem scan_text (depth : Nat) (rest : List UInt8) : ∀ v : Value,
    scan depth .outside (text sp v ++ rest) = consumed (text sp v) (scan depth .outside rest)
  | .null => by
    rw [text]
    exact scan_plain (by decide) depth rest
  | .bool true => by
    rw [text]
    exact scan_plain (by decide) depth rest
  | .bool false => by
    rw [text]
    exact scan_plain (by decide) depth rest
  | .num n => by
    have hplain : n.text.all isPlain = true := by
      have h := number_token n.number
      rw [List.all_eq_true] at h ⊢
      exact fun b hb => (Bool.and_eq_true_iff.mp (h b hb)).1
    exact scan_plain hplain depth rest
  | .str s => scan_quote s depth rest
  | .arr items => by
    rw [text, List.cons_append, List.append_assoc, scan, if_neg (by decide),
      if_pos (by decide), scan_itemsText (depth + 1) _ items, List.singleton_append,
      scan, if_neg (by decide), if_neg (by decide), if_pos (by decide), if_neg (Nat.succ_ne_zero _)]
    simp
  | .obj members => by
    rw [text, List.cons_append, List.append_assoc, scan, if_neg (by decide),
      if_pos (by decide), scan_membersText (depth + 1) _ members,
      List.singleton_append, scan, if_neg (by decide), if_neg (by decide),
      if_pos (by decide), if_neg (Nat.succ_ne_zero _)]
    simp

theorem scan_itemsText (depth : Nat) (rest : List UInt8) :
    ∀ items : List Value, scan depth .outside (itemsText sp items ++ rest) =
      consumed (itemsText sp items) (scan depth .outside rest)
  | [] => by simp [itemsText]
  | [v] => by
    rw [itemsText, itemsTail, List.append_nil]
    exact scan_text depth rest v
  | v :: w :: items => by
    simp only [itemsText_cons_cons, List.append_assoc]
    rw [scan_text depth _ v, scan_plain hcomma, scan_itemsText depth rest (w :: items)]
    simp only [consumed_consumed]

theorem scan_membersText (depth : Nat) (rest : List UInt8) :
    ∀ members : List (Str × Value), scan depth .outside (membersText sp members ++ rest) =
      consumed (membersText sp members) (scan depth .outside rest)
  | [] => by simp [membersText]
  | [(k, v)] => by
    simp only [membersText_singleton, List.append_assoc]
    rw [scan_quote, scan_plain hcolon, scan_text depth _ v]
    simp only [consumed_consumed]
  | (k, v) :: m :: members => by
    simp only [membersText_cons_cons, List.append_assoc]
    rw [scan_quote, scan_plain hcolon, scan_text depth _ v, scan_plain hcomma,
      scan_membersText depth rest (m :: members)]
    simp only [consumed_consumed]

end

end Spaced

/-! ### The end of a value -/

/-- Nothing follows, or something that ends a number. -/
def Ends (rest : List UInt8) : Prop := ∀ b ∈ rest.head?, isDelimiter b = true

variable {b : UInt8} {rest : List UInt8}

theorem ends_cons (h : isDelimiter b = true) (rest : List UInt8) : Ends (b :: rest) := by
  intro b' hb'
  cases hb'
  exact h

theorem takeWhile_append_of_ends {p : UInt8 → Bool} (h : bytes.all p = true)
    (hrest : ∀ b ∈ rest.head?, p b = false) :
    (bytes ++ rest).takeWhile p = bytes ∧ (bytes ++ rest).dropWhile p = rest := by
  induction bytes with
  | nil =>
    cases rest with
    | nil => exact ⟨rfl, rfl⟩
    | cons b rest =>
      have hb : p b = false := hrest b rfl
      simp [hb]
  | cons b bytes ih =>
    rw [List.all_cons, Bool.and_eq_true] at h
    obtain ⟨htake, hdrop⟩ := ih h.2
    simp [h.1, htake, hdrop]

/-- A token without brackets or quotes ends at the first delimiter. -/
theorem span_token (hne : bytes ≠ []) (h : bytes.all (fun b => isPlain b && !isDelimiter b) = true)
    (hrest : Ends rest) : span (bytes ++ rest) = some (bytes, rest) := by
  have hdelimiter : bytes.all (!isDelimiter ·) = true := by
    rw [List.all_eq_true] at h ⊢
    intro b hb
    have := h b hb
    rw [Bool.and_eq_true] at this
    exact this.2
  obtain ⟨htake, hdrop⟩ := takeWhile_append_of_ends hdelimiter
    (fun b hb => by rw [hrest b hb]; rfl)
  cases bytes with
  | nil => exact absurd rfl hne
  | cons b bytes =>
    rw [List.all_cons, Bool.and_eq_true, Bool.and_eq_true] at h
    have hb := h.1.1
    simp only [isPlain, Bool.and_eq_true, decide_eq_true_eq, ne_eq] at hb
    obtain ⟨⟨⟨⟨h34, h91⟩, h123⟩, -⟩, -⟩ := hb
    rw [List.cons_append] at htake hdrop ⊢
    rw [span, if_neg h34, if_neg (by simp [h91, h123]), htake, hdrop]

theorem number_ne_nil (h : isNumber n = true) : n ≠ [] := by
  rintro rfl
  exact absurd h (by decide)

/-- **Spans**: however a value is spaced, its end is found. -/
theorem span_text {sp : Spacing} (hcomma : sp.comma.all isPlain = true)
    (hcolon : sp.colon.all isPlain = true) (v : Value) (hrest : Ends rest) :
    span (text sp v ++ rest) = some (text sp v, rest) := by
  cases v with
  | null =>
    rw [text]
    exact span_token (by decide) (by decide) hrest
  | bool b =>
    cases b with
    | true =>
      rw [text]
      exact span_token (by decide) (by decide) hrest
    | false =>
      rw [text]
      exact span_token (by decide) (by decide) hrest
  | num n =>
    rw [text]
    exact span_token (number_ne_nil n.number) (number_token n.number) hrest
  | str s =>
    rw [text]
    have hassoc : quote s ++ rest = 34 :: (s.raw ++ 34 :: rest) := by simp [quote]
    rw [hassoc, span, if_pos rfl, splitString_closed (isClosed_of_isBody s.body)]
    rfl
  | arr items =>
    rw [text, List.cons_append, List.append_assoc, span, if_neg (by decide), if_pos (by decide),
      scan_itemsText hcomma hcolon 0 _ items, List.singleton_append, scan, if_neg (by decide),
      if_neg (by decide), if_pos (by decide), if_pos rfl]
    rfl
  | obj members =>
    rw [text, List.cons_append, List.append_assoc, span, if_neg (by decide), if_pos (by decide),
      scan_membersText hcomma hcolon 0 _ members, List.singleton_append, scan,
      if_neg (by decide), if_neg (by decide), if_pos (by decide), if_pos rfl]
    rfl

/-- Two texts that agree agree on their first values. -/
theorem text_append_inj {sp : Spacing} (hcomma : sp.comma.all isPlain = true)
    (hcolon : sp.colon.all isPlain = true) {v w : Value} {rest' : List UInt8} (hrest : Ends rest)
    (hrest' : Ends rest') (h : text sp v ++ rest = text sp w ++ rest') :
    text sp v = text sp w ∧ rest = rest' := by
  have hv := span_text hcomma hcolon v hrest
  rw [h, span_text hcomma hcolon w hrest'] at hv
  simp only [Option.some.injEq, Prod.mk.injEq] at hv
  exact ⟨hv.1.symm, hv.2.symm⟩

theorem quote_inj {a b : Str} (h : quote a = quote b) : a.raw = b.raw :=
  List.append_cancel_right (List.cons.inj h).2

theorem membersTail_ends (ms : List (Str × Value)) : Ends (membersTail compact ms) := by
  cases ms with
  | nil => exact fun b hb => by cases hb
  | cons m ms => exact ends_cons (by decide) _

/-- Members with the same keys are written alike exactly when their values are. -/
theorem membersTail_inj {ms ms' : List (Str × Value)} (hkeys : ms.map Prod.fst = ms'.map Prod.fst) :
    membersTail compact ms = membersTail compact ms' ↔
      ms.map (fun m => text compact m.2) = ms'.map (fun m => text compact m.2) := by
  induction ms generalizing ms' with
  | nil =>
    rw [List.map_eq_nil_iff.mp hkeys.symm]
    simp
  | cons m ms ih =>
    cases ms' with
    | nil => cases hkeys
    | cons m' ms' =>
      obtain ⟨hkey, hrest⟩ := List.cons.inj hkeys
      rw [membersTail, membersTail, hkey, List.map_cons, List.map_cons, List.cons.injEq, ← ih hrest]
      constructor
      · intro h
        have hvalues := List.append_cancel_left (List.append_cancel_left (List.append_cancel_left h))
        exact text_append_inj (by decide) (by decide) (membersTail_ends ms) (membersTail_ends ms')
          hvalues
      · intro h
        rw [h.1, h.2]

theorem text_obj_inj {ms ms' : List (Str × Value)} (hkeys : ms.map Prod.fst = ms'.map Prod.fst) :
    text compact (.obj ms) = text compact (.obj ms') ↔
      ms.map (fun m => text compact m.2) = ms'.map (fun m => text compact m.2) := by
  -- The members are the tail without its first comma.
  have htail : ∀ {ms : List (Str × Value)}, ms ≠ [] →
      membersTail compact ms = compact.comma ++ membersText compact ms := by
    intro ms hne
    cases ms with
    | nil => exact absurd rfl hne
    | cons m ms => rw [membersTail, membersText]
  rw [text, text, List.cons.injEq, and_iff_right rfl, List.append_left_inj]
  by_cases hne : ms = []
  · subst hne
    rw [List.map_eq_nil_iff.mp hkeys.symm]
    simp
  · have hne' : ms' ≠ [] := by
      intro hnil
      rw [hnil] at hkeys
      exact hne (List.map_eq_nil_iff.mp hkeys)
    rw [← membersTail_inj hkeys, htail hne, htail hne', List.append_right_inj]

/-! ### Escaping for HTML -/

/-- What `encoding/json` writes for the bytes of a string it does not otherwise
    touch: `<`, `>`, `&` and the two line separators become escapes. -/
def escapeBody : List UInt8 → List UInt8
  | [] => []
  | 60 :: rest => [92, 117, 48, 48, 51, 99] ++ escapeBody rest
  | 62 :: rest => [92, 117, 48, 48, 51, 101] ++ escapeBody rest
  | 38 :: rest => [92, 117, 48, 48, 50, 54] ++ escapeBody rest
  | 226 :: 128 :: 168 :: rest => [92, 117, 50, 48, 50, 56] ++ escapeBody rest
  | 226 :: 128 :: 169 :: rest => [92, 117, 50, 48, 50, 57] ++ escapeBody rest
  | b :: rest => b :: escapeBody rest

theorem escapeBody_plain (h60 : b ≠ 60) (h62 : b ≠ 62) (h38 : b ≠ 38)
    (hseparator : ¬ ∃ c tail, (c = 168 ∨ c = 169) ∧ b = 226 ∧ rest = 128 :: c :: tail) :
    escapeBody (b :: rest) = b :: escapeBody rest := by
  rw [escapeBody]
  · exact fun h => h60 h
  · exact fun h => h62 h
  · exact fun h => h38 h
  · exact fun tail hb hrest => hseparator ⟨168, tail, .inl rfl, hb, hrest⟩
  · exact fun tail hb hrest => hseparator ⟨169, tail, .inr rfl, hb, hrest⟩

theorem escapeBody_cons (rest : List UInt8) (h60 : b ≠ 60) (h62 : b ≠ 62) (h38 : b ≠ 38)
    (h226 : b ≠ 226) : escapeBody (b :: rest) = b :: escapeBody rest :=
  escapeBody_plain h60 h62 h38 (fun ⟨_, _, _, hb, _⟩ => h226 hb)

theorem isBody_cons (rest : List UInt8) (hslash : b ≠ 92) :
    isBody (b :: rest) = (32 ≤ b && b ≠ 34 && b ≠ 92 && isBody rest) := by
  rw [isBody]
  · exact fun _ _ _ _ _ h => absurd h hslash
  · exact fun _ _ h => absurd h hslash

/-- A two-byte escape. -/
theorem isBody_escape {e : UInt8} (rest : List UInt8)
    (hne : ∀ a b c d r, e = 117 → rest = a :: b :: c :: d :: r → False) :
    isBody (92 :: e :: rest) =
      ([34, 92, 47, 98, 102, 110, 114, 116].contains e && isBody rest) := by
  rw [isBody]
  exact hne

/-- Bodies are put together from bodies. -/
theorem isBody_append {x y : List UInt8} (hx : isBody x = true) (hy : isBody y = true) :
    isBody (x ++ y) = true := by
  fun_induction isBody x with
  | case1 => exact hy
  | case2 a b c d rest ih =>
    rw [Bool.and_eq_true] at hx
    simp only [List.cons_append, isBody, hx.1, ih hx.2, Bool.and_self]
  | case3 e rest hne ih =>
    rw [Bool.and_eq_true] at hx
    have hu : e ≠ 117 := by
      rintro rfl
      exact absurd hx.1 (by decide)
    rw [List.cons_append, List.cons_append, isBody_escape _ (fun _ _ _ _ _ he _ => hu he), hx.1,
      ih hx.2, Bool.and_self]
  | case4 b rest _ _ ih =>
    rw [Bool.and_eq_true] at hx
    have hslash : b ≠ 92 := by
      rintro rfl
      exact absurd hx.1 (by decide)
    rw [List.cons_append, isBody_cons _ hslash, hx.1, ih hx.2, Bool.and_self]

/-- A byte of an escape, which is written as it stands. -/
theorem escapeBody_hex (h : (Encoding.hexValue? c).isSome = true) (rest : List UInt8) :
    escapeBody (c :: rest) = c :: escapeBody rest := by
  apply escapeBody_cons
  all_goals
    rintro rfl
    exact absurd h (by decide)

/-- Escaped, a string is still a string. The induction is on its length: a line
    separator takes three bytes at once. -/
theorem isBody_escapeBody : ∀ (n : Nat) (r : List UInt8), r.length ≤ n → isBody r = true →
    isBody (escapeBody r) = true := by
  intro n
  induction n with
  | zero =>
    intro r hlen _
    rw [List.length_eq_zero_iff.mp (by omega : r.length = 0)]
    rfl
  | succ n ih =>
    intro r hlen h
    fun_cases isBody r with
    | case1 => rfl
    | case2 a b c d rest =>
      rw [isBody, Bool.and_eq_true] at h
      obtain ⟨hhex, hrest⟩ := h
      have hall := hhex
      simp only [List.all_cons, List.all_nil, Bool.and_true, Bool.and_eq_true] at hall
      obtain ⟨ha, hb, hc, hd⟩ := hall
      simp only [List.length_cons] at hlen
      rw [escapeBody_cons _ (by decide) (by decide) (by decide) (by decide),
        escapeBody_cons _ (by decide) (by decide) (by decide) (by decide), escapeBody_hex ha,
        escapeBody_hex hb, escapeBody_hex hc, escapeBody_hex hd, isBody, hhex, Bool.true_and]
      exact ih rest (by omega) hrest
    | case3 e rest hne =>
      rw [isBody_escape rest hne, Bool.and_eq_true] at h
      obtain ⟨he, hrest⟩ := h
      have hu : e ≠ 117 := by
        rintro rfl
        exact absurd he (by decide)
      have hplain : e ≠ 60 ∧ e ≠ 62 ∧ e ≠ 38 ∧ e ≠ 226 := by
        refine ⟨?_, ?_, ?_, ?_⟩
        all_goals
          rintro rfl
          exact absurd he (by decide)
      obtain ⟨h60, h62, h38, h226⟩ := hplain
      simp only [List.length_cons] at hlen
      rw [escapeBody_cons _ (by decide) (by decide) (by decide) (by decide),
        escapeBody_cons _ h60 h62 h38 h226,
        isBody_escape (escapeBody rest) (fun _ _ _ _ _ h _ => hu h), he, Bool.true_and]
      exact ih rest (by omega) hrest
    | case4 b rest h1 h2 =>
      have hslash : b ≠ 92 := by
        rintro rfl
        cases rest with
        | nil => exact absurd h (by decide)
        | cons e rest => exact h2 e rest rfl rfl
      rw [isBody_cons rest hslash] at h
      have hb := h
      simp only [Bool.and_eq_true] at hb
      obtain ⟨hb, hrest⟩ := hb
      simp only [List.length_cons] at hlen
      have hstep := ih rest (by omega) hrest
      by_cases hspecial : b = 60 ∨ b = 62 ∨ b = 38
      · rcases hspecial with rfl | rfl | rfl
        all_goals
          rw [escapeBody]
          exact hstep
      · simp only [not_or] at hspecial
        obtain ⟨h60, h62, h38⟩ := hspecial
        by_cases hseparator : ∃ c tail, (c = 168 ∨ c = 169) ∧ b = 226 ∧ rest = 128 :: c :: tail
        · obtain ⟨c, tail, hc, rfl, rfl⟩ := hseparator
          rw [isBody_cons _ (by decide), isBody_cons _ (by rcases hc with rfl | rfl <;> decide)]
            at hrest
          simp only [Bool.and_eq_true] at hrest
          have htail := ih tail (by simp only [List.length_cons] at hlen; omega) hrest.2.2
          rcases hc with rfl | rfl
          all_goals
            rw [escapeBody]
            exact htail
        · rw [escapeBody_plain h60 h62 h38 hseparator, isBody_cons _ hslash]
          simp only [Bool.and_eq_true]
          exact ⟨hb, hstep⟩

def escapeStr (s : Str) : Str where
  raw := escapeBody s.raw
  body := isBody_escapeBody s.raw.length s.raw le_rfl s.body

mutual

/-- A raw message as `json.Marshal` writes it, up to spacing. -/
def escapeHTML : Value → Value
  | .null => .null
  | .bool b => .bool b
  | .num n => .num n
  | .str s => .str (escapeStr s)
  | .arr items => .arr (escapeItems items)
  | .obj members => .obj (escapeMembers members)

def escapeItems : List Value → List Value
  | [] => []
  | v :: rest => escapeHTML v :: escapeItems rest

def escapeMembers : List (Str × Value) → List (Str × Value)
  | [] => []
  | (k, v) :: rest => (escapeStr k, escapeHTML v) :: escapeMembers rest

end

end Json
