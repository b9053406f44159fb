import DomainMonitor.Lib.Json

/-! # Reading what was written

    `parse` inverts `text`: the value whose text without blanks is given is the one
    that is read (`parse_text`). The proof follows the parser: each function reads one
    kind of token and leaves the rest, and twice the length of a text bounds the depth
    of the calls it takes.
-/

namespace Json

/-! ### The first byte of a value -/

/-- The bytes a value may start with. -/
def isStart (b : UInt8) : Bool :=
  b = 110 || b = 116 || b = 102 || b = 34 || b = 91 || b = 123 || b = 45 || isDigit b

variable {b : UInt8} {s : List UInt8} {v : Value} {n : Nat}

theorem isStart_ne (h : isStart b = true) :
    b ≠ 32 ∧ b ≠ 9 ∧ b ≠ 10 ∧ b ≠ 13 ∧ b ≠ 93 ∧ b ≠ 125 := by
  refine ⟨?_, ?_, ?_, ?_, ?_, ?_⟩ <;>
  · rintro rfl
    exact absurd h (by decide)

theorem skipSpace_start (h : isStart b = true) (s : List UInt8) : skipSpace (b :: s) = b :: s := by
  obtain ⟨h32, h9, h10, h13, -⟩ := isStart_ne h
  simp [skipSpace, h32, h9, h10, h13]

theorem number_start {n : List UInt8} (h : isNumber n = true) :
    ∃ b bytes, n = b :: bytes ∧ (b = 45 ∨ isDigit b = true) := by
  cases n with
  | nil => exact absurd h (by decide)
  | cons b bytes =>
    refine ⟨b, bytes, rfl, ?_⟩
    by_cases hminus : b = 45
    · exact .inl hminus
    · right
      simp only [isNumber, Bool.and_eq_true] at h
      obtain ⟨⟨⟨-, hdigits⟩, -⟩, -⟩ := h
      by_contra hdigit
      simp [hminus, hdigit] at hdigits

theorem text_start (sp : Spacing) (v : Value) :
    ∃ b bytes, text sp v = b :: bytes ∧ isStart b = true := by
  cases v with
  | null => exact ⟨_, _, by rw [text], by decide⟩
  | bool b => cases b <;> exact ⟨_, _, by rw [text], by decide⟩
  | num n =>
    obtain ⟨b, bytes, htext, hb⟩ := number_start n.number
    refine ⟨b, bytes, by rw [text, htext], ?_⟩
    rcases hb with rfl | hb
    · decide
    · simp [isStart, hb]
  | str s => exact ⟨_, _, by rw [text, quote], by decide⟩
  | arr items => exact ⟨_, _, by rw [text], by decide⟩
  | obj members => exact ⟨_, _, by rw [text], by decide⟩

theorem skipSpace_text (sp : Spacing) (v : Value) (rest : List UInt8) :
    skipSpace (text sp v ++ rest) = text sp v ++ rest := by
  obtain ⟨b, bytes, htext, hstart⟩ := text_start sp v
  rw [htext, List.cons_append, skipSpace_start hstart]

/-- The text of an object without blanks is not the text of any value with them. -/
theorem text_spaced_ne_compact (v : Value) (k : Str) (w : Value) (rest : List (Str × Value)) :
    text spaced v ≠ text compact (.obj ((k, w) :: rest)) := by
  intro h
  have hobj : text compact (.obj ((k, w) :: rest)) =
      123 :: 34 :: (k.raw ++ 34 :: 58 :: (text compact w ++ (membersTail compact rest ++ [125]))) := by
    simp [text, membersText, quote, compact]
  rw [hobj] at h
  cases v with
  | null => rw [text] at h; cases h
  | bool b =>
    cases b with
    | true => rw [text] at h; cases h
    | false => rw [text] at h; cases h
  | num n =>
    rw [text] at h
    have htoken := number_token n.number
    rw [h] at htoken
    exact absurd htoken (by simp [isPlain])
  | str s => rw [text, quote] at h; cases h
  | arr items => rw [text] at h; cases h
  | obj members =>
    cases members with
    | nil => rw [text, membersText] at h; cases h
    | cons m members =>
      have hspaced : text spaced (.obj (m :: members)) = 123 :: 34 :: (m.1.raw ++
          34 :: 58 :: 32 :: (text spaced m.2 ++ (membersTail spaced members ++ [125]))) := by
        simp [text, membersText, quote, spaced]
      rw [hspaced] at h
      -- The first keys end at the same quote; a blank follows the colon on one side only.
      have hkeys := congrArg splitString (List.cons.inj (List.cons.inj h).2).2
      rw [splitString_closed (isClosed_of_isBody m.1.body),
        splitString_closed (isClosed_of_isBody k.body)] at hkeys
      simp only [Option.some.injEq, Prod.mk.injEq, List.cons.injEq, true_and] at hkeys
      obtain ⟨b, bytes, htext, hstart⟩ := text_start compact w
      rw [htext, List.cons_append, List.cons.injEq] at hkeys
      exact (isStart_ne hstart).1 hkeys.2.1.symm

/-! ### Tokens -/

theorem parseString_quote (s : Str) (rest : List UInt8) :
    parseString (quote s ++ rest) = some (s, rest) := by
  have hassoc : quote s ++ rest = 34 :: (s.raw ++ 34 :: rest) := by simp [quote]
  rw [hassoc, parseString, splitString_closed (isClosed_of_isBody s.body)]
  simp [s.body]

theorem parseNumber_text (n : Num) {rest : List UInt8} (hrest : Ends rest) :
    parseNumber (n.text ++ rest) = some (.num n, rest) := by
  have hbytes : n.text.all isNumberByte = true := by
    have h := n.number
    simp only [isNumber, Bool.and_eq_true] at h
    exact h.1.1.1
  have hstop : ∀ b ∈ rest.head?, isNumberByte b = false := by
    intro b hb
    have hdelimiter := hrest b hb
    simp only [isDelimiter, Bool.or_eq_true, decide_eq_true_eq] at hdelimiter
    rcases hdelimiter with (((((rfl | rfl) | rfl) | rfl) | rfl) | rfl) | rfl <;> decide
  obtain ⟨htake, hdrop⟩ := takeWhile_append_of_ends hbytes hstop
  unfold parseNumber
  rw [htake, hdrop]
  simp [n.number]

/-- A value that starts with a digit or a minus sign is a number. -/
theorem parseValue_number (hb : b = 45 ∨ isDigit b = true) (n : Nat) (s : List UInt8) :
    parseValue (n + 1) (b :: s) = parseNumber (b :: s) := by
  have hstart : isStart b = true := by
    rcases hb with rfl | hb
    · decide
    · simp [isStart, hb]
  have hne : b ≠ 110 ∧ b ≠ 116 ∧ b ≠ 102 ∧ b ≠ 34 ∧ b ≠ 91 ∧ b ≠ 123 := by
    refine ⟨?_, ?_, ?_, ?_, ?_, ?_⟩ <;>
    · rintro rfl
      exact absurd hb (by decide)
  obtain ⟨h110, h116, h102, h34, h91, h123⟩ := hne
  rw [parseValue, skipSpace_start hstart]
  split
  · exact absurd (List.cons.inj ‹_›).1 h110
  · exact absurd (List.cons.inj ‹_›).1 h116
  · exact absurd (List.cons.inj ‹_›).1 h102
  · exact absurd (List.cons.inj ‹_›).1 h34
  · exact absurd (List.cons.inj ‹_›).1 h91
  · exact absurd (List.cons.inj ‹_›).1 h123
  · rfl

/-! ### Values -/

theorem length_text_pos (sp : Spacing) (v : Value) : 0 < (text sp v).length := by
  obtain ⟨b, bytes, htext, -⟩ := text_start sp v
  rw [htext]
  exact Nat.succ_pos _

theorem skipSpace_quote (k : Str) (s : List UInt8) : skipSpace (quote k ++ s) = quote k ++ s := by
  rw [quote, List.cons_append, skipSpace_start (by decide)]

/-- A list that is not empty does not look like an empty one. -/
theorem parseValue_arr {items : List Value} :
    parseValue (n + 1) (91 :: (itemsText compact (v :: items) ++ s)) =
      (parseItems n (itemsText compact (v :: items) ++ s)).map (fun p => (.arr p.1, p.2)) := by
  obtain ⟨b, bytes, htext, hstart⟩ := text_start compact v
  obtain ⟨-, -, -, -, h93, -⟩ := isStart_ne hstart
  rw [parseValue, skipSpace_start (by decide), itemsText, List.append_assoc]
  simp only [skipSpace_text]
  rw [htext, List.cons_append]
  split
  · exact absurd (List.cons.inj ‹_›).1 h93
  · rfl

theorem parseValue_obj {k : Str} {members : List (Str × Value)} :
    parseValue (n + 1) (123 :: (membersText compact ((k, v) :: members) ++ s)) =
      (parseMembers n (membersText compact ((k, v) :: members) ++ s)).map
        (fun p => (.obj p.1, p.2)) := by
  rw [parseValue, skipSpace_start (by decide), membersText, List.append_assoc]
  rfl

mutual

/-- **Values** are read back. -/
theorem parseValue_text : ∀ (v : Value) (n : Nat) (rest : List UInt8),
    2 * (text compact v).length ≤ n → Ends rest →
    parseValue n (text compact v ++ rest) = some (v, rest)
  | v, 0, _, hn, _ => absurd hn (by have := length_text_pos compact v; omega)
  | .null, n + 1, rest, _, _ => by
    rw [text, parseValue, List.cons_append, skipSpace_start (by decide)]
    rfl
  | .bool true, n + 1, rest, _, _ => by
    rw [text, parseValue, List.cons_append, skipSpace_start (by decide)]
    rfl
  | .bool false, n + 1, rest, _, _ => by
    rw [text, parseValue, List.cons_append, skipSpace_start (by decide)]
    rfl
  | .num k, n + 1, rest, _, hrest => by
    obtain ⟨b, bytes, htext, hb⟩ := number_start k.number
    rw [text, htext, List.cons_append, parseValue_number hb, ← List.cons_append, ← htext]
    exact parseNumber_text k hrest
  | .str s, n + 1, rest, _, _ => by
    have hstring := parseString_quote s rest
    rw [text, parseValue, skipSpace_quote]
    rw [quote, List.cons_append] at hstring ⊢
    show (parseString (34 :: (s.raw ++ [34] ++ rest))).map _ = _
    rw [hstring]
    rfl
  | .arr [], n + 1, rest, _, _ => by
    rw [text, parseValue, List.cons_append, skipSpace_start (by decide)]
    rfl
  | .arr (v :: items), n + 1, rest, hn, _ => by
    have hsplit : text compact (.arr (v :: items)) ++ rest =
        91 :: (itemsText compact (v :: items) ++ 93 :: rest) := by
      simp [text]
    rw [text, List.length_cons, List.length_append] at hn
    rw [hsplit, parseValue_arr, parseItems_text (v :: items) n rest (by nofun) (by omega)]
    rfl
  | .obj [], n + 1, rest, _, _ => by
    rw [text, parseValue, List.cons_append, skipSpace_start (by decide)]
    rfl
  | .obj ((k, v) :: members), n + 1, rest, hn, _ => by
    have hsplit : text compact (.obj ((k, v) :: members)) ++ rest =
        123 :: (membersText compact ((k, v) :: members) ++ 125 :: rest) := by
      simp [text]
    rw [text, List.length_cons, List.length_append] at hn
    rw [hsplit, parseValue_obj, parseMembers_text ((k, v) :: members) n rest (by nofun) (by omega)]
    rfl

/-- The items of an array. -/
theorem parseItems_text : ∀ (items : List Value) (n : Nat) (rest : List UInt8), items ≠ [] →
    2 * (itemsText compact items).length + 1 ≤ n →
    parseItems n (itemsText compact items ++ 93 :: rest) = some (items, rest)
  | [], _, _, hne, _ => absurd rfl hne
  | [v], n + 1, rest, _, hn => by
    rw [itemsText, itemsTail, List.append_nil] at hn ⊢
    rw [parseItems, parseValue_text v n (93 :: rest) (by omega) (ends_cons (by decide) rest)]
    rfl
  | v :: w :: items, n + 1, rest, _, hn => by
    have hpos := length_text_pos compact v
    rw [itemsText_cons_cons, List.length_append, List.length_append] at hn
    rw [itemsText_cons_cons, List.append_assoc, List.append_assoc, parseItems]
    show ((parseValue n (text compact v ++
      (44 :: (itemsText compact (w :: items) ++ 93 :: rest)))).bind _) = _
    rw [parseValue_text v n _ (by omega) (ends_cons (by decide) _)]
    show (parseItems n (itemsText compact (w :: items) ++ 93 :: rest)).map _ = _
    rw [parseItems_text (w :: items) n rest (by nofun) (by omega)]
    rfl

/-- The members of an object. -/
theorem parseMembers_text : ∀ (members : List (Str × Value)) (n : Nat) (rest : List UInt8),
    members ≠ [] → 2 * (membersText compact members).length + 1 ≤ n →
    parseMembers n (membersText compact members ++ 125 :: rest) = some (members, rest)
  | [], _, _, hne, _ => absurd rfl hne
  | [(k, v)], n + 1, rest, _, hn => by
    simp only [membersText_singleton, List.length_append] at hn
    rw [membersText_singleton, List.append_assoc, parseMembers, skipSpace_quote, parseString_quote]
    show ((parseValue n (text compact v ++ 125 :: rest)).bind _) = _
    rw [parseValue_text v n (125 :: rest) (by omega) (ends_cons (by decide) rest)]
    rfl
  | (k, v) :: m :: members, n + 1, rest, _, hn => by
    have hpos := length_text_pos compact v
    simp only [membersText_cons_cons, List.length_append] at hn
    rw [membersText_cons_cons, List.append_assoc, List.append_assoc, List.append_assoc, parseMembers,
      skipSpace_quote, parseString_quote]
    show ((parseValue n (text compact v ++
      (44 :: (membersText compact (m :: members) ++ 125 :: rest)))).bind _) = _
    rw [parseValue_text v n _ (by omega) (ends_cons (by decide) _)]
    show (parseMembers n (membersText compact (m :: members) ++ 125 :: rest)).map _ = _
    rw [parseMembers_text (m :: members) n rest (by nofun) (by omega)]
    rfl

end

/-- **Parsing inverts printing.** -/
theorem parse_text (v : Value) : parse (text compact v) = some v := by
  have hvalue := parseValue_text v (2 * (text compact v).length + 2) [] (by omega) (by nofun)
  rw [List.append_nil] at hvalue
  rw [parse, hvalue]
  rfl

end Json
