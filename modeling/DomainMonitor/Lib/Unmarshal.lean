import DomainMonitor.Lib.JsonParse
import DomainMonitor.Lib.Marshal

/-! # json.Unmarshal into a struct

    The members of an object are assigned one after the other to the field with the
    same name, in either case; a later member overwrites an earlier one, `null` leaves a
    field as it is, and a value of the wrong kind is an error. A field that is a
    `json.RawMessage` keeps the bytes of its value.

    A text without blanks is taken apart into the texts of its members
    (`rawObject_text`).
-/

namespace Unmarshal

open Json Utf8

/-! ### Members and the bytes of their values -/

/-- The members of an object up to the closing brace. The first argument bounds their
    number. -/
def rawMembers : Nat → List UInt8 → Option (List (Str × List UInt8))
  | 0, _ => none
  | n + 1, s => do
    let (k, rest) ← parseString (skipSpace s)
    match skipSpace rest with
    | 58 :: rest => do
      let (raw, rest) ← span (skipSpace rest)
      match skipSpace rest with
      | 44 :: rest => (rawMembers n rest).map ((k, raw) :: ·)
      | 125 :: _ => some [(k, raw)]
      | _ => none
    | _ => none

/-- The members of the object a valid text is made of. -/
def rawObject (s : List UInt8) : Option (List (Str × List UInt8)) :=
  match skipSpace s with
  | 123 :: rest =>
    match skipSpace rest with
    | 125 :: _ => some []
    | rest => rawMembers s.length rest
  | _ => none

theorem span_compact (v : Value) {rest : List UInt8} (hrest : Ends rest) :
    span (text compact v ++ rest) = some (text compact v, rest) :=
  span_text (by decide) (by decide) v hrest

theorem rawMembers_text : ∀ (members : List (Str × Value)) (n : Nat) (rest : List UInt8),
    members ≠ [] → members.length ≤ n →
    rawMembers n (membersText compact members ++ 125 :: rest) =
      some (members.map (fun m => (m.1, text compact m.2)))
  | [], _, _, hne, _ => absurd rfl hne
  | [(k, v)], n + 1, rest, _, _ => by
    rw [membersText_singleton, List.append_assoc, rawMembers, skipSpace_quote, parseString_quote]
    show ((span (skipSpace (text compact v ++ 125 :: rest))).bind _) = _
    rw [skipSpace_text, span_compact v (ends_cons (by decide) rest)]
    rfl
  | (k, v) :: m :: members, n + 1, rest, _, hn => by
    rw [membersText_cons_cons, List.append_assoc, List.append_assoc, List.append_assoc, rawMembers,
      skipSpace_quote, parseString_quote]
    show ((span (skipSpace (text compact v ++
      (44 :: (membersText compact (m :: members) ++ 125 :: rest))))).bind _) = _
    rw [skipSpace_text, span_compact v (ends_cons (by decide) _)]
    show (rawMembers n (membersText compact (m :: members) ++ 125 :: rest)).map _ = _
    rw [rawMembers_text (m :: members) n rest (List.cons_ne_nil _ _) (Nat.le_of_succ_le_succ hn)]
    rfl

theorem length_membersText : ∀ members : List (Str × Value),
    members.length ≤ (membersText compact members).length
  | [] => Nat.zero_le _
  | [m] => by simp [membersText, quote]
  | (k, v) :: m :: members => by
    have ih := length_membersText (m :: members)
    have hpos := length_text_pos compact v
    rw [membersText_cons_cons]
    simp only [List.length_cons, List.length_append] at ih ⊢
    omega

/-- **Objects** are taken apart again. -/
theorem rawObject_text (members : List (Str × Value)) :
    rawObject (text compact (.obj members)) = some (members.map (fun m => (m.1, text compact m.2))) := by
  cases members with
  | nil =>
    rw [text]
    rfl
  | cons m members =>
    obtain ⟨k, v⟩ := m
    have hkey : ∃ s, membersText compact ((k, v) :: members) ++ [125] = quote k ++ s :=
      ⟨_, by rw [membersText, List.append_assoc]⟩
    obtain ⟨s, hs⟩ := hkey
    have hlength := length_membersText ((k, v) :: members)
    have hmembers := rawMembers_text ((k, v) :: members)
      (123 :: (membersText compact ((k, v) :: members) ++ [125])).length [] (List.cons_ne_nil _ _)
      (by simp only [List.length_cons, List.length_append] at hlength ⊢; omega)
    rw [text, rawObject, skipSpace_start (by decide)]
    rw [hs] at hmembers ⊢
    show (match skipSpace (quote k ++ s) with
      | 125 :: _ => some []
      | rest => rawMembers (123 :: (quote k ++ s)).length rest) = _
    rw [skipSpace_quote]
    exact hmembers

/-! ### Structs -/

/-- The name under which `encoding/json` looks a field up when none has the very name:
    upper case for ASCII, and for the two characters that fold to ASCII. -/
def foldRune : Rune → Rune
  | .char c =>
    if c.toNat = 0x17F then .char 'S' else if c.toNat = 0x212A then .char 'K' else .char c.toUpper
  | .bad b => .bad b

def foldName (s : List UInt8) : List Rune := (decode s).map foldRune

/-- A string as it is read. -/
def readString (s : Str) : List UInt8 := Strings.toValid (Marshal.unquote s.raw)

/-- A field: its name, and what its value does to the struct. -/
structure Field (σ : Type) where
  name : List UInt8
  assign : List UInt8 → σ → Option σ

/-- Assigns one member; a strict decoder refuses names it does not know. -/
def assignMember {σ : Type} (strict : Bool) (fields : List (Field σ)) (s : σ) (m : Str × List UInt8) :
    Option σ :=
  match fields.find? (fun f => foldName f.name = foldName (readString m.1)) with
  | some f => f.assign m.2 s
  | none => if strict then none else some s

/-- `json.Unmarshal` into a struct. -/
def struct {σ : Type} (strict : Bool) (fields : List (Field σ)) (raw : List UInt8) (s : σ) : Option σ :=
  match parse raw with
  | some .null => some s
  | some (.obj _) => (rawObject raw).bind (fun members => members.foldlM (assignMember strict fields) s)
  | _ => none

/-- A `string` field. -/
def stringField {σ : Type} (name : List UInt8) (set : List UInt8 → σ → σ) : Field σ where
  name := name
  assign := fun raw s =>
    match parse raw with
    | some .null => some s
    | some (.str text) => some (set (readString text) s)
    | _ => none

/-- A field that is read by `UnmarshalText`. -/
def textField {σ α : Type} (name : List UInt8) (read : List UInt8 → Option α) (set : α → σ → σ) :
    Field σ where
  name := name
  assign := fun raw s =>
    match parse raw with
    | some .null => some s
    | some (.str text) => (read (readString text)).map (fun a => set a s)
    | _ => none

/-- A `json.RawMessage` field. -/
def rawField {σ : Type} (name : List UInt8) (set : List UInt8 → σ → σ) : Field σ where
  name := name
  assign := fun raw s => some (set raw s)

/-- A field that is a struct itself. -/
def structField {σ τ : Type} (name : List UInt8) (strict : Bool) (fields : List (Field τ)) (get : σ → τ)
    (set : τ → σ → σ) : Field σ where
  name := name
  assign := fun raw s => (struct strict fields raw (get s)).map (fun t => set t s)

theorem readString_string {s : List UInt8} (h : Valid s) : readString (Marshal.string s) = s := by
  show Strings.toValid (Marshal.unquote (Marshal.encode s)) = s
  rw [Marshal.unquote_encode, Strings.toValid_of_valid h, Strings.toValid_of_valid h]

theorem struct_obj {σ : Type} (strict : Bool) (fields : List (Field σ)) (members : List (Str × Value)) (s : σ) :
    struct strict fields (text compact (.obj members)) s =
      (members.map (fun m => (m.1, text compact m.2))).foldlM (assignMember strict fields) s := by
  rw [struct, parse_text, rawObject_text]
  rfl

theorem struct_marshal {σ : Type} (strict : Bool) (fields : List (Field σ))
    (members : List (List UInt8 × Marshal.Doc)) (s : σ) :
    struct strict fields (Marshal.marshal (.obj members)) s =
      (members.map (fun m => (Marshal.string m.1, text compact m.2.value))).foldlM
        (assignMember strict fields) s := by
  rw [Marshal.marshal, Marshal.Doc.value, struct_obj, Marshal.fieldValues_eq_map, List.map_map]
  rfl

/-- A member whose name was written by `json.Marshal`. -/
theorem assignMember_string {σ : Type} {strict : Bool} {fields : List (Field σ)} {s : σ} {name raw : List UInt8}
    (h : Valid name) :
    assignMember strict fields s (Marshal.string name, raw) =
      match fields.find? (fun f => foldName f.name = foldName name) with
      | some f => f.assign raw s
      | none => if strict then none else some s := by
  rw [assignMember, readString_string h]

/-- Members with other names are passed over. -/
theorem foldlM_skip {σ : Type} {fields : List (Field σ)} {members : List (List UInt8 × Marshal.Doc)} (s : σ)
    (hvalid : ∀ m ∈ members, Valid m.1)
    (hother : ∀ m ∈ members, ∀ f ∈ fields, foldName f.name ≠ foldName m.1) :
    (members.map (fun m => (Marshal.string m.1, text compact m.2.value))).foldlM
      (assignMember false fields) s = some s := by
  induction members with
  | nil => rfl
  | cons m members ih =>
    have hnone : fields.find? (fun f => foldName f.name = foldName m.1) = none := by
      rw [List.find?_eq_none]
      intro f hf
      simpa using hother m List.mem_cons_self f hf
    rw [List.map_cons, List.foldlM_cons, assignMember_string (hvalid m List.mem_cons_self), hnone]
    exact ih (fun n hn => hvalid n (List.mem_cons_of_mem m hn))
      (fun n hn => hother n (List.mem_cons_of_mem m hn))

/-- A string that was written is assigned as it is read. -/
theorem stringField_assign {σ : Type} {name : List UInt8} {set : List UInt8 → σ → σ} (text : List UInt8) (s : σ) :
    (stringField name set).assign (Json.text compact (.str (Marshal.string text))) s =
      some (set (readString (Marshal.string text)) s) := by
  show (match parse (Json.text compact (.str (Marshal.string text))) with
    | some .null => some s
    | some (.str t) => some (set (readString t) s)
    | _ => none) = _
  rw [parse_text]

end Unmarshal
