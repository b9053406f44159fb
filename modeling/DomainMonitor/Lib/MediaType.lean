import DomainMonitor.Lib.Strings

/-! # Media types

    The media type Go's `mime.ParseMediaType` returns for a header value. Its
    parameters are read only to detect errors: a malformed parameter keeps the
    media type, a parameter that occurs with two values loses it.
-/

namespace MediaType

open Strings Utf8

def ascii (s : String) : List UInt8 := s.toList.map byte

def isTSpecial (c : UInt8) : Bool := (ascii "()<>@,;:\\\"/[]?=").contains c

def isTokenChar (c : UInt8) : Bool := 32 < c.toNat && c.toNat < 127 && !isTSpecial c

/-- `consumeToken`: the longest token in front, and the rest. -/
def consumeToken (v : List UInt8) : List UInt8 × List UInt8 :=
  (v.takeWhile isTokenChar, v.dropWhile isTokenChar)

/-- `strings.TrimLeftFunc(v, unicode.IsSpace)`. -/
def trimLeft (v : List UInt8) : List UInt8 :=
  ((decode v).dropWhile Rune.isSpace).flatMap Rune.bytes

/-- `checkMediaTypeDisposition`: a token, or two of them around a slash. -/
def checkMediaType (s : List UInt8) : Bool :=
  match consumeToken s with
  | ([], _) => false
  | (_, []) => true
  | (_, c :: rest) =>
    match consumeToken rest with
    | ([], _) => false
    | (_, rest) => c = byte '/' && rest.isEmpty

/-- The inside of a quoted string, and what follows its closing quote; a
    backslash quotes the characters that are special in tokens. -/
def consumeQuoted : List UInt8 → Option (List UInt8 × List UInt8)
  | [] => none
  | [c] => if c = byte '"' then some ([], []) else none
  | c :: d :: rest =>
    if c = byte '"' then some ([], d :: rest)
    else if c = byte '\\' ∧ isTSpecial d then
      (consumeQuoted rest).map (fun (value, rest) => (d :: value, rest))
    else if c = 13 ∨ c = 10 then none
    else (consumeQuoted (d :: rest)).map (fun (value, rest) => (c :: value, rest))

/-- `consumeValue`; a quoted string without its end is no value. -/
def consumeValue (v : List UInt8) : List UInt8 × List UInt8 :=
  match v with
  | [] => ([], [])
  | c :: rest =>
    if c = byte '"' then (consumeQuoted rest).getD ([], v) else consumeToken v

/-- `consumeMediaParam`; `none` when there is no parameter in front. -/
def consumeMediaParam (v : List UInt8) : Option (List UInt8 × List UInt8 × List UInt8) :=
  match trimLeft v with
  | c :: rest =>
    if c ≠ byte ';' then none
    else
      let (param, rest) := consumeToken (trimLeft rest)
      if param = [] then none
      else match trimLeft rest with
        | d :: rest =>
          if d ≠ byte '=' then none
          else
            let rest := trimLeft rest
            let (value, after) := consumeValue rest
            if value = [] ∧ after = rest then none else some (param.map lowerByte, value, after)
        | [] => none
  | [] => none

/-- The loop over the parameters: does one occur with two values? Every
    parameter consumes a byte, so `fuel` is the length of the input. -/
def duplicateParam : Nat → List (List UInt8 × List UInt8) → List UInt8 → Bool
  | 0, _, _ => false
  | fuel + 1, seen, v =>
    match consumeMediaParam v with
    | none => false
    | some (param, value, rest) =>
      if (seen.lookup param).any (· ≠ value) then true
      else duplicateParam fuel ((param, value) :: seen) rest

/-- The media type `mime.ParseMediaType` returns, empty when there is none. -/
def parse (t : Tables) (v : List UInt8) : List UInt8 :=
  let base := (cut (byte ';') v).1
  let mediaType := trimSpace (toLower t base)
  if checkMediaType mediaType = false then []
  else if duplicateParam v.length [] (v.drop base.length) then []
  else mediaType

example : parse asciiTables (ascii "Text/HTML; charset=\"utf-8\"") = ascii "text/html" := by decide

example : parse asciiTables (ascii "text/html; a=1; A=2") = [] := by decide

end MediaType
