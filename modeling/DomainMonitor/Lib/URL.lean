import DomainMonitor.Lib.NetIP

/-! # URLs

    Go's `net/url`: parsing, reference resolution and printing over bytes. Error
    texts quote parts of their input; the quoting, and what is wrong with an IP
    address, belong to other packages and are parameters.

    Printing escapes the host and the path, so both come out as printable ASCII;
    the query is printed as it was read.
-/

namespace URL

open Strings Utf8

/-! ### Escaping -/

/-- The part of a URL that is escaped. -/
inductive Mode where
  | path | userPassword | host | zone | fragment
  deriving DecidableEq

def isAlphaNum (c : UInt8) : Bool :=
  (97 ≤ c.toNat && c.toNat ≤ 122) || (65 ≤ c.toNat && c.toNat ≤ 90)
    || (48 ≤ c.toNat && c.toNat ≤ 57)

def oneOf (s : String) (c : UInt8) : Bool := (s.toList.map byte).contains c

/-- `shouldEscape`. -/
def shouldEscape (c : UInt8) (mode : Mode) : Bool :=
  if isAlphaNum c then false
  else if (mode = .host ∨ mode = .zone) ∧ oneOf "!$&'()*+,;=:[]<>\"" c then false
  else if oneOf "-_.~" c then false
  else if oneOf "$&+,/:;=?@" c then
    match mode with
    | .path => c = byte '?'
    | .userPassword => c = byte '@' || c = byte '/' || c = byte '?' || c = byte ':'
    | .fragment => false
    | .host | .zone => true
  else if mode = .fragment ∧ oneOf "!()*" c then false
  else true

def upperHex (d : Nat) : UInt8 := if d < 10 then UInt8.ofNat (48 + d) else UInt8.ofNat (55 + d)

def escapeByte (mode : Mode) (c : UInt8) : List UInt8 :=
  if shouldEscape c mode then [byte '%', upperHex (c.toNat / 16), upperHex (c.toNat % 16)] else [c]

def escape (mode : Mode) (s : List UInt8) : List UInt8 := s.flatMap (escapeByte mode)

def unhex? (c : UInt8) : Option Nat :=
  if 48 ≤ c.toNat ∧ c.toNat ≤ 57 then some (c.toNat - 48)
  else if 97 ≤ c.toNat ∧ c.toNat ≤ 102 then some (c.toNat - 87)
  else if 65 ≤ c.toNat ∧ c.toNat ≤ 70 then some (c.toNat - 55)
  else none

/-- What other packages contribute to error texts: `strconv.Quote`, and the error
    of `netip.ParseAddr`. -/
structure Env where
  quote : List UInt8 → List UInt8
  addrError : List UInt8 → List UInt8

def ascii (s : String) : List UInt8 := s.toList.map byte

def escapeError (env : Env) (s : List UInt8) : List UInt8 :=
  ascii "invalid URL escape " ++ env.quote s

def invalidHostError (env : Env) (s : List UInt8) : List UInt8 :=
  ascii "invalid character " ++ env.quote s ++ ascii " in host name"

/-- `unescape`; the first offending byte decides the error. -/
def unescape (env : Env) (mode : Mode) : List UInt8 → Except (List UInt8) (List UInt8)
  | [] => .ok []
  | c :: rest =>
    if c = byte '%' then
      match rest with
      | h :: l :: rest =>
        match unhex? h, unhex? l with
        | some high, some low =>
          if mode = .host ∧ high < 8 ∧ [h, l] ≠ ascii "25" then .error (escapeError env [c, h, l])
          else
            let v := UInt8.ofNat (high * 16 + low)
            if mode = .zone ∧ [h, l] ≠ ascii "25" ∧ v ≠ byte ' ' ∧ shouldEscape v .host then
              .error (escapeError env [c, h, l])
            else (unescape env mode rest).map (v :: ·)
        | _, _ => .error (escapeError env [c, h, l])
      | rest => .error (escapeError env (c :: rest))
    else if (mode = .host ∨ mode = .zone) ∧ c.toNat < 128 ∧ shouldEscape c mode then
      .error (invalidHostError env [c])
    else (unescape env mode rest).map (c :: ·)

/-- `validEncoded`. -/
def validEncoded (mode : Mode) (s : List UInt8) : Bool :=
  s.all (fun c => oneOf "!$&'()*+,;=:@[]%" c || !shouldEscape c mode)

/-! ### The URL type and its text -/

structure UserInfo where
  username : List UInt8
  password : Option (List UInt8)
  deriving DecidableEq

end URL

/-- `url.URL`; `opaquePart` is its field `Opaque`. -/
structure URL where
  scheme : List UInt8 := []
  opaquePart : List UInt8 := []
  user : Option URL.UserInfo := none
  host : List UInt8 := []
  path : List UInt8 := []
  rawPath : List UInt8 := []
  omitHost : Bool := false
  forceQuery : Bool := false
  rawQuery : List UInt8 := []
  fragment : List UInt8 := []
  rawFragment : List UInt8 := []
  deriving DecidableEq

namespace URL

open Strings Utf8

variable (env : Env) (mode : Mode) (raw s : List UInt8) (u ref : URL)

/-- An escaped form: the raw one while it is a valid encoding of the value. -/
def escapedForm (value : List UInt8) : List UInt8 :=
  if raw ≠ [] ∧ validEncoded mode raw = true ∧ (unescape env mode raw).toOption = some value then raw
  else if mode = .path ∧ value = ascii "*" then ascii "*"
  else escape mode value

/-- `EscapedPath`. -/
def escapedPath : List UInt8 := escapedForm env .path u.rawPath u.path

/-- `EscapedFragment`. -/
def escapedFragment : List UInt8 :=
  escapedForm env .fragment u.rawFragment u.fragment

def UserInfo.text (user : UserInfo) : List UInt8 :=
  escape .userPassword user.username ++
    (match user.password with
     | some password => byte ':' :: escape .userPassword password
     | none => [])

/-- The authority part of `String`. -/
def authorityText : List UInt8 :=
  if u.scheme ≠ [] ∨ u.host ≠ [] ∨ u.user.isSome then
    if u.omitHost ∧ u.host = [] ∧ u.user = none then []
    else
      (if u.host ≠ [] ∨ u.path ≠ [] ∨ u.user.isSome then ascii "//" else [])
        ++ (match u.user with
            | some user => user.text ++ [byte '@']
            | none => [])
        ++ escape .host u.host
  else []

/-- The path part of `String`, after what has been written so far. -/
def pathText (written : List UInt8) : List UInt8 :=
  let path := u.escapedPath env
  (if path ≠ [] ∧ path.head? ≠ some (byte '/') ∧ u.host ≠ [] then [byte '/'] else [])
    ++ (if written = [] ∧ byte ':' ∈ (cut (byte '/') path).1 then ascii "./" else [])
    ++ path

/-- Everything `String` writes before the query. -/
def hierText : List UInt8 :=
  let scheme := if u.scheme ≠ [] then u.scheme ++ [byte ':'] else []
  if u.opaquePart ≠ [] then scheme ++ u.opaquePart
  else
    let written := scheme ++ u.authorityText
    written ++ u.pathText env written

/-- `String`. -/
def text : List UInt8 :=
  u.hierText env
    ++ (if u.forceQuery ∨ u.rawQuery ≠ [] then byte '?' :: u.rawQuery else [])
    ++ (if u.fragment ≠ [] then byte '#' :: u.escapedFragment env else [])

/-! ### Parsing -/

/-- `setPath`. -/
def setPath (p : List UInt8) : Except (List UInt8) URL := do
  let path ← unescape env .path p
  return { u with path, rawPath := if p = escape .path path then [] else p }

/-- `setFragment`. -/
def setFragment (f : List UInt8) : Except (List UInt8) URL := do
  let fragment ← unescape env .fragment f
  return { u with fragment, rawFragment := if f = escape .fragment fragment then [] else f }

/-- `getScheme`, with the part read so far: the scheme and the rest. -/
def getScheme : List UInt8 → List UInt8 → Except (List UInt8) (List UInt8 × List UInt8)
  | read, [] => .ok ([], read)
  | read, c :: rest =>
    if (97 ≤ c.toNat ∧ c.toNat ≤ 122) ∨ (65 ≤ c.toNat ∧ c.toNat ≤ 90) then
      getScheme (read ++ [c]) rest
    else if (48 ≤ c.toNat ∧ c.toNat ≤ 57) ∨ oneOf "+-." c then
      if read = [] then .ok ([], c :: rest) else getScheme (read ++ [c]) rest
    else if c = byte ':' then
      if read = [] then .error (ascii "missing protocol scheme") else .ok (read, rest)
    else .ok ([], read ++ c :: rest)

/-- `validOptionalPort`. -/
def validOptionalPort : List UInt8 → Bool
  | [] => true
  | c :: port => c = byte ':' && port.all (fun d => 48 ≤ d.toNat && d.toNat ≤ 57)

def invalidPort (colonPort : List UInt8) : List UInt8 :=
  ascii "invalid port " ++ env.quote colonPort ++ ascii " after host"

/-- The first occurrence of `%25`, which starts a zone. -/
def cutZone : List UInt8 → Option (List UInt8 × List UInt8)
  | [] => none
  | c :: s =>
    if (ascii "%25").isPrefixOf (c :: s) then some ([], c :: s)
    else (cutZone s).map (fun (host, zone) => (c :: host, zone))

/-- `parseHost`. -/
def parseHost (host : List UInt8) : Except (List UInt8) (List UInt8) :=
  match cutLast (byte '[') host with
  | some (_, afterOpen) =>
    match cutLast (byte ']') host with
    | none => .error (ascii "missing ']' in host")
    | some (_, colonPort) => do
      if validOptionalPort colonPort = false then .error (invalidPort env colonPort) else
      let port ← unescape env .host colonPort
      let literal := afterOpen.take (afterOpen.length - (colonPort.length + 1))
      let hostname ← match cutZone literal with
        | some (hostPart, zonePart) => do
          let hostPart ← unescape env .host hostPart
          let zonePart ← unescape env .zone zonePart
          pure (hostPart ++ zonePart)
        | none => unescape env .host literal
      match NetIP.parseAddr hostname with
      | none => .error (ascii "invalid host: " ++ env.addrError hostname)
      | some (.v4 _) => .error (ascii "invalid IP-literal")
      | some (.v6 _ _) => return byte '[' :: hostname ++ byte ']' :: port
  | none =>
    -- Everything from the first colon on has to be a port.
    match cut (byte ':') host with
    | (_, some port) =>
      if validOptionalPort (byte ':' :: port) = false then
        .error (invalidPort env (byte ':' :: port))
      else unescape env .host host
    | (_, none) => unescape env .host host

/-- `validUserinfo`. -/
def validUserinfo : Bool :=
  s.all (fun c => isAlphaNum c || oneOf "-._:~!$&'()*+,;=%@" c)

/-- `parseAuthority`. -/
def parseAuthority (authority : List UInt8) : Except (List UInt8) (Option UserInfo × List UInt8) :=
  match cutLast (byte '@') authority with
  | none => do
    let host ← parseHost env authority
    return (none, host)
  | some (userinfo, host) => do
    let host ← parseHost env host
    if validUserinfo userinfo = false then .error (ascii "net/url: invalid userinfo") else
    match cut (byte ':') userinfo with
    | (username, some password) => do
      let username ← unescape env .userPassword username
      let password ← unescape env .userPassword password
      return (some ⟨username, some password⟩, host)
    | (username, none) => do
      let username ← unescape env .userPassword username
      return (some ⟨username, none⟩, host)

/-- The query of what follows the scheme: the rest, the flag `ForceQuery` of a
    lone trailing question mark, and the raw query. -/
def splitQuery (rest : List UInt8) : List UInt8 × Bool × List UInt8 :=
  match cut (byte '?') rest with
  | (before, some []) => (before, true, [])
  | (before, some query) => (before, false, query)
  | (before, none) => (before, false, [])

/-- The last part of `parse`: authority and path. -/
def parseHierarchy (rest : List UInt8) : Except (List UInt8) URL :=
  if (u.scheme ≠ [] ∨ (ascii "///").isPrefixOf rest = false) ∧ (ascii "//").isPrefixOf rest then do
    let (authority, path) := match cut (byte '/') (rest.drop 2) with
      | (authority, some path) => (authority, byte '/' :: path)
      | (authority, none) => (authority, [])
    let (user, host) ← parseAuthority env authority
    setPath env { u with user, host } path
  else if u.scheme ≠ [] ∧ (ascii "/").isPrefixOf rest then
    setPath env { u with omitHost := true } rest
  else setPath env u rest

/-- `parse`, for a URL that does not come from a request line. -/
def parseNoFragment : Except (List UInt8) URL :=
  if raw.any (fun c => c.toNat < 32 || c.toNat = 127) then
    .error (ascii "net/url: invalid control character in URL")
  else if raw = ascii "*" then .ok { path := ascii "*" }
  else do
    let (scheme, rest) ← getScheme [] raw
    let (rest, forceQuery, rawQuery) := splitQuery rest
    let u : URL := { scheme := scheme.map lowerByte, forceQuery, rawQuery }
    if (ascii "/").isPrefixOf rest = false then
      if scheme ≠ [] then .ok { u with opaquePart := rest }
      else if byte ':' ∈ (cut (byte '/') rest).1 then
        .error (ascii "first path segment in URL cannot contain colon")
      else parseHierarchy env u rest
    else parseHierarchy env u rest

/-- The text of the `url.Error` that `Parse` returns. -/
def parseError (message : List UInt8) : List UInt8 :=
  ascii "parse " ++ env.quote raw ++ ascii ": " ++ message

/-- `Parse`. -/
def parse : Except (List UInt8) URL :=
  let (front, fragment) := cut (byte '#') raw
  match parseNoFragment env front with
  | .error message => .error (parseError env front message)
  | .ok u =>
    match fragment with
    | none | some [] => .ok u
    | some fragment =>
      match setFragment env u fragment with
      | .error message => .error (parseError env raw message)
      | .ok u => .ok u

/-! ### Reference resolution -/

/-- The segments between slashes. -/
def segments : List UInt8 → List (List UInt8)
  | [] => [[]]
  | c :: s =>
    if c = byte '/' then [] :: segments s
    else match segments s with
      | [] => [[c]]
      | segment :: rest => (c :: segment) :: rest

/-- One segment of `resolvePath`: the path built so far, and whether the next
    segment follows its slash directly. -/
def resolveSegment : List UInt8 × Bool → List UInt8 → List UInt8 × Bool
  | (dst, first), segment =>
    if segment = ascii "." then (dst, false)
    else if segment = ascii ".." then
      match cutLast (byte '/') (dst.drop 1) with
      | none => ([byte '/'], true)
      | some (before, _) => (byte '/' :: before, first)
    else ((if first then dst else dst ++ [byte '/']) ++ segment, false)

/-- `resolvePath`. -/
def resolvePath (base ref : List UInt8) : List UInt8 :=
  let full :=
    if ref = [] then base
    else if ref.head? ≠ some (byte '/') then
      match cutLast (byte '/') base with
      | some (directory, _) => directory ++ byte '/' :: ref
      | none => ref
    else ref
  if full = [] then []
  else
    let parts := segments full
    let dst := (parts.foldl resolveSegment ([byte '/'], true)).1
    let last := parts.getLastD []
    let dst := if last = ascii "." ∨ last = ascii ".." then dst ++ [byte '/'] else dst
    if (ascii "//").isPrefixOf dst then dst.drop 1 else dst

/-- `setPath` where its error is ignored. -/
def withPath (p : List UInt8) : URL :=
  match setPath env u p with
  | .ok u => u
  | .error _ => u

/-- The reference with the scheme of the base where it has none. -/
def withScheme : URL :=
  if ref.scheme = [] then { ref with scheme := u.scheme } else ref

/-- A reference that is empty up to its fragment inherits the query of the base,
    and the fragment too where it has none. -/
def withQuery (url : URL) : URL :=
  if ref.path = [] ∧ ref.forceQuery = false ∧ ref.rawQuery = [] then
    if ref.fragment = [] then
      { url with rawQuery := u.rawQuery, fragment := u.fragment, rawFragment := u.rawFragment }
    else { url with rawQuery := u.rawQuery }
  else url

/-- `ResolveReference`. -/
def resolveReference : URL :=
  let url := withScheme u ref
  if ref.scheme ≠ [] ∨ ref.host ≠ [] ∨ ref.user.isSome then
    url.withPath env (resolvePath (ref.escapedPath env) [])
  else if ref.opaquePart ≠ [] then { url with user := none, host := [], path := [] }
  else
    let url := withQuery u ref url
    if ref.path = [] ∧ u.opaquePart ≠ [] then
      { url with opaquePart := u.opaquePart, user := none, host := [], path := [] }
    else
      ({ url with host := u.host, user := u.user } : URL).withPath env
        (resolvePath (u.escapedPath env) (ref.escapedPath env))

/-- `splitHostPort`. -/
def splitHostPort (hostPort : List UInt8) : List UInt8 × List UInt8 :=
  let (host, port) := match cutLast (byte ':') hostPort with
    | some (host, port) =>
      if validOptionalPort (byte ':' :: port) then (host, port) else (hostPort, [])
    | none => (hostPort, [])
  if host.head? = some (byte '[') ∧ host.getLast? = some (byte ']') then
    ((host.drop 1).dropLast, port)
  else (host, port)

def hostname : List UInt8 := (splitHostPort u.host).1

def port : List UInt8 := (splitHostPort u.host).2

/-! ### The text of a URL is printable up to its query -/

theorem printable_of_not_shouldEscape {c : UInt8} {mode : Mode}
    (h : shouldEscape c mode = false) : 32 ≤ c.toNat ∧ c.toNat ≤ 126 := by
  have hall : ∀ mode ∈ [Mode.path, .userPassword, .host, .zone, .fragment], ∀ n < 256,
      shouldEscape (UInt8.ofNat n) mode = false → 32 ≤ n ∧ n ≤ 126 := by decide +kernel
  have hmode : mode ∈ [Mode.path, .userPassword, .host, .zone, .fragment] := by
    cases mode <;> decide
  exact hall mode hmode c.toNat c.toNat_lt (by rwa [UInt8.ofNat_toNat])

theorem printable_escape : Printable (escape mode s) := by
  apply Printable.flatMap
  intro c _
  unfold escapeByte
  split
  · have hdigit : ∀ d < 16, 32 ≤ (upperHex d).toNat ∧ (upperHex d).toNat ≤ 126 := by decide
    have hc := c.toNat_lt
    intro b hb
    simp only [List.mem_cons, List.not_mem_nil, or_false] at hb
    rcases hb with rfl | rfl | rfl
    · decide
    · exact hdigit _ (by omega)
    · exact hdigit _ (by omega)
  · rename_i h
    intro b hb
    rw [List.mem_singleton.mp hb]
    exact printable_of_not_shouldEscape (by simpa using h)

theorem printable_of_validEncoded {mode : Mode} {s : List UInt8}
    (h : validEncoded mode s = true) : Printable s := by
  intro c hc
  have hone := List.all_eq_true.mp h c hc
  rcases Bool.or_eq_true_iff.mp hone with hlist | hescape
  · have hmem := List.mem_of_elem_eq_true hlist
    have hall : Printable ("!$&'()*+,;=:@[]%".toList.map byte) := by decide
    exact hall c hmem
  · exact printable_of_not_shouldEscape (by simpa using hescape)

theorem printable_escapedForm (value : List UInt8) :
    Printable (escapedForm env mode raw value) := by
  unfold escapedForm
  split_ifs with hraw hstar
  · exact printable_of_validEncoded hraw.2.1
  · decide
  · exact printable_escape mode value

/-- A URL that names a host, without credentials. -/
structure Plain : Prop where
  user : u.user = none
  opaquePart : u.opaquePart = []
  fragment : u.fragment = []
  scheme : Printable u.scheme

variable {u v : URL} {env : Env}

theorem Plain.printable_hierText (h : u.Plain) (env : Env) : Printable (u.hierText env) := by
  have hscheme : Printable (if u.scheme ≠ [] then u.scheme ++ [byte ':'] else []) := by
    split_ifs
    · exact h.scheme.append (by decide)
    · exact .nil
  have hauthority : Printable u.authorityText := by
    unfold authorityText
    rw [h.user]
    split_ifs
    · exact .nil
    · exact (Printable.append (by decide) .nil).append (printable_escape .host u.host)
    · exact (Printable.nil.append .nil).append (printable_escape .host u.host)
    · exact .nil
  have hpath : ∀ written, Printable (u.pathText env written) := by
    intro written
    unfold pathText
    refine (Printable.append ?_ ?_).append (printable_escapedForm env .path _ _)
    · split_ifs
      · decide
      · exact .nil
    · split_ifs
      · decide
      · exact .nil
  unfold hierText
  rw [if_neg (by simp [h.opaquePart])]
  exact (hscheme.append hauthority).append (hpath _)

/-- The text of a plain URL is storable exactly when its query is. -/
theorem Plain.storable_text (h : u.Plain) (env : Env) :
    Storable (u.text env) ↔ Storable u.rawQuery := by
  have hhier := (h.printable_hierText env).storable
  have hempty : Storable [] := by decide
  unfold text
  rw [if_neg (by simp [h.fragment] : ¬ u.fragment ≠ []), List.append_nil]
  by_cases hquery : u.forceQuery = true ∨ u.rawQuery ≠ []
  · rw [if_pos hquery]
    have hsplit := storable_append_ascii (u.hierText env) (c := '?') (by decide) (by decide)
      u.rawQuery
    exact hsplit.trans ⟨fun hboth => hboth.2, fun hq => ⟨hhier, hq⟩⟩
  · rw [if_neg hquery, List.append_nil]
    have hnone : u.rawQuery = [] := by
      by_contra hne
      exact hquery (.inr hne)
    rw [hnone]
    exact ⟨fun _ => hempty, fun _ => hhier⟩

/-! ### What parsing and resolution keep -/

/-- The fields that neither a path nor a fragment touches. -/
structure SameFrame (u v : URL) : Prop where
  scheme : v.scheme = u.scheme
  opaquePart : v.opaquePart = u.opaquePart
  host : v.host = u.host
  user : v.user = u.user
  rawQuery : v.rawQuery = u.rawQuery

theorem setPath_frame {p : List UInt8} (h : setPath env u p = .ok v) : SameFrame u v := by
  unfold setPath at h
  cases hp : unescape env .path p with
  | error e => simp [hp, bind, Except.bind] at h
  | ok path =>
    rw [hp] at h
    cases h
    exact ⟨rfl, rfl, rfl, rfl, rfl⟩

theorem setFragment_frame {f : List UInt8} (h : setFragment env u f = .ok v) : SameFrame u v := by
  unfold setFragment at h
  cases hf : unescape env .fragment f with
  | error e => simp [hf, bind, Except.bind] at h
  | ok fragment =>
    rw [hf] at h
    cases h
    exact ⟨rfl, rfl, rfl, rfl, rfl⟩

theorem withPath_frame (env : Env) (u : URL) (p : List UInt8) : SameFrame u (u.withPath env p) := by
  unfold withPath
  split
  · rename_i v hv
    exact setPath_frame hv
  · exact ⟨rfl, rfl, rfl, rfl, rfl⟩

/-- A scheme is printable, an opaque URL has no host, and the query comes from
    storable text if `raw` is storable. -/
structure ParsedFrom (u : URL) (raw : List UInt8) : Prop where
  scheme : Printable u.scheme
  opaqueHost : u.opaquePart ≠ [] → u.host = []
  rawQuery : Storable raw → Storable u.rawQuery

theorem getScheme_split : ∀ {read scheme rest : List UInt8},
    getScheme read s = .ok (scheme, rest) → Printable read →
    Printable scheme ∧ (rest = read ++ s ∨ read ++ s = scheme ++ byte ':' :: rest) := by
  induction s with
  | nil =>
    intro read scheme rest h _
    cases h
    exact ⟨.nil, .inl (by simp)⟩
  | cons c s ih =>
    intro read scheme rest h hread
    have hone : 32 ≤ c.toNat ∧ c.toNat ≤ 126 → Printable (read ++ [c]) := by
      intro hc
      refine hread.append ?_
      intro b hb
      rw [List.mem_singleton.mp hb]
      exact hc
    -- In the recursive cases `c` has moved to what is already read.
    have hmoved : read ++ [c] ++ s = read ++ c :: s := by simp
    unfold getScheme at h
    split_ifs at h with h1 h2 h3 h4 h5
    · have hc := ih h (hone (by omega))
      rwa [hmoved] at hc
    · cases h
      exact ⟨.nil, .inl (by simp [h3])⟩
    · have hprintable : 32 ≤ c.toNat ∧ c.toNat ≤ 126 := by
        rcases h2 with h2 | h2
        · omega
        · have hmem := List.mem_of_elem_eq_true h2
          have hall : Printable ("+-.".toList.map byte) := by decide
          exact hall c hmem
      have hc := ih h (hone hprintable)
      rwa [hmoved] at hc
    · cases h
      exact ⟨hread, .inr (by rw [h4])⟩
    · cases h
      exact ⟨.nil, .inl rfl⟩

theorem splitQuery_storable {rest : List UInt8} (h : Storable rest) :
    Storable (splitQuery rest).2.2 := by
  have hcut := (storable_cut (c := '?') (by decide) (by decide) h).2
  have hempty : Storable [] := by decide
  unfold splitQuery
  split
  · exact hempty
  · rename_i before query _ heq
    rw [heq] at hcut
    exact hcut query rfl
  · exact hempty

theorem parseHierarchy_frame {rest : List UInt8} (h : parseHierarchy env u rest = .ok v) :
    v.scheme = u.scheme ∧ v.opaquePart = u.opaquePart ∧ v.rawQuery = u.rawQuery := by
  unfold parseHierarchy at h
  split_ifs at h
  · dsimp only at h
    generalize parseAuthority env _ = authority at h
    cases authority with
    | error e => cases h
    | ok pair =>
      have hframe := setPath_frame h
      exact ⟨hframe.scheme, hframe.opaquePart, hframe.rawQuery⟩
  · have hframe := setPath_frame h
    exact ⟨hframe.scheme, hframe.opaquePart, hframe.rawQuery⟩
  · have hframe := setPath_frame h
    exact ⟨hframe.scheme, hframe.opaquePart, hframe.rawQuery⟩

theorem printable_lower {s : List UInt8} (h : Printable s) : Printable (s.map lowerByte) := by
  have hall : ∀ n < 127, 32 ≤ n →
      32 ≤ (lowerByte (UInt8.ofNat n)).toNat ∧ (lowerByte (UInt8.ofNat n)).toNat ≤ 126 := by decide
  intro b hb
  obtain ⟨c, hc, rfl⟩ := List.mem_map.mp hb
  have hrange := h c hc
  have hlower := hall c.toNat (by omega) hrange.1
  rwa [UInt8.ofNat_toNat] at hlower

theorem parseNoFragment_parsedFrom {raw : List UInt8} (h : parseNoFragment env raw = .ok u) :
    u.ParsedFrom raw := by
  unfold parseNoFragment at h
  split_ifs at h with hctl hstar
  · cases h
    exact ⟨.nil, fun hne => absurd rfl hne, fun _ => (by decide : Storable [])⟩
  · cases hscheme : getScheme [] raw with
    | error e => simp [hscheme, bind, Except.bind] at h
    | ok pair =>
      obtain ⟨scheme, rest⟩ := pair
      obtain ⟨hprintable, hrest⟩ := getScheme_split raw hscheme .nil
      have hstorable : Storable raw → Storable (splitQuery rest).2.2 := by
        intro hraw
        apply splitQuery_storable
        rcases hrest with hrest | hrest
        · rw [hrest]
          exact hraw
        · rw [← List.nil_append raw, hrest] at hraw
          exact ((storable_append_ascii scheme (c := ':') (by decide) (by decide) rest).mp hraw).2
      rw [hscheme] at h
      simp only [bind, Except.bind] at h
      split_ifs at h with hslash hempty hcolon
      · -- Opaque: there is no authority.
        cases h
        exact ⟨printable_lower hprintable, fun _ => rfl, hstorable⟩
      · obtain ⟨h1, h2, h3⟩ := parseHierarchy_frame h
        exact ⟨by rw [h1]; exact printable_lower hprintable, fun hne => absurd h2 hne,
          by rw [h3]; exact hstorable⟩
      · obtain ⟨h1, h2, h3⟩ := parseHierarchy_frame h
        exact ⟨by rw [h1]; exact printable_lower hprintable, fun hne => absurd h2 hne,
          by rw [h3]; exact hstorable⟩

theorem parse_parsedFrom {raw : List UInt8} (h : parse env raw = .ok u) : u.ParsedFrom raw := by
  have hfront : ∀ v : URL, v.ParsedFrom (cut (byte '#') raw).1 → v.ParsedFrom raw := by
    intro v hv
    refine ⟨hv.scheme, hv.opaqueHost, fun hraw => hv.rawQuery ?_⟩
    exact (storable_cut (c := '#') (by decide) (by decide) hraw).1
  unfold parse at h
  dsimp only at h
  split at h
  · cases h
  · rename_i v hv
    have hparsed := hfront v (parseNoFragment_parsedFrom hv)
    split at h
    · cases h
      exact hparsed
    · cases h
      exact hparsed
    · split at h
      · cases h
      · rename_i w hw
        cases h
        have hframe := setFragment_frame hw
        refine ⟨?_, ?_, ?_⟩
        · rw [hframe.scheme]
          exact hparsed.scheme
        · rw [hframe.opaquePart, hframe.host]
          exact hparsed.opaqueHost
        · rw [hframe.rawQuery]
          exact hparsed.rawQuery

theorem withScheme_frame (u ref : URL) :
    (withScheme u ref).opaquePart = ref.opaquePart ∧ (withScheme u ref).host = ref.host ∧
    (withScheme u ref).rawQuery = ref.rawQuery ∧
    ((withScheme u ref).scheme = u.scheme ∨ (withScheme u ref).scheme = ref.scheme) := by
  unfold withScheme
  split_ifs
  · exact ⟨rfl, rfl, rfl, .inl rfl⟩
  · exact ⟨rfl, rfl, rfl, .inr rfl⟩

theorem withQuery_frame (u ref url : URL) :
    (withQuery u ref url).scheme = url.scheme ∧ (withQuery u ref url).opaquePart = url.opaquePart ∧
    ((withQuery u ref url).rawQuery = url.rawQuery ∨
      (withQuery u ref url).rawQuery = u.rawQuery) := by
  unfold withQuery
  split_ifs
  · exact ⟨rfl, rfl, .inr rfl⟩
  · exact ⟨rfl, rfl, .inr rfl⟩
  · exact ⟨rfl, rfl, .inl rfl⟩

/-- Resolution takes the scheme and the query from one of the two URLs, and its
    result is opaque only without a host. -/
theorem resolveReference_frame (env : Env) {ref : URL}
    (hopaqueHost : ref.opaquePart ≠ [] → ref.host = []) :
    ((resolveReference env u ref).scheme = u.scheme ∨
      (resolveReference env u ref).scheme = ref.scheme) ∧
    ((resolveReference env u ref).opaquePart ≠ [] → (resolveReference env u ref).host = []) ∧
    ((resolveReference env u ref).rawQuery = ref.rawQuery ∨
      (resolveReference env u ref).rawQuery = u.rawQuery) := by
  obtain ⟨hopaqueHost', hhost, hquery, hscheme⟩ := withScheme_frame u ref
  obtain ⟨hscheme', hopaqueHost'', hquery'⟩ := withQuery_frame u ref (withScheme u ref)
  rw [hquery] at hquery'
  unfold resolveReference
  dsimp only
  split_ifs with habsolute hrefOpaque hbaseOpaque
  · have hframe := withPath_frame env (withScheme u ref) (resolvePath (ref.escapedPath env) [])
    rw [hframe.scheme, hframe.opaquePart, hframe.host, hframe.rawQuery, hopaqueHost', hhost, hquery]
    exact ⟨hscheme, hopaqueHost, .inl rfl⟩
  · exact ⟨hscheme, fun _ => rfl, .inl hquery⟩
  · refine ⟨?_, fun _ => rfl, hquery'⟩
    rw [hscheme']
    exact hscheme
  · have hframe := withPath_frame env
      { withQuery u ref (withScheme u ref) with host := u.host, user := u.user }
      (resolvePath (u.escapedPath env) (ref.escapedPath env))
    rw [hframe.scheme, hframe.opaquePart, hframe.host, hframe.rawQuery]
    refine ⟨?_, ?_, hquery'⟩
    · rw [hscheme']
      exact hscheme
    · rw [hopaqueHost'', hopaqueHost']
      exact fun hne => absurd hne hrefOpaque

/-- A URL with a host name has a host. -/
theorem host_ne_nil_of_hostname (h : u.hostname ≠ []) : u.host ≠ [] := by
  intro hhost
  apply h
  unfold hostname
  rw [hhost]
  rfl

end URL
