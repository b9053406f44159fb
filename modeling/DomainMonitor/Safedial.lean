import DomainMonitor.Lib.HostPort
import DomainMonitor.Lib.IPPrefix
import DomainMonitor.Netcheck

/-! # The SSRF-safe dialer (`internal/safedial`)

    A dial resolves its host once, checks every address of the answer against
    the policy, and then connects to these addresses by their text. The resolver
    and the network are arbitrary, and may answer every call of one dial
    differently. The standard dialer, which is given a text, is modelled with the
    lookup it makes for a host that is not an address, so that it has to be
    proved that this lookup never happens.
-/

namespace DomainMonitor.Safedial

open Strings NetIP HostPort Netcheck

/-! ### The policy -/

/-- `Policy`. How long a connection may take is part of what the network does. -/
structure Policy where
  allowedPorts : List Nat
  allowedPrefixes : List Prefix

variable (policy : Policy) (address : Addr) (net : Network) (network : GoString) (trace : Trace)
  (host : GoString)

/-- The policy of the dialer that `New` returns. -/
def new : Policy :=
  { policy with
    allowedPorts := if policy.allowedPorts = [] then [80, 443] else policy.allowedPorts }

def blockedPrefixes : List Prefix :=
  [⟨.v4 [0, 0, 0, 0], 8⟩, ⟨.v4 [100, 64, 0, 0], 10⟩, ⟨.v4 [192, 0, 0, 0], 24⟩,
    ⟨.v4 [192, 0, 2, 0], 24⟩, ⟨.v4 [198, 18, 0, 0], 15⟩, ⟨.v4 [198, 51, 100, 0], 24⟩,
    ⟨.v4 [203, 0, 113, 0], 24⟩, ⟨.v4 [240, 0, 0, 0], 4⟩,
    ⟨.v6 [0, 0x64, 0xff, 0x9b, 0, 1, 0, 0, 0, 0, 0, 0, 0, 0, 0, 0] [], 48⟩,
    ⟨.v6 [1, 0, 0, 0, 0, 0, 0, 0, 0, 0, 0, 0, 0, 0, 0, 0] [], 64⟩,
    ⟨.v6 [0x20, 0x01, 0x0d, 0xb8, 0, 0, 0, 0, 0, 0, 0, 0, 0, 0, 0, 0] [], 32⟩]

/-- `blocked`. The zero address is printed as an invalid one. -/
def blocked (address : Addr) : Error :=
  let text := if address.isValid then address.text else lit "invalid IP"
  ⟨.ssrfBlockedAddress, "tcp", lit "validate target", false,
    some (lit "address " ++ text ++ lit " is blocked by policy")⟩

/-- The addresses that are blocked for what they are. -/
def unroutable : Bool :=
  !address.isValid || !address.isGlobalUnicast || address.isPrivate || address.isLoopback
    || address.isLinkLocalUnicast || address.isLinkLocalMulticast || address.isMulticast
    || address.isUnspecified

/-- `validate`. -/
def validate : Except Error Unit :=
  let address := address.unmap
  if policy.allowedPrefixes.any (·.contains address) then .ok ()
  else if unroutable address then .error (blocked address)
  else if blockedPrefixes.any (·.contains address) then .error (blocked address)
  else .ok ()

theorem validate_unmap : validate policy address.unmap = validate policy address := by
  unfold validate
  rw [Addr.unmap_unmap]

/-! ### Other spellings of a destination -/

/-- The IPv6 forms that carry another address. -/
inductive Form where
  | mapped | nat64 | sixToFour | compatible | zoned
  deriving DecidableEq

/-- `b` is `a` in this form. A 6to4 address is any one of the network of `a`. -/
def Form.Spells : Form → Addr → Addr → Prop
  | .mapped, a, b => ∃ ip zone, ip.length = 4 ∧ a = .v4 ip ∧ b = .v6 (mappedBytes ++ ip) zone
  | .nat64, a, b => ∃ ip, ip.length = 4 ∧ a = .v4 ip ∧
      b = .v6 ([0, 0x64, 0xff, 0x9b, 0, 0, 0, 0, 0, 0, 0, 0] ++ ip) []
  | .sixToFour, a, b => ∃ ip rest, ip.length = 4 ∧ rest.length = 10 ∧ a = .v4 ip ∧
      b = .v6 ([0x20, 0x02] ++ ip ++ rest) []
  | .compatible, a, b => ∃ ip, ip.length = 4 ∧ a = .v4 ip ∧
      b = .v6 (List.replicate 12 0 ++ ip) []
  | .zoned, a, b => ∃ bytes zone, bytes.length = 16 ∧ zone ≠ [] ∧ a = .v6 bytes [] ∧
      b = .v6 bytes zone

/-- The kinds of IPv6 addresses that are blocked with a zone, too. -/
def blockedWithZone (a : Addr) : Bool :=
  a.isLoopback || a.isPrivate || a.isLinkLocalUnicast || a.isMulticast

theorem blockedWithZone_zone (bytes zone zone' : List UInt8) :
    blockedWithZone (.v6 bytes zone) = blockedWithZone (.v6 bytes zone') := by
  match bytes with
  | [] | [_] | _ :: _ :: _ => rfl

/-- The addresses whose block this form cannot pass by. -/
def Form.covers : Form → Addr → Bool
  | .mapped, _ => true
  | .nat64, _ => false
  | .sixToFour, _ => false
  | .compatible, a => a = .v4 [0, 0, 0, 0] || a = .v4 [0, 0, 0, 1]
  | .zoned, a =>
    match a.unmap with
    | .v4 _ => true
    | .v6 bytes zone => blockedWithZone (.v6 bytes zone)

/-- Without allowed prefixes an address passes if neither check finds it. -/
theorem validate_eq_ok {policy : Policy} (hpolicy : policy.allowedPrefixes = []) {a : Addr} :
    validate policy a = .ok () ↔
      unroutable a.unmap = false ∧ blockedPrefixes.any (·.contains a.unmap) = false := by
  unfold validate
  dsimp only
  rw [hpolicy, List.any_nil, if_neg Bool.false_ne_true]
  cases hkind : unroutable a.unmap <;>
    cases hlist : blockedPrefixes.any (·.contains a.unmap) <;> simp

/-- With a zone, no prefix applies, and `::` is not the unspecified address. -/
theorem unroutable_zoned {bytes zone : List UInt8} (hbytes : bytes.length = 16) (hzone : zone ≠ []) :
    unroutable (.v6 bytes zone) = blockedWithZone (.v6 bytes zone) := by
  have hmulticast : (Addr.v6 bytes zone).isLinkLocalMulticast = true →
      (Addr.v6 bytes zone).isMulticast = true := by
    match bytes with
    | a :: b :: _ =>
      simp only [Addr.isLinkLocalMulticast, Addr.isMulticast, Bool.and_eq_true, decide_eq_true_eq]
      exact fun h => h.1
  have hvalid : (Addr.v6 bytes zone).isValid = true := by simpa [Addr.isValid] using hbytes
  have hspecified : (Addr.v6 bytes zone).isUnspecified = false := by
    simp [Addr.isUnspecified, hzone]
  have hunicast : (Addr.v6 bytes zone).isGlobalUnicast =
      (!(Addr.v6 bytes zone).isLoopback && !(Addr.v6 bytes zone).isMulticast
        && !(Addr.v6 bytes zone).isLinkLocalUnicast) := by
    simp [Addr.isGlobalUnicast, hvalid, hzone]
  unfold unroutable blockedWithZone
  rw [hvalid, hspecified, hunicast]
  revert hmulticast
  cases (Addr.v6 bytes zone).isLoopback <;> cases (Addr.v6 bytes zone).isMulticast <;>
    cases (Addr.v6 bytes zone).isLinkLocalUnicast <;> cases (Addr.v6 bytes zone).isPrivate <;>
    cases (Addr.v6 bytes zone).isLinkLocalMulticast <;> simp

section Spellings

variable {policy : Policy} (hpolicy : policy.allowedPrefixes = [])
include hpolicy

variable {ip : List UInt8}

theorem validate_nat64 (hip : ip.length = 4) :
    validate policy (.v6 ([0, 0x64, 0xff, 0x9b, 0, 0, 0, 0, 0, 0, 0, 0] ++ ip) []) = .ok () := by
  rw [validate_eq_ok hpolicy]
  match ip, hip with
  | [a, b, c, d], _ => exact ⟨rfl, rfl⟩

theorem validate_sixToFour {rest : List UInt8} (hip : ip.length = 4) (hrest : rest.length = 10) :
    validate policy (.v6 ([0x20, 0x02] ++ ip ++ rest) []) = .ok () := by
  rw [validate_eq_ok hpolicy]
  match ip, hip, rest, hrest with
  | [a, b, c, d], _, [r₀, r₁, r₂, r₃, r₄, r₅, r₆, r₇, r₈, r₉], _ => exact ⟨rfl, rfl⟩

theorem validate_compatible (hip : ip.length = 4) :
    validate policy (.v6 (List.replicate 12 0 ++ ip) []) = .ok () ↔
      ip ≠ [0, 0, 0, 0] ∧ ip ≠ [0, 0, 0, 1] := by
  rw [validate_eq_ok hpolicy]
  match ip, hip with
  | [a, b, c, d], _ =>
    have hunmap : (Addr.v6 (List.replicate 12 0 ++ [a, b, c, d]) []).unmap =
      .v6 (List.replicate 12 0 ++ [a, b, c, d]) [] := rfl
    have hprefixes : blockedPrefixes.any
        (·.contains (.v6 (List.replicate 12 0 ++ [a, b, c, d]) [])) = false := rfl
    rw [hunmap, hprefixes]
    simp [unroutable, Addr.isValid, Addr.isGlobalUnicast, Addr.isUnspecified, Addr.isLoopback,
      Addr.isPrivate, Addr.isMulticast, Addr.isLinkLocalUnicast, Addr.isLinkLocalMulticast,
      List.replicate]
    exact fun h _ => h

theorem validate_zoned {bytes zone : List UInt8} (hbytes : bytes.length = 16) (hzone : zone ≠ [])
    (hmapped : bytes.take 12 ≠ mappedBytes) :
    validate policy (.v6 bytes zone) = .ok () ↔ blockedWithZone (.v6 bytes zone) = false := by
  have hprefixes : blockedPrefixes.any (·.contains (.v6 bytes zone)) = false := by
    rw [List.any_eq_false]
    intro p _
    rw [Prefix.not_contains_zone p bytes hzone]
    exact Bool.false_ne_true
  rw [validate_eq_ok hpolicy, Addr.unmap, if_neg hmapped, unroutable_zoned hbytes hzone, hprefixes]
  simp

end Spellings

/-- Of the other spellings of an address that is blocked, exactly the covered
    ones are blocked. -/
theorem validate_spelling_iff {policy : Policy} (hpolicy : policy.allowedPrefixes = [])
    {form : Form} {a b : Addr} (hspells : form.Spells a b) (hblocked : validate policy a ≠ .ok ()) :
    validate policy b ≠ .ok () ↔ form.covers a = true := by
  cases form with
  | mapped =>
    obtain ⟨ip, zone, hip, rfl, rfl⟩ := hspells
    have hunmap : (Addr.v6 (mappedBytes ++ ip) zone).unmap = .v4 ip := by
      simp [Addr.unmap, mappedBytes]
    rw [← validate_unmap, hunmap]
    exact iff_of_true hblocked rfl
  | nat64 =>
    obtain ⟨ip, hip, rfl, rfl⟩ := hspells
    exact iff_of_false (not_not.mpr (validate_nat64 hpolicy hip)) Bool.false_ne_true
  | sixToFour =>
    obtain ⟨ip, rest, hip, hrest, rfl, rfl⟩ := hspells
    exact iff_of_false (not_not.mpr (validate_sixToFour hpolicy hip hrest)) Bool.false_ne_true
  | compatible =>
    obtain ⟨ip, hip, rfl, rfl⟩ := hspells
    rw [ne_eq, validate_compatible hpolicy hip]
    simp only [Form.covers, Bool.or_eq_true, decide_eq_true_eq, Addr.v4.injEq]
    tauto
  | zoned =>
    obtain ⟨bytes, zone, hbytes, hzone, rfl, rfl⟩ := hspells
    by_cases hmapped : bytes.take 12 = mappedBytes
    · have hunmap : ∀ zone, (Addr.v6 bytes zone).unmap = .v4 (bytes.drop 12) := by
        intro zone
        simp [Addr.unmap, hmapped]
      rw [← validate_unmap, hunmap] at hblocked ⊢
      exact iff_of_true hblocked (by simp [Form.covers, hunmap])
    · rw [ne_eq, validate_zoned hpolicy hbytes hzone hmapped]
      simp [Form.covers, Addr.unmap, hmapped, blockedWithZone_zone bytes zone []]

/-- The policy of a dialer that was given none. -/
def defaultPolicy : Policy := new ⟨[], []⟩

/-- 127.0.0.1 in its NAT64 form, 64:ff9b::7f00:1. -/
theorem validate_spelling_sample :
    Form.nat64.Spells (.v4 [127, 0, 0, 1])
      (.v6 [0, 0x64, 0xff, 0x9b, 0, 0, 0, 0, 0, 0, 0, 0, 127, 0, 0, 1] []) ∧
    validate defaultPolicy (.v4 [127, 0, 0, 1]) ≠ .ok () ∧
    (validate defaultPolicy (.v6 [0, 0x64, 0xff, 0x9b, 0, 0, 0, 0, 0, 0, 0, 0, 127, 0, 0, 1] []) ≠
      .ok () ↔ Form.nat64.covers (.v4 [127, 0, 0, 1]) = true) := by
  have hspells : Form.nat64.Spells (.v4 [127, 0, 0, 1])
      (.v6 [0, 0x64, 0xff, 0x9b, 0, 0, 0, 0, 0, 0, 0, 0, 127, 0, 0, 1] []) :=
    ⟨[127, 0, 0, 1], rfl, rfl, rfl⟩
  have hblocked : validate defaultPolicy (.v4 [127, 0, 0, 1]) ≠ .ok () := nofun
  exact ⟨hspells, hblocked, validate_spelling_iff rfl hspells hblocked⟩

/-- 127.0.0.1 is blocked and 64:ff9b::7f00:1 is not; the unspecified address is
    blocked, and with a zone it is not. -/
theorem blocked_address_respelled :
    Form.nat64.Spells (.v4 [127, 0, 0, 1])
      (.v6 [0, 0x64, 0xff, 0x9b, 0, 0, 0, 0, 0, 0, 0, 0, 127, 0, 0, 1] []) ∧
    validate defaultPolicy (.v4 [127, 0, 0, 1]) = .error (blocked (.v4 [127, 0, 0, 1])) ∧
    validate defaultPolicy (.v6 [0, 0x64, 0xff, 0x9b, 0, 0, 0, 0, 0, 0, 0, 0, 127, 0, 0, 1] []) =
      .ok () ∧
    Form.zoned.Spells (.v6 (List.replicate 16 0) []) (.v6 (List.replicate 16 0) (lit "eth0")) ∧
    validate defaultPolicy (.v6 (List.replicate 16 0) []) =
      .error (blocked (.v6 (List.replicate 16 0) [])) ∧
    validate defaultPolicy (.v6 (List.replicate 16 0) (lit "eth0")) = .ok () := by
  refine ⟨⟨[127, 0, 0, 1], rfl, rfl, rfl⟩, rfl, rfl,
    ⟨List.replicate 16 0, lit "eth0", rfl, by decide, rfl, rfl⟩, rfl, rfl⟩

/-! ### What a dial does to the network -/

/-- One call of `LookupNetIP` and its answer. -/
structure Lookup where
  host : GoString
  answer : Except Failure (List Addr)

/-- Where a connection goes. -/
structure Target where
  addr : Addr
  port : Nat
  deriving DecidableEq

/-- The lookups and the connections of a dial so far, in order. -/
structure Trace where
  lookups : List Lookup := []
  connects : List Target := []

/-- What a dial meets. An answer may depend on everything the dial has done. -/
structure Network where
  lookup : Trace → GoString → Except Failure (List Addr)
  connect : Trace → Target → Except Failure Unit
  ctxErr : Option ContextErr
  /-- `strconv.Quote`. -/
  quote : GoString → GoString

/-- A call of `LookupNetIP`. -/
def Network.resolve : Trace × Except Failure (List Addr) :=
  let answer := net.lookup trace host
  ({ trace with lookups := trace.lookups ++ [⟨host, answer⟩] }, answer)

/-- An attempt to connect. -/
def Network.attempt (target : Target) : Trace × Except Failure Target :=
  ({ trace with connects := trace.connects ++ [target] },
    (net.connect trace target).map (fun _ => target))

/-! ### The standard library -/

inductive NumError where
  | invalid | outOfRange

/-- The loop of `strconv.ParseUint` in base ten, with `n` read so far. -/
def parseDigits (limit : Nat) : Nat → GoString → Except NumError Nat
  | n, [] => .ok n
  | n, c :: rest =>
    if isDigit c = false then .error .invalid
    else if n * 10 + (c.toNat - 48) > limit then .error .outOfRange
    else parseDigits limit (n * 10 + (c.toNat - 48)) rest

/-- `strconv.ParseUint(s, 10, 16)`. -/
def parseUint16 (s : GoString) : Except NumError Nat :=
  if s = [] then .error .invalid else parseDigits 65535 0 s

/-- The text of a `strconv.NumError`. -/
def NumError.text (quote : GoString → GoString) (s : GoString) : NumError → GoString
  | .invalid => lit "strconv.ParseUint: parsing " ++ quote s ++ lit ": invalid syntax"
  | .outOfRange => lit "strconv.ParseUint: parsing " ++ quote s ++ lit ": value out of range"

/-- A failure of the standard dialer before it has connected. -/
def opFailure (cause : GoString) : Failure :=
  { text := lit "dial " ++ network ++ lit ": " ++ cause, opError := some false }

/-- Connect to one address after the other. -/
def connectAny (trace : Trace) (lastError : Failure) (port : Nat) :
    List Addr → Trace × Except Failure Target
  | [] => (trace, .error lastError)
  | addr :: rest =>
    match net.attempt trace ⟨addr, port⟩ with
    | (trace, .ok target) => (trace, .ok target)
    | (trace, .error err) => connectAny trace err port rest

/-- `(*net.Dialer).DialContext`: a host that is an address is used as it is, and
    any other one is looked up. -/
def netDial (address : GoString) : Trace × Except Failure Target :=
  match splitHostPort address with
  | .error message => (trace, .error (opFailure network message))
  | .ok (host, rawPort) =>
    match parseUint16 rawPort with
    | .error _ => (trace, .error (opFailure network (lit "unknown port")))
    | .ok port =>
      match parseAddr host with
      | some addr => net.attempt trace ⟨addr, port⟩
      | none =>
        match net.resolve trace host with
        | (trace, .error err) => (trace, .error err)
        | (trace, .ok addrs) =>
          connectAny net trace (opFailure network (lit "no suitable address found")) port addrs

/-! ### `resolve` and `DialContext` -/

/-- The host as `resolve` looks it up. -/
def hostName : GoString :=
  let host := Utf8.trimSpace host
  if host.getLast? = some (byte '.') then host.dropLast else host

/-- The loop of `resolve`: the addresses unmapped, each of them once. -/
def unique (addresses : List Addr) : List Addr :=
  addresses.foldl (fun seen address =>
    if address.unmap ∈ seen then seen else seen ++ [address.unmap]) []

/-- `resolve`. -/
def resolve (net : Network) (trace : Trace) (host : GoString) :
    Trace × Except Failure (List Addr) :=
  match parseAddr (hostName host) with
  | some parsed => (trace, .ok [parsed.unmap])
  | none =>
    let (trace, answer) := net.resolve trace (hostName host)
    (trace, answer.map unique)

/-- The loop that connects to the candidates, with `lastError` so far. -/
def dialEach (rawPort : GoString) (trace : Trace) (lastError : Failure) :
    List Addr → Trace × Except Failure Target
  | [] => (trace, .error lastError)
  | candidate :: rest =>
    match netDial net network trace (joinHostPort candidate.text rawPort) with
    | (trace, .ok target) => (trace, .ok target)
    | (trace, .error err) => dialEach rawPort trace err rest

/-- A `nil` error, as it is printed. -/
def nilError : Failure := { text := lit "%!w(<nil>)" }

/-- The part of `DialContext` after the port is checked. -/
def dialHost (rawPort : GoString) : Trace × Except Error Target :=
  match resolve net {} host with
  | (trace, .error err) =>
    (trace, .error (err.classified.getD
      ⟨.dnsNetworkError, "dns", lit "safe resolve", true, some err.text⟩))
  | (trace, .ok addresses) =>
    if addresses = [] then
      (trace, .error ⟨.dnsNetworkError, "dns", lit "safe resolve", false,
        some (lit "resolver returned no addresses")⟩)
    else match addresses.forM (validate policy) with
      | .error err => (trace, .error err)
      | .ok () =>
        match dialEach net network rawPort trace nilError addresses with
        | (trace, .ok target) => (trace, .ok target)
        | (trace, .error lastError) =>
          (trace, .error (classifyTCP net.ctxErr (lit "dial " ++ host) lastError))

/-- `DialContext`, for a dialer with this policy. -/
def dialContext (address : GoString) : Trace × Except Error Target :=
  if network ≠ lit "tcp" ∧ network ≠ lit "tcp4" ∧ network ≠ lit "tcp6" then
    ({}, .error ⟨.ssrfBlockedAddress, "tcp", lit "dial", false,
      some (lit "network " ++ net.quote network ++ lit " is not allowed")⟩)
  else match splitHostPort address with
    | .error message => ({}, .error ⟨.ssrfBlockedPort, "tcp", lit "dial", false, some message⟩)
    | .ok (host, rawPort) =>
      match parseUint16 rawPort with
      | .error err =>
        ({}, .error ⟨.ssrfBlockedPort, "tcp", lit "dial", false, some (err.text net.quote rawPort)⟩)
      | .ok port =>
        if port ∉ policy.allowedPorts then
          ({}, .error ⟨.ssrfBlockedPort, "tcp", lit "dial", false,
            some (lit "port " ++ lit (toString port) ++ lit " is not allowed")⟩)
        else dialHost policy net network host rawPort

/-! ### Validated addresses -/

variable {policy : Policy} {address host : GoString} {addresses : List Addr} {a : Addr}
  {trace : Trace}

theorem isValid_of_validate {address : Addr} (h : validate policy address = .ok ()) :
    address.unmap.isValid = true := by
  unfold validate at h
  dsimp only at h
  split_ifs at h with hallowed hkind hblocked
  · obtain ⟨p, -, hp⟩ := List.any_eq_true.mp hallowed
    exact Prefix.isValid_of_contains hp
  · simp only [unroutable, Bool.or_eq_true, not_or, Bool.not_eq_true', Bool.not_eq_false] at hkind
    tauto

theorem forM_validate (h : addresses.forM (validate policy) = .ok ()) :
    ∀ a ∈ addresses, validate policy a = .ok () := by
  induction addresses with
  | nil => exact fun a ha => absurd ha List.not_mem_nil
  | cons b rest ih =>
    obtain ⟨_, hfirst, hrest⟩ := except_bind_ok.mp h
    intro a ha
    obtain rfl | ha := List.mem_cons.mp ha
    · exact hfirst
    · exact ih hrest a ha

/-- The deduplicated answer has the same addresses, unmapped. -/
theorem mem_unique : a ∈ unique addresses ↔ ∃ b ∈ addresses, b.unmap = a := by
  suffices hfold : ∀ seen : List Addr, a ∈ addresses.foldl (fun seen address =>
      if address.unmap ∈ seen then seen else seen ++ [address.unmap]) seen ↔
      a ∈ seen ∨ ∃ b ∈ addresses, b.unmap = a by
    unfold unique
    simpa using hfold []
  induction addresses with
  | nil => simp
  | cons b rest ih =>
    intro seen
    rw [List.foldl_cons, ih]
    by_cases hseen : b.unmap ∈ seen
    · rw [if_pos hseen]
      simp only [List.mem_cons, exists_eq_or_imp]
      constructor
      · rintro (h | h)
        · exact .inl h
        · exact .inr (.inr h)
      · rintro (h | h | h)
        · exact .inl h
        · exact .inl (h ▸ hseen)
        · exact .inr h
    · rw [if_neg hseen]
      simp [or_assoc, eq_comm]

/-! ### Connections by text -/

theorem parseDigits_ok {limit n port : Nat} {s : GoString} (h : parseDigits limit n s = .ok port) :
    ∀ c ∈ s, isDigit c = true := by
  induction s generalizing n with
  | nil => exact fun c hc => absurd hc List.not_mem_nil
  | cons c rest ih =>
    unfold parseDigits at h
    split_ifs at h with hdigit hlimit
    intro d hd
    obtain rfl | hd := List.mem_cons.mp hd
    · simpa using hdigit
    · exact ih h d hd

theorem colon_notMem_port {rawPort : GoString} {port : Nat}
    (h : parseUint16 rawPort = .ok port) : 58 ∉ rawPort := by
  unfold parseUint16 at h
  split_ifs at h
  intro hmem
  exact absurd (parseDigits_ok h 58 hmem) (by decide)

/-- The text of an address is taken for a host: an IPv6 address has a colon, and
    an IPv4 address starts with a digit. -/
theorem text_host (hvalid : a.isValid = true) : 58 ∈ a.text ∨ a.text.head? ≠ some 91 := by
  cases a with
  | v4 bytes =>
    refine .inr (fun hhead => ?_)
    have hmem : (91 : UInt8) ∈ dotted bytes := List.mem_of_mem_head? hhead
    exact absurd (mem_dotted hmem) (by decide)
  | v6 bytes zone =>
    have hbytes : bytes.length = 16 := by simpa [Addr.isValid] using hvalid
    exact .inl (List.mem_append_left _ (colon_mem_colonHex hbytes))

variable {net : Network} {network rawPort : GoString} {port : Nat}

/-- What one dial by text adds: at most a connection to that address, and no
    lookup. -/
theorem netDial_text (net : Network) (network : GoString) (hvalid : a.isValid = true)
    (hport : parseUint16 rawPort = .ok port) (trace : Trace) :
    netDial net network trace (joinHostPort a.text rawPort) = net.attempt trace ⟨a, port⟩ ∨
    ∃ err, netDial net network trace (joinHostPort a.text rawPort) = (trace, .error err) := by
  unfold netDial
  cases hsplit : splitHostPort (joinHostPort a.text rawPort) with
  | error message => exact .inr ⟨_, rfl⟩
  | ok parts =>
    obtain ⟨host, raw⟩ := parts
    obtain ⟨rfl, rfl⟩ :=
      splitHostPort_joinHostPort (colon_notMem_port hport) (text_host hvalid) hsplit
    left
    simp only [hport, parseAddr_text hvalid]

/-- The loop only connects to the candidates, on the port it was given. -/
theorem dialEach_trace (net : Network) (network : GoString) (hport : parseUint16 rawPort = .ok port) {candidates : List Addr}
    (hvalid : ∀ a ∈ candidates, a.isValid = true) : ∀ (trace : Trace) (lastError : Failure),
      ∃ targets : List Target,
        (dialEach net network rawPort trace lastError candidates).1 =
          { trace with connects := trace.connects ++ targets } ∧
        (∀ t ∈ targets, t.addr ∈ candidates ∧ t.port = port) ∧
        ∀ t, (dialEach net network rawPort trace lastError candidates).2 = .ok t → t ∈ targets := by
  induction candidates with
  | nil =>
    intro trace lastError
    refine ⟨[], by simp [dialEach], by simp, ?_⟩
    intro t ht
    cases ht
  | cons a rest ih =>
    intro trace lastError
    have hrest := ih (fun b hb => hvalid b (List.mem_cons_of_mem a hb))
    unfold dialEach
    obtain hdial | ⟨err, hdial⟩ :=
      netDial_text net network (hvalid a List.mem_cons_self) hport trace
    · rw [hdial]
      unfold Network.attempt
      cases hconnect : net.connect trace ⟨a, port⟩ with
      | ok _ =>
        refine ⟨[⟨a, port⟩], rfl, by simp, ?_⟩
        intro t ht
        cases ht
        exact List.mem_cons_self
      | error err =>
        obtain ⟨targets, htrace, htargets, hok⟩ :=
          hrest { trace with connects := trace.connects ++ [⟨a, port⟩] } err
        refine ⟨⟨a, port⟩ :: targets, ?_, ?_, ?_⟩
        · exact htrace.trans (by simp)
        · intro t ht
          obtain rfl | ht := List.mem_cons.mp ht
          · exact ⟨List.mem_cons_self, rfl⟩
          · obtain ⟨hmem, hp⟩ := htargets t ht
            exact ⟨List.mem_cons_of_mem a hmem, hp⟩
        · exact fun t ht => List.mem_cons_of_mem _ (hok t ht)
    · rw [hdial]
      obtain ⟨targets, htrace, htargets, hok⟩ := hrest trace err
      refine ⟨targets, htrace, ?_, hok⟩
      intro t ht
      obtain ⟨hmem, hp⟩ := htargets t ht
      exact ⟨List.mem_cons_of_mem a hmem, hp⟩

/-! ### Safe dials -/

/-- The addresses a dial to `host` has to choose from: the address the host
    spells, or the answers to the lookups it has made. -/
def resolvedSet (host : GoString) (trace : Trace) : List Addr :=
  match parseAddr (hostName host) with
  | some literal => [literal]
  | none => trace.lookups.flatMap (fun lookup => lookup.answer.toOption.getD [])

/-- What a dial to `address` may do: one lookup at most, of the host that is
    dialed, and connections on an allowed port to addresses from the resolved
    set, all of which are allowed. -/
structure SafeTrace (policy : Policy) (address : GoString) (trace : Trace) : Prop where
  once : trace.lookups.length ≤ 1
  lookups : ∀ lookup ∈ trace.lookups, ∃ host rawPort, splitHostPort address = .ok (host, rawPort) ∧
    parseAddr (hostName host) = none ∧ lookup.host = hostName host
  connects : ∀ target ∈ trace.connects, ∃ host rawPort,
    splitHostPort address = .ok (host, rawPort) ∧
    parseUint16 rawPort = .ok target.port ∧ target.port ∈ policy.allowedPorts ∧
    (∃ a ∈ resolvedSet host trace, target.addr = a.unmap) ∧
    ∀ a ∈ resolvedSet host trace, validate policy a = .ok ()

/-- One blocked address is enough for no connection at all. -/
theorem SafeTrace.no_connects {rawPort : GoString} (h : SafeTrace policy address trace)
    (hsplit : splitHostPort address = .ok (host, rawPort)) (ha : a ∈ resolvedSet host trace)
    (hblocked : validate policy a ≠ .ok ()) : trace.connects = [] := by
  refine List.eq_nil_iff_forall_not_mem.mpr (fun target htarget => ?_)
  obtain ⟨host', rawPort', hsplit', -, -, -, hall⟩ := h.connects target htarget
  rw [hsplit] at hsplit'
  cases hsplit'
  exact hblocked (hall a ha)

theorem safeTrace_empty (policy : Policy) (address : GoString) : SafeTrace policy address {} :=
  ⟨Nat.zero_le 1, fun _ h => absurd h List.not_mem_nil, fun _ h => absurd h List.not_mem_nil⟩

/-- What `resolve` adds to the trace, and what it returns. -/
theorem resolve_spec (net : Network) (host : GoString) :
    (resolve net {} host).1.connects = [] ∧ (resolve net {} host).1.lookups.length ≤ 1 ∧
    (∀ lookup ∈ (resolve net {} host).1.lookups,
      parseAddr (hostName host) = none ∧ lookup.host = hostName host) ∧
    ∀ addresses, (resolve net {} host).2 = .ok addresses →
      ∀ a, a ∈ addresses ↔ ∃ b ∈ resolvedSet host (resolve net {} host).1, b.unmap = a := by
  unfold resolve resolvedSet
  cases hparse : parseAddr (hostName host) with
  | some literal =>
    refine ⟨rfl, Nat.zero_le 1, fun _ h => absurd h List.not_mem_nil, ?_⟩
    intro addresses hok a
    cases hok
    simp [eq_comm]
  | none =>
    unfold Network.resolve
    dsimp only
    refine ⟨rfl, by simp, by simp, ?_⟩
    intro addresses hok a
    cases hanswer : net.lookup {} (hostName host) with
    | error err =>
      rw [hanswer] at hok
      cases hok
    | ok answer =>
      rw [hanswer] at hok
      cases hok
      rw [mem_unique]
      simp [Except.toOption]

/-- A safe dial: its trace is safe, and the connection it returns is one it has
    made. -/
def SafeDial {ε : Type} (policy : Policy) (address : GoString)
    (outcome : Trace × Except ε Target) : Prop :=
  SafeTrace policy address outcome.1 ∧
    ∀ target, outcome.2 = .ok target → target ∈ outcome.1.connects

theorem SafeTrace.refused {ε : Type} (h : SafeTrace policy address trace) (err : ε) :
    SafeDial policy address (trace, .error err) :=
  ⟨h, fun _ hok => nomatch hok⟩

/-- The connections to addresses that have all passed. -/
theorem dialEach_safe (hsplit : splitHostPort address = .ok (host, rawPort))
    (hport : parseUint16 rawPort = .ok port) (hallowed : port ∈ policy.allowedPorts)
    (hresolved : SafeTrace policy address trace) (hnone : trace.connects = [])
    (hset : ∀ a, a ∈ addresses ↔ ∃ b ∈ resolvedSet host trace, b.unmap = a)
    (hpassed : ∀ a ∈ addresses, validate policy a = .ok ()) (lastError : Failure) :
    SafeDial policy address (dialEach net network rawPort trace lastError addresses) := by
  have hvalid : ∀ a ∈ addresses, a.isValid = true := by
    intro a ha
    have hunmapped := isValid_of_validate (hpassed a ha)
    obtain ⟨b, -, rfl⟩ := (hset a).mp ha
    rwa [Addr.unmap_unmap] at hunmapped
  obtain ⟨targets, htrace, htargets, hok⟩ :=
    dialEach_trace net network hport hvalid trace lastError
  rw [hnone, List.nil_append] at htrace
  refine ⟨?_, fun target htarget => ?_⟩
  · rw [htrace]
    refine ⟨hresolved.once, hresolved.lookups, ?_⟩
    intro target htarget
    obtain ⟨hmem, rfl⟩ := htargets target htarget
    obtain ⟨b, hb, hunmap⟩ := (hset target.addr).mp hmem
    refine ⟨host, rawPort, hsplit, hport, hallowed, ⟨b, hb, hunmap.symm⟩, ?_⟩
    intro a ha
    rw [← validate_unmap]
    exact hpassed a.unmap ((hset a.unmap).mpr ⟨a, ha, rfl⟩)
  · rw [htrace]
    exact hok target htarget

theorem dialHost_safe (hsplit : splitHostPort address = .ok (host, rawPort))
    (hport : parseUint16 rawPort = .ok port) (hallowed : port ∈ policy.allowedPorts) :
    SafeDial policy address (dialHost policy net network host rawPort) := by
  obtain ⟨hnone, honce, hlookups, hset⟩ := resolve_spec net host
  have hresolved : SafeTrace policy address (resolve net {} host).1 := by
    refine ⟨honce, ?_, ?_⟩
    · intro lookup hlookup
      obtain ⟨hparse, hhost⟩ := hlookups lookup hlookup
      exact ⟨host, rawPort, hsplit, hparse, hhost⟩
    · intro target htarget
      rw [hnone] at htarget
      cases htarget
  unfold dialHost
  cases hresolve : resolve net {} host with
  | mk trace answer =>
    rw [hresolve] at hresolved hnone hset
    cases answer with
    | error err => exact hresolved.refused _
    | ok addresses =>
      dsimp only
      by_cases hempty : addresses = []
      · rw [if_pos hempty]
        exact hresolved.refused _
      rw [if_neg hempty]
      cases hvalidate : addresses.forM (validate policy) with
      | error err => exact hresolved.refused _
      | ok _ =>
        -- Only here connections are made, and every address has passed.
        have hsafe : SafeDial policy address
            (dialEach net network rawPort trace nilError addresses) :=
          dialEach_safe hsplit hport hallowed hresolved hnone (hset addresses rfl)
            (forM_validate hvalidate) nilError
        cases hdial : dialEach net network rawPort trace nilError addresses with
        | mk trace' result =>
          rw [hdial] at hsafe
          cases result with
          | error err => exact hsafe.1.refused _
          | ok target => exact ⟨hsafe.1, fun t ht => hsafe.2 t (by cases ht; rfl)⟩

/-- Every dial is safe, whatever the resolver and the network do. -/
theorem dialContext_safe (policy : Policy) (net : Network) (network address : GoString) :
    SafeDial policy address (dialContext policy net network address) := by
  have hempty := safeTrace_empty policy address
  unfold dialContext
  by_cases hnetwork : network ≠ lit "tcp" ∧ network ≠ lit "tcp4" ∧ network ≠ lit "tcp6"
  · rw [if_pos hnetwork]
    exact hempty.refused _
  rw [if_neg hnetwork]
  cases hsplit : splitHostPort address with
  | error message => exact hempty.refused _
  | ok parts =>
    obtain ⟨host, rawPort⟩ := parts
    dsimp only
    cases hport : parseUint16 rawPort with
    | error err => exact hempty.refused _
    | ok port =>
      dsimp only
      by_cases hallowed : port ∈ policy.allowedPorts
      · rw [if_neg (not_not.mpr hallowed)]
        exact dialHost_safe hsplit hport hallowed
      · rw [if_pos hallowed]
        exact hempty.refused _

end DomainMonitor.Safedial
