import DomainMonitor.Safedial
import DomainMonitor.Httpcheck.Checker

/-! # The connections of a check

    `NewSafe` gives the transport the safe dialer and no proxy, so every
    connection a check makes is made by a call of `DialContext`. This module
    collects the dials of a whole check, over all its attempts and all the hops
    of their redirect chains, and shows that each of them is safe for the URL of
    its own hop.
-/

namespace DomainMonitor.Httpcheck

open Loop Safedial HostPort

/-- What the transport meets in one attempt: for each request of the chain, the
    networks of the dials it makes for it. There is none if an idle connection
    is used again, and there may be more than one if a connection breaks. -/
abbrev Wire := Nat → List Network

/-- `canonicalAddr` of `net/http`; `ascii` is the conversion of the host name. -/
def canonicalAddr (ascii : GoString → GoString) (u : URL) : GoString :=
  let port := if u.port ≠ [] then u.port
    else if u.scheme = lit "http" then lit "80"
    else if u.scheme = lit "https" then lit "443"
    else []
  joinHostPort (ascii u.hostname) port

/-- A dial, with the hop and the URL it is made for. -/
structure HopDial where
  hop : Nat
  url : URL
  outcome : Trace × Except Netcheck.Error Target

section

variable (ascii : GoString → GoString) (policy : Policy) (lib : Library) (config : Config)
  (mode : ContentMode)

/-- The dials of one round trip. -/
def roundTripDials (wire : Wire) (k : Nat) (u : URL) : List HopDial :=
  (wire k).map (fun net => ⟨k, u, dialContext policy net (lit "tcp") (canonicalAddr ascii u)⟩)

/-- The dials of `checkAttempt`. -/
def attemptDials (initial : URL) (server : Server) (wire : Wire) (attemptNumber : Nat) :
    List HopDial :=
  emitted (checkStep lib config mode server)
    (fun k st => roundTripDials ascii policy wire k st.current)
    (config.maxRedirects.toNat + 1) 0 (initialState lib initial server attemptNumber)

/-- The dials of `CheckURL`. -/
def urlDials (servers : Nat → Server) (wires : Nat → Wire) (rawURL : GoString) : List HopDial :=
  match validateURL lib rawURL with
  | .error _ => []
  | .ok parsed =>
    (Retry.attempts config.retry.limit
      (fun n => attemptDials ascii policy lib config mode parsed (servers n) (wires n) n)
      (again lib config mode servers parsed)).flatten

/-- The dials of `CheckDomain`, for a checker that `NewSafe` has built. -/
def domainDials (origin : Origin) (httpsWires httpWires : Nat → Wire) (hostname : GoString) :
    List HopDial :=
  let config := normalizeConfig config
  let policy := new policy
  let https := checkURL lib config mode origin.https (httpsURL hostname)
  urlDials ascii policy lib config mode origin.https httpsWires (httpsURL hostname)
    ++ if shouldFallbackToHTTP (https.getLast?.bind Attempt.errorCode) then
      urlDials ascii policy lib config mode origin.http httpWires (httpURL hostname)
    else []

end

variable {ascii : GoString → GoString} {policy : Policy} {lib : Library} {config : Config}
  {mode : ContentMode}

/-- The dial is safe for the URL of its hop. -/
def HopDial.Safe (ascii : GoString → GoString) (policy : Policy) (dial : HopDial) : Prop :=
  SafeDial policy (canonicalAddr ascii dial.url) dial.outcome

theorem attemptDials_safe {initial : URL} {server : Server} {wire : Wire} {attemptNumber : Nat}
    {dial : HopDial}
    (h : dial ∈ attemptDials ascii policy lib config mode initial server wire attemptNumber) :
    dial.Safe ascii policy ∧
    ∃ st, Visits (checkStep lib config mode server) (initialState lib initial server attemptNumber)
      dial.hop st ∧ dial.url = st.current := by
  obtain ⟨k, st, hvisits, hdial⟩ := mem_emitted _ .start h
  obtain ⟨net, -, rfl⟩ := List.mem_map.mp hdial
  exact ⟨dialContext_safe policy net _ _, st, hvisits, rfl⟩

theorem urlDials_safe {servers : Nat → Server} {wires : Nat → Wire} {rawURL : GoString}
    {dial : HopDial} (h : dial ∈ urlDials ascii policy lib config mode servers wires rawURL) :
    dial.Safe ascii policy := by
  unfold urlDials at h
  split at h
  · cases h
  · obtain ⟨dials, hdials, hdial⟩ := List.mem_flatten.mp h
    obtain ⟨n, -, rfl⟩ := Retry.mem_attempts_iff.mp hdials
    exact (attemptDials_safe hdial).1

theorem domainDials_safe {origin : Origin} {httpsWires httpWires : Nat → Wire}
    {hostname : GoString} {dial : HopDial}
    (h : dial ∈ domainDials ascii policy lib config mode origin httpsWires httpWires hostname) :
    dial.Safe ascii (new policy) := by
  obtain h | h := List.mem_append.mp h
  · exact urlDials_safe h
  · split_ifs at h
    · exact urlDials_safe h
    · cases h

/-- **Safe dialing.** Every dial looks its host up at most once, and connects only
    to addresses of that answer or to the literal address, on an allowed port and
    after all of them have passed; with a blocked one among them it connects to
    none. The same is true of every dial of a check, for the URL of its hop. -/
theorem safe_dialing (policy : Policy) :
    (∀ net network address,
      SafeDial (new policy) address (dialContext (new policy) net network address)) ∧
    (∀ net network address host rawPort, splitHostPort address = .ok (host, rawPort) →
      ∀ a ∈ resolvedSet host (dialContext (new policy) net network address).1,
        validate (new policy) a ≠ .ok () →
        (dialContext (new policy) net network address).1.connects = []) ∧
    ∀ ascii lib config mode origin httpsWires httpWires hostname,
      ∀ dial ∈ domainDials ascii policy lib config mode origin httpsWires httpWires hostname,
        dial.Safe ascii (new policy) := by
  refine ⟨dialContext_safe (new policy), ?_, ?_⟩
  · intro net network address host rawPort hsplit a ha hblocked
    exact (dialContext_safe (new policy) net network address).1.no_connects hsplit ha hblocked
  · intro ascii lib config mode origin httpsWires httpWires hostname dial hdial
    exact domainDials_safe hdial

/-- A network in which every name has these addresses and every connection is
    accepted. -/
def openNetwork (addresses : List NetIP.Addr) : Network where
  lookup := fun _ _ => .ok addresses
  connect := fun _ _ => .ok ()
  ctxErr := none
  quote := id

/-- A name with one public address is connected to; a second, private one keeps
    the dial from connecting at all. -/
theorem safe_dialing_mixed :
    (dialContext defaultPolicy (openNetwork [.v4 [93, 184, 216, 34]]) (lit "tcp")
      (lit "mixed.example:443")).1.connects = [⟨.v4 [93, 184, 216, 34], 443⟩] ∧
    (dialContext defaultPolicy (openNetwork [.v4 [93, 184, 216, 34], .v4 [10, 0, 0, 1]]) (lit "tcp")
      (lit "mixed.example:443")).1.connects = [] := by
  refine ⟨by decide +kernel, ?_⟩
  exact (safe_dialing ⟨[], []⟩).2.1 _ _ _ (lit "mixed.example") (lit "443") (by decide +kernel)
    (.v4 [10, 0, 0, 1]) (by decide +kernel) nofun

end DomainMonitor.Httpcheck
