import DomainMonitor.Httpcheck.Outcome
import DomainMonitor.Monitor.Evidence
import DomainMonitor.Monitor.Execute

/-! # Storing HTTP observations

    What a server can choose freely is the response that ends the chain: its
    status code, which the tables restrict to 100..599, and its body, of which a
    redacted excerpt of at most 65536 bytes can be stored. Everything else an
    attempt and the decision record is within the constraints of the tables.
-/

namespace DomainMonitor.Monitor

open Httpcheck Classification

/-! ### The columns of an attempt -/

/-- A status code the tables accept; zero is stored as `NULL`. -/
def StatusStorable (status : Nat) : Prop := status = 0 ∨ (100 ≤ status ∧ status ≤ 599)

theorem statusCodeCheck_nullableInt (status : Nat) :
    StatusCodeCheck (nullableInt status) ↔ StatusStorable status := by
  unfold StatusCodeCheck nullableInt StatusStorable
  by_cases h : status = 0
  · simp [h]
  · simp only [h, if_false, Option.mem_some, forall_eq', false_or]
    omega

variable {origin : OriginResult} {alternateDNS : List Dnscheck.Result} {server : Server}
  {parsed : URL} {status n : Nat} {P : Attempt → Prop} {a : Attempt} {target : Target}
  {cfg : Config}

theorem statusStorable_of_isRedirect (h : isRedirect status = true) : StatusStorable status := by
  simp only [isRedirect, Bool.or_eq_true, decide_eq_true_eq] at h
  unfold StatusStorable
  omega

theorem durationMicroseconds_nonneg (value : Int) : ∀ d ∈ durationMicroseconds value, 0 ≤ d := by
  unfold durationMicroseconds
  intro d hd
  split at hd
  · cases hd
  · cases hd
    exact microseconds_nonneg (by omega)

theorem max64_nonneg (value : Int) : 0 ≤ max64 0 value := by
  unfold max64
  split <;> omega

/-- The constraints of `http_checks` on the fields an attempt chooses. -/
theorem httpCheckColumns_checks_iff (scheme : Scheme) (resolverMode : ResolverMode) (a : Attempt) :
    (httpCheckColumns scheme resolverMode a).Checks ↔
      (1 ≤ a.attempt ∧ a.attempt ≤ 20) ∧
      StatusStorable a.initialStatusCode ∧ StatusStorable a.finalStatusCode ∧
      (a.content.bodySHA256 = [] ∨ a.content.bodySHA256.length = 32) ∧
      -1 ≤ a.content.declaredContentLength ∧ a.content.excerpt.length ≤ 65536 ∧
      ∀ h ∈ a.headers, 0 ∉ h.2 := by
  have hbytes : ∀ (bytes : List UInt8) (P : List UInt8 → Prop), P [] →
      ((∀ b ∈ nullableBytes bytes, P b) ↔ P bytes) := by
    intro bytes P hnil
    unfold nullableBytes
    by_cases h : bytes.length = 0
    · rw [if_pos h, List.length_eq_zero_iff.mp h]
      simp [hnil]
    · rw [if_neg h]
      simp
  have hdigest : (∀ b ∈ nullableBytes a.content.bodySHA256, b.length = 32) ↔
      (a.content.bodySHA256 = [] ∨ a.content.bodySHA256.length = 32) := by
    unfold nullableBytes
    by_cases h : a.content.bodySHA256.length = 0
    · rw [if_pos h, List.length_eq_zero_iff.mp h]
      simp
    · rw [if_neg h]
      have hne : a.content.bodySHA256 ≠ [] := fun he => h (by rw [he]; rfl)
      simp [hne]
  have hexcerpt := hbytes a.content.excerpt (fun b => b.length ≤ 65536) (by simp)
  unfold HTTPCheckColumns.Checks
  dsimp only [httpCheckColumns]
  rw [statusCodeCheck_nullableInt, statusCodeCheck_nullableInt, hdigest, hexcerpt]
  constructor
  · rintro ⟨h1, h2, h3, h4, -, -, -, -, -, -, h5, h6, h7, h8⟩
    exact ⟨⟨by omega, by omega⟩, h3, h4, h5, h6, h7, h8⟩
  · rintro ⟨⟨h1, h2⟩, h3, h4, h5, h6, h7, h8⟩
    exact ⟨by omega, by omega, h3, h4, durationMicroseconds_nonneg _, durationMicroseconds_nonneg _,
      durationMicroseconds_nonneg _, durationMicroseconds_nonneg _, max64_nonneg _, by omega, h5, h6,
      h7, h8⟩

/-! ### One attempt -/

/-- A final response whose attempt the tables accept. -/
def ResponseFits (lib : Library) (config : Httpcheck.Config) (response : Response) : Prop :=
  StatusStorable response.statusCode ∧ ExcerptFits lib config response

section Attempt

variable {lib : Library} {config : Httpcheck.Config} {mode : ContentMode} {initial : URL}
  {server : Server} {n : Nat}

/-- The first status of a chain is the final one or that of a redirect. -/
theorem noteStatus_initial (h : a.initialStatusCode = 0 ∨ isRedirect a.initialStatusCode = true)
    (hstatus : StatusStorable status) : StatusStorable (a.noteStatus status).initialStatusCode := by
  unfold Attempt.noteStatus
  split_ifs with hzero
  · exact hstatus
  · exact statusStorable_of_isRedirect (h.resolve_left hzero)

/-- The columns of an attempt meet the constraints of `http_checks` exactly when
    the response that ended its chain fits. -/
theorem checkAttempt_checks_iff (hmax : 0 ≤ config.maxRedirects) (hn : 1 ≤ n ∧ n ≤ 20)
    (scheme : Scheme) (resolverMode : ResolverMode) :
    (httpCheckColumns scheme resolverMode (checkAttempt lib config mode initial server n)).Checks ↔
      ∀ response, EndsWith lib config mode initial server n response →
        ResponseFits lib config response := by
  rw [httpCheckColumns_checks_iff]
  rcases checkAttempt_cases hmax with ⟨response, st, hst, hends, -, k, heq⟩ | ⟨hnone, h⟩
  · have hfinish := finishAttempt_finishOf lib config mode server (observed server k st response)
      response
    have hcontent := readContent_contentOf lib config mode response
    rw [← hfinish.content] at hcontent
    rw [← heq] at hfinish hcontent
    have hexcerpt := hcontent.excerpt_length_iff
    have hnumber : (checkAttempt lib config mode initial server n).attempt = n :=
      (checkAttempt_redirects lib mode initial server n hmax).1
    have hdigest : (checkAttempt lib config mode initial server n).content.bodySHA256 = [] ∨
        (checkAttempt lib config mode initial server n).content.bodySHA256.length = 32 := by
      rw [hcontent.digest]
      cases response.payload? config with
      | none => exact .inl rfl
      | some payload => exact .inr (lib.sha256_length payload)
    simp only [hends, forall_eq, ResponseFits]
    rw [hexcerpt, hfinish.final, hfinish.headers, hnumber, hcontent.declared]
    constructor
    · rintro ⟨-, -, hstatus, -, -, hfits, -⟩
      exact ⟨hstatus, hfits⟩
    · rintro ⟨hstatus, hfits⟩
      refine ⟨hn, ?_, hstatus, hdigest, response.lengthKnown, hfits,
        selectHeaders_zero_not_mem _ _⟩
      rw [hfinish.initial]
      exact noteStatus_initial hst.initial hstatus
  · -- Without a final response nothing it could choose is recorded.
    rw [h.number, h.final, h.content, h.headers]
    have hinitial : StatusStorable (checkAttempt lib config mode initial server n).initialStatusCode :=
      h.initial.elim .inl statusStorable_of_isRedirect
    constructor
    · intro _ response hends
      exact absurd hends (hnone response)
    · intro _
      exact ⟨hn, hinitial, .inl rfl, .inl rfl, by decide, by decide,
        fun header hheader => absurd hheader List.not_mem_nil⟩

/-- The hops of an attempt always meet the constraints of `redirect_hops`. -/
theorem checkAttempt_hops (hmin : 0 ≤ config.maxRedirects) (hmax : config.maxRedirects ≤ 20) :
    ((checkAttempt lib config mode initial server n).redirects.map
      (fun hop => (redirectHopColumns hop).hopNumber)).Nodup ∧
    ∀ hop ∈ (checkAttempt lib config mode initial server n).redirects,
      (redirectHopColumns hop).Checks := by
  obtain ⟨-, hhops, hstatuses, hcount⟩ := checkAttempt_redirects lib mode initial server n hmin
  generalize (checkAttempt lib config mode initial server n).redirects = hops at *
  have hnumbers : hops.map (fun hop => (redirectHopColumns hop).hopNumber) =
      (List.range hops.length).map Int.ofNat := by
    rw [← hhops, List.map_map]
    rfl
  constructor
  · rw [hnumbers]
    exact List.nodup_range.map fun _ _ => Int.ofNat.inj
  · intro hop hhop
    have hmem : hop.hop ∈ List.range hops.length := by
      rw [← hhops]
      exact List.mem_map_of_mem hhop
    have hlt := List.mem_range.mp hmem
    have hstatus := hstatuses hop hhop
    simp only [isRedirect, Bool.or_eq_true, decide_eq_true_eq] at hstatus
    refine ⟨?_, ?_, ?_, max64_nonneg _⟩
    · show (0 : Int) ≤ hop.hop
      omega
    · show (hop.hop : Int) ≤ 20
      omega
    · show (hop.statusCode : Int) ∈ [301, 302, 303, 307, 308]
      simp only [List.mem_cons, List.not_mem_nil, or_false]
      omega

/-- A refused URL is recorded as an attempt that always fits. -/
theorem invalidAttempt_checks (scheme : Scheme) (resolverMode : ResolverMode)
    (rawURL message : GoString) (checkedAt : Int) :
    (httpCheckColumns scheme resolverMode (invalidAttempt rawURL message checkedAt)).Checks := by
  rw [httpCheckColumns_checks_iff]
  exact ⟨(by decide : 1 ≤ 1 ∧ 1 ≤ 20), .inl rfl, .inl rfl, .inl rfl, (by decide : (-1 : Int) ≤ 0),
    Nat.zero_le _, fun header hheader => absurd hheader List.not_mem_nil⟩

end Attempt

/-! ### The attempts of a run -/

/-- The checks of a run make attempt `n` at the URL `parsed`, against `server`:
    with the system resolver, or with the host pinned. -/
def RunAttempt (lib : Library) (cfg : Config) (target : Target) (web : Web)
    (alternateDNS : List Dnscheck.Result) (parsed : URL) (server : Server) (n : Nat) : Prop :=
  let hostname := target.domainASCII.bytes
  DomainAttempt lib (httpConfig cfg) target.expectedContentMode web.system hostname parsed server n ∨
  ∃ host addresses, newDoHPinnedHTTP lib.tables hostname alternateDNS = some (host, addresses) ∧
    DomainAttempt lib (httpConfig cfg) target.expectedContentMode (web.pinned host addresses)
      hostname parsed server n

section Run

variable {lib : Library} {cfg : Config} {target : Target} {web : Web}
  {localDNS alternateDNS : List Dnscheck.Result} {checkedAt : Int}

theorem forall_mem_labelledAttempts (mode : ResolverMode) :
    (∀ a ∈ labelledAttempts mode origin, P a.2.2) ↔ ∀ a ∈ origin.https ++ origin.http, P a := by
  unfold labelledAttempts
  rw [List.forall_mem_append, List.forall_mem_append, List.forall_mem_map, List.forall_mem_map]

/-- What holds of a refused URL and of every attempt the checks make holds of
    every attempt that is stored. -/
theorem forall_mem_httpAttempts
    (hhttps : ∀ message at', P (invalidAttempt (httpsURL target.domainASCII.bytes) message at'))
    (hhttp : ∀ message at', P (invalidAttempt (httpURL target.domainASCII.bytes) message at')) :
    (∀ a ∈ httpAttempts (gatherEvidence lib cfg target web localDNS alternateDNS checkedAt),
        P a.2.2) ↔
      ∀ parsed server n, RunAttempt lib cfg target web alternateDNS parsed server n →
        P (checkAttempt lib (normalizeConfig (httpConfig cfg)) target.expectedContentMode parsed
          server n) := by
  unfold httpAttempts gatherEvidence RunAttempt
  dsimp only
  rw [List.forall_mem_append, forall_mem_labelledAttempts, forall_mem_checkDomain hhttps hhttp]
  cases newDoHPinnedHTTP lib.tables target.domainASCII.bytes alternateDNS with
  | none => simp
  | some pinned =>
    obtain ⟨host, addresses⟩ := pinned
    simp only [Option.map_some, Option.getD_some]
    rw [forall_mem_labelledAttempts, forall_mem_checkDomain hhttps hhttp]
    constructor
    · rintro ⟨hsystem, hpinned⟩ parsed server n (h | ⟨_, _, heq, h⟩)
      · exact hsystem parsed server n h
      · cases heq
        exact hpinned parsed server n h
    · intro h
      exact ⟨fun parsed server n hattempt => h parsed server n (.inl hattempt),
        fun parsed server n hattempt => h parsed server n (.inr ⟨host, addresses, rfl, hattempt⟩)⟩

theorem httpConfig_maxRedirects (hcfg : cfg.Accepted) :
    0 ≤ (normalizeConfig (httpConfig cfg)).maxRedirects ∧
      (normalizeConfig (httpConfig cfg)).maxRedirects ≤ 20 := by
  obtain ⟨hmin, hmax⟩ := hcfg.ranges.httpMaxRedirects
  show (0 : Int) ≤ (if cfg.httpMaxRedirects ≤ 0 then 10 else cfg.httpMaxRedirects) ∧
    (if cfg.httpMaxRedirects ≤ 0 then 10 else cfg.httpMaxRedirects) ≤ 20
  rw [if_neg (by omega)]
  exact ⟨by omega, hmax⟩

/-- The attempts of a run are numbered from one, up to the configured limit. -/
theorem RunAttempt.number (hcfg : cfg.Accepted)
    (h : RunAttempt lib cfg target web alternateDNS parsed server n) : 1 ≤ n ∧ n ≤ 20 := by
  have hlimit : (normalizeConfig (httpConfig cfg)).retry.limit ≤ 20 := by
    show cfg.retryPolicy.normalized.limit ≤ 20
    rw [Netcheck.Policy.limit_normalized]
    exact hcfg.retryLimit.2
  have hurl : ∀ {servers : Nat → Server} {rawURL : GoString},
      URLAttempt lib (normalizeConfig (httpConfig cfg)) target.expectedContentMode servers rawURL
        parsed n → 1 ≤ n ∧ n ≤ 20 := by
    intro servers rawURL hattempt
    obtain ⟨-, hone, hle, -⟩ := hattempt
    exact ⟨hone, hle.trans hlimit⟩
  have hdomain : ∀ {origin : Origin},
      DomainAttempt lib (httpConfig cfg) target.expectedContentMode origin target.domainASCII.bytes
        parsed server n → 1 ≤ n ∧ n ≤ 20 := by
    rintro origin (⟨hattempt, -⟩ | ⟨-, hattempt, -⟩)
    · exact hurl hattempt
    · exact hurl hattempt
  rcases h with h | ⟨_, _, -, h⟩
  · exact hdomain h
  · exact hdomain h

/-- The attempts of one resolver mode have distinct keys. -/
theorem labelledAttempts_keys_nodup (hcfg : cfg.Accepted) (resolverMode : ResolverMode) (mode : ContentMode)
    (origin : Origin) (hostname : GoString) :
    ((labelledAttempts resolverMode (checkDomain lib (httpConfig cfg) mode origin hostname)).map
      attemptKey).Nodup := by
  have hmax := (httpConfig_maxRedirects hcfg).1
  -- Over one scheme, the key is the number of the attempt.
  have hscheme : ∀ (scheme : Scheme) (servers : Nat → Server) (rawURL : GoString),
      ((checkURL lib (normalizeConfig (httpConfig cfg)) mode servers rawURL).map
        (fun a => attemptKey (scheme, resolverMode, a))).Nodup := by
    intro scheme servers rawURL
    have hnodup := checkURL_attempts_nodup lib mode servers rawURL hmax
    rw [List.Nodup, List.pairwise_map] at hnodup ⊢
    refine hnodup.imp ?_
    intro a b hne hkey
    have hattempt : (a.attempt : Int) = b.attempt := (Prod.mk.inj (Prod.mk.inj hkey).2).2
    omega
  unfold labelledAttempts checkDomain
  dsimp only
  rw [(fallBack_lists _ _).1, (fallBack_lists _ _).2, List.map_append, List.map_map, List.map_map]
  refine (hscheme .https _ _).append ?_ ?_
  · split_ifs
    · exact hscheme .http _ _
    · exact List.nodup_nil
  · intro key hleft hright
    obtain ⟨a, -, rfl⟩ := List.mem_map.mp hleft
    obtain ⟨b, -, hkey⟩ := List.mem_map.mp hright
    have hsame : Scheme.http = Scheme.https := (Prod.mk.inj hkey).1
    cases hsame

theorem labelledAttempts_mode {resolverMode : ResolverMode} {key : Scheme × ResolverMode × Int}
    (h : key ∈ (labelledAttempts resolverMode origin).map attemptKey) : key.2.1 = resolverMode := by
  unfold labelledAttempts at h
  rw [List.map_append, List.map_map, List.map_map, List.mem_append] at h
  rcases h with h | h
  · obtain ⟨a, -, rfl⟩ := List.mem_map.mp h
    rfl
  · obtain ⟨a, -, rfl⟩ := List.mem_map.mp h
    rfl

/-- One row per scheme, resolver and attempt. -/
theorem httpAttempts_keys_nodup (hcfg : cfg.Accepted) :
    ((httpAttempts (gatherEvidence lib cfg target web localDNS alternateDNS checkedAt)).map
      attemptKey).Nodup := by
  unfold httpAttempts gatherEvidence
  dsimp only
  rw [List.map_append]
  refine (labelledAttempts_keys_nodup hcfg _ _ _ _).append ?_ ?_
  · cases newDoHPinnedHTTP lib.tables target.domainASCII.bytes alternateDNS with
    | none => exact List.nodup_nil
    | some pinned => exact labelledAttempts_keys_nodup hcfg _ _ _ _
  · intro key hsystem hpinned
    have hmode := labelledAttempts_mode hsystem
    cases hpin : newDoHPinnedHTTP lib.tables target.domainASCII.bytes alternateDNS with
    | none =>
      rw [hpin] at hpinned
      cases hpinned
    | some pinned =>
      rw [hpin] at hpinned
      rw [labelledAttempts_mode hpinned] at hmode
      cases hmode

end Run

/-! ### The decision -/

/-- The effective attempt is one of the attempts. -/
theorem effectiveAttempt_mem (h : effectiveAttempt origin = some a) :
    a ∈ origin.https ++ origin.http := by
  unfold effectiveAttempt at h
  split_ifs at h
  · exact List.mem_append_right _ (List.mem_of_getLast? h)
  · exact List.mem_append_left _ (List.mem_of_getLast? h)

/-- The `monitoring_results` row of a decision fits when the status codes of the
    effective attempt do: confidence and failure stage always fit. -/
theorem resultColumns_checks (call : CompleteCall) (run : Run) {evidence : Evidence}
    {tables : Strings.Tables}
    (hdecision : evidence.decision =
      classify tables evidence.localDNS evidence.alternateDNS evidence.http)
    (hstatus : ∀ a ∈ evidence.http.https ++ evidence.http.http,
      StatusStorable a.initialStatusCode ∧ StatusStorable a.finalStatusCode) :
    (resultColumns call run evidence).Checks := by
  obtain ⟨hinitial, hfinal⟩ := classify_statusCodes tables evidence.localDNS evidence.alternateDNS
    evidence.http
  have hstage := classify_failureStage tables evidence.localDNS evidence.alternateDNS evidence.http
  have hconfidence := classify_confidence tables evidence.localDNS evidence.alternateDNS evidence.http
  rw [← hdecision] at hinitial hfinal hstage hconfidence
  have hcodes : StatusStorable evidence.decision.initialHTTP ∧
      StatusStorable evidence.decision.finalHTTP := by
    rw [hinitial, hfinal]
    cases heffective : effectiveAttempt evidence.http with
    | none => exact ⟨.inl rfl, .inl rfl⟩
    | some a => exact hstatus a (effectiveAttempt_mem heffective)
  unfold ResultColumns.Checks
  dsimp only [resultColumns]
  rw [statusCodeCheck_nullableInt, statusCodeCheck_nullableInt]
  refine ⟨hcodes.1, hcodes.2, ?_, hconfidence⟩
  have hstages : ∀ stage ∈ ["", "dns", "tcp", "tls", "http", "content", "persistence"],
      FailureStageCheck (nullableString (lit stage)) := by decide
  exact hstages _ hstage

/-! ### Storing a run -/

/-- The numeric, enumeration and uniqueness constraints of `monitoring_results`,
    `http_checks` and `redirect_hops`. -/
structure HTTPStorable (call : CompleteCall) (run : Run) (evidence : Evidence) : Prop where
  result : (resultColumns call run evidence).Checks
  keys : ((httpAttempts evidence).map attemptKey).Nodup
  checks : ∀ a ∈ httpAttempts evidence, (httpCheckColumns a.1 a.2.1 a.2.2).Checks
  hopNumbers : ∀ a ∈ httpAttempts evidence,
    (a.2.2.redirects.map (fun hop => (redirectHopColumns hop).hopNumber)).Nodup
  hops : ∀ a ∈ httpAttempts evidence, ∀ hop ∈ a.2.2.redirects,
    (redirectHopColumns hop).Checks

/-- What else the HTTP inserts need: texts that are text, and TLS results that
    fit `tls_checks`. -/
structure HTTPTextsStorable (evidence : Evidence) : Prop where
  checks : ∀ a ∈ httpAttempts evidence, ∀ t ∈ (httpCheckColumns a.1 a.2.1 a.2.2).texts, ∀ s ∈ t,
    Utf8.Storable s
  hops : ∀ a ∈ httpAttempts evidence, ∀ hop ∈ a.2.2.redirects,
    ∀ t ∈ (redirectHopColumns hop).texts, ∀ s ∈ t, Utf8.Storable s
  tls : ∀ a ∈ httpAttempts evidence, ∀ result ∈ a.2.2.tls,
    Insertable TLSCheckColumns.Checks TLSCheckColumns.texts (tlsCheckColumns result)

section Run

variable {cfg : Config} (lib : Library) (target : Target) (web : Web)
  (localDNS alternateDNS : List Dnscheck.Result) (checkedAt : Int)

/-- Every response that ends a chain of the run fits. -/
def ResponsesFit (lib : Library) (cfg : Config) (target : Target) (web : Web)
    (alternateDNS : List Dnscheck.Result) : Prop :=
  ∀ parsed server n, RunAttempt lib cfg target web alternateDNS parsed server n →
    ∀ response, EndsWith lib (normalizeConfig (httpConfig cfg)) target.expectedContentMode parsed
      server n response → ResponseFits lib (normalizeConfig (httpConfig cfg)) response

/-- The rows of `http_checks` fit exactly when the final responses do. -/
theorem httpAttempts_checks_iff (hcfg : cfg.Accepted) :
    (∀ a ∈ httpAttempts (gatherEvidence lib cfg target web localDNS alternateDNS checkedAt),
        (httpCheckColumns a.1 a.2.1 a.2.2).Checks) ↔
      ResponsesFit lib cfg target web alternateDNS := by
  have hmax := (httpConfig_maxRedirects hcfg).1
  -- The constraints say nothing about the labels of an attempt.
  have hlabels : ∀ (scheme : Scheme) (resolverMode : ResolverMode) (a : Attempt),
      (httpCheckColumns scheme resolverMode a).Checks ↔
        (httpCheckColumns .https .system a).Checks := by
    intro scheme resolverMode a
    rw [httpCheckColumns_checks_iff, httpCheckColumns_checks_iff]
  simp only [hlabels]
  rw [forall_mem_httpAttempts (P := fun a => (httpCheckColumns .https .system a).Checks)
    (invalidAttempt_checks _ _ _) (invalidAttempt_checks _ _ _)]
  constructor
  · intro h parsed server n hattempt
    exact (checkAttempt_checks_iff hmax (hattempt.number hcfg) _ _).mp (h parsed server n hattempt)
  · intro h parsed server n hattempt
    exact (checkAttempt_checks_iff hmax (hattempt.number hcfg) _ _).mpr (h parsed server n hattempt)

theorem httpAttempts_hops (hcfg : cfg.Accepted) :
    ∀ a ∈ httpAttempts (gatherEvidence lib cfg target web localDNS alternateDNS checkedAt),
      (a.2.2.redirects.map (fun hop => (redirectHopColumns hop).hopNumber)).Nodup ∧
      ∀ hop ∈ a.2.2.redirects, (redirectHopColumns hop).Checks := by
  obtain ⟨hmin, hmax⟩ := httpConfig_maxRedirects hcfg
  have hinvalid : ∀ (rawURL message : GoString) (at' : Int),
      ((invalidAttempt rawURL message at').redirects.map
        (fun hop => (redirectHopColumns hop).hopNumber)).Nodup ∧
      ∀ hop ∈ (invalidAttempt rawURL message at').redirects, (redirectHopColumns hop).Checks :=
    fun _ _ _ => ⟨List.nodup_nil, fun hop hhop => absurd hhop List.not_mem_nil⟩
  refine (forall_mem_httpAttempts (P := fun a =>
    (a.redirects.map (fun hop => (redirectHopColumns hop).hopNumber)).Nodup ∧
      ∀ hop ∈ a.redirects, (redirectHopColumns hop).Checks) (hinvalid _) (hinvalid _)).mpr ?_
  intro parsed server n _
  exact checkAttempt_hops hmin hmax

theorem httpStorable_iff (hcfg : cfg.Accepted) (call : CompleteCall) (run : Run) :
    HTTPStorable call run (gatherEvidence lib cfg target web localDNS alternateDNS checkedAt) ↔
      ResponsesFit lib cfg target web alternateDNS := by
  constructor
  · intro h
    exact (httpAttempts_checks_iff lib target web localDNS alternateDNS checkedAt hcfg).mp h.checks
  · intro h
    have hchecks :=
      (httpAttempts_checks_iff lib target web localDNS alternateDNS checkedAt hcfg).mpr h
    have hhops := httpAttempts_hops lib target web localDNS alternateDNS checkedAt hcfg
    refine ⟨?_, httpAttempts_keys_nodup hcfg, hchecks, fun a ha => (hhops a ha).1,
      fun a ha => (hhops a ha).2⟩
    refine resultColumns_checks call run (gatherEvidence_decision ..) ?_
    refine (forall_mem_labelledAttempts .system).mp fun a ha => ?_
    have hcheck := hchecks a (List.mem_append_left _ ha)
    rw [httpCheckColumns_checks_iff] at hcheck
    exact ⟨hcheck.2.1, hcheck.2.2.1⟩

/-- **HTTP observations can be stored exactly when the final responses fit.** The
    attempts and the decision of a run meet every constraint of
    `monitoring_results`, `http_checks` and `redirect_hops` exactly when each
    response that ends a redirect chain has no status code or one of 100..599,
    and a redacted excerpt of at most 65536 bytes; then `CompleteRun` gets past
    its HTTP inserts if the texts are text. -/
theorem http_evidence_storable_iff (hcfg : cfg.Accepted) (call : CompleteCall) (run : Run) :
    (HTTPStorable call run (gatherEvidence lib cfg target web localDNS alternateDNS checkedAt) ↔
      ResponsesFit lib cfg target web alternateDNS) ∧
    ((∃ rows, persistHTTPEvidence
        (gatherEvidence lib cfg target web localDNS alternateDNS checkedAt) = .ok rows) ↔
      ResponsesFit lib cfg target web alternateDNS ∧
      HTTPTextsStorable (gatherEvidence lib cfg target web localDNS alternateDNS checkedAt)) := by
  refine ⟨httpStorable_iff lib target web localDNS alternateDNS checkedAt hcfg call run, ?_⟩
  rw [persistHTTPEvidence_iff,
    ← httpAttempts_checks_iff lib target web localDNS alternateDNS checkedAt hcfg]
  have hhops := httpAttempts_hops lib target web localDNS alternateDNS checkedAt hcfg
  constructor
  · rintro ⟨hinsertable, -⟩
    exact ⟨fun a ha => (hinsertable a ha).check.1, fun a ha => (hinsertable a ha).check.2,
      fun a ha hop hhop => ((hinsertable a ha).hops hop hhop).2,
      fun a ha => (hinsertable a ha).tls⟩
  · rintro ⟨hchecks, htexts⟩
    refine ⟨fun a ha => ⟨⟨hchecks a ha, htexts.checks a ha⟩, (hhops a ha).1, ?_, htexts.tls a ha⟩,
      httpAttempts_keys_nodup hcfg⟩
    intro hop hhop
    exact ⟨(hhops a ha).2 hop hhop, htexts.hops a ha hop hhop⟩

end Run

/-! ### Two sites -/

/-- Other packages, for evaluating the checks on: a digest of zeros and no
    public suffixes. -/
def sampleHTTPLibrary : Library where
  tables := Strings.asciiTables
  url := { quote := id, addrError := id }
  sha256 := fun _ => List.replicate 32 0
  sha256_length := fun _ => List.length_replicate
  effectiveTLDPlusOne := fun _ => none
  parseTime := fun _ => none

/-- A response without headers. -/
def sampleResponse (status : Nat) (body : List UInt8) : Response where
  statusCode := status
  proto := lit "HTTP/1.1"
  header := fun _ => []
  contentLength := -1
  lengthKnown := Int.le_refl _
  body := { bytes := body }

/-- Servers that always answer with `response`. -/
def sampleServer (response : Response) : Server where
  exchange := fun _ => { result := .ok response }
  checkedAt := 0
  now := 0
  total := millisecond

def sampleWeb (response : Response) : Web where
  system := { https := fun _ => sampleServer response, http := fun _ => sampleServer response }
  pinned := fun _ _ =>
    { https := fun _ => sampleServer response, http := fun _ => sampleServer response }

def sampleCompleteCall : CompleteCall where
  startedAt := second
  goNow := second
  resultID := 1
  incidentID := 2

/-- Every attempt of a run meets such a server. -/
theorem sampleWeb_server {response : Response}
    (h : RunAttempt sampleHTTPLibrary cfg target (sampleWeb response) alternateDNS parsed server n) :
    server = sampleServer response := by
  rcases h with (⟨-, h⟩ | ⟨-, -, h⟩) | ⟨_, _, -, (⟨-, h⟩ | ⟨-, -, h⟩)⟩ <;> exact h

/-- All that such a server is ever seen to answer. -/
theorem sampleWeb_endsWith {response response' : Response} {config : Httpcheck.Config}
    {mode : ContentMode}
    (h : RunAttempt sampleHTTPLibrary cfg target (sampleWeb response) alternateDNS parsed server n)
    (hends : EndsWith sampleHTTPLibrary config mode parsed server n response') :
    response' = response := by
  obtain ⟨k, st, -, hresult, -⟩ := hends
  rw [sampleWeb_server h] at hresult
  exact (Except.ok.inj hresult).symm

/-- A site that answers 200 and a short page can be stored. -/
theorem http_evidence_storable_ok :
    defaultConfig.Accepted ∧
    HTTPStorable sampleCompleteCall sampleRun (gatherEvidence sampleHTTPLibrary defaultConfig
      sampleDomain.target (sampleWeb (sampleResponse 200 (lit "ok"))) [] [] second) := by
  refine ⟨defaultConfig_accepted, (http_evidence_storable_iff sampleHTTPLibrary sampleDomain.target
    (sampleWeb (sampleResponse 200 (lit "ok"))) [] [] second defaultConfig_accepted
    sampleCompleteCall sampleRun).1.mpr ?_⟩
  intro parsed server n hattempt response hends
  rw [sampleWeb_endsWith hattempt hends]
  refine ⟨.inr (by decide), ?_⟩
  intro payload hpayload
  have hpage : (sampleResponse 200 (lit "ok")).payload?
      (normalizeConfig (httpConfig defaultConfig)) = some (lit "ok") := by decide +kernel
  rw [hpage] at hpayload
  cases hpayload
  decide +kernel

/-- The host name of the sample domain makes a URL. -/
theorem sampleURL_valid :
    ∃ parsed, validateURL sampleHTTPLibrary (httpsURL (lit "example.com")) = .ok parsed := by
  have hvalid : (validateURL sampleHTTPLibrary (httpsURL (lit "example.com"))).toOption.isSome =
      true := by decide +kernel
  cases h : validateURL sampleHTTPLibrary (httpsURL (lit "example.com")) with
  | error message =>
    rw [h] at hvalid
    cases hvalid
  | ok parsed => exact ⟨parsed, rfl⟩

/-- The first attempt of a run against such a server sees its response. -/
theorem sampleWeb_sees (cfg : Config) (response : Response)
    (alternateDNS : List Dnscheck.Result) (hredirect : isRedirect response.statusCode = false) :
    ∃ parsed, RunAttempt sampleHTTPLibrary cfg sampleDomain.target (sampleWeb response)
        alternateDNS parsed (sampleServer response) 1 ∧
      EndsWith sampleHTTPLibrary (normalizeConfig (httpConfig cfg)) .html parsed
        (sampleServer response) 1 response := by
  obtain ⟨parsed, hok⟩ := sampleURL_valid
  refine ⟨parsed, .inl (.inl ⟨⟨hok, Nat.le_refl 1, ?_, fun m h1 h2 => by omega⟩, rfl⟩),
    0, _, Loop.Visits.start, rfl, hredirect⟩
  exact Netcheck.Policy.limit_pos _

/-- A site that answers with status 999: its attempt and the decision cannot be
    stored. -/
theorem status_999_refused :
    defaultConfig.Accepted ∧
    ¬ HTTPStorable sampleCompleteCall sampleRun (gatherEvidence sampleHTTPLibrary defaultConfig
      sampleDomain.target (sampleWeb (sampleResponse 999 (lit "ok"))) [] [] second) ∧
    ¬ ∃ rows, persistHTTPEvidence (gatherEvidence sampleHTTPLibrary defaultConfig
      sampleDomain.target (sampleWeb (sampleResponse 999 (lit "ok"))) [] [] second) = .ok rows := by
  have hrefused : ¬ ResponsesFit sampleHTTPLibrary defaultConfig sampleDomain.target
      (sampleWeb (sampleResponse 999 (lit "ok"))) [] := by
    intro hfit
    obtain ⟨parsed, hattempt, hends⟩ := sampleWeb_sees defaultConfig
      (sampleResponse 999 (lit "ok")) [] (by decide)
    have hstatus : StatusStorable 999 := (hfit parsed _ 1 hattempt _ hends).1
    unfold StatusStorable at hstatus
    omega
  refine ⟨defaultConfig_accepted, ?_, ?_⟩
  · rw [httpStorable_iff _ _ _ _ _ _ defaultConfig_accepted]
    exact hrefused
  · rintro ⟨rows, hrows⟩
    obtain ⟨hinsertable, -⟩ := (persistHTTPEvidence_iff _).mp ⟨rows, hrows⟩
    exact hrefused ((httpAttempts_checks_iff _ _ _ _ _ _ defaultConfig_accepted).mp
      fun a ha => (hinsertable a ha).check.1)

end DomainMonitor.Monitor
