import DomainMonitor.Lib.Loop
import DomainMonitor.Lib.Retry
import DomainMonitor.Httpcheck.Content

/-! # HTTP checks (`internal/httpcheck/checker.go`)

    An attempt follows redirects from an initial URL until a response that is
    not a redirect, an error, or a redirect that is not followed. `CheckURL`
    repeats transient failures, and `CheckDomain` falls back from HTTPS to HTTP.

    What the servers answer is arbitrary: an environment says, for every attempt
    and every request of its chain, what `doRequest` returns.
-/

namespace DomainMonitor.Httpcheck

open Strings Netcheck Loop

/-! ### The environment -/

/-- What one request meets: its timing, the state of the attempt's context, and
    the response or the error. -/
structure Exchange where
  timing : Timing := {}
  ctxErr : Option ContextErr := none
  result : Except Failure Response

/-- What one attempt meets: the requests of its chain, the clock readings and
    the measured total, and whether the wait after it ran to its end. -/
structure Server where
  exchange : Nat → Exchange
  checkedAt : Int
  now : Int
  total : Int
  waitOk : Bool := true

/-! ### URLs -/

/-- The URL with an empty fragment and a path. -/
def withRoot (u : URL) : URL :=
  { u with fragment := [], path := if u.path = [] then lit "/" else u.path }

/-- `validateURL`. -/
def validateURL (lib : Library) (raw : GoString) : Except GoString URL := do
  let parsed ← URL.parse lib.url (Utf8.trimSpace raw)
  if parsed.scheme ≠ lit "http" ∧ parsed.scheme ≠ lit "https" then
    .error (lit "URL scheme must be http or https")
  else if parsed.hostname = [] then .error (lit "URL hostname is required")
  else if parsed.user.isSome then .error (lit "credential-bearing URLs are not allowed")
  else .ok (withRoot parsed)

/-- `resolveRedirect`. -/
def resolveRedirect (lib : Library) (source : URL) (location : GoString) : Except GoString URL :=
  if Utf8.trimSpace location = [] then .error (lit "redirect response has no Location header")
  else match URL.parse lib.url location with
    | .error message => .error (lit "parse Location: " ++ message)
    | .ok reference =>
      let target := URL.resolveReference lib.url source reference
      if target.scheme ≠ lit "http" ∧ target.scheme ≠ lit "https" then
        .error (lit "redirect target scheme " ++ lib.url.quote target.scheme
          ++ lit " is not allowed")
      else if target.hostname = [] ∨ target.user.isSome then
        .error (lit "redirect target is invalid or contains credentials")
      else .ok (withRoot target)

/-- `canonicalURL`. -/
def canonicalURL (lib : Library) (value : URL) : GoString :=
  let scheme := toLower lib.tables value.scheme
  let clone : URL := { value with scheme, host := toLower lib.tables value.host }
  let clone : URL :=
    if (scheme = lit "http" ∧ clone.port = lit "80") ∨ (scheme = lit "https" ∧ clone.port = lit "443")
    then { clone with host := clone.hostname } else clone
  (withRoot clone).text lib.url

/-- `crossDomain`. -/
def crossDomain (lib : Library) (source target : GoString) : Bool :=
  let source := toLower lib.tables source
  let target := toLower lib.tables target
  match lib.effectiveTLDPlusOne source, lib.effectiveTLDPlusOne target with
  | some left, some right => left ≠ right
  | _, _ => source ≠ target

/-! ### Errors and status codes -/

/-- `classifyRequestError`. -/
def classifyRequestError (ctxErr : Option ContextErr) (err : Failure) : Error :=
  match err.classified with
  | some existing => existing
  | none =>
    if ctxErr = some .canceled then
      ⟨.runCancelled, "http", lit "request", false, some ContextErr.canceled.text⟩
    else if ctxErr = some .deadlineExceeded ∨ err.deadlineExceeded then
      ⟨.httpTimeout, "http", lit "request", true, some ContextErr.deadlineExceeded.text⟩
    else if err.hostname then ⟨.tlsErrorHostname, "tls", lit "HTTP handshake", false, some err.text⟩
    else if err.certificateExpired then
      ⟨.tlsErrorExpired, "tls", lit "HTTP handshake", false, some err.text⟩
    else if err.unknownAuthority then
      ⟨.tlsErrorUnknownAuthority, "tls", lit "HTTP handshake", false, some err.text⟩
    else if err.timeout then ⟨.httpTimeout, "http", lit "request", true, some err.text⟩
    else classifyTCP ctxErr (lit "HTTP request") err

/-- `classifyStatus`. -/
def classifyStatus (status : Nat) : Option Error :=
  let cause := some (lit "HTTP status " ++ lit (toString status))
  if 400 ≤ status ∧ status ≤ 499 then
    some ⟨.httpClientError, "http", lit "response status",
      status = 408 || status = 425 || status = 429, cause⟩
  else if 500 ≤ status then
    some ⟨.httpServerError, "http", lit "response status",
      status = 502 || status = 503 || status = 504, cause⟩
  else none

/-- `isRedirect`. -/
def isRedirect (status : Nat) : Bool :=
  status = 301 || status = 302 || status = 303 || status = 307 || status = 308

/-- `shouldFallbackToHTTP`. -/
def shouldFallbackToHTTP (code : Option Code) : Bool :=
  match code with
  | some .dnsNetworkError | some .dnsTimeout | some .tcpTimeout | some .tcpRefused
  | some .tcpReset | some .tcpNetworkError | some .tlsErrorExpired | some .tlsErrorHostname
  | some .tlsErrorUnknownAuthority | some .tlsErrorHandshake => true
  | _ => false

/-- `strconv.Atoi`: an optional sign and decimal digits within 64 bits. -/
def atoi? (s : GoString) : Option Int :=
  let digits := if s.head? = some (byte '+') ∨ s.head? = some (byte '-') then s.drop 1 else s
  let magnitude : Nat := digits.foldl (fun n c => n * 10 + (c.toNat - 48)) 0
  let value : Int := if s.head? = some (byte '-') then -magnitude else magnitude
  if digits = [] ∨ digits.all NetIP.isDigit = false then none
  else if value < -9223372036854775808 ∨ 9223372036854775807 < value then none
  else some value

/-- A 64-bit signed result, after overflow. -/
def wrapInt64 (n : Int) : Int :=
  (n + 9223372036854775808) % 18446744073709551616 - 9223372036854775808

/-- `parseRetryAfter`. -/
def parseRetryAfter (lib : Library) (value : GoString) (now : Int) : Int :=
  match (atoi? (Utf8.trimSpace value)).filter (· ≥ 0) with
  | some seconds => wrapInt64 (seconds * second)
  | none =>
    match lib.parseTime value with
    | some time => if time > now then timeSub time now else 0
    | none => 0

/-! ### One attempt -/

/-- The variables of the loop in `checkAttempt`. -/
structure ChainState where
  attempt : Attempt
  current : URL
  seen : List GoString

/-- `accumulateTiming`. -/
def accumulateTiming (total current : Timing) : Timing :=
  { total with
    dns := total.dns + current.dns
    connect := total.connect + current.connect
    tls := total.tls + current.tls
    ttfb := total.ttfb + current.ttfb
    reused := total.reused || current.reused }

def Attempt.addTiming (attempt : Attempt) (timing : Timing) : Attempt :=
  { attempt with timing := accumulateTiming attempt.timing timing }

/-- The first status code that is not zero is the initial one. -/
def Attempt.noteStatus (attempt : Attempt) (status : Nat) : Attempt :=
  if attempt.initialStatusCode = 0 then { attempt with initialStatusCode := status } else attempt

def Attempt.addHop (attempt : Attempt) (hop : RedirectHop) : Attempt :=
  { attempt with redirects := attempt.redirects ++ [hop] }

def Attempt.setRetryable (attempt : Attempt) (retryable : Bool) : Attempt :=
  { attempt with retryable }

/-- An attempt that ends without a final response. -/
def Attempt.failWith (attempt : Attempt) (code : Code) (message effectiveURL : GoString)
    (total : Int) : Attempt :=
  { attempt with
    errorCode := some code
    errorMessage := message
    effectiveURL
    timing := { attempt.timing with total } }

variable (lib : Library) (config : Config) (mode : ContentMode) (initial : URL) (server : Server)

/-- The redirect branch of the loop. -/
def followRedirect (st : ChainState) (response : Response) (duration : Int) :
    Next ChainState Attempt :=
  let attempt := st.attempt
  let currentText := st.current.text lib.url
  if (attempt.redirects.length : Int) ≥ config.maxRedirects then
    .done (attempt.failWith .httpRedirectLimit
      (lit "redirect chain exceeds " ++ lit (toString config.maxRedirects) ++ lit " hops")
      currentText server.total)
  else
    let location := response.get "Location"
    let hop : RedirectHop := {
      hop := attempt.redirects.length, sourceURL := currentText, statusCode := response.statusCode
      location, duration }
    match resolveRedirect lib st.current location with
    | .error message =>
      let hop := { hop with errorCode := some .httpMalformedLocation }
      .done ((attempt.addHop hop).failWith .httpMalformedLocation message currentText server.total)
    | .ok target =>
      let targetText := target.text lib.url
      let downgrade := st.current.scheme = lit "https" ∧ target.scheme = lit "http"
      let hop := { hop with
        resolvedTarget := targetText
        crossDomain := crossDomain lib st.current.hostname target.hostname
        httpsDowngrade := downgrade }
      if downgrade then
        let hop := { hop with errorCode := some .httpHTTPSDowngrade }
        .done ((attempt.addHop hop).failWith .httpHTTPSDowngrade
          (lit "HTTPS redirect target downgrades to HTTP") currentText server.total)
      else if canonicalURL lib target ∈ st.seen then
        let hop := { hop with errorCode := some .httpRedirectLoop }
        .done ((attempt.addHop hop).failWith .httpRedirectLoop (lit "redirect loop detected")
          targetText server.total)
      else
        .next {
          attempt := attempt.addHop hop
          current := target
          seen := canonicalURL lib target :: st.seen }

/-- The end of the loop: a response that is not a redirect. -/
def finishAttempt (st : ChainState) (response : Response) : Attempt :=
  let content := readContent lib config mode response
  let attempt := { st.attempt with
    finalStatusCode := response.statusCode
    effectiveURL := st.current.text lib.url
    protocol := response.proto
    serverHeader := response.get "Server"
    headers := selectHeaders response config.headerBytes
    retryAfter := parseRetryAfter lib (response.get "Retry-After") server.now
    tls := response.tls
    content
    timing := { st.attempt.timing with total := server.total } }
  match classifyStatus response.statusCode with
  | some statusError =>
    { attempt with
      errorCode := some statusError.code
      errorMessage := statusError.text
      retryable := statusError.retryable }
  | none =>
    if content.errorCode.isSome then
      { attempt with errorCode := content.errorCode, errorMessage := content.errorMessage }
    else attempt

/-- Iteration `k` of the loop in `checkAttempt`. -/
def checkStep (k : Nat) (st : ChainState) : Next ChainState Attempt :=
  let exchange := server.exchange k
  let attempt := st.attempt.addTiming exchange.timing
  match exchange.result with
  | .error err =>
    let classified := classifyRequestError exchange.ctxErr err
    .done ((attempt.setRetryable classified.retryable).failWith classified.code classified.text
      (st.current.text lib.url) server.total)
  | .ok response =>
    let st := { st with attempt := attempt.noteStatus response.statusCode }
    if isRedirect response.statusCode then
      followRedirect lib config server st response exchange.timing.total
    else .done (finishAttempt lib config mode server st response)

/-- The state before the first request. -/
def initialState (attemptNumber : Nat) : ChainState where
  attempt := {
    attempt := attemptNumber, requestURL := initial.text lib.url, checkedAt := server.checkedAt }
  current := initial
  seen := [canonicalURL lib initial]

/-- The loop of an attempt comes to round `k` with state `st`. -/
abbrev Reaches (n k : Nat) (st : ChainState) : Prop :=
  Loop.Visits (checkStep lib config mode server) (initialState lib initial server n) k st

/-- The redirects an attempt may still follow. -/
def remainingRedirects (st : ChainState) : Nat :=
  config.maxRedirects.toNat - st.attempt.redirects.length

/-! ### What an iteration does -/

/-- A redirect from `u` to `v` that may be followed. -/
structure MayFollow (u v : URL) : Prop where
  upward : ¬ (u.scheme = lit "https" ∧ v.scheme = lit "http")
  scheme : v.scheme = lit "http" ∨ v.scheme = lit "https"
  user : v.user = none

theorem resolveRedirect_ok {lib : Library} {source target : URL} {location : GoString}
    (h : resolveRedirect lib source location = .ok target) :
    (target.scheme = lit "http" ∨ target.scheme = lit "https") ∧ target.user = none := by
  unfold resolveRedirect at h
  split_ifs at h
  split at h
  · cases h
  · dsimp only at h
    split_ifs at h with hscheme hinvalid
    cases h
    obtain ⟨-, huser⟩ := not_or.mp hinvalid
    exact ⟨by tauto, Option.not_isSome_iff_eq_none.mp huser⟩

/-- The hop recorded for a redirect from the current URL. -/
structure HopFrom (st : ChainState) (hop : RedirectHop) : Prop where
  number : hop.hop = st.attempt.redirects.length
  source : hop.sourceURL = st.current.text lib.url

/-- The texts of the hop that is recorded for a redirect from `source`. -/
structure HopOf (source : URL) (location : GoString) (hop : RedirectHop) : Prop where
  sourceURL : hop.sourceURL = source.text lib.url
  header : hop.location = location
  resolvedTarget : hop.resolvedTarget = [] ∨
    ∃ target, resolveRedirect lib source location = .ok target ∧
      hop.resolvedTarget = target.text lib.url

/-- The URL a chain that ends here is recorded with. -/
def EndURL (source : URL) (location url : GoString) : Prop :=
  url = source.text lib.url ∨
    ∃ target, resolveRedirect lib source location = .ok target ∧ url = target.text lib.url

/-- What a redirect leads to. Beyond the limit it ends the attempt without a hop; one
    that is not followed ends it with a hop, and one that is followed leads to a URL
    that was not requested before. -/
inductive Redirected (st : ChainState) (response : Response) : Next ChainState Attempt → Prop
  | beyond {code : Code} {message : GoString} {total : Int}
    (hlimit : config.maxRedirects ≤ st.attempt.redirects.length) :
    Redirected st response
      (.done (st.attempt.failWith code message (st.current.text lib.url) total))
  | refused {hop : RedirectHop} {code : Code} {message url : GoString} {total : Int}
    (hroom : st.attempt.redirects.length < config.maxRedirects) (hfrom : HopFrom lib st hop)
    (hstatus : hop.statusCode = response.statusCode)
    (hhop : HopOf lib st.current (response.get "Location") hop)
    (hurl : EndURL lib st.current (response.get "Location") url) :
    Redirected st response (.done ((st.attempt.addHop hop).failWith code message url total))
  | followed {hop : RedirectHop} {target : URL}
    (hroom : st.attempt.redirects.length < config.maxRedirects) (hfrom : HopFrom lib st hop)
    (hstatus : hop.statusCode = response.statusCode)
    (hhop : HopOf lib st.current (response.get "Location") hop)
    (hresolve : resolveRedirect lib st.current (response.get "Location") = .ok target)
    (htarget : hop.resolvedTarget = target.text lib.url) (herror : hop.errorCode = none)
    (hmay : MayFollow st.current target) (hfresh : canonicalURL lib target ∉ st.seen) :
    Redirected st response
      (.next ⟨st.attempt.addHop hop, target, canonicalURL lib target :: st.seen⟩)

theorem followRedirect_redirected (st : ChainState) (response : Response) (duration : Int) :
    Redirected lib config st response (followRedirect lib config server st response duration) := by
  unfold followRedirect
  dsimp only
  split_ifs with hlimit
  · exact .beyond hlimit
  · have hroom : (st.attempt.redirects.length : Int) < config.maxRedirects := by omega
    cases htarget : resolveRedirect lib st.current (response.get "Location") with
    | error message => exact .refused hroom ⟨rfl, rfl⟩ rfl ⟨rfl, rfl, .inl rfl⟩ (.inl rfl)
    | ok target =>
      have hresolved : ∃ t, resolveRedirect lib st.current (response.get "Location") = .ok t ∧
          target.text lib.url = t.text lib.url := ⟨target, htarget, rfl⟩
      dsimp only
      split_ifs with hdowngrade hseen
      · exact .refused hroom ⟨rfl, rfl⟩ rfl ⟨rfl, rfl, .inr hresolved⟩ (.inl rfl)
      · exact .refused hroom ⟨rfl, rfl⟩ rfl ⟨rfl, rfl, .inr hresolved⟩ (.inr hresolved)
      · obtain ⟨hscheme, huser⟩ := resolveRedirect_ok htarget
        exact .followed hroom ⟨rfl, rfl⟩ rfl ⟨rfl, rfl, .inr hresolved⟩ htarget rfl rfl
          ⟨hdowngrade, hscheme, huser⟩ hseen

/-- The state in which the response of an iteration is looked at. -/
def observed (k : Nat) (st : ChainState) (response : Response) : ChainState :=
  { st with
    attempt := (st.attempt.addTiming (server.exchange k).timing).noteStatus response.statusCode }

/-- Only the timing and the initial status may change. -/
theorem observed_attempt (k : Nat) (st : ChainState) (response : Response) :
    ∃ status, (observed server k st response).attempt =
      { st.attempt.addTiming (server.exchange k).timing with initialStatusCode := status } := by
  unfold observed Attempt.noteStatus
  dsimp only
  split
  · exact ⟨_, rfl⟩
  · exact ⟨_, rfl⟩

@[simp] theorem observed_redirects (k : Nat) (st : ChainState) (response : Response) :
    (observed server k st response).attempt.redirects = st.attempt.redirects := by
  obtain ⟨status, h⟩ := observed_attempt server k st response
  rw [h]
  rfl

section Step

variable {server} {k : Nat} {st st' : ChainState} {response : Response}

variable {lib config mode} in
/-- A request that fails ends the chain. -/
theorem checkStep_error {err : Failure} (hresult : (server.exchange k).result = .error err) :
    let e := classifyRequestError (server.exchange k).ctxErr err
    checkStep lib config mode server k st =
      .done (((st.attempt.addTiming (server.exchange k).timing).setRetryable e.retryable).failWith
        e.code e.text (st.current.text lib.url) server.total) := by
  unfold checkStep
  dsimp only
  rw [hresult]

/-- A response that is not a redirect ends the chain. -/
theorem checkStep_final (st : ChainState) (hresult : (server.exchange k).result = .ok response)
    (hredirect : isRedirect response.statusCode = false) :
    checkStep lib config mode server k st =
      .done (finishAttempt lib config mode server (observed server k st response) response) := by
  unfold checkStep observed
  dsimp only
  rw [hresult]
  dsimp only
  rw [if_neg (by rw [hredirect]; decide)]

theorem checkStep_redirect (st : ChainState) (hresult : (server.exchange k).result = .ok response)
    (hredirect : isRedirect response.statusCode = true) :
    checkStep lib config mode server k st =
      followRedirect lib config server (observed server k st response) response
        (server.exchange k).timing.total := by
  unfold checkStep observed
  dsimp only
  rw [hresult]
  dsimp only
  rw [if_pos hredirect]

variable {lib config mode} in
/-- An iteration that goes on has followed a redirect. -/
theorem checkStep_next (h : checkStep lib config mode server k st = .next st') :
    ∃ response, (server.exchange k).result = .ok response ∧
      isRedirect response.statusCode = true ∧
      Redirected lib config (observed server k st response) response (.next st') := by
  cases hresult : (server.exchange k).result with
  | error err =>
    rw [checkStep_error hresult] at h
    cases h
  | ok response =>
    cases hredirect : isRedirect response.statusCode with
    | false =>
      rw [checkStep_final lib config mode st hresult hredirect] at h
      cases h
    | true =>
      rw [checkStep_redirect lib config mode st hresult hredirect] at h
      exact ⟨response, rfl, hredirect, h ▸ followRedirect_redirected ..⟩

end Step

theorem checkStep_rank (k : Nat) (st st' : ChainState) (h : checkStep lib config mode server k st = .next st') :
    remainingRedirects config st' < remainingRedirects config st := by
  obtain ⟨response, -, -, hfollow⟩ := checkStep_next h
  cases hfollow with
  | followed hroom =>
    rw [observed_redirects] at hroom
    simp only [remainingRedirects, Attempt.addHop, observed_redirects, List.length_append,
      List.length_singleton]
    omega

/-- `checkAttempt`: the number of redirects bounds the number of iterations. -/
def checkAttempt (attemptNumber : Nat) : Attempt :=
  (run (checkStep lib config mode server) (config.maxRedirects.toNat + 1) 0
      (initialState lib initial server attemptNumber)).get
    (run_isSome (checkStep_rank lib config mode server) _ (by
      show config.maxRedirects.toNat - 0 < _
      omega))

/-! ### `CheckURL` and `CheckDomain` -/

/-- The attempt recorded for a URL that is refused. -/
def invalidAttempt (rawURL message : GoString) (checkedAt : Int) : Attempt :=
  { attempt := 1, requestURL := rawURL, errorCode := some .normalizationInvalid
    errorMessage := message, checkedAt }

/-- Attempt `n` is followed by another one. -/
def again (servers : Nat → Server) (parsed : URL) (n : Nat) : Bool :=
  (checkAttempt lib config mode parsed (servers n) n).retryable && (servers n).waitOk

/-- The wait of `CheckURL` after an attempt, when the policy draws `delay`. -/
def retryDelay (policy : Policy) (delay : Int) (attempt : Attempt) : Int :=
  if attempt.retryAfter > delay then min attempt.retryAfter policy.maxDelay else delay

/-- `CheckURL`. The servers are given per attempt; the delay between attempts is
    part of the wait they describe. -/
def checkURL (servers : Nat → Server) (rawURL : GoString) : List Attempt :=
  match validateURL lib rawURL with
  | .error message => [invalidAttempt rawURL message (servers 1).checkedAt]
  | .ok parsed =>
    Retry.attempts config.retry.limit (fun n => checkAttempt lib config mode parsed (servers n) n)
      (again lib config mode servers parsed)

/-- The servers of a domain, for the attempts over either scheme. -/
structure Origin where
  https : Nat → Server
  http : Nat → Server

/-- The host name as `CheckDomain` uses it. -/
def trimHostname (hostname : GoString) : GoString :=
  Utf8.trimSpace (if hostname.getLast? = some (byte '.') then hostname.dropLast else hostname)

def httpsURL (hostname : GoString) : GoString :=
  lit "https://" ++ trimHostname hostname ++ lit "/"

def httpURL (hostname : GoString) : GoString :=
  lit "http://" ++ trimHostname hostname ++ lit "/"

/-- The attempts over HTTPS, and those over HTTP if the last one calls for it. -/
def fallBack (https http : List Attempt) : OriginResult :=
  if shouldFallbackToHTTP (https.getLast?.bind Attempt.errorCode) then
    { https, usedHTTPFallback := true, http }
  else { https }

/-- `CheckDomain`, for a checker built from `config`. -/
def checkDomain (origin : Origin) (hostname : GoString) : OriginResult :=
  let config := normalizeConfig config
  fallBack (checkURL lib config mode origin.https (httpsURL hostname))
    (checkURL lib config mode origin.http (httpURL hostname))

end DomainMonitor.Httpcheck
