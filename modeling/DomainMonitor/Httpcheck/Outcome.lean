import DomainMonitor.Httpcheck.Checker

/-! # What an HTTP check returns

    An attempt numbers its hops from zero and follows at most the configured
    number of redirects, and a hop is recorded for a redirect status only. So an
    attempt ends in one of two ways: it has seen redirects only, or one response
    that is not a redirect ended its chain, and everything else the attempt
    records is read off that response.
-/

namespace DomainMonitor.Httpcheck

open Loop

variable {lib : Library} {config : Config} {mode : ContentMode} {server : Server} {initial : URL}
  {n k : Nat} {st : ChainState} {a : Attempt} {response : Response}

/-! ### Attempts under way -/

/-- An attempt that has seen redirects only: its hops are numbered, and nothing
    of a final response is recorded. -/
structure Underway (config : Config) (n : Nat) (a : Attempt) : Prop where
  number : a.attempt = n
  hops : a.redirects.map RedirectHop.hop = List.range a.redirects.length
  statuses : ∀ hop ∈ a.redirects, isRedirect hop.statusCode = true
  count : (a.redirects.length : Int) ≤ config.maxRedirects
  initial : a.initialStatusCode = 0 ∨ isRedirect a.initialStatusCode = true
  final : a.finalStatusCode = 0
  content : a.content = {}
  headers : a.headers = []

theorem Underway.addTiming (h : Underway config n a) (timing : Timing) :
    Underway config n (a.addTiming timing) :=
  ⟨h.number, h.hops, h.statuses, h.count, h.initial, h.final, h.content, h.headers⟩

theorem Underway.failWith (h : Underway config n a) (code : Code) (message url : GoString)
    (total : Int) : Underway config n (a.failWith code message url total) :=
  ⟨h.number, h.hops, h.statuses, h.count, h.initial, h.final, h.content, h.headers⟩

theorem Underway.setRetryable (h : Underway config n a) (retryable : Bool) :
    Underway config n (a.setRetryable retryable) :=
  ⟨h.number, h.hops, h.statuses, h.count, h.initial, h.final, h.content, h.headers⟩

theorem Underway.noteStatus (h : Underway config n a) {status : Nat}
    (hstatus : isRedirect status = true) : Underway config n (a.noteStatus status) := by
  unfold Attempt.noteStatus
  split
  · exact ⟨h.number, h.hops, h.statuses, h.count, .inr hstatus, h.final, h.content, h.headers⟩
  · exact h

theorem Underway.addHop (h : Underway config n a) {hop : RedirectHop}
    (hroom : (a.redirects.length : Int) < config.maxRedirects)
    (hnumber : hop.hop = a.redirects.length) (hstatus : isRedirect hop.statusCode = true) :
    Underway config n (a.addHop hop) where
  number := h.number
  hops := by
    simp only [Attempt.addHop, List.map_append, List.length_append, List.length_singleton,
      List.range_succ, h.hops, List.map_singleton, hnumber]
  statuses := by
    simp only [Attempt.addHop, List.forall_mem_append]
    exact ⟨h.statuses, by simpa using hstatus⟩
  count := by
    simp only [Attempt.addHop, List.length_append, List.length_singleton]
    omega
  initial := h.initial
  final := h.final
  content := h.content
  headers := h.headers

/-- Whatever a redirect leads to, the attempt is still one that has seen
    redirects only. -/
theorem Underway.redirected {next : Next ChainState Attempt} (h : Underway config n st.attempt)
    (hstatus : isRedirect response.statusCode = true)
    (hnext : Redirected lib config st response next) :
    next.Holds (fun st' => Underway config n st'.attempt) (Underway config n) := by
  cases hnext with
  | beyond => exact h.failWith _ _ _ _
  | refused hroom hfrom hcode =>
    exact (h.addHop hroom hfrom.number (by rw [hcode]; exact hstatus)).failWith _ _ _ _
  | followed hroom hfrom hcode => exact h.addHop hroom hfrom.number (by rw [hcode]; exact hstatus)

theorem Underway.observed (h : Underway config n st.attempt) (server : Server) (k : Nat)
    (hstatus : isRedirect response.statusCode = true) :
    Underway config n (Httpcheck.observed server k st response).attempt :=
  (h.addTiming (server.exchange k).timing).noteStatus hstatus

/-- An iteration ends with a response that is not a redirect, or it has still
    seen redirects only. -/
theorem checkStep_underway (lib : Library) (mode : ContentMode) (server : Server) (k : Nat)
    (h : Underway config n st.attempt) :
    (∃ response, (server.exchange k).result = .ok response ∧
      isRedirect response.statusCode = false ∧
      checkStep lib config mode server k st =
        .done (finishAttempt lib config mode server (observed server k st response) response)) ∨
    ((∀ response, (server.exchange k).result = .ok response →
        isRedirect response.statusCode = true) ∧
      (checkStep lib config mode server k st).Holds (fun st' => Underway config n st'.attempt)
        (Underway config n)) := by
  cases hresult : (server.exchange k).result with
  | error err =>
    refine .inr ⟨fun response hresponse => (by cases hresponse), ?_⟩
    rw [checkStep_error hresult]
    exact ((h.addTiming _).setRetryable _).failWith _ _ _ _
  | ok response =>
    by_cases hredirect : isRedirect response.statusCode = true
    · refine .inr ⟨fun response' hresponse => (by cases hresponse; exact hredirect), ?_⟩
      rw [checkStep_redirect lib config mode st hresult hredirect]
      exact (h.observed server k hredirect).redirected hredirect (followRedirect_redirected ..)
    · have hfinal : isRedirect response.statusCode = false := by simpa using hredirect
      exact .inl ⟨response, rfl, hfinal, checkStep_final lib config mode st hresult hfinal⟩

theorem visits_underway (hmax : 0 ≤ config.maxRedirects)
    (h : Reaches lib config mode initial server n k st) :
    Underway config n st.attempt := by
  refine Visits.invariant (P := fun _ st => Underway config n st.attempt) ?_ ?_ h
  · exact ⟨rfl, rfl, fun hop hhop => absurd hhop List.not_mem_nil, hmax, .inl rfl, rfl, rfl, rfl⟩
  · intro k st st' hst hstep
    rcases checkStep_underway lib mode server k hst with ⟨response, -, -, hdone⟩ | ⟨-, hmatch⟩
    · rw [hdone] at hstep
      cases hstep
    · rw [hstep] at hmatch
      exact hmatch

/-! ### The end of an attempt -/

/-- The chain of the attempt ends with `response`. -/
def EndsWith (lib : Library) (config : Config) (mode : ContentMode) (initial : URL)
    (server : Server) (n : Nat) (response : Response) : Prop :=
  ∃ k st, Visits (checkStep lib config mode server) (initialState lib initial server n) k st ∧
    (server.exchange k).result = .ok response ∧ isRedirect response.statusCode = false

theorem checkAttempt_visits (lib : Library) (config : Config) (mode : ContentMode) (initial : URL)
    (server : Server) (n : Nat) :
    ∃ k st, Visits (checkStep lib config mode server) (initialState lib initial server n) k st ∧
      checkStep lib config mode server k st =
        .done (checkAttempt lib config mode initial server n) :=
  run_visits _ .start (Option.some_get _).symm

/-- The iteration that returns decides the attempt. -/
theorem checkAttempt_eq_of_done
    (hvisits : Reaches lib config mode initial server n k st)
    (hdone : checkStep lib config mode server k st = .done a) :
    checkAttempt lib config mode initial server n = a := by
  obtain ⟨k', st', hvisits', hdone'⟩ := checkAttempt_visits lib config mode initial server n
  have hle := hvisits.le_of_done hdone hvisits'
  have hge := hvisits'.le_of_done hdone' hvisits
  obtain rfl : k' = k := by omega
  rw [hvisits'.unique hvisits, hdone] at hdone'
  exact (Next.done.inj hdone').symm

/-- Only the last iteration can receive the response that ends the chain. -/
theorem endsWith_iff
    (hvisits : Reaches lib config mode initial server n k st)
    (hdone : checkStep lib config mode server k st = .done a) (r : Response) :
    EndsWith lib config mode initial server n r ↔
      (server.exchange k).result = .ok r ∧ isRedirect r.statusCode = false := by
  constructor
  · rintro ⟨k', st', hvisits', hresult, hredirect⟩
    have hle := hvisits.le_of_done hdone hvisits'
    have hge := hvisits'.le_of_done (checkStep_final lib config mode st' hresult hredirect) hvisits
    obtain rfl : k' = k := by omega
    exact ⟨hresult, hredirect⟩
  · intro h
    exact ⟨k, st, hvisits, h⟩

/-- An attempt ends with one response, or it has seen redirects only. -/
theorem checkAttempt_cases (hmax : 0 ≤ config.maxRedirects) :
    (∃ response st, Underway config n st.attempt ∧
      (∀ r, EndsWith lib config mode initial server n r ↔ r = response) ∧
      isRedirect response.statusCode = false ∧
      ∃ k, checkAttempt lib config mode initial server n =
        finishAttempt lib config mode server (observed server k st response) response) ∨
    ((∀ r, ¬ EndsWith lib config mode initial server n r) ∧
      Underway config n (checkAttempt lib config mode initial server n)) := by
  obtain ⟨k, st, hvisits, hdone⟩ := checkAttempt_visits lib config mode initial server n
  have hunderway := visits_underway hmax hvisits
  have hends := endsWith_iff hvisits hdone
  rcases checkStep_underway lib mode server k hunderway with
    ⟨response, hresponse, hredirect, hfinish⟩ | ⟨honly, hmatch⟩
  · left
    refine ⟨response, st, hunderway, ?_, hredirect, k, ?_⟩
    · intro r
      rw [hends, hresponse]
      constructor
      · rintro ⟨heq, -⟩
        exact (Except.ok.inj heq).symm
      · rintro rfl
        exact ⟨rfl, hredirect⟩
    · rw [hfinish] at hdone
      exact (Next.done.inj hdone).symm
  · right
    constructor
    · intro r hr
      obtain ⟨hresult, hredirect⟩ := (hends r).mp hr
      rw [honly r hresult] at hredirect
      cases hredirect
    · rw [hdone] at hmatch
      exact hmatch

/-! ### The final response -/

/-- The part of the body that is kept, unless reading it failed. -/
def Response.payload? (config : Config) (response : Response) : Option (List UInt8) :=
  (response.body.readAll (config.maxBodyBytes.toNat + 1)).toOption.map
    (·.take config.maxBodyBytes.toNat)

/-- What `readContent` takes from the response. -/
structure ContentOf (lib : Library) (config : Config) (response : Response)
    (content : ContentEvidence) : Prop where
  contentType : content.contentType = response.get "Content-Type"
  declared : content.declaredContentLength = response.contentLength
  digest : content.bodySHA256 = ((response.payload? config).map lib.sha256).getD []
  excerpt : content.excerpt = ((response.payload? config).map (fun payload =>
    redactExcerpt (excerptSource lib config (response.get "Content-Type") payload))).getD []
  title : content.title = ((response.payload? config).map extractTitle).getD []

theorem readContent_contentOf (lib : Library) (config : Config) (mode : ContentMode)
    (response : Response) :
    ContentOf lib config response (readContent lib config mode response) := by
  unfold readContent
  cases hread : response.body.readAll (config.maxBodyBytes.toNat + 1) with
  | error err =>
    have hpayload : response.payload? config = none := by
      unfold Response.payload?
      rw [hread]
      rfl
    exact ⟨rfl, rfl, by rw [hpayload]; rfl, by rw [hpayload]; rfl, by rw [hpayload]; rfl⟩
  | ok payload =>
    have hpayload : response.payload? config = some (payload.take config.maxBodyBytes.toNat) := by
      unfold Response.payload?
      rw [hread]
      rfl
    dsimp only
    generalize contentVerdict lib config mode _ _ _ = verdict
    obtain ⟨status, error⟩ := verdict
    constructor <;> simp only [hpayload, Option.map_some, Option.getD_some]

/-- What `finishAttempt` adds to the attempt under way. -/
structure FinishOf (lib : Library) (config : Config) (mode : ContentMode) (st : ChainState)
    (response : Response) (a : Attempt) : Prop where
  number : a.attempt = st.attempt.attempt
  requestURL : a.requestURL = st.attempt.requestURL
  effectiveURL : a.effectiveURL = st.current.text lib.url
  redirects : a.redirects = st.attempt.redirects
  initial : a.initialStatusCode = st.attempt.initialStatusCode
  final : a.finalStatusCode = response.statusCode
  content : a.content = readContent lib config mode response
  serverHeader : a.serverHeader = response.get "Server"
  headers : a.headers = selectHeaders response config.headerBytes

theorem finishAttempt_finishOf (lib : Library) (config : Config) (mode : ContentMode)
    (server : Server) (st : ChainState) (response : Response) :
    FinishOf lib config mode st response (finishAttempt lib config mode server st response) := by
  unfold finishAttempt
  dsimp only
  cases classifyStatus response.statusCode with
  | some statusError => exact ⟨rfl, rfl, rfl, rfl, rfl, rfl, rfl, rfl, rfl⟩
  | none =>
    dsimp only
    split
    · exact ⟨rfl, rfl, rfl, rfl, rfl, rfl, rfl, rfl, rfl⟩
    · exact ⟨rfl, rfl, rfl, rfl, rfl, rfl, rfl, rfl, rfl⟩

/-- The hops of a finished attempt. -/
theorem checkAttempt_redirects (lib : Library) (mode : ContentMode) (initial : URL)
    (server : Server) (n : Nat) (hmax : 0 ≤ config.maxRedirects) :
    (checkAttempt lib config mode initial server n).attempt = n ∧
    (checkAttempt lib config mode initial server n).redirects.map RedirectHop.hop =
      List.range (checkAttempt lib config mode initial server n).redirects.length ∧
    (∀ hop ∈ (checkAttempt lib config mode initial server n).redirects,
      isRedirect hop.statusCode = true) ∧
    ((checkAttempt lib config mode initial server n).redirects.length : Int) ≤
      config.maxRedirects := by
  rcases checkAttempt_cases hmax with ⟨response, st, hst, -, -, k, heq⟩ | ⟨-, h⟩
  · have hfinish := finishAttempt_finishOf lib config mode server (observed server k st response)
      response
    obtain ⟨status, hobserved⟩ := observed_attempt server k st response
    rw [heq, hfinish.number, hfinish.redirects, hobserved]
    exact ⟨hst.number, hst.hops, hst.statuses, hst.count⟩
  · exact ⟨h.number, h.hops, h.statuses, h.count⟩

/-- A header value has no NUL. -/
theorem HeaderValue.zero_not_mem (value : HeaderValue) : 0 ∉ value.bytes := by
  intro h
  have hvalid := value.valid 0 h
  simp at hvalid

theorem joinValues_zero_not_mem (values : List HeaderValue) : 0 ∉ joinValues values := by
  have hcomma : 0 ∉ lit ", " := by decide
  fun_induction joinValues values with
  | case1 => simp
  | case2 value => exact value.zero_not_mem
  | case3 value values _ ih => simp [value.zero_not_mem, hcomma, ih]

/-- No selected header has a NUL: what is cut off does not matter. -/
theorem selectHeaders_zero_not_mem (response : Response) (maxBytes : Int) :
    ∀ h ∈ selectHeaders response maxBytes, 0 ∉ h.2 := by
  obtain ⟨added, hadded, hselects⟩ := selectHeader_foldl response selectedHeaderNames maxBytes []
  rw [selectHeaders, hadded, List.nil_append]
  intro h hh hmem
  exact joinValues_zero_not_mem _ ((hselects.chosen h hh).2.subset hmem)

/-- The redacted excerpt of the response fits its column: for every secret that
    is removed ten bytes are added. -/
def ExcerptFits (lib : Library) (config : Config) (response : Response) : Prop :=
  ∀ payload ∈ response.payload? config,
    let source := excerptSource lib config (response.get "Content-Type") payload
    source.length + 10 * (secrets source).length ≤ 65536 + ((secrets source).map List.length).sum

/-- The same for an arbitrary limit. -/
def ExcerptWithin (lib : Library) (config : Config) (response : Response) (limit : Int) : Prop :=
  ∀ payload ∈ response.payload? config,
    let source := excerptSource lib config (response.get "Content-Type") payload
    ((source.length + 10 * (secrets source).length : Nat) : Int) ≤
      limit + ((secrets source).map List.length).sum

/-- The excerpt of a response whose body cannot be read is empty. -/
theorem ContentOf.excerpt_within_iff {content : ContentEvidence}
    (h : ContentOf lib config response content) {limit : Int} (hlimit : 0 ≤ limit) :
    (content.excerpt.length : Int) ≤ limit ↔ ExcerptWithin lib config response limit := by
  unfold ExcerptWithin
  rw [h.excerpt]
  cases response.payload? config with
  | none => exact iff_of_true hlimit (fun payload hpayload => by cases hpayload)
  | some payload =>
    have hlength := redactExcerpt_length
      (excerptSource lib config (response.get "Content-Type") payload)
    simp only [Option.map_some, Option.getD_some, Option.mem_some, forall_eq']
    omega

theorem ContentOf.excerpt_length_iff {content : ContentEvidence}
    (h : ContentOf lib config response content) :
    content.excerpt.length ≤ 65536 ↔ ExcerptFits lib config response := by
  have hlimit : (0 : Int) ≤ 65536 := by decide
  have hwithin := h.excerpt_within_iff hlimit
  constructor
  · intro hle payload hpayload
    have hpayload := hwithin.mp (by omega) payload hpayload
    dsimp only at hpayload ⊢
    omega
  · intro hfits
    have hle := hwithin.mpr (fun payload hpayload => by
      have hpayload := hfits payload hpayload
      dsimp only at hpayload ⊢
      omega)
    omega

/-! ### The attempts that take place -/

/-- `CheckURL` makes attempt `n`, at the URL `parsed`. -/
def URLAttempt (lib : Library) (config : Config) (mode : ContentMode) (servers : Nat → Server)
    (rawURL : GoString) (parsed : URL) (n : Nat) : Prop :=
  validateURL lib rawURL = .ok parsed ∧
    Retry.Attempted config.retry.limit (again lib config mode servers parsed) n

/-- What holds of a refused URL and of every attempt that takes place holds of
    all that `CheckURL` returns. -/
theorem forall_mem_checkURL {servers : Nat → Server} {rawURL : GoString} {P : Attempt → Prop}
    (hinvalid : ∀ message checkedAt, P (invalidAttempt rawURL message checkedAt)) :
    (∀ a ∈ checkURL lib config mode servers rawURL, P a) ↔
      ∀ parsed n, URLAttempt lib config mode servers rawURL parsed n →
        P (checkAttempt lib config mode parsed (servers n) n) := by
  unfold checkURL URLAttempt
  cases validateURL lib rawURL with
  | error message =>
    constructor
    · intro _ parsed n h
      cases h.1
    · intro _ a ha
      rw [List.mem_singleton.mp ha]
      exact hinvalid _ _
  | ok parsed =>
    constructor
    · rintro h parsed' n ⟨heq, hattempted⟩
      cases heq
      exact h _ (Retry.mem_attempts_iff.mpr ⟨n, hattempted, rfl⟩)
    · intro h a ha
      obtain ⟨n, hattempted, rfl⟩ := Retry.mem_attempts_iff.mp ha
      exact h parsed n ⟨rfl, hattempted⟩

/-- No two attempts at a URL have the same number. -/
theorem checkURL_attempts_nodup (lib : Library) (mode : ContentMode) (servers : Nat → Server)
    (rawURL : GoString) (hmax : 0 ≤ config.maxRedirects) :
    ((checkURL lib config mode servers rawURL).map Attempt.attempt).Nodup := by
  unfold checkURL
  cases validateURL lib rawURL with
  | error message => exact List.nodup_singleton _
  | ok parsed =>
    apply Retry.attempts_nodup
    intro n m h
    rwa [(checkAttempt_redirects _ _ _ _ _ hmax).1, (checkAttempt_redirects _ _ _ _ _ hmax).1] at h

/-- `CheckDomain` makes attempt `n` at the URL `parsed`, against `server`. -/
def DomainAttempt (lib : Library) (config : Config) (mode : ContentMode) (origin : Origin)
    (hostname : GoString) (parsed : URL) (server : Server) (n : Nat) : Prop :=
  (URLAttempt lib (normalizeConfig config) mode origin.https (httpsURL hostname) parsed n ∧
    server = origin.https n) ∨
  ((checkDomain lib config mode origin hostname).usedHTTPFallback = true ∧
    URLAttempt lib (normalizeConfig config) mode origin.http (httpURL hostname) parsed n ∧
    server = origin.http n)

theorem fallBack_lists (https http : List Attempt) :
    (fallBack https http).https = https ∧
    (fallBack https http).http = if (fallBack https http).usedHTTPFallback then http else [] := by
  unfold fallBack
  split_ifs <;> simp_all

theorem forall_mem_checkDomain {origin : Origin} {hostname : GoString} {P : Attempt → Prop}
    (hhttps : ∀ message checkedAt, P (invalidAttempt (httpsURL hostname) message checkedAt))
    (hhttp : ∀ message checkedAt, P (invalidAttempt (httpURL hostname) message checkedAt)) :
    (∀ a ∈ (checkDomain lib config mode origin hostname).https ++
        (checkDomain lib config mode origin hostname).http, P a) ↔
      ∀ parsed server n, DomainAttempt lib config mode origin hostname parsed server n →
        P (checkAttempt lib (normalizeConfig config) mode parsed server n) := by
  unfold DomainAttempt checkDomain
  dsimp only
  rw [List.forall_mem_append, (fallBack_lists _ _).1, forall_mem_checkURL hhttps,
    (fallBack_lists _ _).2]
  constructor
  · rintro ⟨h1, h2⟩ parsed server n (⟨hattempt, rfl⟩ | ⟨hused, hattempt, rfl⟩)
    · exact h1 parsed n hattempt
    · rw [if_pos hused, forall_mem_checkURL hhttp] at h2
      exact h2 parsed n hattempt
  · intro h
    refine ⟨fun parsed n hattempt => h parsed _ n (.inl ⟨hattempt, rfl⟩), ?_⟩
    split_ifs with hused
    · exact (forall_mem_checkURL hhttp).mpr
        fun parsed n hattempt => h parsed _ n (.inr ⟨hused, hattempt, rfl⟩)
    · exact fun a ha => absurd ha List.not_mem_nil

end DomainMonitor.Httpcheck
