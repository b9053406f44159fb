import DomainMonitor.Httpcheck.Outcome

/-! # The URLs of a redirect chain

    Every URL an attempt records is the one it started from or comes from a
    `Location` header. A URL is printed with escapes, its query apart: that part
    is copied as it was sent. So the URLs of a chain are text exactly when the
    `Location` values are.
-/

namespace DomainMonitor.Httpcheck

open Utf8 Strings Loop

/-! ### URLs that print as text -/

/-- A URL that prints as storable text. -/
structure TextURL (u : URL) : Prop where
  plain : u.Plain
  rawQuery : Storable u.rawQuery

variable {hostname : GoString} {u source : URL} {lib : Library} {a : Attempt} {m : Nat}

theorem TextURL.storable (h : TextURL u) (env : URL.Env) : Storable (u.text env) :=
  (h.plain.storable_text env).mpr h.rawQuery

theorem withRoot_textURL (huser : u.user = none) (hhostname : u.hostname ≠ [])
    (hopaqueHost : u.opaquePart ≠ [] → u.host = []) (hscheme : Printable u.scheme)
    (hquery : Storable u.rawQuery) : TextURL (withRoot u) := by
  refine ⟨⟨huser, ?_, rfl, hscheme⟩, hquery⟩
  by_contra hne
  exact URL.host_ne_nil_of_hostname hhostname (hopaqueHost hne)

theorem validateURL_textURL {raw : GoString} (hraw : Storable raw) (h : validateURL lib raw = .ok u) :
    TextURL u := by
  unfold validateURL at h
  obtain ⟨parsed, hparse, h⟩ := except_bind_ok.mp h
  have hfrom := URL.parse_parsedFrom hparse
  split_ifs at h with hscheme hhostname huser
  cases h
  exact withRoot_textURL (by simpa using huser) hhostname hfrom.opaqueHost hfrom.scheme
    (hfrom.rawQuery ((storable_trimSpace raw).mpr hraw))

/-- A redirect from a URL that prints as text, to a `Location` that is text,
    leads to a URL that prints as text. -/
theorem resolveRedirect_textURL {target : URL} {location : GoString} (hsource : TextURL source)
    (hlocation : Storable location) (h : resolveRedirect lib source location = .ok target) :
    TextURL target := by
  unfold resolveRedirect at h
  split_ifs at h with hempty
  split at h
  · cases h
  · rename_i reference hparse
    have hfrom := URL.parse_parsedFrom hparse
    obtain ⟨hscheme, hopaqueHost, hquery⟩ :=
      URL.resolveReference_frame lib.url (u := source) hfrom.opaqueHost
    dsimp only at h
    split_ifs at h with hallowed hinvalid
    cases h
    rw [not_or] at hinvalid
    refine withRoot_textURL (by simpa using hinvalid.2) hinvalid.1 hopaqueHost ?_ ?_
    · rcases hscheme with hscheme | hscheme
      · rw [hscheme]
        exact hsource.plain.scheme
      · rw [hscheme]
        exact hfrom.scheme
    · rcases hquery with hquery | hquery
      · rw [hquery]
        exact hfrom.rawQuery hlocation
      · rw [hquery]
        exact hsource.rawQuery

theorem storable_trimHostname (h : Storable hostname) : Storable (trimHostname hostname) := by
  unfold trimHostname
  rw [storable_trimSpace]
  split_ifs with hdot
  · obtain ⟨front, rfl⟩ := List.getLast?_eq_some_iff.mp hdot
    rw [List.dropLast_concat]
    exact ((storable_append_ascii front (c := '.') (by decide) (by decide) []).mp h).1
  · exact h

/-- The host name of a domain, between the scheme and the root path. -/
theorem storable_hostURL (h : Storable hostname) :
    Storable (httpsURL hostname) ∧ Storable (httpURL hostname) := by
  have hurl : ∀ scheme : GoString, Storable scheme →
      Storable (scheme ++ [byte '/'] ++ trimHostname hostname ++ [byte '/']) := by
    intro scheme hscheme
    refine (storable_append_ascii _ (c := '/') (by decide) (by decide) []).mpr ⟨?_, by decide⟩
    rw [List.append_assoc]
    exact (storable_append_ascii scheme (c := '/') (by decide) (by decide) _).mpr
      ⟨hscheme, storable_trimHostname h⟩
  exact ⟨hurl (lit "https:/") (by decide), hurl (lit "http:/") (by decide)⟩

/-! ### The hop of a redirect -/

/-- The `Location` of the response that request `i` of the chain received. -/
def Server.location (server : Server) (i : Nat) : GoString :=
  match (server.exchange i).result with
  | .ok response => response.get "Location"
  | .error _ => []

/-! ### The texts of a chain -/

section Chain

variable {lib : Library} {config : Config} {mode : ContentMode} {initial : URL} {server : Server}
  {n k : Nat} {st : ChainState}

variable (lib config mode initial server n) in
/-- The hop of iteration `i` is recorded: the iteration takes place, receives a
    redirect, and is not beyond the limit. -/
def Recorded (i : Nat) : Prop :=
  (∃ st, Visits (checkStep lib config mode server) (initialState lib initial server n) i st) ∧
  (∃ response, (server.exchange i).result = .ok response ∧
    isRedirect response.statusCode = true) ∧
  (i : Int) < config.maxRedirects

/-- The texts an attempt has recorded after `m` hops: their `Location` values
    are what the servers sent, and if these are text, so are the URLs. -/
structure ChainTexts (lib : Library) (initial : URL) (server : Server) (m : Nat) (a : Attempt) :
    Prop where
  requestURL : a.requestURL = initial.text lib.url
  locations : a.redirects.map RedirectHop.location = (List.range m).map server.location
  urls : TextURL initial → (∀ i < m, Storable (server.location i)) →
    ∀ hop ∈ a.redirects, Storable hop.sourceURL ∧ Storable hop.resolvedTarget

theorem ChainTexts.length (h : ChainTexts lib initial server m a) : a.redirects.length = m := by
  simpa using congrArg List.length h.locations

theorem ChainTexts.addHop {hop : RedirectHop} (h : ChainTexts lib initial server m a)
    (hsource : TextURL initial → (∀ i < m, Storable (server.location i)) → TextURL source)
    (hhop : HopOf lib source (server.location m) hop) :
    ChainTexts lib initial server (m + 1) (a.addHop hop) where
  requestURL := h.requestURL
  locations := by
    simp only [Attempt.addHop, List.map_append, List.map_singleton, List.range_succ, h.locations,
      hhop.header]
  urls := by
    intro hinitial hlocations
    have hbefore : ∀ i < m, Storable (server.location i) := fun i hi => hlocations i (by omega)
    have htext := hsource hinitial hbefore
    simp only [Attempt.addHop, List.forall_mem_append, List.forall_mem_singleton]
    refine ⟨h.urls hinitial hbefore, ?_, ?_⟩
    · rw [hhop.sourceURL]
      exact htext.storable lib.url
    · rcases hhop.resolvedTarget with hnil | ⟨target, htarget, heq⟩
      · rw [hnil]
        decide
      · rw [heq]
        exact (resolveRedirect_textURL htext (hlocations m (by omega)) htarget).storable lib.url

variable (lib config mode initial server n) in
/-- What holds when iteration `k` of the chain begins. -/
structure ChainAt (k : Nat) (st : ChainState) : Prop where
  texts : ChainTexts lib initial server k st.attempt
  current : TextURL initial → (∀ i < k, Storable (server.location i)) → TextURL st.current
  recorded : ∀ i < k, Recorded lib config mode initial server n i
  header : st.attempt.serverHeader = []

/-- The attempt as the loop looks at it has the texts of the state. -/
theorem observed_texts (server' : Server) (i : Nat) (response : Response)
    (h : ChainTexts lib initial server k st.attempt) :
    ChainTexts lib initial server k (observed server' i st response).attempt ∧
      (observed server' i st response).attempt.serverHeader = st.attempt.serverHeader := by
  obtain ⟨status, heq⟩ := observed_attempt server' i st response
  rw [heq]
  exact ⟨⟨h.requestURL, h.locations, h.urls⟩, rfl⟩

/-- A redirect within the limit adds the hop of its iteration. -/
theorem ChainAt.follow (h : ChainAt lib config mode initial server n k st)
    (hvisits : Reaches lib config mode initial server n k st)
    {response : Response} (hresult : (server.exchange k).result = .ok response)
    (hredirect : isRedirect response.statusCode = true)
    (hroom : (k : Int) < config.maxRedirects) {next : Next ChainState Attempt}
    (hnext : Redirected lib config (observed server k st response) response next) :
    Recorded lib config mode initial server n k ∧
    next.Holds
      (fun st' => ChainTexts lib initial server (k + 1) st'.attempt ∧
        (TextURL initial → (∀ i < k + 1, Storable (server.location i)) → TextURL st'.current) ∧
        st'.attempt.serverHeader = [])
      (fun a => ChainTexts lib initial server (k + 1) a ∧
        (TextURL initial → (∀ i < k + 1, Storable (server.location i)) → Storable a.effectiveURL) ∧
        a.serverHeader = []) := by
  have hlocation : response.get "Location" = server.location k := by
    unfold Server.location
    rw [hresult]
  obtain ⟨htexts, hheader⟩ := observed_texts server k response h.texts
  rw [h.header] at hheader
  refine ⟨⟨⟨st, hvisits⟩, ⟨response, hresult, hredirect⟩, hroom⟩, ?_⟩
  have htarget : ∀ target, resolveRedirect lib st.current (response.get "Location") = .ok target →
      TextURL initial → (∀ i < k + 1, Storable (server.location i)) → TextURL target := by
    intro target hresolve hinitial hlocations
    rw [hlocation] at hresolve
    exact resolveRedirect_textURL (h.current hinitial fun i hi => hlocations i (by omega))
      (hlocations k (by omega)) hresolve
  cases hnext with
  | beyond hlimit =>
    rw [htexts.length] at hlimit
    omega
  | refused _ _ _ hhop hurl =>
    have hadd := htexts.addHop h.current (hlocation ▸ hhop)
    refine ⟨⟨hadd.requestURL, hadd.locations, hadd.urls⟩, ?_, hheader⟩
    intro hinitial hlocations
    rcases hurl with rfl | ⟨target, hresolve, rfl⟩
    · exact (h.current hinitial fun i hi => hlocations i (by omega)).storable lib.url
    · exact (htarget target hresolve hinitial hlocations).storable lib.url
  | followed _ _ _ hhop hresolve =>
    exact ⟨htexts.addHop h.current (hlocation ▸ hhop), htarget _ hresolve, hheader⟩

theorem visits_chainAt (h : Reaches lib config mode initial server n k st) :
    ChainAt lib config mode initial server n k st := by
  induction h with
  | start =>
    refine ⟨⟨rfl, rfl, ?_⟩, fun hinitial _ => hinitial, ?_, rfl⟩
    · intro _ _ hop hhop
      cases hhop
    · intro i hi
      omega
  | @next k st st' hvisits hstep ih =>
    obtain ⟨response, hresult, hredirect, hfollow⟩ := checkStep_next hstep
    have hroom : (k : Int) < config.maxRedirects := by
      cases hfollow with
      | followed hroom => rwa [observed_redirects, ih.texts.length] at hroom
    obtain ⟨hrecorded, htexts, hcurrent, hheader⟩ :=
      ih.follow hvisits hresult hredirect hroom hfollow
    refine ⟨htexts, hcurrent, ?_, hheader⟩
    intro i hi
    rcases Nat.lt_succ_iff_lt_or_eq.mp hi with hlt | rfl
    · exact ih.recorded i hlt
    · exact hrecorded

/-- The texts a finished attempt has taken from a final response, if one ended
    its chain. -/
def FinalTexts (lib : Library) (config : Config) (response? : Option Response) (a : Attempt) : Prop :=
  match response? with
  | some response => a.serverHeader = response.get "Server" ∧ ContentOf lib config response a.content
  | none => a.serverHeader = [] ∧ a.content = {}

variable (lib config mode initial server n) in
/-- All the texts of a finished attempt: those of its recorded hops, and those of
    the final response. -/
structure AttemptTexts (m : Nat) (response? : Option Response) (a : Attempt) : Prop where
  chain : ChainTexts lib initial server m a
  effectiveURL : TextURL initial → (∀ i < m, Storable (server.location i)) →
    Storable a.effectiveURL
  recorded : ∀ i, Recorded lib config mode initial server n i ↔ i < m
  ends : ∀ r, EndsWith lib config mode initial server n r ↔ response? = some r
  final : FinalTexts lib config response? a

/-! ### The last iteration -/

section Last

variable {a : Attempt} {response : Response}
  (hvisits : Reaches lib config mode initial server n k st)
  (hdone : checkStep lib config mode server k st = .done a)

include hvisits hdone

/-- Iterations before the last have followed their redirect. -/
theorem recorded_iff_lt (hlast : ¬ Recorded lib config mode initial server n k) (i : Nat) :
    Recorded lib config mode initial server n i ↔ i < k := by
  constructor
  · intro hi
    obtain ⟨⟨st', hvisits'⟩, -, -⟩ := id hi
    have hle := hvisits.le_of_done hdone hvisits'
    have hne : i ≠ k := fun heq => hlast (heq ▸ hi)
    omega
  · exact (visits_chainAt hvisits).recorded i

/-- A request that fails ends the chain where it stands. -/
theorem attemptTexts_error {err : Netcheck.Failure} (hunderway : Underway config n st.attempt)
    (hresult : (server.exchange k).result = .error err) :
    AttemptTexts lib config mode initial server n k none a := by
  have hchain := visits_chainAt hvisits
  have hlast : ¬ Recorded lib config mode initial server n k := by
    rintro ⟨-, ⟨response, hresponse, -⟩, -⟩
    rw [hresult] at hresponse
    cases hresponse
  have hrecorded := recorded_iff_lt hvisits hdone hlast
  have hends : ∀ r, EndsWith lib config mode initial server n r ↔ none = some r := by
    intro r
    rw [endsWith_iff hvisits hdone, hresult]
    simp
  rw [checkStep_error hresult] at hdone
  cases hdone
  exact ⟨⟨hchain.texts.requestURL, hchain.texts.locations, hchain.texts.urls⟩,
    fun hinitial hlocations => (hchain.current hinitial hlocations).storable lib.url,
    hrecorded, hends, hchain.header, hunderway.content⟩

/-- A redirect that ends the chain is recorded, unless it is beyond the limit. -/
theorem attemptTexts_redirect (hunderway : Underway config n st.attempt)
    (hresult : (server.exchange k).result = .ok response)
    (hredirect : isRedirect response.statusCode = true) :
    ∃ m, AttemptTexts lib config mode initial server n m none a := by
  have hchain := visits_chainAt hvisits
  have hends : ∀ r, EndsWith lib config mode initial server n r ↔ none = some r := by
    intro r
    rw [endsWith_iff hvisits hdone, hresult]
    constructor
    · rintro ⟨heq, hfinal⟩
      cases heq
      rw [hredirect] at hfinal
      cases hfinal
    · intro heq
      cases heq
  have hcontent := hunderway.observed server k hredirect
  have hfollow := followRedirect_redirected lib config server (observed server k st response) response
    (server.exchange k).timing.total
  rw [← checkStep_redirect lib config mode st hresult hredirect, hdone] at hfollow
  by_cases hroom : (k : Int) < config.maxRedirects
  · obtain ⟨hlast, htexts, heffective, hheader⟩ := hchain.follow hvisits hresult hredirect hroom hfollow
    refine ⟨k + 1, htexts, heffective, ?_, hends, hheader,
      (hcontent.redirected hredirect hfollow).content⟩
    intro i
    constructor
    · rintro ⟨⟨st', hvisits'⟩, -, -⟩
      have := hvisits.le_of_done hdone hvisits'
      omega
    · intro hi
      rcases Nat.lt_succ_iff_lt_or_eq.mp hi with hlt | rfl
      · exact hchain.recorded i hlt
      · exact hlast
  · have hrecorded := recorded_iff_lt hvisits hdone (fun hlast => hroom hlast.2.2)
    obtain ⟨hobserved, hheader⟩ := observed_texts server k response hchain.texts
    cases hfollow with
    | beyond =>
      exact ⟨k, ⟨hobserved.requestURL, hobserved.locations, hobserved.urls⟩,
        fun hinitial hlocations => (hchain.current hinitial hlocations).storable lib.url,
        hrecorded, hends, hheader.trans hchain.header, hcontent.content⟩
    | refused hlt =>
      rw [hobserved.length] at hlt
      exact absurd hlt hroom

/-- The final response of a chain decides the other texts. -/
theorem attemptTexts_final (hresult : (server.exchange k).result = .ok response)
    (hfinal : isRedirect response.statusCode = false) :
    AttemptTexts lib config mode initial server n k (some response) a := by
  have hchain := visits_chainAt hvisits
  have hobserved := (observed_texts server k response hchain.texts).1
  have hends : ∀ r, EndsWith lib config mode initial server n r ↔ some response = some r := by
    intro r
    rw [endsWith_iff hvisits hdone, hresult, Option.some.injEq, Except.ok.injEq]
    constructor
    · exact fun h => h.1
    · rintro rfl
      exact ⟨rfl, hfinal⟩
  have hlast : ¬ Recorded lib config mode initial server n k := by
    rintro ⟨-, ⟨response', hresponse, hredirect⟩, -⟩
    rw [hresult] at hresponse
    cases hresponse
    rw [hfinal] at hredirect
    cases hredirect
  have hrecorded := recorded_iff_lt hvisits hdone hlast
  rw [checkStep_final lib config mode st hresult hfinal] at hdone
  cases hdone
  have hfinish := finishAttempt_finishOf lib config mode server (observed server k st response)
    response
  refine ⟨⟨?_, ?_, ?_⟩, ?_, hrecorded, hends, hfinish.serverHeader, ?_⟩
  · rw [hfinish.requestURL]
    exact hobserved.requestURL
  · rw [hfinish.redirects]
    exact hobserved.locations
  · rw [hfinish.redirects]
    exact hobserved.urls
  · rw [hfinish.effectiveURL]
    exact fun hinitial hlocations => (hchain.current hinitial hlocations).storable lib.url
  · rw [hfinish.content]
    exact readContent_contentOf lib config mode response

end Last

theorem checkAttempt_texts (lib : Library) (mode : ContentMode) (initial : URL) (server : Server)
    (n : Nat) (hmax : 0 ≤ config.maxRedirects) :
    ∃ m response?, AttemptTexts lib config mode initial server n m response?
      (checkAttempt lib config mode initial server n) := by
  obtain ⟨k, st, hvisits, hdone⟩ := checkAttempt_visits lib config mode initial server n
  have hunderway := visits_underway hmax hvisits
  cases hresult : (server.exchange k).result with
  | error err => exact ⟨k, none, attemptTexts_error hvisits hdone hunderway hresult⟩
  | ok response =>
    cases hredirect : isRedirect response.statusCode with
    | true =>
      obtain ⟨m, htexts⟩ := attemptTexts_redirect hvisits hdone hunderway hresult hredirect
      exact ⟨m, none, htexts⟩
    | false => exact ⟨k, some response, attemptTexts_final hvisits hdone hresult hredirect⟩

end Chain

end DomainMonitor.Httpcheck
