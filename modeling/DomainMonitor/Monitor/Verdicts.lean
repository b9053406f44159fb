import DomainMonitor.Monitor.RunDeadline

/-! # What a decision says about the check behind it

    `Classify` looks at one attempt: the last one over HTTPS, or the last one over
    HTTP when `CheckDomain` fell back to it. Two consequences are followed up here.

    * An attempt without an error is not always `ACTIVE`: a site that is checked by
      its status alone may answer with an empty body, for which `readContent` has
      no error and `classifyAvailability` no success.
    * A certificate that made HTTPS fail is in the decision only if the attempts
      over HTTP meet it again.
-/

namespace DomainMonitor.Monitor

open Httpcheck Classification Loop

variable {lib : Library} {config : Httpcheck.Config} {mode : ContentMode} {server : Server}
  {initial : URL} {n k : Nat} {st : ChainState} {response : Response}

/-! ### Attempts without a final response -/

/-- Nothing is recorded yet that ends an attempt. -/
def Pending (a : Attempt) : Prop := a.errorCode = none ∧ a.tls = none

theorem Pending.observed (h : Pending st.attempt) (server : Server) (k : Nat) (response : Response) :
    Pending (Httpcheck.observed server k st response).attempt := by
  obtain ⟨status, heq⟩ := observed_attempt server k st response
  rw [heq]
  exact h

/-- A redirect is followed, or it ends the attempt with one of four errors. -/
theorem Pending.redirected {next : Next ChainState Attempt} (h : Pending st.attempt)
    (hnext : Redirected lib config st response next) :
    next.Holds (fun st' => Pending st'.attempt) (fun a => a.tls = none) := by
  cases hnext with
  | beyond => exact h.2
  | refused => exact h.2
  | followed => exact h

theorem visits_pending
    (h : Reaches lib config mode initial server n k st) :
    Pending st.attempt := by
  refine Visits.invariant (P := fun _ st => Pending st.attempt) ⟨rfl, rfl⟩ ?_ h
  intro k st st' hst hstep
  obtain ⟨response, -, -, hfollow⟩ := checkStep_next hstep
  exact (hst.observed server k response).redirected hfollow

/-! ### The error of a final response -/

theorem finishAttempt_errorCode (lib : Library) (config : Httpcheck.Config) (mode : ContentMode)
    (server : Server) (st : ChainState) (response : Response) :
    (finishAttempt lib config mode server st response).errorCode =
      ((classifyStatus response.statusCode).map Netcheck.Error.code).or
        ((readContent lib config mode response).errorCode.or st.attempt.errorCode) := by
  unfold finishAttempt
  dsimp only
  cases classifyStatus response.statusCode with
  | some statusError => rfl
  | none =>
    dsimp only
    cases hcode : (readContent lib config mode response).errorCode <;> simp

theorem classifyStatus_none {status : Nat} (h : 200 ≤ status ∧ status < 300) :
    classifyStatus status = none := by
  unfold classifyStatus
  dsimp only
  rw [if_neg (by omega), if_neg (by omega)]

/-! ### Success -/

/-- The attempt has a 2xx status and no error. -/
def Succeeded (a : Attempt) : Prop :=
  (200 ≤ a.finalStatusCode ∧ a.finalStatusCode < 300) ∧ a.errorCode = none

def ValidContent (status : ContentStatus) : Prop := status = .validHTML ∨ status = .validNonHTML

/-- A 2xx answer without a body, to a check that looks at the status only. -/
def Silent (config : Httpcheck.Config) (mode : ContentMode) (response : Response) : Prop :=
  mode = .statusOnly ∧ (200 ≤ response.statusCode ∧ response.statusCode < 300) ∧
    response.payload? config = some []

/-- A verdict has no error exactly when its status is valid. -/
def Consistent (verdict : ContentStatus × Option (Code × GoString)) : Prop :=
  verdict.2 = none ↔ ValidContent verdict.1

theorem consistent_failed {status : ContentStatus} (e : Code × GoString)
    (h : status ≠ .validHTML ∧ status ≠ .validNonHTML) : Consistent (status, some e) :=
  iff_of_false (by simp) (fun hvalid => hvalid.elim h.1 h.2)

theorem contentVerdict_valid_iff (lib : Library) (config : Httpcheck.Config) (mode : ContentMode)
    (contentType : GoString) (payload : List UInt8) (oversized : Bool) :
    Consistent (contentVerdict lib config mode contentType payload oversized) ↔
      ¬ (oversized = false ∧ mode = .statusOnly ∧ payload = []) := by
  have hhtml : Consistent (.validHTML, none) := iff_of_true rfl (.inl rfl)
  have hother : Consistent (.validNonHTML, none) := iff_of_true rfl (.inr rfl)
  have hempty : ¬ Consistent (.empty, none) := fun h => by rcases h.mp rfl with h | h <;> cases h
  unfold contentVerdict
  dsimp only
  split_ifs with hover hsilent hmode
  · exact iff_of_true (consistent_failed _ (by decide)) (fun h => by simp [h.1] at hover)
  · exact iff_of_false hempty (not_not.mpr ⟨by simpa using hover, hsilent⟩)
  · exact iff_of_true hhtml (fun h => hsilent h.2)
  · exact iff_of_true hother (fun h => hsilent h.2)
  -- From here on the mode reads the content.
  · exact iff_of_true (consistent_failed _ (by decide)) (fun h => hmode h.2.1)
  · exact iff_of_true (consistent_failed _ (by decide)) (fun h => hmode h.2.1)
  · exact iff_of_true (consistent_failed _ (by decide)) (fun h => hmode h.2.1)
  · exact iff_of_true (consistent_failed _ (by decide)) (fun h => hmode h.2.1)
  · exact iff_of_true hhtml (fun h => hmode h.2.1)
  · exact iff_of_true hother (fun h => hmode h.2.1)

/-- Content without an error is valid, with one exception. -/
theorem readContent_valid_iff (lib : Library) (mode : ContentMode) (response : Response)
    (hmax : 1 ≤ config.maxBodyBytes) :
    ((readContent lib config mode response).errorCode = none ↔
        ValidContent (readContent lib config mode response).status) ↔
      ¬ (mode = .statusOnly ∧ response.payload? config = some []) := by
  unfold readContent Response.payload?
  cases response.body.readAll (config.maxBodyBytes.toNat + 1) with
  | error err => simp [ValidContent, Except.toOption]
  | ok payload =>
    have hverdict := contentVerdict_valid_iff lib config mode (response.get "Content-Type")
      (payload.take config.maxBodyBytes.toNat) ((payload.length : Int) > config.maxBodyBytes)
    dsimp only [Except.toOption, Consistent] at hverdict ⊢
    rw [Option.map_eq_none_iff, hverdict]
    -- An empty body is not oversized.
    have hempty : payload.take config.maxBodyBytes.toNat = [] →
        ¬ (payload.length : Int) > config.maxBodyBytes := by
      intro hnil
      rw [List.take_eq_nil_iff] at hnil
      rcases hnil with hzero | rfl
      · omega
      · simp only [List.length_nil]
        omega
    simp only [Option.map_some, Option.some.injEq, decide_eq_false_iff_not]
    constructor
    · exact fun h hsilent => h ⟨hempty hsilent.2, hsilent⟩
    · exact fun h hsilent => h hsilent.2

theorem classifyAvailability_active (a : Attempt) : classifyAvailability a = .active ↔
    (200 ≤ a.finalStatusCode ∧ a.finalStatusCode < 300) ∧ ValidContent a.content.status := by
  unfold classifyAvailability
  dsimp only
  by_cases hok : 200 ≤ a.finalStatusCode ∧ a.finalStatusCode < 300
  · rw [if_pos hok]
    by_cases hvalid : ValidContent a.content.status
    · exact iff_of_true (if_pos hvalid) ⟨hok, hvalid⟩
    · refine iff_of_false ?_ (fun h => hvalid h.2)
      rw [show (if a.content.status = .validHTML ∨ a.content.status = .validNonHTML then
        Availability.active else .degraded) = .degraded from if_neg hvalid]
      decide
  · rw [if_neg hok]
    refine iff_of_false ?_ (fun h => hok h.1)
    split_ifs
    · decide
    · decide
    · cases a.errorCode with
      | none => decide
      | some code => cases code <;> decide

/-- One attempt: success and `ACTIVE` are the same unless the answer was silent. -/
theorem attempt_success_iff (hredirects : 0 ≤ config.maxRedirects) (hmax : 1 ≤ config.maxBodyBytes) :
    (Succeeded (checkAttempt lib config mode initial server n) ↔
        classifyAvailability (checkAttempt lib config mode initial server n) = .active) ↔
      ∀ response, EndsWith lib config mode initial server n response →
        ¬ Silent config mode response := by
  obtain ⟨k, st, hvisits, hdone⟩ := checkAttempt_visits lib config mode initial server n
  have hunderway := visits_underway hredirects hvisits
  have hends := endsWith_iff hvisits hdone
  rw [classifyAvailability_active]
  rcases checkStep_underway lib mode server k hunderway with
    ⟨response, hresponse, hredirect, hfinish⟩ | ⟨honly, hmatch⟩
  · have heq : checkAttempt lib config mode initial server n =
        finishAttempt lib config mode server (observed server k st response) response := by
      rw [hfinish] at hdone
      exact (Next.done.inj hdone).symm
    have hone : ∀ r, EndsWith lib config mode initial server n r ↔ r = response := by
      intro r
      rw [hends, hresponse]
      exact ⟨fun h => (Except.ok.inj h.1).symm, fun h => ⟨by rw [h], by rw [h]; exact hredirect⟩⟩
    have hof := finishAttempt_finishOf lib config mode server (observed server k st response) response
    have hnone : (observed server k st response).attempt.errorCode = none :=
      ((visits_pending hvisits).observed server k response).1
    simp only [hone, forall_eq]
    rw [heq, Succeeded, hof.final, hof.content, finishAttempt_errorCode, hnone, Option.or_none]
    have hcontent := readContent_valid_iff lib mode response hmax
    by_cases hok : 200 ≤ response.statusCode ∧ response.statusCode < 300
    · rw [classifyStatus_none hok, Option.map_none, Option.none_or, Silent]
      simpa [hok] using hcontent
    · simp [hok, Silent]
  · -- Redirects only: neither a success nor active.
    rw [hdone] at hmatch
    have hzero : (checkAttempt lib config mode initial server n).finalStatusCode = 0 := hmatch.final
    have hnone : ∀ r, ¬ EndsWith lib config mode initial server n r := by
      intro r hr
      obtain ⟨hresult, hredirect⟩ := (hends r).mp hr
      rw [honly r hresult] at hredirect
      cases hredirect
    simp [Succeeded, hzero, hnone]

/-! ### The last attempt of a check -/

/-- The attempt that `Classify` looks at is attempt `n` at `parsed`, against `server`. -/
def LastAttempt (lib : Library) (config : Httpcheck.Config) (mode : ContentMode) (origin : Origin)
    (hostname : GoString) (parsed : URL) (server : Server) (n : Nat) : Prop :=
  DomainAttempt lib config mode origin hostname parsed server n ∧
    effectiveAttempt (checkDomain lib config mode origin hostname) =
      some (checkAttempt lib (normalizeConfig config) mode parsed server n)

/-- There is one, unless the host name was refused. -/
theorem lastAttempt_cases (lib : Library) (config : Httpcheck.Config) (mode : ContentMode)
    (origin : Origin) (hostname : GoString) :
    (∃ parsed server n, LastAttempt lib config mode origin hostname parsed server n) ∨
      ∃ rawURL message checkedAt, effectiveAttempt (checkDomain lib config mode origin hostname) =
        some (invalidAttempt rawURL message checkedAt) := by
  have hsome : ∃ last, effectiveAttempt (checkDomain lib config mode origin hostname) = some last := by
    unfold checkDomain
    dsimp only
    rw [effectiveAttempt_fallBack (checkURL_ne_nil _ _ _ _ _)]
    split_ifs
    · exact ⟨_, List.getLast?_eq_some_getLast (checkURL_ne_nil _ _ _ _ _)⟩
    · exact ⟨_, List.getLast?_eq_some_getLast (checkURL_ne_nil _ _ _ _ _)⟩
  obtain ⟨last, hlast⟩ := hsome
  have hmem : last ∈ (checkDomain lib config mode origin hostname).https ++
      (checkDomain lib config mode origin hostname).http := by
    unfold effectiveAttempt at hlast
    split_ifs at hlast
    · exact List.mem_append_right _ (List.mem_of_getLast? hlast)
    · exact List.mem_append_left _ (List.mem_of_getLast? hlast)
  have hall : ∀ a ∈ (checkDomain lib config mode origin hostname).https ++
      (checkDomain lib config mode origin hostname).http,
      (∃ parsed server n, DomainAttempt lib config mode origin hostname parsed server n ∧
        a = checkAttempt lib (normalizeConfig config) mode parsed server n) ∨
      ∃ rawURL message checkedAt, a = invalidAttempt rawURL message checkedAt := by
    refine (forall_mem_checkDomain ?_ ?_).mpr (fun parsed server n h => .inl ⟨parsed, server, n, h, rfl⟩)
    · exact fun message checkedAt => .inr ⟨_, message, checkedAt, rfl⟩
    · exact fun message checkedAt => .inr ⟨_, message, checkedAt, rfl⟩
  replace hall := hall last hmem
  rcases hall with ⟨parsed, server, n, hattempt, rfl⟩ | ⟨rawURL, message, checkedAt, rfl⟩
  · exact .inl ⟨parsed, server, n, hattempt, hlast⟩
  · exact .inr ⟨rawURL, message, checkedAt, hlast⟩

/-- **Success and `ACTIVE`**: whatever the servers answer, the last attempt has a 2xx
    status and no error exactly when the decision is `ACTIVE`, if and only if it did
    not get a silent answer. -/
theorem success_active_iff (tables : Strings.Tables) (lib : Library) (config : Httpcheck.Config)
    (mode : ContentMode) (origin : Origin) (hostname : GoString)
    (localDNS alternateDNS : List Dnscheck.Result) :
    ∃ last, effectiveAttempt (checkDomain lib config mode origin hostname) = some last ∧
      ((Succeeded last ↔ (classify tables localDNS alternateDNS
          (checkDomain lib config mode origin hostname)).availability = .active) ↔
        ∀ parsed server n response, LastAttempt lib config mode origin hostname parsed server n →
          EndsWith lib (normalizeConfig config) mode parsed server n response →
          ¬ Silent (normalizeConfig config) mode response) := by
  obtain ⟨hredirects, hmax⟩ := normalizeConfig_bounds config
  rcases lastAttempt_cases lib config mode origin hostname with
    ⟨parsed, server, n, hlast⟩ | ⟨rawURL, message, checkedAt, hinvalid⟩
  · refine ⟨_, hlast.2, ?_⟩
    rw [classify_availability _ _ _ hlast.2]
    constructor
    · intro hsame parsed' server' n' response hlast' hends
      have heq := Option.some.inj (hlast.2.symm.trans hlast'.2)
      rw [heq] at hsame
      exact (attempt_success_iff hredirects hmax).mp hsame response hends
    · intro hsilent
      exact (attempt_success_iff hredirects hmax).mpr (fun response => hsilent _ _ _ response hlast)
  · refine ⟨_, hinvalid, ?_⟩
    rw [classify_availability _ _ _ hinvalid]
    refine iff_of_true (iff_of_false ?_ ?_) ?_
    · intro h
      cases h.2
    · intro h
      cases h
    · -- A refused host name has no final status.
      intro parsed server n response hlast hends hsilent
      have heq := Option.some.inj (hinvalid.symm.trans hlast.2)
      obtain ⟨k, st, hvisits, hresult, hredirect⟩ := hends
      have hfinish := checkAttempt_eq_of_done hvisits
        (checkStep_final lib (normalizeConfig config) mode st hresult hredirect)
      have hzero : response.statusCode = 0 := by
        rw [← (finishAttempt_finishOf lib (normalizeConfig config) mode server
          (observed server k st response) response).final, ← hfinish, ← heq]
        rfl
      have hok := hsilent.2.1
      omega

/-- A site that answers 204: the attempt has no error, and the decision is
    `DEGRADED`. -/
theorem no_content_degraded :
    ∃ last, effectiveAttempt (checkDomain sampleHTTPLibrary (httpConfig defaultConfig) .statusOnly
        (sampleWeb (sampleResponse 204 [])).system (lit "example.com")) = some last ∧
      Succeeded last ∧
      (classify Strings.asciiTables [] [] (checkDomain sampleHTTPLibrary (httpConfig defaultConfig)
        .statusOnly (sampleWeb (sampleResponse 204 [])).system (lit "example.com"))).availability =
        .degraded := by
  have hlast : (effectiveAttempt (checkDomain sampleHTTPLibrary (httpConfig defaultConfig) .statusOnly
      (sampleWeb (sampleResponse 204 [])).system (lit "example.com"))).any (fun last =>
        200 ≤ last.finalStatusCode && last.finalStatusCode < 300 && last.errorCode.isNone &&
          classifyAvailability last = .degraded) = true := by decide +kernel
  obtain ⟨last, hsome, hall⟩ := (Option.any_eq_true _ _).mp hlast
  simp only [Bool.and_eq_true, decide_eq_true_eq, Option.isNone_iff_eq_none] at hall
  exact ⟨last, hsome, ⟨hall.1.1, hall.1.2⟩, by rw [classify_availability _ _ _ hsome]; exact hall.2⟩

/-! ### Certificates -/

/-- The status a TLS error stands for. -/
def tlsFailure : Code → Option TLSStatus
  | .tlsErrorExpired => some .expired
  | .tlsErrorHostname => some .hostnameMismatch
  | .tlsErrorUnknownAuthority => some .invalid
  | .tlsErrorHandshake => some .error
  | _ => none

/-- The attempt met a certificate of this status, or failed with this error. -/
def ShowsFailure (code : Code) (status : TLSStatus) (a : Attempt) : Prop :=
  (∃ tls, a.tls = some tls ∧ tls.status = status) ∨ (a.tls = none ∧ a.errorCode = some code)

variable {status : TLSStatus} {code : Code}

theorem tlsFailure_inj {code' : Code} (h : tlsFailure code = some status)
    (h' : tlsFailure code' = some status) : code = code' := by
  cases code <;> cases h <;> cases code' <;> first | rfl | cases h'

theorem tlsFailure_ne (h : tlsFailure code = some status) :
    status ≠ .notApplicable ∧ status ≠ .unknown := by
  cases code <;> cases h <;> decide

theorem classifyTLS_none {a : Attempt} (h : a.tls = none) :
    classifyTLS a = (a.errorCode.bind tlsFailure).getD
      (if (lit "http://").isPrefixOf a.requestURL then .notApplicable else .unknown) := by
  unfold classifyTLS
  rw [h]
  cases a.errorCode with
  | none => rfl
  | some code => cases code <;> rfl

theorem classifyTLS_iff (h : tlsFailure code = some status) (a : Attempt) :
    classifyTLS a = status ↔ ShowsFailure code status a := by
  unfold ShowsFailure
  cases htls : a.tls with
  | some tls => simp [classifyTLS, htls]
  | none =>
    rw [classifyTLS_none htls]
    simp only [reduceCtorEq, false_and, exists_false, true_and, false_or]
    cases hfailed : a.errorCode.bind tlsFailure with
    | none =>
      -- No certificate was at fault.
      obtain ⟨hnotApplicable, hunknown⟩ := tlsFailure_ne h
      refine iff_of_false ?_ ?_
      · rw [Option.getD_none]
        split_ifs
        · exact hnotApplicable.symm
        · exact hunknown.symm
      · intro hcode
        rw [hcode, Option.bind_some, h] at hfailed
        cases hfailed
    | some status' =>
      obtain ⟨code', hcode', hstatus'⟩ := Option.bind_eq_some_iff.mp hfailed
      rw [hcode', Option.getD_some, Option.some.injEq]
      constructor
      · rintro rfl
        exact tlsFailure_inj hstatus' h
      · rintro rfl
        exact Option.some.inj (hstatus'.symm.trans h)

theorem classify_tls (tables : Strings.Tables) (localDNS alternateDNS : List Dnscheck.Result)
    {origin : OriginResult} {attempt : Attempt} (h : effectiveAttempt origin = some attempt) :
    (classify tables localDNS alternateDNS origin).tls = classifyTLS attempt := by
  unfold classify
  dsimp only
  rw [h]

theorem readContent_not_tls (lib : Library) (config : Httpcheck.Config) (mode : ContentMode)
    (response : Response) (h : (readContent lib config mode response).errorCode = some code) :
    tlsFailure code = none := by
  unfold readContent at h
  cases hread : response.body.readAll (config.maxBodyBytes.toNat + 1) with
  | error err =>
    rw [hread] at h
    cases h
    rfl
  | ok payload =>
    rw [hread] at h
    dsimp only at h
    generalize (payload.take config.maxBodyBytes.toNat) = kept at h
    unfold contentVerdict at h
    dsimp only at h
    split_ifs at h <;> first | (cases h; rfl) | cases h

theorem classifyStatus_not_tls {status : Nat} {e : Netcheck.Error} (h : classifyStatus status = some e) :
    tlsFailure e.code = none := by
  unfold classifyStatus at h
  dsimp only at h
  split_ifs at h <;> (cases h; rfl)

/-- An attempt that failed with a TLS error has seen no certificate. -/
theorem checkAttempt_tls_none
    (hcode : (checkAttempt lib config mode initial server n).errorCode = some code)
    (hfailure : tlsFailure code = some status) :
    (checkAttempt lib config mode initial server n).tls = none := by
  obtain ⟨k, st, hvisits, hdone⟩ := checkAttempt_visits lib config mode initial server n
  have hpending := visits_pending hvisits
  cases hresult : (server.exchange k).result with
  | error err =>
    rw [checkStep_error hresult] at hdone
    rw [← Next.done.inj hdone]
    exact hpending.2
  | ok response =>
    have hobserved := hpending.observed server k response
    cases hredirect : isRedirect response.statusCode with
    | true =>
      have hheld := hobserved.redirected (followRedirect_redirected lib config server _ response
        (server.exchange k).timing.total)
      rw [← checkStep_redirect lib config mode st hresult hredirect, hdone] at hheld
      exact hheld
    | false =>
      -- No final response has a TLS error.
      exfalso
      rw [checkStep_final lib config mode st hresult hredirect] at hdone
      rw [← Next.done.inj hdone, finishAttempt_errorCode, hobserved.1, Option.or_none] at hcode
      cases hstatus : classifyStatus response.statusCode with
      | some e =>
        rw [hstatus] at hcode
        cases hcode
        rw [classifyStatus_not_tls hstatus] at hfailure
        cases hfailure
      | none =>
        rw [hstatus, Option.map_none, Option.none_or] at hcode
        rw [readContent_not_tls lib config mode response hcode] at hfailure
        cases hfailure

/-- After a TLS error `CheckDomain` always falls back to HTTP. -/
theorem checkDomain_tls_failure {origin : Origin} {hostname : GoString} {last : Attempt}
    (hlast : (checkDomain lib config mode origin hostname).https.getLast? = some last)
    (hcode : last.errorCode = some code) (hfailure : tlsFailure code = some status) :
    (checkDomain lib config mode origin hostname).usedHTTPFallback = true ∧
      (checkDomain lib config mode origin hostname).http ≠ [] ∧ last.tls = none := by
  unfold checkDomain at hlast ⊢
  dsimp only at hlast ⊢
  rw [(fallBack_lists _ _).1] at hlast
  have hused : shouldFallbackToHTTP (some code) = true := by
    cases code <;> cases hfailure <;> rfl
  have hfallback : (fallBack (checkURL lib (normalizeConfig config) mode origin.https (httpsURL hostname))
      (checkURL lib (normalizeConfig config) mode origin.http (httpURL hostname))).usedHTTPFallback =
      true := by
    rw [usedHTTPFallback_eq, hlast, Option.bind_some, hcode]
    exact hused
  rw [(fallBack_lists _ _).2, if_pos hfallback]
  refine ⟨hfallback, checkURL_ne_nil _ _ _ _ _, ?_⟩
  have hmem := List.mem_of_getLast? hlast
  unfold checkURL at hmem
  cases hvalid : validateURL lib (httpsURL hostname) with
  | error message =>
    rw [hvalid] at hmem
    rw [List.mem_singleton.mp hmem]
    rfl
  | ok parsed =>
    rw [hvalid] at hmem
    obtain ⟨m, -, rfl⟩ := Retry.mem_attempts_iff.mp hmem
    exact checkAttempt_tls_none hcode hfailure

/-- **A certificate failure is hidden by the fallback** unless the last attempt over
    HTTP shows it too. In every result of `CheckDomain` there is such an attempt. -/
theorem tls_failure_kept_iff (tables : Strings.Tables) (localDNS alternateDNS : List Dnscheck.Result)
    {origin : OriginResult} {last : Attempt} {code : Code} {status : TLSStatus}
    (hlast : origin.https.getLast? = some last) (hcode : last.errorCode = some code)
    (hfailure : tlsFailure code = some status) :
    ((classify tables localDNS alternateDNS origin).tls = status ↔
      if origin.usedHTTPFallback ∧ origin.http ≠ [] then
        ∃ fallback, origin.http.getLast? = some fallback ∧ ShowsFailure code status fallback
      else ∀ tls, last.tls = some tls → tls.status = status) ∧
    ∀ lib config mode servers hostname, origin = checkDomain lib config mode servers hostname →
      origin.usedHTTPFallback = true ∧ origin.http ≠ [] ∧ last.tls = none := by
  refine ⟨?_, ?_⟩
  · split_ifs with hused
    · have heffective : effectiveAttempt origin = origin.http.getLast? := if_pos hused
      rw [List.getLast?_eq_some_getLast hused.2] at heffective ⊢
      rw [classify_tls _ _ _ heffective, classifyTLS_iff hfailure]
      simp
    · have heffective : effectiveAttempt origin = some last := by
        rw [← hlast]
        exact if_neg hused
      rw [classify_tls _ _ _ heffective, classifyTLS_iff hfailure, ShowsFailure]
      cases last.tls <;> simp [hcode]
  · intro lib config mode servers hostname hcheck
    rw [hcheck] at hlast ⊢
    exact checkDomain_tls_failure hlast hcode hfailure

/-! ### An expired certificate -/

/-- Every request fails with an expired certificate. -/
def expiredServer : Server where
  exchange := fun _ => { result := .error { certificateExpired := true, text := [] } }
  checkedAt := 0
  now := 0
  total := millisecond

/-- A redirect to HTTPS, where the certificate is met again. -/
def upgradingServer : Server where
  exchange := fun k =>
    if k = 0 then
      { result := .ok { sampleResponse 301 [] with
          header := fun name =>
            if name = "Location" then [⟨lit "https://example.com/", by decide +kernel⟩] else [] } }
    else { result := .error { certificateExpired := true, text := [] } }
  checkedAt := 0
  now := 0
  total := millisecond

def expiredResult (http : Server) : OriginResult :=
  checkDomain sampleHTTPLibrary (httpConfig defaultConfig) .html
    { https := fun _ => expiredServer, http := fun _ => http } (lit "example.com")

theorem expiredResult_last (http : Server) :
    ∃ last, (expiredResult http).https.getLast? = some last ∧
      last.errorCode = some .tlsErrorExpired := by
  have hany : ((expiredResult expiredServer).https.getLast?).any (fun last =>
      last.errorCode = some .tlsErrorExpired) = true := by decide +kernel
  have hsame : (expiredResult http).https = (expiredResult expiredServer).https := by
    unfold expiredResult checkDomain
    dsimp only
    rw [(fallBack_lists _ _).1, (fallBack_lists _ _).1]
  rw [hsame]
  obtain ⟨last, hlast, hcode⟩ := (Option.any_eq_true _ _).mp hany
  exact ⟨last, hlast, of_decide_eq_true hcode⟩

/-- A site that redirects HTTP to HTTPS: the failure is in the decision. -/
theorem tls_failure_kept_upgraded :
    (classify Strings.asciiTables [] [] (expiredResult upgradingServer)).tls = .expired := by
  obtain ⟨last, hlast, hcode⟩ := expiredResult_last upgradingServer
  obtain ⟨hiff, hcheck⟩ := tls_failure_kept_iff Strings.asciiTables [] [] hlast hcode rfl
  obtain ⟨hused, hne, -⟩ := hcheck _ _ _ _ _ rfl
  refine hiff.mpr ?_
  rw [if_pos ⟨hused, hne⟩]
  have hany : ((expiredResult upgradingServer).http.getLast?).any (fun fallback =>
      fallback.tls = none ∧ fallback.errorCode = some .tlsErrorExpired) = true := by decide +kernel
  obtain ⟨fallback, hfallback, hshown⟩ := (Option.any_eq_true _ _).mp hany
  exact ⟨fallback, hfallback, .inr (of_decide_eq_true hshown)⟩

/-- A site that serves its page over HTTP: the expired certificate is not reported. -/
theorem expired_not_applicable :
    (∃ last, (expiredResult (sampleServer (sampleResponse 200 (lit "ok")))).https.getLast? =
        some last ∧ last.errorCode = some .tlsErrorExpired) ∧
      (classify Strings.asciiTables [] []
        (expiredResult (sampleServer (sampleResponse 200 (lit "ok"))))).tls = .notApplicable :=
  ⟨expiredResult_last _, by decide +kernel⟩

end DomainMonitor.Monitor
