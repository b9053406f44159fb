import DomainMonitor.Lib.Context
import DomainMonitor.Classification.Classify
import DomainMonitor.Httpcheck.Outcome

/-! # Deadlines of HTTP checks

    An attempt runs under a context with a timeout of its own, derived from the
    context of the run. `classifyRequestError` looks at the derived context only,
    and both deadlines end it with the same cause. This module follows a check
    along a timeline in which the deadline of the run passes.
-/

namespace DomainMonitor.Httpcheck

open Netcheck Loop Classification

/-! ### Errors of the dialer -/

/-- What `safedial.DialContext` returns as an error. -/
inductive DialerError : Error → Prop where
  | blockedAddress (operation cause : GoString) :
      DialerError ⟨.ssrfBlockedAddress, "tcp", operation, false, some cause⟩
  | blockedPort (cause : GoString) :
      DialerError ⟨.ssrfBlockedPort, "tcp", lit "dial", false, some cause⟩
  | resolve (retryable : Bool) (cause : GoString) :
      DialerError ⟨.dnsNetworkError, "dns", lit "safe resolve", retryable, some cause⟩
  | tcp (ctxErr : Option ContextErr) (host : GoString) (err : Failure) :
      DialerError (classifyTCP ctxErr (lit "dial " ++ host) err)

/-- A code that says the run ended, not that the site failed. -/
def Ended (code : Code) : Prop := code = .runCancelled ∨ code = .runDeadlineExceeded

/-- Such an error is never tried again. -/
theorem DialerError.not_retryable {e : Error} (h : DialerError e) (hcode : Ended e.code) :
    e.retryable = false := by
  cases h with
  | blockedAddress operation cause => rfl
  | blockedPort cause => rfl
  | resolve retryable cause => rcases hcode with h | h <;> cases h
  | tcp ctxErr host err =>
    revert hcode
    unfold classifyTCP fromContext Ended
    cases err.opError with
    | some temporary => split_ifs <;> simp
    | none => split_ifs <;> simp

/-! ### Timelines -/

/-- `ctx.Err()`. -/
def contextErr : Context.Cause → ContextErr
  | .canceled => .canceled
  | .deadlineExceeded => .deadlineExceeded

/-- When the steps of `CheckURL` happen: an attempt starts, makes its requests
    and finishes before the next one starts. The context of an attempt is derived
    from that of the run; a request under a context that is done fails with the
    error of the context; other classified errors come from the dialer. -/
structure Timeline (run : Context) (chainTimeout : Int) (servers : Nat → Server) where
  startedAt : Nat → Int
  requestedAt : Nat → Nat → Int
  returnedAt : Nat → Nat → Int
  finishedAt : Nat → Int
  started_le : ∀ n k, startedAt n ≤ requestedAt n k
  requested_le : ∀ n k, requestedAt n k ≤ returnedAt n k
  returned_le : ∀ n k, returnedAt n k ≤ finishedAt n
  finished_le : ∀ n m, n < m → finishedAt n ≤ startedAt m
  ctxErr : ∀ n k, ((servers n).exchange k).ctxErr =
    ((run.withDeadline (startedAt n + chainTimeout)).cause (returnedAt n k)).map contextErr
  doneContext : ∀ n k,
    ((run.withDeadline (startedAt n + chainTimeout)).cause (requestedAt n k)).isSome = true →
    ∃ err, ((servers n).exchange k).result = .error err ∧ err.classified = none
  dialed : ∀ n k err e, ((servers n).exchange k).result = .error err →
    err.classified = some e → DialerError e

variable {lib : Library} {config : Config} {mode : ContentMode} {servers : Nat → Server}
  {run : Context} {chainTimeout : Int} {rawURL : GoString} {parsed : URL} {n k : Nat}

/-- Request `k` of attempt `n` takes place. -/
def Requested (lib : Library) (config : Config) (mode : ContentMode) (servers : Nat → Server)
    (rawURL : GoString) (n k : Nat) : Prop :=
  ∃ parsed st, URLAttempt lib config mode servers rawURL parsed n ∧
    Visits (checkStep lib config mode (servers n)) (initialState lib parsed (servers n) n) k st

/-- Request `k` of attempt `n` fails, or reading its response does, because the
    deadline of the run has passed and not the timeout of the attempt. -/
def FailsByRunDeadline (config : Config) (timeline : Timeline run chainTimeout servers)
    (n k : Nat) : Prop :=
  (∃ err, ((servers n).exchange k).result = .error err ∧
    run.cause (timeline.returnedAt n k) = some .deadlineExceeded ∧
    timeline.returnedAt n k < timeline.startedAt n + chainTimeout) ∨
  (∃ response message, ((servers n).exchange k).result = .ok response ∧
    isRedirect response.statusCode = false ∧
    response.body.readAll (config.maxBodyBytes.toNat + 1) = .error message ∧
    run.cause (timeline.finishedAt n) = some .deadlineExceeded ∧
    timeline.finishedAt n < timeline.startedAt n + chainTimeout)

/-- The dialer has recognised that the run ended. -/
def RecognisedEnd (servers : Nat → Server) (n k : Nat) : Prop :=
  ∃ err e, ((servers n).exchange k).result = .error err ∧ err.classified = some e ∧ Ended e.code

/-! ### How an attempt is classified -/

variable {st : ChainState} {code : Code} {server : Server} {initial : URL}

/-- An attempt without a final response is `UNKNOWN` only when the run ended. -/
theorem classifyAvailability_failed {a : Attempt} (hfinal : a.finalStatusCode = 0)
    (hcode : a.errorCode = some code) : classifyAvailability a = .unknown ↔ Ended code := by
  unfold classifyAvailability Ended
  rw [hfinal, hcode]
  cases code <;> simp

/-- A failed request ends the attempt with the classified error. -/
theorem checkAttempt_error {err : Failure} (hmax : 0 ≤ config.maxRedirects)
    (hvisits : Reaches lib config mode initial server n k st)
    (hresult : (server.exchange k).result = .error err) :
    let e := classifyRequestError (server.exchange k).ctxErr err
    let a := checkAttempt lib config mode initial server n
    a.errorCode = some e.code ∧ a.retryable = e.retryable ∧ a.finalStatusCode = 0 := by
  intro e a
  have heq : a = _ := checkAttempt_eq_of_done hvisits (checkStep_error hresult)
  rw [heq]
  exact ⟨rfl, rfl, (visits_underway hmax hvisits).final⟩

/-- A final response whose body could not be read is never `UNKNOWN`, and never
    leads to an attempt over HTTP. -/
theorem checkAttempt_unread {response : Response} {message : GoString}
    (hvisits : Reaches lib config mode initial server n k st)
    (hresult : (server.exchange k).result = .ok response)
    (hfinal : isRedirect response.statusCode = false)
    (hread : response.body.readAll (config.maxBodyBytes.toNat + 1) = .error message) :
    let a := checkAttempt lib config mode initial server n
    classifyAvailability a ≠ .unknown ∧ shouldFallbackToHTTP a.errorCode = false := by
  intro a
  have heq : a = _ :=
    checkAttempt_eq_of_done hvisits (checkStep_final lib config mode st hresult hfinal)
  have hcontent : (readContent lib config mode response).status = .unknown ∧
      (readContent lib config mode response).errorCode = some .httpBodyRead := by
    unfold readContent
    dsimp only
    rw [hread]
    exact ⟨rfl, rfl⟩
  rw [heq]
  unfold finishAttempt
  dsimp only
  generalize readContent lib config mode response = content at *
  obtain ⟨hstatus, hcode⟩ := hcontent
  by_cases hclient : 400 ≤ response.statusCode ∧ response.statusCode ≤ 499
  · have hnot : ¬ (200 ≤ response.statusCode ∧ response.statusCode < 300) := by omega
    have hlt : response.statusCode < 500 := by omega
    simp [classifyStatus, classifyAvailability, hclient, hnot, hlt, shouldFallbackToHTTP]
  · by_cases hserver : 500 ≤ response.statusCode
    · have hnot : ¬ (200 ≤ response.statusCode ∧ response.statusCode < 300) := by omega
      have hlt : ¬ response.statusCode < 500 := by omega
      simp [classifyStatus, classifyAvailability, hclient, hnot, hlt, hserver, shouldFallbackToHTTP]
    · have hlt : ¬ (400 ≤ response.statusCode ∧ response.statusCode < 500) := by omega
      simp only [classifyStatus, classifyAvailability, hclient, hserver, hlt, hcode, hstatus, if_false,
        Option.isSome_some, if_true]
      split_ifs <;> simp_all [shouldFallbackToHTTP]

theorem Ended.not_fallback (h : Ended code) : shouldFallbackToHTTP (some code) = false := by
  rcases h with rfl | rfl <;> rfl

/-! ### Attempts after the deadline -/

section Timeline

variable (timeline : Timeline run chainTimeout servers)

/-- Once the deadline of the run has passed, so has that of every attempt. -/
theorem Timeline.expired {t t' : Int} (n : Nat) (h : run.cause t = some .deadlineExceeded)
    (hle : t ≤ t') :
    (run.withDeadline (timeline.startedAt n + chainTimeout)).cause t' = some .deadlineExceeded :=
  Context.withDeadline_cause (Context.cause_mono h hle) _

/-- An attempt that starts after the deadline fails at its first request, and
    counts against the site. -/
theorem Timeline.late_attempt (hmax : 0 ≤ config.maxRedirects) (lib : Library) (mode : ContentMode)
    (parsed : URL) {n : Nat} (h : run.cause (timeline.startedAt n) = some .deadlineExceeded) :
    classifyAvailability (checkAttempt lib config mode parsed (servers n) n) ≠ .unknown := by
  have hstarted := timeline.started_le n 0
  have hrequested := timeline.requested_le n 0
  obtain ⟨err, hresult, hnone⟩ := timeline.doneContext n 0 (by
    rw [timeline.expired n h hstarted]
    rfl)
  have hctx : ((servers n).exchange 0).ctxErr = some .deadlineExceeded := by
    rw [timeline.ctxErr, timeline.expired n h (by omega)]
    rfl
  obtain ⟨hcode, -, hfinal⟩ := checkAttempt_error (n := n) hmax (.start) hresult
  rw [Ne, classifyAvailability_failed hfinal hcode]
  simp [classifyRequestError, hnone, hctx, Ended]

theorem FailsByRunDeadline.passed {timeline : Timeline run chainTimeout servers}
    (h : FailsByRunDeadline config timeline n k) :
    run.cause (timeline.finishedAt n) = some .deadlineExceeded := by
  rcases h with ⟨err, -, hcause, -⟩ | ⟨response, message, -, -, -, hcause, -⟩
  · exact Context.cause_mono hcause (timeline.returned_le n k)
  · exact hcause

/-- The attempt that meets the deadline is `UNKNOWN` only when the dialer has
    recognised it, and is then the last. -/
theorem FailsByRunDeadline.attempt {timeline : Timeline run chainTimeout servers}
    (h : FailsByRunDeadline config timeline n k) (hmax : 0 ≤ config.maxRedirects)
    (hvisits : Visits (checkStep lib config mode (servers n)) (initialState lib parsed (servers n) n) k st) :
    let a := checkAttempt lib config mode parsed (servers n) n
    (classifyAvailability a = .unknown ↔ RecognisedEnd servers n k) ∧
    (RecognisedEnd servers n k → a.retryable = false ∧ shouldFallbackToHTTP a.errorCode = false) := by
  intro a
  rcases h with ⟨err, hresult, hcause, -⟩ | ⟨response, message, hresult, hfinal, hread, -⟩
  · obtain ⟨hcode, hretryable, hzero⟩ := checkAttempt_error hmax hvisits hresult
    have hctx : ((servers n).exchange k).ctxErr = some .deadlineExceeded := by
      rw [timeline.ctxErr, timeline.expired n hcause (Int.le_refl _)]
      rfl
    rw [hctx] at hcode hretryable
    have havailability := classifyAvailability_failed hzero hcode
    cases hclassified : err.classified with
    | none =>
      -- The derived context has ended, and that is taken for a timeout of the site.
      have hnot : ¬ RecognisedEnd servers n k := by
        rintro ⟨err', e, hresult', hclassified', -⟩
        rw [hresult] at hresult'
        cases hresult'
        rw [hclassified] at hclassified'
        cases hclassified'
      refine ⟨?_, fun hend => absurd hend hnot⟩
      rw [havailability]
      simp [classifyRequestError, hclassified, Ended, hnot]
    | some e =>
      have hclass : classifyRequestError (some .deadlineExceeded) err = e := by
        simp [classifyRequestError, hclassified]
      rw [hclass] at hcode hretryable havailability
      have hiff : RecognisedEnd servers n k ↔ Ended e.code := by
        constructor
        · rintro ⟨err', e', hresult', hclassified', hended⟩
          rw [hresult] at hresult'
          cases hresult'
          rw [hclassified] at hclassified'
          cases hclassified'
          exact hended
        · intro hended
          exact ⟨err, e, hresult, hclassified, hended⟩
      rw [hiff]
      refine ⟨havailability, fun hended => ⟨?_, ?_⟩⟩
      · rw [hretryable]
        exact (timeline.dialed n k err e hresult hclassified).not_retryable hended
      · rw [hcode]
        exact hended.not_fallback
  · have hnot : ¬ RecognisedEnd servers n k := by
      rintro ⟨err, e, hresult', -, -⟩
      rw [hresult] at hresult'
      cases hresult'
    obtain ⟨havailability, -⟩ := checkAttempt_unread hvisits hresult hfinal hread
    exact ⟨⟨fun heq => absurd heq havailability, fun hend => absurd hend hnot⟩,
      fun hend => absurd hend hnot⟩

end Timeline

/-! ### Checks that meet the deadline -/

/-- After a request that met the deadline, the check of the URL is `UNKNOWN` only
    when the dialer recognised it, and then it does not fall back to HTTP. -/
theorem FailsByRunDeadline.checkURL {timeline : Timeline run chainTimeout servers}
    (h : FailsByRunDeadline config timeline n k) (hmax : 0 ≤ config.maxRedirects)
    (hrequested : Requested lib config mode servers rawURL n k) :
    ∃ a, (checkURL lib config mode servers rawURL).getLast? = some a ∧
      (classifyAvailability a = .unknown ↔ RecognisedEnd servers n k) ∧
      (RecognisedEnd servers n k → shouldFallbackToHTTP a.errorCode = false) := by
  obtain ⟨parsed, st, ⟨hvalid, hattempted⟩, hvisits⟩ := hrequested
  obtain ⟨havailability, hend⟩ := h.attempt hmax hvisits
  obtain ⟨m, hm, hlast, hget⟩ := Retry.attempts_getLast config.retry.limit_pos
    (fun n => checkAttempt lib config mode parsed (servers n) n) (again lib config mode servers parsed)
  refine ⟨checkAttempt lib config mode parsed (servers m) m, ?_, ?_⟩
  · unfold Httpcheck.checkURL
    rw [hvalid]
    exact hget
  · rcases Nat.lt_or_eq_of_le (hlast n hattempted) with hlt | rfl
    · -- A later attempt took place, so this one was to be tried again.
      have hnot : ¬ RecognisedEnd servers n k := by
        intro hrecognised
        have hagain := hm.2.2 n hattempted.1 hlt
        unfold again at hagain
        rw [(hend hrecognised).1] at hagain
        cases hagain
      have hpassed := Context.cause_mono h.passed (timeline.finished_le n m hlt)
      have hlate := timeline.late_attempt hmax lib mode parsed hpassed
      exact ⟨⟨fun heq => absurd heq hlate, fun hrecognised => absurd hrecognised hnot⟩,
        fun hrecognised => absurd hrecognised hnot⟩
    · exact ⟨havailability, fun hrecognised => (hend hrecognised).2⟩

/-- A check that starts after the deadline counts against the site. -/
theorem Timeline.late_checkURL (timeline : Timeline run chainTimeout servers)
    (hmax : 0 ≤ config.maxRedirects) (lib : Library) (mode : ContentMode) (rawURL : GoString)
    (h : ∀ n, 1 ≤ n → run.cause (timeline.startedAt n) = some .deadlineExceeded) :
    ∃ a, (checkURL lib config mode servers rawURL).getLast? = some a ∧
      classifyAvailability a ≠ .unknown := by
  unfold checkURL
  cases validateURL lib rawURL with
  | error message => exact ⟨_, rfl, by simp [invalidAttempt, classifyAvailability]⟩
  | ok parsed =>
    obtain ⟨m, hm, -, hget⟩ := Retry.attempts_getLast config.retry.limit_pos
      (fun n => checkAttempt lib config mode parsed (servers n) n)
      (again lib config mode servers parsed)
    exact ⟨_, hget, timeline.late_attempt hmax lib mode parsed (h m hm.1)⟩

end DomainMonitor.Httpcheck
