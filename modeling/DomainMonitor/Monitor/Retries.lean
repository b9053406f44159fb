import DomainMonitor.Httpcheck.Outcome
import DomainMonitor.Monitor.DNSEvidence

/-! # Retry discipline

    `Query` and `CheckURL` repeat what failed in a way that may pass. Both loops have
    several exits, and the decision to go on is taken in a different place in each.
    Seen from outside they are the same: the attempts are numbered from one, and
    another one is made exactly when the failure was classified as retryable and the
    wait was not cut short.
-/

namespace DomainMonitor.Dnscheck

open Netcheck

/-- The failure that an exchange is classified as, if it is one. -/
def Exchange.failure? (lib : Library) (exchange : Exchange) : Option Error :=
  match exchange.err with
  | some err => some (classifyExchangeError exchange.parentErr exchange.attemptErr err)
  | none =>
    match exchange.result.message with
    | none => some ⟨.dnsMalformedResponse, "dns", lit "query", false,
        some (lit "resolver returned no message")⟩
    | some message => classifyRCode lib message.rcode

/-- The result shows the failure, and the failure decides about another attempt. -/
theorem queryAttempt_failure (lib : Library) (checker : Checker) (resolver : Resolver)
    (name : GoString) (queryType : QueryType) (n : Nat) :
    (queryAttempt lib checker resolver name queryType n).1.errorCode =
        ((resolver.exchange queryType n).failure? lib).map Error.code ∧
      (queryAttempt lib checker resolver name queryType n).2 =
        ((resolver.exchange queryType n).failure? lib).any Error.retryable := by
  unfold queryAttempt Exchange.failure?
  dsimp only
  cases (resolver.exchange queryType n).err with
  | some err => exact ⟨rfl, rfl⟩
  | none =>
    cases (resolver.exchange queryType n).result.message with
    | none => exact ⟨rfl, rfl⟩
    | some message =>
      dsimp only
      cases classifyRCode lib message.rcode with
      | none => exact ⟨rfl, rfl⟩
      | some rcodeError => exact ⟨rfl, rfl⟩

/-- The result records a failure that is worth another attempt. -/
def RetryableResult (lib : Library) (resolver : Resolver) (result : Result) : Prop :=
  ∃ e, (resolver.exchange result.queryType result.attempt).failure? lib = some e ∧
    result.errorCode = some e.code ∧ e.retryable = true

/-- Why no attempt follows: the result is a success, a failure that is not worth
    another attempt (a refused name among them), or the wait was cut short. -/
def StoppedResult (lib : Library) (resolver : Resolver) (name : GoString) (result : Result) : Prop :=
  result.errorCode = none ∨
  (result.errorCode.isSome ∧ (queryName? lib name = none ∨
    ∃ e, (resolver.exchange result.queryType result.attempt).failure? lib = some e ∧
      result.errorCode = some e.code ∧ e.retryable = false)) ∨
  (resolver.exchange result.queryType result.attempt).waitOk = false

theorem query_disciplined (lib : Library) (checker : Checker) (resolver : Resolver) (name : GoString)
    (queryType : QueryType) :
    Retry.Disciplined checker.retry.limit Result.attempt (RetryableResult lib resolver)
      (StoppedResult lib resolver name) (query lib checker resolver name queryType) := by
  unfold query
  cases hname : queryName? lib name with
  | none => exact Retry.singleton_disciplined checker.retry.limit_pos rfl (.inr (.inl ⟨rfl, .inl hname⟩))
  | some fqdn =>
    have hkey := queryAttempt_key lib checker resolver fqdn queryType
    have hfailure := queryAttempt_failure lib checker resolver fqdn queryType
    refine Retry.attempts_disciplined checker.retry.limit_pos (fun n => (hkey n).2.2) ?_ ?_
    · intro n hagain
      obtain ⟨hretryable, -⟩ := Bool.and_eq_true_iff.mp hagain
      rw [(hfailure n).2] at hretryable
      obtain ⟨e, he, hretry⟩ := (Option.any_eq_true _ _).mp hretryable
      refine ⟨e, ?_, ?_, hretry⟩
      · rw [(hkey n).2.1, (hkey n).2.2, he]
      · rw [(hfailure n).1, he]
        rfl
    · intro n hagain
      unfold StoppedResult
      rw [(hkey n).2.1, (hkey n).2.2, (hfailure n).1]
      rcases Bool.and_eq_false_iff.mp hagain with hretryable | hwait
      · rw [(hfailure n).2] at hretryable
        cases he : (resolver.exchange queryType n).failure? lib with
        | none => exact .inl rfl
        | some e =>
          rw [he] at hretryable
          exact .inr (.inl ⟨rfl, .inr ⟨e, rfl, rfl, hretryable⟩⟩)
      · exact .inr (.inr hwait)

end DomainMonitor.Dnscheck

namespace DomainMonitor.Httpcheck

open Loop

variable {lib : Library} {config : Config} {mode : ContentMode} {server : Server} {initial : URL}
  {n k : Nat} {st : ChainState}

/-! ### An attempt that may be repeated has failed -/

theorem visits_not_retryable
    (h : Reaches lib config mode initial server n k st) :
    st.attempt.retryable = false := by
  refine Visits.invariant (P := fun _ st => st.attempt.retryable = false) rfl ?_ h
  intro k st st' hst hstep
  obtain ⟨response, -, -, hfollow⟩ := checkStep_next hstep
  obtain ⟨status, hobserved⟩ := observed_attempt server k st response
  cases hfollow with
  | followed =>
    rw [hobserved]
    exact hst

theorem finishAttempt_retryable {response : Response} (hst : st.attempt.retryable = false)
    (h : (finishAttempt lib config mode server st response).retryable = true) :
    (finishAttempt lib config mode server st response).errorCode.isSome := by
  unfold finishAttempt at h ⊢
  dsimp only at h ⊢
  cases hstatus : classifyStatus response.statusCode with
  | some statusError => rfl
  | none =>
    -- Without a status error the attempt keeps the flag it had.
    rw [hstatus] at h
    dsimp only at h
    split_ifs at h <;> rw [hst] at h <;> cases h

theorem checkAttempt_retryable
    (h : (checkAttempt lib config mode initial server n).retryable = true) :
    (checkAttempt lib config mode initial server n).errorCode.isSome := by
  obtain ⟨k, st, hvisits, hdone⟩ := checkAttempt_visits lib config mode initial server n
  have hst := visits_not_retryable hvisits
  cases hresult : (server.exchange k).result with
  | error err =>
    rw [checkStep_error hresult] at hdone
    rw [← Next.done.inj hdone]
    rfl
  | ok response =>
    cases hredirect : isRedirect response.statusCode with
    | true =>
      have hfollow := followRedirect_redirected lib config server (observed server k st response)
        response (server.exchange k).timing.total
      rw [← checkStep_redirect lib config mode st hresult hredirect, hdone] at hfollow
      generalize checkAttempt lib config mode initial server n = a at hfollow
      cases hfollow <;> rfl
    | false =>
      obtain ⟨status, hobserved⟩ := observed_attempt server k st response
      rw [checkStep_final lib config mode st hresult hredirect] at hdone
      rw [← Next.done.inj hdone] at h ⊢
      exact finishAttempt_retryable (by rw [hobserved]; exact hst) h

/-! ### `CheckURL` -/

/-- The attempt records a failure that is worth another attempt. -/
def RetryableAttempt (a : Attempt) : Prop := a.errorCode.isSome ∧ a.retryable = true

/-- Why no attempt follows. -/
def StoppedAttempt (servers : Nat → Server) (a : Attempt) : Prop :=
  a.errorCode = none ∨ (a.errorCode.isSome ∧ a.retryable = false) ∨
    (servers a.attempt).waitOk = false

theorem checkURL_disciplined (lib : Library) (mode : ContentMode) (servers : Nat → Server)
    (rawURL : GoString) (hmax : 0 ≤ config.maxRedirects) :
    Retry.Disciplined config.retry.limit Attempt.attempt RetryableAttempt (StoppedAttempt servers)
      (checkURL lib config mode servers rawURL) := by
  unfold checkURL
  cases validateURL lib rawURL with
  | error message =>
    exact Retry.singleton_disciplined config.retry.limit_pos rfl (.inr (.inl ⟨rfl, rfl⟩))
  | ok parsed =>
    have hnumber := fun n => (checkAttempt_redirects lib mode parsed (servers n) n hmax).1
    refine Retry.attempts_disciplined config.retry.limit_pos hnumber ?_ ?_
    · intro n hagain
      obtain ⟨hretryable, -⟩ := Bool.and_eq_true_iff.mp hagain
      exact ⟨checkAttempt_retryable hretryable, hretryable⟩
    · intro n hagain
      unfold StoppedAttempt
      rw [hnumber]
      rcases Bool.and_eq_false_iff.mp hagain with hretryable | hwait
      · cases hcode : (checkAttempt lib config mode parsed (servers n) n).errorCode with
        | none => exact .inl rfl
        | some code => exact .inr (.inl ⟨rfl, hretryable⟩)
      · exact .inr (.inr hwait)

end DomainMonitor.Httpcheck

namespace DomainMonitor.Monitor

open Httpcheck

/-- **Retry discipline** of both checkers: whatever the peers do, the attempts are
    numbered `1, ..., n` with `1 ≤ n ≤ MaxAttempts`, every one but the last failed in a
    way that is worth another attempt, and fewer than `MaxAttempts` are made only if
    the last one succeeded, failed for good, or was followed by a wait that the
    context cut short. -/
theorem retry_discipline :
    (∀ (lib : Dnscheck.Library) (checker : Dnscheck.Checker) (resolver : Dnscheck.Resolver)
      (name : GoString) (queryType : Dnscheck.QueryType),
      Retry.Disciplined checker.retry.normalized.maxAttempts.toNat Dnscheck.Result.attempt
        (Dnscheck.RetryableResult lib resolver) (Dnscheck.StoppedResult lib resolver name)
        (Dnscheck.query lib checker resolver name queryType)) ∧
    ∀ (lib : Library) (config : Httpcheck.Config) (mode : ContentMode) (servers : Nat → Server)
      (rawURL : GoString),
      Retry.Disciplined config.retry.normalized.maxAttempts.toNat Attempt.attempt RetryableAttempt
        (StoppedAttempt servers) (checkURL lib (normalizeConfig config) mode servers rawURL) := by
  refine ⟨Dnscheck.query_disciplined, fun lib config mode servers rawURL => ?_⟩
  have hmax := (normalizeConfig_bounds config).1
  have hlimit : (normalizeConfig config).retry.limit = config.retry.limit :=
    Netcheck.Policy.limit_normalized config.retry
  have hdisciplined := checkURL_disciplined lib mode servers rawURL hmax
  rw [hlimit] at hdisciplined
  exact hdisciplined

end DomainMonitor.Monitor
