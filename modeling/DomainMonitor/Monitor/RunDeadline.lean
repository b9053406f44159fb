import DomainMonitor.Httpcheck.Deadline
import DomainMonitor.Monitor.HTTPEvidence

/-! # Runs that meet their deadline

    `Execute` checks a domain under a context with the deadline of the run. A
    request that fails because this deadline has passed is taken for a timeout
    of the site, except when the dialer classified the error before: so the
    decision counts against the site.
-/

namespace DomainMonitor.Monitor

open Httpcheck Classification

/-! ### The timeline of a run -/

/-- The servers of either scheme. -/
def originServers (origin : Origin) : Scheme → Nat → Server
  | .https => origin.https
  | .http => origin.http

/-- When the steps of `CheckDomain` happen: HTTPS before HTTP. -/
structure DomainTimeline (run : Context) (chainTimeout : Int) (origin : Origin) where
  runOf : (scheme : Scheme) → Timeline run chainTimeout (originServers origin scheme)
  order : ∀ n m, 1 ≤ m → (runOf .https).finishedAt n ≤ (runOf .http).startedAt m

/-- Request `k` of attempt `n` over `scheme` takes place in the check of the run
    that uses the system resolver. -/
def RunRequest (lib : Library) (cfg : Config) (target : Target) (web : Web) (scheme : Scheme)
    (n k : Nat) : Prop :=
  let config := normalizeConfig (httpConfig cfg)
  let mode := target.expectedContentMode
  let hostname := target.domainASCII.bytes
  match scheme with
  | .https => Requested lib config mode web.system.https (httpsURL hostname) n k
  | .http =>
    (checkDomain lib (httpConfig cfg) mode web.system hostname).usedHTTPFallback = true ∧
      Requested lib config mode web.system.http (httpURL hostname) n k

theorem effectiveAttempt_fallBack {https http : List Attempt} (hhttp : http ≠ []) :
    effectiveAttempt (fallBack https http) =
      if (fallBack https http).usedHTTPFallback then http.getLast? else https.getLast? := by
  unfold fallBack effectiveAttempt
  split_ifs <;> simp_all

theorem usedHTTPFallback_eq (https http : List Attempt) :
    (fallBack https http).usedHTTPFallback =
      shouldFallbackToHTTP (https.getLast?.bind Attempt.errorCode) := by
  unfold fallBack
  split_ifs with h
  · exact h.symm
  · simpa using h

theorem checkURL_ne_nil (lib : Library) (config : Httpcheck.Config) (mode : ContentMode)
    (servers : Nat → Server) (rawURL : GoString) : checkURL lib config mode servers rawURL ≠ [] := by
  unfold checkURL
  cases validateURL lib rawURL with
  | error message => exact List.cons_ne_nil _ _
  | ok parsed =>
    obtain ⟨m, -, -, hget⟩ := Retry.attempts_getLast config.retry.limit_pos
      (fun n => checkAttempt lib config mode parsed (servers n) n)
      (again lib config mode servers parsed)
    intro hnil
    dsimp only at hnil
    rw [hnil] at hget
    cases hget

/-- The effective attempt of a check in which a request met the deadline. -/
theorem effectiveAttempt_deadline {lib : Library} {cfg : Config} {target : Target} {web : Web}
    {run : Context} {chainTimeout : Int} (timeline : DomainTimeline run chainTimeout web.system)
    (hmax : 0 ≤ (normalizeConfig (httpConfig cfg)).maxRedirects) {scheme : Scheme} {n k : Nat}
    (hrequest : RunRequest lib cfg target web scheme n k)
    (hfails : FailsByRunDeadline (normalizeConfig (httpConfig cfg)) (timeline.runOf scheme) n k) :
    ∃ a, effectiveAttempt (checkDomain lib (httpConfig cfg) target.expectedContentMode web.system
        target.domainASCII.bytes) = some a ∧
      (classifyAvailability a = .unknown ↔
        RecognisedEnd (originServers web.system scheme) n k) := by
  unfold RunRequest at hrequest
  unfold checkDomain at hrequest ⊢
  dsimp only at hrequest ⊢
  rw [effectiveAttempt_fallBack (checkURL_ne_nil _ _ _ _ _)]
  cases scheme with
  | https =>
    obtain ⟨a, hget, havailability, hfallback⟩ := hfails.checkURL hmax hrequest
    dsimp only [originServers] at hget
    rw [usedHTTPFallback_eq, hget]
    split_ifs with hused
    · -- The attempts over HTTP start after the deadline.
      have hnot : ¬ RecognisedEnd web.system.https n k := by
        intro hend
        have hfalse := hfallback hend
        change shouldFallbackToHTTP a.errorCode = true at hused
        rw [hfalse] at hused
        cases hused
      obtain ⟨b, hgetb, hlate⟩ := (timeline.runOf .http).late_checkURL hmax lib
        target.expectedContentMode (httpURL target.domainASCII.bytes)
        (fun m hm => Context.cause_mono hfails.passed (timeline.order n m hm))
      exact ⟨b, hgetb, fun heq => absurd heq hlate, fun hend => absurd hend hnot⟩
    · exact ⟨a, rfl, havailability⟩
  | http =>
    obtain ⟨hused, hrequested⟩ := hrequest
    obtain ⟨a, hget, havailability, -⟩ := hfails.checkURL hmax hrequested
    rw [if_pos hused]
    exact ⟨a, hget, havailability⟩

/-- **A run that meets its own deadline is `UNKNOWN` only when the dialer saw
    it.** Whatever the schedule of network events: if a request of the check
    fails because the deadline of the run has passed and not the timeout of the
    attempt, the decision is `UNKNOWN` exactly when the dialer has classified the
    error as the end of the run. The pinned check never enters the decision. -/
theorem run_deadline_unknown_iff {cfg : Config} (hcfg : cfg.Accepted) (lib : Library)
    (target : Target) (web : Web) (localDNS alternateDNS : List Dnscheck.Result) (checkedAt : Int)
    (run : Run) (worker : Context)
    (timeline : DomainTimeline (worker.withDeadline run.deadlineAt) cfg.httpChainTimeout web.system)
    {scheme : Scheme} {n k : Nat} (hrequest : RunRequest lib cfg target web scheme n k)
    (hfails : FailsByRunDeadline (normalizeConfig (httpConfig cfg)) (timeline.runOf scheme) n k) :
    ((gatherEvidence lib cfg target web localDNS alternateDNS checkedAt).decision.availability =
        .unknown ↔ RecognisedEnd (originServers web.system scheme) n k) ∧
    ∀ pinned, (gatherEvidence lib cfg target { web with pinned } localDNS alternateDNS
        checkedAt).decision =
      (gatherEvidence lib cfg target web localDNS alternateDNS checkedAt).decision := by
  have hmax := (httpConfig_maxRedirects hcfg).1
  obtain ⟨a, heffective, havailability⟩ := effectiveAttempt_deadline timeline hmax hrequest hfails
  constructor
  · rw [gatherEvidence_decision, classify_availability]
    · exact havailability
    · dsimp only [gatherEvidence]
      exact heffective
  · intro pinned
    dsimp only [gatherEvidence]

/-! ### A slow site

    The first attempt starts 40 s into a run of 60 s and is still waiting when
    the run ends, five seconds before its own timeout. -/

/-- The context of the run. -/
def sampleRunContext : Context :=
  { canceledAt := none, deadline := none : Context }.withDeadline sampleRun.deadlineAt

def slowStart (n : Nat) : Int := if n ≤ 1 then 40 * second else 60 * second

def slowEnd (n : Nat) : Int := if n = 0 then 40 * second else 60 * second

/-- The error of a request whose context is done. -/
def contextFailure : Netcheck.Failure where
  deadlineExceeded := true
  timeout := true
  text := lit "context deadline exceeded"

variable (err : Netcheck.Failure)

/-- Servers that never answer: the first request fails with `err`. -/
def slowServers (started finished : Nat → Int) (n : Nat) : Server where
  exchange := fun _ => {
    ctxErr := ((sampleRunContext.withDeadline
      (started n + defaultConfig.httpChainTimeout)).cause (finished n)).map contextErr
    result := .error (if started n < 60 * second then err else contextFailure) }
  checkedAt := 0
  now := 0
  total := 20 * second

def slowWeb : Web where
  system := {
    https := slowServers err slowStart slowEnd
    http := slowServers err (fun _ => 60 * second) (fun _ => 60 * second) }
  pinned := fun _ _ => {
    https := slowServers err (fun _ => 60 * second) (fun _ => 60 * second)
    http := slowServers err (fun _ => 60 * second) (fun _ => 60 * second) }

/-- A timeline for such servers. -/
def slowTimeline (started finished : Nat → Int) (hle : ∀ n, started n ≤ finished n)
    (horder : ∀ n m, n < m → finished n ≤ started m)
    (hdialed : ∀ e, err.classified = some e → DialerError e) :
    Timeline sampleRunContext defaultConfig.httpChainTimeout (slowServers err started finished) where
  startedAt := started
  requestedAt := fun n _ => started n
  returnedAt := fun n _ => finished n
  finishedAt := finished
  started_le := fun n _ => Int.le_refl _
  requested_le := fun n _ => hle n
  returned_le := fun n _ => Int.le_refl _
  finished_le := horder
  ctxErr := fun n k => rfl
  doneContext := by
    intro n k hdone
    have hpassed : ¬ started n < 60 * second := by
      intro hlt
      have hnone : (sampleRunContext.withDeadline
          (started n + defaultConfig.httpChainTimeout)).cause (started n) = none := by
        show (if (if started n + 25 * second ≤ 60 * second then started n + 25 * second
          else 60 * second) ≤ started n then some Context.Cause.deadlineExceeded else none) = none
        have hsecond : second = 1000000000 := rfl
        rw [if_neg (by split_ifs <;> omega)]
      rw [hnone] at hdone
      cases hdone
    refine ⟨contextFailure, ?_, rfl⟩
    show Except.error (if started n < 60 * second then err else contextFailure) = _
    rw [if_neg hpassed]
  dialed := by
    intro n k err' e hresult hclassified
    have heq : (if started n < 60 * second then err else contextFailure) = err' :=
      Except.error.inj hresult
    split_ifs at heq
    · exact hdialed e (heq ▸ hclassified)
    · rw [← heq] at hclassified
      cases hclassified

/-- The timeline of the run. -/
def slowRun (hdialed : ∀ e, err.classified = some e → DialerError e) :
    DomainTimeline sampleRunContext defaultConfig.httpChainTimeout (slowWeb err).system where
  runOf
    | .https => slowTimeline err slowStart slowEnd
        (by
          intro n
          have hsecond : second = 1000000000 := rfl
          unfold slowStart slowEnd
          split_ifs <;> omega)
        (by
          intro n m hlt
          have hsecond : second = 1000000000 := rfl
          unfold slowStart slowEnd
          split_ifs <;> omega) hdialed
    | .http => slowTimeline err (fun _ => 60 * second) (fun _ => 60 * second)
        (fun _ => Int.le_refl _) (fun _ _ _ => Int.le_refl _) hdialed
  order := by
    intro n m _
    have hsecond : second = 1000000000 := rfl
    show slowEnd n ≤ 60 * second
    unfold slowEnd
    split_ifs <;> omega

theorem slowRun_request :
    RunRequest sampleHTTPLibrary defaultConfig sampleDomain.target (slowWeb err) .https 1 0 := by
  obtain ⟨parsed, hok⟩ := sampleURL_valid
  exact ⟨parsed, _, ⟨hok, Nat.le_refl 1, Netcheck.Policy.limit_pos _, fun m h1 h2 => by omega⟩,
    Loop.Visits.start⟩

theorem slowRun_fails (hdialed : ∀ e, err.classified = some e → DialerError e) :
    FailsByRunDeadline (normalizeConfig (httpConfig defaultConfig)) ((slowRun err hdialed).runOf .https)
      1 0 :=
  .inl ⟨err, rfl, rfl, (by decide : slowEnd 1 < slowStart 1 + defaultConfig.httpChainTimeout)⟩

/-- The connection is refused just when the run ends. -/
def refusedFailure : Netcheck.Failure where
  classified := some (Netcheck.classifyTCP (some .deadlineExceeded) (lit "dial example.com")
    { connRefused := true, text := lit "connection refused" })
  text := lit "RUN_DEADLINE_EXCEEDED"

theorem refusedFailure_dialed (e : Netcheck.Error) (h : refusedFailure.classified = some e) :
    DialerError e := by
  cases h
  exact .tcp (some .deadlineExceeded) (lit "example.com") _

/-- A deadline the dialer has seen leaves the run `UNKNOWN`. -/
theorem run_deadline_unknown_refused :
    defaultConfig.Accepted ∧
    (gatherEvidence sampleHTTPLibrary defaultConfig sampleDomain.target (slowWeb refusedFailure) [] []
      (60 * second)).decision.availability = .unknown :=
  ⟨defaultConfig_accepted,
    (run_deadline_unknown_iff defaultConfig_accepted sampleHTTPLibrary sampleDomain.target
      (slowWeb refusedFailure) [] [] (60 * second) sampleRun ⟨none, none⟩
      (slowRun refusedFailure refusedFailure_dialed) (slowRun_request refusedFailure)
      (slowRun_fails refusedFailure refusedFailure_dialed)).1.mpr
      ⟨refusedFailure, _, rfl, rfl, .inr rfl⟩⟩

/-- The request is still waiting when the run ends: the decision counts against
    the site, and with two failures before it an incident would open. -/
theorem deadline_counts_as_outage :
    defaultConfig.Accepted ∧
    RunRequest sampleHTTPLibrary defaultConfig sampleDomain.target (slowWeb contextFailure) .https
      1 0 ∧
    FailsByRunDeadline (normalizeConfig (httpConfig defaultConfig))
      ((slowRun contextFailure (fun _ h => by cases h)).runOf .https) 1 0 ∧
    (gatherEvidence sampleHTTPLibrary defaultConfig sampleDomain.target (slowWeb contextFailure) [] []
      (60 * second)).decision.availability = .unavailable ∧
    (effectiveState defaultConfig { sampleDomain with failureStreak := 2 } sampleRun
      (gatherEvidence sampleHTTPLibrary defaultConfig sampleDomain.target (slowWeb contextFailure) []
        [] (60 * second)).decision).failureStreak = 3 :=
  ⟨defaultConfig_accepted, slowRun_request contextFailure, slowRun_fails contextFailure _,
    by decide +kernel, by decide +kernel⟩

end DomainMonitor.Monitor
