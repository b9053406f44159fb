import DomainMonitor.Rdap.Client
import DomainMonitor.Monitor.HTTPEvidence

/-! # Waiting as long as a server asks

    A `Retry-After` header names a number of seconds or a date. The HTTP checker and
    the RDAP client read it with code of their own: both multiply the seconds into
    64-bit nanoseconds first and compare with their bound afterwards, so that a number
    of seconds beyond about 292 years wraps around before the bound is applied.
-/

namespace DomainMonitor.Monitor

open Httpcheck Netcheck

/-! ### Seconds as a duration -/

/-- The seconds fit into a `Duration`. -/
def Fits (seconds : Int) : Prop := seconds * second ≤ maxDuration

theorem wrap64_of_fits {seconds : Int} (hnonneg : 0 ≤ seconds) (h : Fits seconds) :
    wrap64 (seconds * second) = seconds * second :=
  wrap64_of_le (Int.mul_nonneg hnonneg (by decide)) h

/-- A bound applied after the multiplication gives the bounded product exactly when
    nothing wrapped, or when what wrapped is still beyond the bound. -/
theorem min_wrap64_eq_iff {seconds bound : Int} (hnonneg : 0 ≤ seconds) (hbound : bound ≤ maxDuration) :
    min (wrap64 (seconds * second)) bound = min (seconds * second) bound ↔
      Fits seconds ∨ bound ≤ wrap64 (seconds * second) := by
  by_cases hfits : Fits seconds
  · rw [wrap64_of_fits hnonneg hfits]
    exact iff_of_true rfl (.inl hfits)
  · have hbeyond : min (seconds * second) bound = bound := by
      unfold Fits at hfits
      omega
    rw [hbeyond, or_iff_right hfits]
    omega

/-! ### The HTTP checker -/

section Http

variable {lib : Library} {config : Httpcheck.Config} {mode : ContentMode} {initial : URL}
  {server : Server} {n : Nat} {response : Response} {policy : Policy} {a : Attempt} {delay : Int}

/-- The attempt that a response ends has read its header. -/
theorem checkAttempt_retryAfter (h : EndsWith lib config mode initial server n response) :
    (checkAttempt lib config mode initial server n).retryAfter =
      parseRetryAfter lib (response.get "Retry-After") server.now := by
  obtain ⟨k, st, hvisits, hresult, hredirect⟩ := h
  rw [checkAttempt_eq_of_done hvisits (checkStep_final lib config mode st hresult hredirect)]
  unfold finishAttempt
  dsimp only
  cases classifyStatus response.statusCode with
  | some statusError => rfl
  | none =>
    dsimp only
    split <;> rfl

theorem parseRetryAfter_seconds (lib : Library) {value : GoString} {seconds : Int} (now : Int)
    (h : atoi? (Utf8.trimSpace value) = some seconds) (hnonneg : 0 ≤ seconds) :
    parseRetryAfter lib value now = wrap64 (seconds * second) := by
  unfold parseRetryAfter
  rw [h, Option.filter_some_pos (by simpa using hnonneg)]
  rfl

/-- Whatever the header says, a wait is neither negative nor beyond the bound. -/
theorem retryDelay_bounds (hmax : 0 ≤ policy.maxDelay) (hdelay : 0 ≤ delay)
    (hle : delay ≤ policy.maxDelay) :
    0 ≤ retryDelay policy delay a ∧ retryDelay policy delay a ≤ policy.maxDelay := by
  unfold retryDelay
  split_ifs <;> omega

/-- The wait is as long as was asked for, up to the bound, exactly when nothing
    wrapped, or what wrapped is beyond the bound, or the draw was the bound itself. -/
theorem le_retryDelay_iff {seconds : Int} (hnonneg : 0 ≤ seconds) (hmax : policy.maxDelay ≤ maxDuration)
    (hle : delay ≤ policy.maxDelay) (ha : a.retryAfter = wrap64 (seconds * second)) :
    min (seconds * second) policy.maxDelay ≤ retryDelay policy delay a ↔
      Fits seconds ∨ policy.maxDelay ≤ wrap64 (seconds * second) ∨ delay = policy.maxDelay := by
  unfold retryDelay
  rw [ha]
  by_cases hfits : Fits seconds
  · rw [wrap64_of_fits hnonneg hfits]
    refine iff_of_true ?_ (.inl hfits)
    split_ifs <;> omega
  · have hbeyond : min (seconds * second) policy.maxDelay = policy.maxDelay := by
      unfold Fits at hfits
      omega
    rw [hbeyond, or_iff_right hfits]
    split_ifs <;> omega

end Http

/-! ### The RDAP client -/

theorem retryAfter_seconds (parseTime : Rdap.ParseTime) {raw : GoString} {seconds : Int}
    (now maximum : Int) (h : atoi? (Utf8.trimSpace raw) = some seconds) :
    Rdap.retryAfter parseTime raw now maximum = min (wrap64 (seconds * second)) maximum := by
  unfold Rdap.retryAfter
  dsimp only
  rw [if_neg (by rintro hnil; rw [hnil] at h; cases h), h]

/-! ### Both -/

/-- **Retry-After up to the bound**: for every header that denotes a number of seconds
    that is not negative, when the wait of `CheckURL` after an attempt reaches what was
    asked for, and when `retryAfter` of the RDAP client is the bounded number; and no
    header at all makes a wait negative. -/
theorem retry_after_honoured_iff (lib : Library) (config : Httpcheck.Config) (mode : ContentMode)
    (initial : URL) (server : Server) (n : Nat) (delay now maximum : Int) (rdap : Rdap.Config)
    (exchange : Nat → Rdap.Exchange)
    (hbase : config.retry.baseDelay ≤ maxDuration) (hmax : config.retry.maxDelay ≤ maxDuration)
    (hmaximum : maximum ≤ maxDuration) (hdelay : config.retry.Delays n delay) :
    (∀ (raw : GoString) (seconds : Int), atoi? (Utf8.trimSpace raw) = some seconds → 0 ≤ seconds →
      (∀ response, EndsWith lib (normalizeConfig config) mode initial server n response →
        response.get "Retry-After" = raw →
        ((min (seconds * second) config.retry.normalized.maxDelay ≤
            retryDelay config.retry.normalized delay
              (checkAttempt lib (normalizeConfig config) mode initial server n) ∧
          retryDelay config.retry.normalized delay
              (checkAttempt lib (normalizeConfig config) mode initial server n) ≤
            config.retry.normalized.maxDelay) ↔
          Fits seconds ∨ config.retry.normalized.maxDelay ≤ wrap64 (seconds * second) ∨
            delay = config.retry.normalized.maxDelay)) ∧
      (Rdap.retryAfter lib.parseTime raw now maximum = min (seconds * second) maximum ↔
        Fits seconds ∨ maximum ≤ wrap64 (seconds * second))) ∧
    0 ≤ retryDelay config.retry.normalized delay
      (checkAttempt lib (normalizeConfig config) mode initial server n) ∧
    ∀ wait ∈ (Rdap.get lib.parseTime rdap exchange).1, 0 ≤ wait := by
  have hbounds := retryDelay_bounds (a := checkAttempt lib (normalizeConfig config) mode initial server n)
    (Int.le_of_lt config.retry.maxDelay_pos) hdelay.1 hdelay.le
  refine ⟨fun raw seconds hraw hnonneg => ⟨fun response hends hget => ?_, ?_⟩, hbounds.1, ?_⟩
  · rw [and_iff_left hbounds.2]
    refine le_retryDelay_iff hnonneg (Policy.maxDelay_le hbase hmax) hdelay.le ?_
    rw [checkAttempt_retryAfter hends, hget, parseRetryAfter_seconds lib server.now hraw hnonneg]
  · rw [retryAfter_seconds lib.parseTime now maximum hraw]
    exact min_wrap64_eq_iff hnonneg hmaximum
  · intro wait hwait
    exact Int.le_of_lt (Rdap.get_waits lib.parseTime rdap exchange wait hwait)

/-- A busy server that names a time to wait. -/
def busyResponse (value : HeaderValue) : Response :=
  { sampleResponse 503 [] with
    header := fun name => if name = "Retry-After" then [value] else [] }

/-- The least number of seconds that does not fit. -/
def longWait : HeaderValue := ⟨lit "9223372037", by decide +kernel⟩

def shortWait : HeaderValue := ⟨lit "2", by decide +kernel⟩

def sampleExchange : Rdap.Exchange := ⟨none, 0, true⟩

/-- Asked to wait for two seconds, `CheckURL` waits for two seconds, and so does the
    RDAP client. -/
theorem retry_after_honoured_two_seconds :
    (2 * second ≤ retryDelay (httpConfig defaultConfig).retry.normalized 0
        (checkAttempt sampleHTTPLibrary (normalizeConfig (httpConfig defaultConfig)) .html {}
          (sampleServer (busyResponse shortWait)) 1)) ∧
      Rdap.retryAfter sampleHTTPLibrary.parseTime (lit "2") 0 (2 * second) = 2 * second := by
  obtain ⟨h, -, -⟩ := retry_after_honoured_iff sampleHTTPLibrary (httpConfig defaultConfig) .html {}
    (sampleServer (busyResponse shortWait)) 1 0 0 (2 * second) ⟨1048576, 2 * second⟩
    (fun _ => sampleExchange) (by decide) (by decide) (by decide) (by decide)
  obtain ⟨hhttp, hrdap⟩ := h (lit "2") 2 (by decide +kernel) (by decide)
  have hends : EndsWith sampleHTTPLibrary (normalizeConfig (httpConfig defaultConfig)) .html {}
      (sampleServer (busyResponse shortWait)) 1 (busyResponse shortWait) :=
    ⟨0, _, .start, rfl, rfl⟩
  exact ⟨((hhttp _ hends rfl).mpr (.inl (by unfold Fits; decide))).1, hrdap.mpr (.inl (by unfold Fits; decide))⟩

/-- Asked to wait for 9223372037 seconds, `CheckURL` does not wait at all when the
    policy draws 0, and `retryAfter` of the RDAP client is negative. -/
theorem long_retry_after_wraps :
    retryDelay (httpConfig defaultConfig).retry.normalized 0
        (checkAttempt sampleHTTPLibrary (normalizeConfig (httpConfig defaultConfig)) .html {}
          (sampleServer (busyResponse longWait)) 1) = 0 ∧
      Rdap.retryAfter sampleHTTPLibrary.parseTime (lit "9223372037") 0 (2 * second) =
        -9223372036709551616 := by
  decide +kernel

end DomainMonitor.Monitor
