import Mathlib.Tactic.Common

/-! # Time, status enumerations and error codes

    The vocabulary shared by every part of the monitor: instants and durations
    as Go and PostgreSQL see them, the PostgreSQL enumerations of
    `migrations/00001_foundation.sql` and `migrations/00002`, and the stable
    error codes of `internal/netcheck`.
-/

namespace DomainMonitor

/-! ### Time -/

/- Instants are nanoseconds since the epoch (Go's `time.Time`) and durations are
   nanoseconds (Go's `time.Duration`), both as `Int`. -/

def microsecond : Int := 1000
def millisecond : Int := 1000000
def second : Int := 1000000000
def minute : Int := 60 * second
def hour : Int := 60 * minute

/-- A `timestamptz` has microsecond precision: `now()` and every Go time passed
    as a parameter lose what is below a microsecond. -/
def timestamptz (t : Int) : Int := t - t % microsecond

/-- The range of a `time.Duration`, an `int64`. -/
def maxDuration : Int := 9223372036854775807
def minDuration : Int := -9223372036854775808

/-- `Time.Sub`: a difference that does not fit a `Duration` is cut to its range. -/
def timeSub (t u : Int) : Int := max minDuration (min maxDuration (t - u))

/-- The result of `int64` arithmetic, which wraps around. -/
def wrap64 (n : Int) : Int := (n + 9223372036854775808) % 18446744073709551616 - 9223372036854775808

/-- `Duration.Milliseconds`: Go's integer division rounds towards zero. -/
def milliseconds (d : Int) : Int := d.tdiv millisecond

/-- `Duration.Microseconds`. -/
def microseconds (d : Int) : Int := d.tdiv microsecond

theorem timestamptz_le (t : Int) : timestamptz t ≤ t := by
  unfold timestamptz microsecond; omega

theorem timestamptz_mono {t t' : Int} (h : t ≤ t') : timestamptz t ≤ timestamptz t' := by
  unfold timestamptz microsecond; omega

theorem milliseconds_eq {d : Int} (h : 0 ≤ d) : milliseconds d = d / 1000000 := by
  unfold milliseconds
  rw [Int.tdiv_eq_ediv_of_nonneg h]
  rfl

theorem microseconds_nonneg {d : Int} (h : 0 ≤ d) : 0 ≤ microseconds d :=
  Int.tdiv_nonneg h (by decide)

/-! ### Identifiers -/

/-- `uuid.UUID`; a fresh one is a number no row uses yet. -/
abbrev UUID : Type := Nat

/-- The identity a worker process draws at start-up (`"worker-" + uuid`). -/
abbrev WorkerID : Type := Nat

/-! ### Text -/

/-- A Go `string`: bytes, not necessarily valid UTF-8. -/
abbrev GoString : Type := List UInt8

/-- The bytes of a string literal of the source. -/
def lit (s : String) : GoString := s.toList.flatMap String.utf8EncodeChar

/-! ### PostgreSQL enumerations -/

inductive Availability where
  | active | unavailable | degraded | unknown
  deriving DecidableEq, Repr

inductive DNSStatus where
  | ok | nxdomain | servfail | refused | timeout | networkError | discrepancy | unknown
  deriving DecidableEq, Repr

inductive HTTPStatus where
  | ok | redirect | clientError | serverError | timeout | connectionError | unknown
  deriving DecidableEq, Repr

inductive RedirectStatus where
  | none | temporary | permanent | loop | invalid | httpsDowngrade | unknown
  deriving DecidableEq, Repr

inductive ISPStatus where
  | notDetected | suspected | highConfidenceBlock | unknown
  deriving DecidableEq, Repr

inductive TLSStatus where
  | valid | expiring | expired | hostnameMismatch | invalid | error | notApplicable | unknown
  deriving DecidableEq, Repr

inductive ContentStatus where
  | validHTML | validNonHTML | empty | tooSmall | notMeaningful | oversizedTruncated
  | unsupportedContent | unknown
  deriving DecidableEq, Repr

inductive ConfidenceLevel where
  | low | medium | high
  deriving DecidableEq, Repr

/-- `monitoring_run_status`. No code path of the repository writes `partial` or
    `cancelled`, but a row may hold them. -/
inductive RunStatus where
  | queued | running | partialRun | completed | failed | cancelled
  deriving DecidableEq, Repr

inductive IncidentStatus where
  | open | acknowledged | closed
  deriving DecidableEq, Repr

inductive TriggerType where
  | scheduled | manual | imported | recheck
  deriving DecidableEq, Repr

inductive Priority where
  | critical | normal | low
  deriving DecidableEq, Repr

inductive LifecycleStatus where
  | active | inactive | archived
  deriving DecidableEq, Repr

/-! ### Error codes (`internal/netcheck`) -/

/-- `netcheck.Code`. The empty code of the source is `none : Option Code`. -/
inductive Code where
  | normalizationInvalid
  | dnsNXDomain | dnsServFail | dnsRefused | dnsTimeout | dnsNetworkError
  | dnsMalformedResponse | dnsCNAMELoop | dnsCNAMELimit
  | tcpTimeout | tcpRefused | tcpReset | tcpNetworkError
  | tlsErrorExpired | tlsErrorHostname | tlsErrorUnknownAuthority | tlsErrorHandshake
  | httpTimeout | httpBodyRead | httpClientError | httpServerError
  | httpRedirectLoop | httpRedirectLimit | httpMalformedLocation | httpHTTPSDowngrade
  | contentEmpty | contentTooSmall | contentNotMeaningful | contentTooLarge | contentUnsupported
  | ssrfBlockedAddress | ssrfBlockedPort
  | remoteProbeUnavailable | remoteProbeStale | remoteProbeInvalidSignature
  | runCancelled | runDeadlineExceeded
  | internalPersistenceError
  deriving DecidableEq, Repr

/-- The text of a code, as stored in `error_code` columns. -/
def Code.text : Code → String
  | .normalizationInvalid => "NORMALIZATION_INVALID"
  | .dnsNXDomain => "DNS_NXDOMAIN"
  | .dnsServFail => "DNS_SERVFAIL"
  | .dnsRefused => "DNS_REFUSED"
  | .dnsTimeout => "DNS_TIMEOUT"
  | .dnsNetworkError => "DNS_NETWORK_ERROR"
  | .dnsMalformedResponse => "DNS_MALFORMED_RESPONSE"
  | .dnsCNAMELoop => "DNS_CNAME_LOOP"
  | .dnsCNAMELimit => "DNS_CNAME_LIMIT"
  | .tcpTimeout => "TCP_TIMEOUT"
  | .tcpRefused => "TCP_REFUSED"
  | .tcpReset => "TCP_RESET"
  | .tcpNetworkError => "TCP_NETWORK_ERROR"
  | .tlsErrorExpired => "TLS_EXPIRED"
  | .tlsErrorHostname => "TLS_HOSTNAME"
  | .tlsErrorUnknownAuthority => "TLS_UNKNOWN_AUTHORITY"
  | .tlsErrorHandshake => "TLS_HANDSHAKE"
  | .httpTimeout => "HTTP_TIMEOUT"
  | .httpBodyRead => "HTTP_BODY_READ"
  | .httpClientError => "HTTP_4XX"
  | .httpServerError => "HTTP_5XX"
  | .httpRedirectLoop => "HTTP_REDIRECT_LOOP"
  | .httpRedirectLimit => "HTTP_REDIRECT_LIMIT"
  | .httpMalformedLocation => "HTTP_MALFORMED_LOCATION"
  | .httpHTTPSDowngrade => "HTTP_HTTPS_DOWNGRADE"
  | .contentEmpty => "CONTENT_EMPTY"
  | .contentTooSmall => "CONTENT_TOO_SMALL"
  | .contentNotMeaningful => "CONTENT_NOT_MEANINGFUL"
  | .contentTooLarge => "CONTENT_TOO_LARGE"
  | .contentUnsupported => "CONTENT_UNSUPPORTED"
  | .ssrfBlockedAddress => "SSRF_BLOCKED_ADDRESS"
  | .ssrfBlockedPort => "SSRF_BLOCKED_PORT"
  | .remoteProbeUnavailable => "REMOTE_PROBE_UNAVAILABLE"
  | .remoteProbeStale => "REMOTE_PROBE_STALE"
  | .remoteProbeInvalidSignature => "REMOTE_PROBE_INVALID_SIGNATURE"
  | .runCancelled => "RUN_CANCELLED"
  | .runDeadlineExceeded => "RUN_DEADLINE_EXCEEDED"
  | .internalPersistenceError => "INTERNAL_PERSISTENCE_ERROR"

end DomainMonitor
