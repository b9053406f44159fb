import Mathlib.Algebra.Ring.Int.Defs
import DomainMonitor.Config

/-! # Classified errors and retry policy (`internal/netcheck`, `internal/retry`)

    An error of the transport is represented by what `errors.Is`, `errors.As`
    and `Error()` reveal of it, which is all the classifiers look at. A context
    is represented by its `Err()` at the moment it is read.
-/

namespace DomainMonitor.Netcheck

/-- What `ctx.Err()` returns once a context is done. -/
inductive ContextErr where
  | canceled | deadlineExceeded
  deriving DecidableEq, Repr

def ContextErr.text : ContextErr → GoString
  | .canceled => lit "context canceled"
  | .deadlineExceeded => lit "context deadline exceeded"

/-- `netcheck.Error`; of its cause only the text is used. -/
structure Error where
  code : Code
  stage : String
  operation : GoString
  retryable : Bool
  cause : Option GoString
  deriving DecidableEq, Repr

/-- `(*Error).Error`. -/
def Error.text (e : Error) : GoString :=
  lit e.code.text
    ++ (if e.operation ≠ [] then lit " during " ++ e.operation else [])
    ++ (match e.cause with
        | some cause => lit ": " ++ cause
        | none => [])

/-- An error value as the classifiers see it. -/
structure Failure where
  /-- `netcheck.As(err)`. -/
  classified : Option Error := none
  /-- `errors.Is(err, context.Canceled)`. -/
  canceled : Bool := false
  /-- `errors.Is(err, context.DeadlineExceeded)`. -/
  deadlineExceeded : Bool := false
  /-- `errors.As(err, &networkError) && networkError.Timeout()`. -/
  timeout : Bool := false
  /-- `errors.As` finds an `x509.HostnameError`. -/
  hostname : Bool := false
  /-- `errors.As` finds an `x509.CertificateInvalidError` whose reason is `x509.Expired`. -/
  certificateExpired : Bool := false
  /-- `errors.As` finds an `x509.UnknownAuthorityError`. -/
  unknownAuthority : Bool := false
  /-- `errors.Is(err, syscall.ECONNREFUSED)`. -/
  connRefused : Bool := false
  /-- `errors.Is(err, syscall.ECONNRESET) || errors.Is(err, syscall.EPIPE)`. -/
  connReset : Bool := false
  /-- `Temporary()` of the `*net.OpError` that `errors.As` finds. -/
  opError : Option Bool := none
  /-- `errors.As` finds an `*os.SyscallError`. -/
  syscallError : Bool := false
  text : GoString
  deriving DecidableEq, Repr

/-- `FromContext`. -/
def fromContext (ctxErr : Option ContextErr) (stage : String) (operation : GoString)
    (timeoutCode : Code) (err : Failure) : Option Error :=
  if err.canceled ∨ ctxErr = some .canceled then
    some ⟨.runCancelled, stage, operation, false, some ContextErr.canceled.text⟩
  else if err.deadlineExceeded then
    some ⟨timeoutCode, stage, operation, true, some ContextErr.deadlineExceeded.text⟩
  else if ctxErr = some .deadlineExceeded then
    some ⟨.runDeadlineExceeded, stage, operation, false, some ContextErr.deadlineExceeded.text⟩
  else none

/-- `ClassifyTCP`. -/
def classifyTCP (ctxErr : Option ContextErr) (operation : GoString) (err : Failure) : Error :=
  match fromContext ctxErr "tcp" operation .tcpTimeout err with
  | some classified => classified
  | none =>
    if err.connRefused then ⟨.tcpRefused, "tcp", operation, true, some err.text⟩
    else if err.connReset then ⟨.tcpReset, "tcp", operation, true, some err.text⟩
    else if err.timeout then ⟨.tcpTimeout, "tcp", operation, true, some err.text⟩
    else match err.opError with
      | some temporary => ⟨.tcpNetworkError, "tcp", operation, temporary, some err.text⟩
      | none =>
        if err.syscallError then ⟨.tcpNetworkError, "tcp", operation, true, some err.text⟩
        else ⟨.tcpNetworkError, "tcp", operation, false, some (lit "transport failure: " ++ err.text)⟩

/-! ### Retry policy -/

/-- `retry.Policy`. The jitter only decides how long a wait takes, and whether a
    wait ends early is part of what the environment does. -/
structure Policy where
  maxAttempts : Int
  baseDelay : Int
  maxDelay : Int
  deriving DecidableEq, Repr

/-- `Policy.Normalized`. -/
def Policy.normalized (p : Policy) : Policy :=
  let maxAttempts := if p.maxAttempts < 1 then 3 else p.maxAttempts
  let baseDelay := if p.baseDelay ≤ 0 then 100 * millisecond else p.baseDelay
  let maxDelay := if p.maxDelay ≤ 0 then 2 * second else p.maxDelay
  let maxDelay := if maxDelay < baseDelay then baseDelay else maxDelay
  { maxAttempts, baseDelay, maxDelay }

/-- The bound of the attempt loops, as a number of iterations. -/
def Policy.limit (p : Policy) : Nat := p.normalized.maxAttempts.toNat

theorem Policy.limit_pos (p : Policy) : 1 ≤ p.limit := by
  unfold Policy.limit Policy.normalized
  dsimp only
  split <;> omega

theorem Policy.limit_eq {p : Policy} (h : 1 ≤ p.maxAttempts) : (p.limit : Int) = p.maxAttempts := by
  unfold Policy.limit Policy.normalized
  dsimp only
  rw [if_neg (by omega)]
  omega

/-- Normalizing a policy twice does not change how often it tries. -/
theorem Policy.limit_normalized (p : Policy) : p.normalized.limit = p.limit := by
  unfold Policy.limit Policy.normalized
  dsimp only
  split_ifs <;> omega

/-- The ceiling that `Policy.Delay` hands to the jitter. -/
def Policy.ceiling (p : Policy) (afterAttempt : Int) : Int :=
  let p := p.normalized
  let afterAttempt := if afterAttempt < 1 then 1 else afterAttempt
  let exponent := if afterAttempt - 1 > 30 then 30 else afterAttempt - 1
  let factor : Int := ((1 <<< exponent.toNat : Nat) : Int)
  let ceiling := if p.baseDelay ≤ p.maxDelay / factor then wrap64 (p.baseDelay * factor) else p.maxDelay
  if ceiling > p.maxDelay then p.maxDelay else ceiling

theorem Policy.ceiling_le (p : Policy) (afterAttempt : Int) :
    p.ceiling afterAttempt ≤ p.normalized.maxDelay := by
  unfold Policy.ceiling
  dsimp only
  split_ifs <;> omega

/-- A delay that full jitter can return. -/
def Policy.Delays (p : Policy) (afterAttempt delay : Int) : Prop :=
  0 ≤ delay ∧ delay ≤ max 0 (p.ceiling afterAttempt)

instance (p : Policy) (afterAttempt delay : Int) : Decidable (p.Delays afterAttempt delay) :=
  inferInstanceAs (Decidable (_ ∧ _))

theorem Policy.maxDelay_pos (p : Policy) : 0 < p.normalized.maxDelay := by
  unfold Policy.normalized millisecond second
  dsimp only
  split_ifs <;> omega

theorem Policy.maxDelay_le {p : Policy} (hbase : p.baseDelay ≤ maxDuration)
    (hmax : p.maxDelay ≤ maxDuration) : p.normalized.maxDelay ≤ maxDuration := by
  unfold Policy.normalized millisecond second maxDuration at *
  dsimp only
  split_ifs <;> omega

theorem Policy.Delays.le {p : Policy} {afterAttempt delay : Int} (h : p.Delays afterAttempt delay) :
    delay ≤ p.normalized.maxDelay := by
  have hceiling := p.ceiling_le afterAttempt
  have hpos := p.maxDelay_pos
  have hle := h.2
  omega

/-- `fullJitter`, over the generator `rand.Int64N`. -/
def fullJitter (int64N : Int → Int) (max : Int) : Int :=
  if max ≤ 0 then 0 else int64N (wrap64 (max + 1))

theorem Policy.baseDelay_pos (p : Policy) : 0 < p.normalized.baseDelay := by
  unfold Policy.normalized millisecond
  dsimp only
  split_ifs <;> omega

theorem wrap64_of_le {n : Int} (hnonneg : 0 ≤ n) (hle : n ≤ maxDuration) : wrap64 n = n := by
  unfold wrap64 maxDuration at *
  omega

/-- The test by division lets the product through exactly when it does not pass
    the maximum, so that no product wraps. -/
theorem Policy.ceiling_eq {p : Policy} (hle : p.normalized.maxDelay ≤ maxDuration) (n : Int) :
    p.ceiling n =
      min p.normalized.maxDelay (p.normalized.baseDelay * 2 ^ (min (n - 1) 30).toNat) := by
  have hbase := p.baseDelay_pos
  have hexponent : (if (if n < 1 then 1 else n) - 1 > 30 then (30 : Int)
      else (if n < 1 then 1 else n) - 1).toNat = (min (n - 1) 30).toNat := by
    split_ifs <;> omega
  unfold Policy.ceiling
  dsimp only
  rw [hexponent, Nat.one_shiftLeft, Int.natCast_pow, Int.cast_ofNat_Int]
  have hfactor : (0 : Int) < 2 ^ (min (n - 1) 30).toNat := Int.pow_pos (by decide)
  generalize (2 : Int) ^ (min (n - 1) 30).toNat = factor at hfactor ⊢
  have hdivision := Int.le_ediv_iff_mul_le (a := p.normalized.baseDelay)
    (b := p.normalized.maxDelay) hfactor
  by_cases hfits : p.normalized.baseDelay * factor ≤ p.normalized.maxDelay
  · have hproduct : 0 < p.normalized.baseDelay * factor := Int.mul_pos hbase hfactor
    rw [if_pos (hdivision.2 hfits), wrap64_of_le (by omega) (by omega), if_neg (by omega)]
    omega
  · rw [if_neg (mt hdivision.1 hfits), if_neg (by omega)]
    omega

/-- The ceiling handed to the jitter is the exponential backoff cut at the
    maximum, and the full jitter draws from 0 up to it. -/
theorem Policy.backoff_ceiling {p : Policy} (hbase : p.baseDelay < maxDuration)
    (hmax : p.maxDelay < maxDuration) (int64N : Int → Int)
    (hdraw : ∀ bound, 0 < bound → 0 ≤ int64N bound ∧ int64N bound < bound) (n : Int) :
    p.ceiling n =
        min p.normalized.maxDelay (p.normalized.baseDelay * 2 ^ (min (n - 1) 30).toNat) ∧
      0 < p.ceiling n ∧
      (∀ m, n ≤ m → p.ceiling n ≤ p.ceiling m) ∧
      0 < wrap64 (p.ceiling n + 1) ∧
      0 ≤ fullJitter int64N (p.ceiling n) ∧ fullJitter int64N (p.ceiling n) ≤ p.ceiling n := by
  have hlt : p.normalized.maxDelay < maxDuration := by
    unfold Policy.normalized millisecond second maxDuration at *
    dsimp only
    split_ifs <;> omega
  have heq := p.ceiling_eq (Int.le_of_lt hlt)
  have hceiling := p.ceiling_le n
  have hpos : 0 < p.ceiling n := by
    rw [heq]
    have hfactor : (0 : Int) < 2 ^ (min (n - 1) 30).toNat := Int.pow_pos (by decide)
    have hproduct := Int.mul_pos p.baseDelay_pos hfactor
    have hmaxDelay := p.maxDelay_pos
    omega
  have hbound : wrap64 (p.ceiling n + 1) = p.ceiling n + 1 :=
    wrap64_of_le (by omega) (by omega)
  have hjitter : fullJitter int64N (p.ceiling n) = int64N (p.ceiling n + 1) := by
    unfold fullJitter
    rw [if_neg (by omega), hbound]
  obtain ⟨hlow, hhigh⟩ := hdraw (p.ceiling n + 1) (by omega)
  refine ⟨heq n, hpos, ?_, by omega, by omega, by omega⟩
  intro m hnm
  have hpow : (2 : Int) ^ (min (n - 1) 30).toNat ≤ 2 ^ (min (m - 1) 30).toNat :=
    mod_cast Nat.pow_le_pow_right (by decide : 0 < 2)
      (by omega : (min (n - 1) 30).toNat ≤ (min (m - 1) 30).toNat)
  have hproduct := Int.mul_le_mul_of_nonneg_left hpow (Int.le_of_lt p.baseDelay_pos)
  rw [heq n, heq m]
  omega

/-- The largest delays of the statement: the first product is the maximum itself. -/
theorem Policy.backoff_ceiling_largest :
    (Policy.mk 3 (maxDuration - 1) (maxDuration - 1)).ceiling 4 = maxDuration - 1 :=
  (Policy.backoff_ceiling (p := ⟨3, maxDuration - 1, maxDuration - 1⟩) (by decide) (by decide)
    (fun bound => bound - 1) (fun bound h => ⟨by omega, by omega⟩) 4).1.trans (by decide)

end DomainMonitor.Netcheck

namespace DomainMonitor

/-- The policy `protocolcheck.New` builds for the DNS and the HTTP checker. -/
def Config.retryPolicy (cfg : Config) : Netcheck.Policy where
  maxAttempts := cfg.monitorMaxAttempts
  baseDelay := cfg.retryBaseDelay
  maxDelay := cfg.retryMaxDelay

theorem Config.Accepted.retryLimit {cfg : Config} (h : cfg.Accepted) :
    1 ≤ cfg.retryPolicy.limit ∧ cfg.retryPolicy.limit ≤ 20 := by
  obtain ⟨hmin, hmax⟩ := h.ranges.monitorMaxAttempts
  have hlimit : (cfg.retryPolicy.limit : Int) = cfg.monitorMaxAttempts :=
    Netcheck.Policy.limit_eq hmin
  omega

end DomainMonitor
