import DomainMonitor.Basic

/-! # Configuration (`internal/config`)

    `Load` reads every setting from the environment, fills in defaults, and
    refuses values outside the documented ranges. The model keeps the settings
    the monitoring subsystem reads. What `strconv.Atoi` and
    `time.ParseDuration` make of a raw value is the input of the model; the
    defaults, the positivity of durations and the range checks, in the order
    the source makes them, are its content.
-/

namespace DomainMonitor

/-! ### Settings -/

/-- An environment value: absent (or blank), rejected by the parser, or parsed. -/
inductive Setting where
  | unset
  | malformed
  | value (v : Int)
  deriving DecidableEq, Repr

/-- The environment `Load` reads. -/
structure Env where
  /-- Integer settings, as parsed by `strconv.Atoi`. -/
  int : String → Setting
  /-- Duration settings in nanoseconds, as parsed by `time.ParseDuration`. -/
  duration : String → Setting
  /-- Text settings after `strings.TrimSpace`, empty when absent. -/
  text : String → String

/-- The part of `config.Config` the monitoring subsystem reads. -/
structure Config where
  outboxMaxAttempts : Int
  dnsAttemptTimeout : Int
  httpChainTimeout : Int
  httpMaxRedirects : Int
  httpMaxBodyBytes : Int
  httpExcerptBytes : Int
  httpHeaderBytes : Int
  httpMinBodyBytes : Int
  monitorMaxAttempts : Int
  retryBaseDelay : Int
  retryMaxDelay : Int
  tlsExpiringSoon : Int
  monitorPolicyVersion : String
  monitorRunTimeout : Int
  monitorQueueLease : Int
  schedulerBatchSize : Int
  incidentOpenFailures : Int
  incidentCloseSuccess : Int
  deriving DecidableEq, Repr

/-- `env`: the trimmed value, or the fallback when it is empty. -/
def env (e : Env) (key fallback : String) : String :=
  if e.text key ≠ "" then e.text key else fallback

def parseInt (e : Env) (key : String) (fallback : Int) : Except String Int :=
  match e.int key with
  | .unset => .ok fallback
  | .malformed => .error (key ++ " must be an integer")
  | .value v => .ok v

def parseDuration (e : Env) (key : String) (fallback : Int) : Except String Int :=
  match e.duration key with
  | .unset => .ok fallback
  | .malformed => .error (key ++ " must be a Go duration")
  | .value v => if v ≤ 0 then .error (key ++ " must be positive") else .ok v

/-- `parseBool`, with the spellings of `strconv.ParseBool`. -/
def parseBool (e : Env) (key : String) (fallback : Bool) : Except String Bool :=
  if e.text key = "" then .ok fallback
  else if ["1", "t", "T", "TRUE", "true", "True"].contains (e.text key) then .ok true
  else if ["0", "f", "F", "FALSE", "false", "False"].contains (e.text key) then .ok false
  else .error (key ++ " must be true or false")

/-! ### Load -/

/-- The first half of `Load`: every setting parsed or defaulted. -/
def parseConfig (e : Env) : Except String Config := do
  let outboxMaxAttempts ← parseInt e "OUTBOX_MAX_ATTEMPTS" 10
  let httpMaxRedirects ← parseInt e "MONITOR_MAX_REDIRECTS" 10
  let httpMaxBodyBytes ← parseInt e "MONITOR_MAX_BODY_BYTES" 2097152
  let httpExcerptBytes ← parseInt e "MONITOR_EXCERPT_BYTES" 32768
  let httpHeaderBytes ← parseInt e "MONITOR_HEADER_BYTES" 16384
  let httpMinBodyBytes ← parseInt e "MONITOR_MIN_BODY_BYTES" 64
  let monitorMaxAttempts ← parseInt e "MONITOR_MAX_ATTEMPTS" 3
  let schedulerBatchSize ← parseInt e "SCHEDULER_BATCH_SIZE" 100
  let incidentOpenFailures ← parseInt e "INCIDENT_OPEN_FAILURES" 3
  let incidentCloseSuccess ← parseInt e "INCIDENT_CLOSE_SUCCESSES" 2
  let dnsAttemptTimeout ← parseDuration e "MONITOR_DNS_TIMEOUT" (3 * second)
  let httpChainTimeout ← parseDuration e "MONITOR_HTTP_CHAIN_TIMEOUT" (25 * second)
  let retryBaseDelay ← parseDuration e "MONITOR_RETRY_BASE_DELAY" (100 * millisecond)
  let retryMaxDelay ← parseDuration e "MONITOR_RETRY_MAX_DELAY" (2 * second)
  let tlsExpiringSoon ← parseDuration e "MONITOR_TLS_EXPIRING_SOON" (30 * 24 * hour)
  let monitorRunTimeout ← parseDuration e "MONITOR_RUN_TIMEOUT" (60 * second)
  let monitorQueueLease ← parseDuration e "MONITOR_QUEUE_LEASE" (90 * second)
  let monitorPolicyVersion := env e "MONITOR_POLICY_VERSION" "monitor-2026-08-v2"
  return {
    outboxMaxAttempts, dnsAttemptTimeout, httpChainTimeout, httpMaxRedirects, httpMaxBodyBytes
    httpExcerptBytes, httpHeaderBytes, httpMinBodyBytes, monitorMaxAttempts, retryBaseDelay
    retryMaxDelay, tlsExpiringSoon, monitorPolicyVersion, monitorRunTimeout, monitorQueueLease
    schedulerBatchSize, incidentOpenFailures, incidentCloseSuccess }

/-- The range checks of `Load`, in source order: each pairs the condition under
    which the configuration is refused with the error text. -/
def Config.checks (cfg : Config) : List (Bool × String) := [
  (cfg.outboxMaxAttempts < 1 || cfg.outboxMaxAttempts > 100,
    "OUTBOX_MAX_ATTEMPTS must be between 1 and 100"),
  (cfg.httpMaxRedirects < 1 || cfg.httpMaxRedirects > 20,
    "MONITOR_MAX_REDIRECTS must be between 1 and 20"),
  (cfg.httpMaxBodyBytes < 1024 || cfg.httpMaxBodyBytes > 16777216,
    "MONITOR_MAX_BODY_BYTES must be between 1024 and 16777216"),
  (cfg.httpExcerptBytes < 0 || cfg.httpExcerptBytes > 65536
      || cfg.httpExcerptBytes > cfg.httpMaxBodyBytes,
    "MONITOR_EXCERPT_BYTES must be between 0 and 65536 and not exceed MONITOR_MAX_BODY_BYTES"),
  (cfg.httpHeaderBytes < 1024 || cfg.httpHeaderBytes > 65536,
    "MONITOR_HEADER_BYTES must be between 1024 and 65536"),
  (cfg.httpMinBodyBytes < 1 || cfg.httpMinBodyBytes > cfg.httpMaxBodyBytes,
    "MONITOR_MIN_BODY_BYTES must be positive and not exceed MONITOR_MAX_BODY_BYTES"),
  (cfg.monitorMaxAttempts < 1 || cfg.monitorMaxAttempts > 20,
    "MONITOR_MAX_ATTEMPTS must be between 1 and 20"),
  (cfg.retryMaxDelay < cfg.retryBaseDelay,
    "MONITOR_RETRY_MAX_DELAY must be greater than or equal to MONITOR_RETRY_BASE_DELAY"),
  (cfg.monitorPolicyVersion == "" || cfg.monitorPolicyVersion.utf8ByteSize > 100,
    "MONITOR_POLICY_VERSION must be between 1 and 100 characters"),
  (cfg.schedulerBatchSize < 1 || cfg.schedulerBatchSize > 1000,
    "SCHEDULER_BATCH_SIZE must be between 1 and 1000"),
  (cfg.incidentOpenFailures < 1 || cfg.incidentOpenFailures > 100,
    "INCIDENT_OPEN_FAILURES must be between 1 and 100"),
  (cfg.incidentCloseSuccess < 1 || cfg.incidentCloseSuccess > 100,
    "INCIDENT_CLOSE_SUCCESSES must be between 1 and 100")]

/-- The second half of `Load`: the first check that fails decides the error. -/
def Config.validate (cfg : Config) : Except String Config :=
  match cfg.checks.find? (·.1) with
  | some (_, message) => .error message
  | none => .ok cfg

def load (e : Env) : Except String Config := do
  let cfg ← parseConfig e
  cfg.validate

/-- A configuration `Load` returns for some environment. -/
def Config.Accepted (cfg : Config) : Prop := ∃ e, load e = .ok cfg

/-! ### What an accepted configuration guarantees -/

theorem except_bind_ok {ε α β : Type} {x : Except ε α} {f : α → Except ε β} {b : β} :
    (x >>= f) = .ok b ↔ ∃ a, x = .ok a ∧ f a = .ok b := by
  cases x with
  | error e => simp [bind, Except.bind]
  | ok a => simp [bind, Except.bind]

/-- A call that was seen to succeed with a result of some kind. -/
theorem exists_ok_of_any {ε α : Type} {e : Except ε α} {p : α → Bool} (h : e.toOption.any p = true) :
    ∃ a, e = .ok a ∧ p a = true := by
  cases e with
  | error => cases h
  | ok a => exact ⟨a, rfl, h⟩

theorem parseDuration_pos {e : Env} {key : String} {fallback d : Int} (hf : 0 < fallback)
    (h : parseDuration e key fallback = .ok d) : 0 < d := by
  unfold parseDuration at h
  split at h
  · cases h; exact hf
  · cases h
  · split at h
    · cases h
    · cases h; omega

theorem parseConfig_pos {e : Env} {cfg : Config} (h : parseConfig e = .ok cfg) :
    0 < cfg.httpChainTimeout ∧ 0 < cfg.monitorRunTimeout ∧ 0 < cfg.monitorQueueLease := by
  simp only [parseConfig, except_bind_ok] at h
  obtain ⟨_, _, _, _, _, _, _, _, _, _, _, _, _, _, _, _, _, _, _, _, _, _, _, hchain, _, _, _, _, _, _,
    _, hrun, _, hlease, hcfg⟩ := h
  cases hcfg
  exact ⟨parseDuration_pos (by decide) hchain, parseDuration_pos (by decide) hrun,
    parseDuration_pos (by decide) hlease⟩

theorem validate_ok {cfg cfg' : Config} (h : cfg.validate = .ok cfg') :
    cfg' = cfg ∧ ∀ c ∈ cfg.checks, c.1 = false := by
  unfold Config.validate at h
  split at h
  · cases h
  · rename_i hnone
    cases h
    refine ⟨rfl, ?_⟩
    intro c hc
    have := List.find?_eq_none.mp hnone c hc
    simpa using this

/-- The ranges every accepted configuration lies in. -/
structure Config.Ranges (cfg : Config) : Prop where
  outboxMaxAttempts : 1 ≤ cfg.outboxMaxAttempts ∧ cfg.outboxMaxAttempts ≤ 100
  httpMaxRedirects : 1 ≤ cfg.httpMaxRedirects ∧ cfg.httpMaxRedirects ≤ 20
  httpMaxBodyBytes : 1024 ≤ cfg.httpMaxBodyBytes ∧ cfg.httpMaxBodyBytes ≤ 16777216
  httpExcerptBytes : (0 ≤ cfg.httpExcerptBytes ∧ cfg.httpExcerptBytes ≤ 65536) ∧
    cfg.httpExcerptBytes ≤ cfg.httpMaxBodyBytes
  monitorMaxAttempts : 1 ≤ cfg.monitorMaxAttempts ∧ cfg.monitorMaxAttempts ≤ 20
  incidentOpenFailures : 1 ≤ cfg.incidentOpenFailures
  incidentCloseSuccess : 1 ≤ cfg.incidentCloseSuccess
  httpChainTimeout : 0 < cfg.httpChainTimeout
  monitorRunTimeout : 0 < cfg.monitorRunTimeout
  monitorQueueLease : 0 < cfg.monitorQueueLease

theorem Config.Accepted.ranges {cfg : Config} (h : cfg.Accepted) : cfg.Ranges := by
  obtain ⟨e, he⟩ := h
  obtain ⟨cfg', hparse, hval⟩ := except_bind_ok.mp he
  obtain ⟨rfl, hchecks⟩ := validate_ok hval
  obtain ⟨hchain, hrun, hlease⟩ := parseConfig_pos hparse
  simp only [Config.checks, List.forall_mem_cons, Bool.or_eq_false_iff, decide_eq_false_iff_not,
    gt_iff_lt, Int.not_lt] at hchecks
  obtain ⟨hmax, hredir, hbody, hexcerpt, _, _, hatt, _, _, _, hopen, hclose, _⟩ := hchecks
  exact ⟨hmax, hredir, hbody, hexcerpt, hatt, hopen.1, hclose.1, hchain, hrun, hlease⟩

/-! ### The default configuration -/

/-- The environment in which nothing is set. -/
def emptyEnv : Env where
  int := fun _ => .unset
  duration := fun _ => .unset
  text := fun _ => ""

/-- An environment that sets durations and integers and leaves the texts alone. -/
def Env.withSettings (ints durations : List (String × Int)) : Env where
  int := fun key => ((ints.lookup key).map Setting.value).getD .unset
  duration := fun key => ((durations.lookup key).map Setting.value).getD .unset
  text := fun _ => ""

/-- The configuration of an environment in which nothing is set. -/
def defaultConfig : Config where
  outboxMaxAttempts := 10
  dnsAttemptTimeout := 3 * second
  httpChainTimeout := 25 * second
  httpMaxRedirects := 10
  httpMaxBodyBytes := 2097152
  httpExcerptBytes := 32768
  httpHeaderBytes := 16384
  httpMinBodyBytes := 64
  monitorMaxAttempts := 3
  retryBaseDelay := 100 * millisecond
  retryMaxDelay := 2 * second
  tlsExpiringSoon := 30 * 24 * hour
  monitorPolicyVersion := "monitor-2026-08-v2"
  monitorRunTimeout := 60 * second
  monitorQueueLease := 90 * second
  schedulerBatchSize := 100
  incidentOpenFailures := 3
  incidentCloseSuccess := 2

theorem load_emptyEnv : load emptyEnv = .ok defaultConfig := by rfl

theorem defaultConfig_accepted : defaultConfig.Accepted := ⟨emptyEnv, load_emptyEnv⟩

end DomainMonitor
