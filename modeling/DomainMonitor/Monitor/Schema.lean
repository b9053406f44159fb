import DomainMonitor.Lib.KeyedTable
import DomainMonitor.Lib.Utf8
import DomainMonitor.Dnscheck.Types
import DomainMonitor.Httpcheck.Types
import DomainMonitor.Classification.State

/-! # The monitoring tables (`migrations/00001` to `00003`)

    Rows, constraints and the database the transactions of `internal/monitor`
    run against. A text column holds a `Text`, which carries the proof that
    PostgreSQL accepts it. Child rows that are only ever inserted together with
    their parent (answers of a DNS check, hops of an HTTP check, events of an
    incident) are nested in the parent row, so a foreign key to a missing parent
    cannot be written down.
-/

namespace DomainMonitor.Monitor

open Classification

/-! ### Column types -/

/-- The value of a `text` column. -/
structure Text where
  bytes : GoString
  storable : Utf8.Storable bytes
  deriving DecidableEq

/-- A Go string passed to a `text NOT NULL` column; `none` when PostgreSQL
    refuses it. -/
def Text.ofGo? (s : GoString) : Option Text :=
  if h : Utf8.Storable s then some ⟨s, h⟩ else none

/-- A nullable Go string passed to a nullable `text` column. -/
def Text.ofNullable? : Option GoString → Option (Option Text)
  | none => some none
  | some s => (Text.ofGo? s).map some

/-- A stored row: the values of its columns, which satisfy the constraints of
    the table and whose texts the database accepted. `texts` lists the text
    parameters of the `INSERT`, with `none` for `NULL`. -/
structure Row {γ : Type} (Checks : γ → Prop) (texts : γ → List (Option GoString)) where
  columns : γ
  checks : Checks columns
  storable : ∀ t ∈ texts columns, ∀ s ∈ t, Utf8.Storable s

/-- `INSERT`; `none` when a constraint or a text is refused. -/
def Row.insert? {γ : Type} (Checks : γ → Prop) [DecidablePred Checks]
    (texts : γ → List (Option GoString)) (columns : γ) : Option (Row Checks texts) :=
  if h : Checks columns ∧ ∀ t ∈ texts columns, ∀ s ∈ t, Utf8.Storable s then
    some ⟨columns, h.1, h.2⟩
  else none

/-- The value fits an `integer` column. -/
def FitsInt4 (n : Int) : Prop := -2147483648 ≤ n ∧ n ≤ 2147483647

instance (n : Int) : Decidable (FitsInt4 n) :=
  inferInstanceAs (Decidable (_ ∧ _))

/-! ### Parameter helpers of `complete.go` -/

def nullableString (value : GoString) : Option GoString :=
  let value := Utf8.trimSpace value
  if value = [] then none else some value

theorem nullableString_empty : nullableString (lit "") = none := by decide

/-- `nullableString(string(code))`. -/
def nullableCode (code : Option Code) : Option GoString :=
  match code with
  | none => none
  | some code => nullableString (lit code.text)

def nullableInt (value : Nat) : Option Int :=
  if value = 0 then none else some value

def nullableBytes (value : List UInt8) : Option (List UInt8) :=
  if value.length = 0 then none else some value

def durationMicroseconds (value : Int) : Option Int :=
  if value ≤ 0 then none else some (microseconds value)

def max64 (left right : Int) : Int := if left > right then left else right

/-! ### DNS evidence rows -/

structure DNSAnswerColumns where
  answerOrder : Int
  rrName : GoString
  rrType : Dnscheck.QueryType
  rrValue : GoString
  ttlSeconds : Int
  deriving DecidableEq

/-- Column ranges and `CHECK` constraints of `dns_answers`. -/
def DNSAnswerColumns.Checks (c : DNSAnswerColumns) : Prop :=
  FitsInt4 c.answerOrder ∧ 0 ≤ c.answerOrder ∧ FitsInt4 c.ttlSeconds ∧ 0 ≤ c.ttlSeconds

instance : DecidablePred DNSAnswerColumns.Checks :=
  fun _ => inferInstanceAs (Decidable (_ ∧ _))

def DNSAnswerColumns.texts (c : DNSAnswerColumns) : List (Option GoString) :=
  [some c.rrName, some c.rrValue]

abbrev DNSAnswerRow : Type := Row DNSAnswerColumns.Checks DNSAnswerColumns.texts

structure DNSCheckColumns where
  resolverType : Dnscheck.ResolverType
  endpoint : GoString
  queryName : GoString
  queryType : Dnscheck.QueryType
  attemptNo : Int
  rcode : Option GoString
  truncated : Bool
  authoritative : Bool
  durationUs : Int
  errorCode : Option GoString
  errorMessage : Option GoString
  transport : String
  checkedAt : Int
  deriving DecidableEq

/-- `CHECK` constraints of `dns_checks`. -/
def DNSCheckColumns.Checks (c : DNSCheckColumns) : Prop :=
  1 ≤ c.attemptNo ∧ c.attemptNo ≤ 20 ∧ 0 ≤ c.durationUs

instance : DecidablePred DNSCheckColumns.Checks :=
  fun _ => inferInstanceAs (Decidable (_ ∧ _))

def DNSCheckColumns.texts (c : DNSCheckColumns) : List (Option GoString) :=
  [some c.endpoint, some c.queryName, c.rcode, c.errorCode, c.errorMessage]

/-- `UNIQUE (monitoring_result_id, resolver_type, query_type, attempt_no)`. -/
def DNSCheckColumns.key (c : DNSCheckColumns) :
    Dnscheck.ResolverType × Dnscheck.QueryType × Int :=
  (c.resolverType, c.queryType, c.attemptNo)

structure DNSCheckRow where
  row : Row DNSCheckColumns.Checks DNSCheckColumns.texts
  answers : List DNSAnswerRow

/-! ### HTTP evidence rows -/

inductive Scheme where
  | https | http
  deriving DecidableEq, Repr

inductive ResolverMode where
  | system | dohPinned | remoteSystem
  deriving DecidableEq, Repr

structure RedirectHopColumns where
  hopNumber : Int
  sourceURL : GoString
  statusCode : Int
  location : GoString
  resolvedTarget : Option GoString
  crossDomain : Bool
  httpsDowngrade : Bool
  durationUs : Int
  errorCode : Option GoString
  deriving DecidableEq

/-- `CHECK` constraints of `redirect_hops`. -/
def RedirectHopColumns.Checks (c : RedirectHopColumns) : Prop :=
  0 ≤ c.hopNumber ∧ c.hopNumber ≤ 20 ∧ c.statusCode ∈ [301, 302, 303, 307, 308] ∧
  0 ≤ c.durationUs

instance : DecidablePred RedirectHopColumns.Checks :=
  fun _ => inferInstanceAs (Decidable (_ ∧ _))

def RedirectHopColumns.texts (c : RedirectHopColumns) : List (Option GoString) :=
  [some c.sourceURL, some c.location, c.resolvedTarget, c.errorCode]

abbrev RedirectHopRow : Type := Row RedirectHopColumns.Checks RedirectHopColumns.texts

structure TLSCheckColumns where
  serverName : GoString
  remoteAddress : Option GoString
  tlsVersion : Option GoString
  cipherSuite : Option GoString
  certificateSubject : Option GoString
  certificateIssuer : Option GoString
  serialHash : Option (List UInt8)
  sans : List GoString
  validFrom : Option Int
  validUntil : Option Int
  expirationDays : Option Int
  hostnameValid : Option Bool
  chainValid : Bool
  status : TLSStatus
  diagnosticOnly : Bool
  errorCode : Option GoString
  errorMessage : Option GoString
  checkedAt : Int
  deriving DecidableEq

/-- Column ranges of `tls_checks`. A NUL inside a JSON string cannot be stored
    as `jsonb`; bytes that are not UTF-8 are replaced by `json.Marshal`. -/
def TLSCheckColumns.Checks (c : TLSCheckColumns) : Prop :=
  (∀ days ∈ c.expirationDays, FitsInt4 days) ∧ ∀ san ∈ c.sans, 0 ∉ san

instance : DecidablePred TLSCheckColumns.Checks :=
  fun _ => inferInstanceAs (Decidable (_ ∧ _))

def TLSCheckColumns.texts (c : TLSCheckColumns) : List (Option GoString) :=
  [some c.serverName, c.remoteAddress, c.tlsVersion, c.cipherSuite, c.certificateSubject,
    c.certificateIssuer, c.errorCode, c.errorMessage]

abbrev TLSCheckRow : Type := Row TLSCheckColumns.Checks TLSCheckColumns.texts

structure HTTPCheckColumns where
  scheme : Scheme
  resolverMode : ResolverMode
  requestURL : GoString
  effectiveURL : Option GoString
  protocol : Option GoString
  attemptNo : Int
  initialStatusCode : Option Int
  finalStatusCode : Option Int
  dnsDurationUs : Option Int
  connectDurationUs : Option Int
  tlsDurationUs : Option Int
  ttfbDurationUs : Option Int
  totalDurationUs : Int
  contentType : Option GoString
  declaredContentLength : Int
  bodySize : Int
  bodySHA256 : Option (List UInt8)
  hashComplete : Bool
  bodyExcerpt : Option (List UInt8)
  title : Option GoString
  contentStatus : ContentStatus
  serverHeader : Option GoString
  selectedHeaders : List (String × GoString)
  errorCode : Option GoString
  errorMessage : Option GoString
  checkedAt : Int
  deriving DecidableEq

/-- An HTTP status code column: `NULL` or `BETWEEN 100 AND 599`. -/
def StatusCodeCheck (code : Option Int) : Prop := ∀ c ∈ code, 100 ≤ c ∧ c ≤ 599

instance (code : Option Int) : Decidable (StatusCodeCheck code) :=
  inferInstanceAs (Decidable (∀ c ∈ code, 100 ≤ c ∧ c ≤ 599))

/-- `CHECK` constraints of `http_checks`, and what `jsonb` accepts. -/
def HTTPCheckColumns.Checks (c : HTTPCheckColumns) : Prop :=
  1 ≤ c.attemptNo ∧ c.attemptNo ≤ 20 ∧
  StatusCodeCheck c.initialStatusCode ∧ StatusCodeCheck c.finalStatusCode ∧
  (∀ d ∈ c.dnsDurationUs, 0 ≤ d) ∧ (∀ d ∈ c.connectDurationUs, 0 ≤ d) ∧
  (∀ d ∈ c.tlsDurationUs, 0 ≤ d) ∧ (∀ d ∈ c.ttfbDurationUs, 0 ≤ d) ∧
  0 ≤ c.totalDurationUs ∧ 0 ≤ c.bodySize ∧
  (∀ h ∈ c.bodySHA256, h.length = 32) ∧ -1 ≤ c.declaredContentLength ∧
  (∀ e ∈ c.bodyExcerpt, e.length ≤ 65536) ∧ ∀ h ∈ c.selectedHeaders, 0 ∉ h.2

instance : DecidablePred HTTPCheckColumns.Checks :=
  fun _ => inferInstanceAs (Decidable (_ ∧ _))

def HTTPCheckColumns.texts (c : HTTPCheckColumns) : List (Option GoString) :=
  [some c.requestURL, c.effectiveURL, c.protocol, c.contentType, c.title, c.serverHeader,
    c.errorCode, c.errorMessage]

/-- `UNIQUE (monitoring_result_id, scheme, resolver_mode, attempt_no)`. -/
def HTTPCheckColumns.key (c : HTTPCheckColumns) : Scheme × ResolverMode × Int :=
  (c.scheme, c.resolverMode, c.attemptNo)

structure HTTPCheckRow where
  row : Row HTTPCheckColumns.Checks HTTPCheckColumns.texts
  redirectHops : List RedirectHopRow
  tlsCheck : Option TLSCheckRow

/-! ### Results -/

/-- `vantage_type` and `vantage_key`: the local worker, or a remote probe. -/
inductive Vantage where
  | localPrimary
  | remote (probe : UUID)
  deriving DecidableEq, Repr

structure ResultColumns where
  id : UUID
  runId : UUID
  domainId : UUID
  vantage : Vantage
  observed : Statuses
  initialHTTP : Option Int
  finalHTTP : Option Int
  finalTarget : Option Availability
  failureStage : Option GoString
  errorCode : Option GoString
  errorMessage : Option GoString
  confidence : Int
  confidenceLevel : ConfidenceLevel
  policyVersion : String
  checkedAt : Int
  completedAt : Option Int
  deriving DecidableEq

/-- The values the `failure_stage` columns accept. -/
def failureStages : List GoString :=
  ["normalize", "dns", "tcp", "tls", "http", "content", "remote", "persistence"].map lit

def FailureStageCheck (stage : Option GoString) : Prop := ∀ s ∈ stage, s ∈ failureStages

instance (stage : Option GoString) : Decidable (FailureStageCheck stage) :=
  inferInstanceAs (Decidable (∀ s ∈ stage, s ∈ failureStages))

def ConfidenceCheck (score : Int) : Prop := 0 ≤ score ∧ score ≤ 99

instance (score : Int) : Decidable (ConfidenceCheck score) :=
  inferInstanceAs (Decidable (_ ∧ _))

/-- `CHECK` constraints of `monitoring_results`. -/
def ResultColumns.Checks (c : ResultColumns) : Prop :=
  StatusCodeCheck c.initialHTTP ∧ StatusCodeCheck c.finalHTTP ∧
  FailureStageCheck c.failureStage ∧ ConfidenceCheck c.confidence

instance : DecidablePred ResultColumns.Checks :=
  fun _ => inferInstanceAs (Decidable (_ ∧ _))

def ResultColumns.texts (c : ResultColumns) : List (Option GoString) :=
  [c.failureStage, c.errorCode, c.errorMessage]

structure ResultRow where
  row : Row ResultColumns.Checks ResultColumns.texts
  dnsChecks : List DNSCheckRow
  httpChecks : List HTTPCheckRow
  /-- `classification_reasons`, codes of the source in the order inserted. -/
  reasons : List String

/-! ### Domains, schedules and runs -/

structure Domain where
  id : UUID
  domainASCII : Text
  lifecycleStatus : LifecycleStatus
  monitoringEnabled : Bool
  expectedContentMode : Httpcheck.ContentMode
  current : Statuses
  confidence : Int
  failureStreak : Int
  successStreak : Int
  failureStage : Option Text
  errorCode : Option Text
  lastCheckedAt : Option Int
  deriving DecidableEq

/-- Column ranges and `CHECK` constraints on the effective state of a domain. -/
def Domain.Checks (d : Domain) : Prop :=
  ConfidenceCheck d.confidence ∧
  FitsInt4 d.failureStreak ∧ 0 ≤ d.failureStreak ∧
  FitsInt4 d.successStreak ∧ 0 ≤ d.successStreak ∧
  FailureStageCheck (d.failureStage.map Text.bytes)

instance : DecidablePred Domain.Checks :=
  fun _ => inferInstanceAs (Decidable (_ ∧ _))

/-- The statuses a new row starts with. -/
def Statuses.unknown : Statuses where
  availability := .unknown
  dns := .unknown
  http := .unknown
  redirect := .unknown
  isp := .unknown
  tls := .unknown
  content := .unknown

/-- `INSERT INTO domains` with the column defaults. -/
def newDomain (id : UUID) (domainASCII : Text) : Domain where
  id := id
  domainASCII := domainASCII
  lifecycleStatus := .active
  monitoringEnabled := true
  expectedContentMode := .html
  current := Statuses.unknown
  confidence := 0
  failureStreak := 0
  successStreak := 0
  failureStage := none
  errorCode := none
  lastCheckedAt := none

structure Schedule where
  id : UUID
  domainId : UUID
  intervalSeconds : Int
  priority : Priority
  enabled : Bool
  jitterSeconds : Int
  nextDueAt : Int
  lastDueAt : Option Int
  lastRunId : Option UUID
  version : Int
  deriving DecidableEq

/-- `deduplication_key`: the two formats the source builds it in, with the
    parts that are substituted. -/
inductive DeduplicationKey where
  | scheduled (domain : UUID) (slot : Int) (policyVersion : String)
  | manual (domain user : UUID) (idempotencyKey : GoString)
  deriving DecidableEq, Repr

structure Run where
  id : UUID
  domainId : UUID
  triggerType : TriggerType
  status : RunStatus
  priority : Priority
  deduplicationKey : DeduplicationKey
  policyVersion : String
  requestedBy : Option UUID
  scheduledFor : Int
  deadlineAt : Int
  startedAt : Option Int
  completedAt : Option Int
  lastErrorCode : Option String
  lastErrorMessage : Option String
  executionAttempts : Int
  workerId : Option WorkerID
  heartbeatAt : Option Int
  deriving DecidableEq

/-- `CHECK` constraints of `monitoring_runs`. -/
def Run.Checks (r : Run) : Prop :=
  r.scheduledFor < r.deadlineAt ∧ (r.completedAt = none ∨ r.startedAt ≠ none) ∧
  0 ≤ r.executionAttempts ∧ r.executionAttempts ≤ 100

instance : DecidablePred Run.Checks :=
  fun _ => inferInstanceAs (Decidable (_ ∧ _))

/-! ### History and incidents -/

/-- The text of a status in one of the seven dimensions. -/
inductive StatusValue where
  | availability (v : Availability)
  | dns (v : DNSStatus)
  | http (v : HTTPStatus)
  | redirect (v : RedirectStatus)
  | isp (v : ISPStatus)
  | tls (v : TLSStatus)
  | content (v : ContentStatus)
  deriving DecidableEq, Repr

/-- The value of one dimension (`beforeValues` and `afterValues` in `persistHistory`). -/
def statusValue (s : Statuses) : Dimension → StatusValue
  | .availability => .availability s.availability
  | .dns => .dns s.dns
  | .http => .http s.http
  | .redirect => .redirect s.redirect
  | .isp => .isp s.isp
  | .tls => .tls s.tls
  | .content => .content s.content

structure HistoryRow where
  domainId : UUID
  dimension : Dimension
  previousValue : Option StatusValue
  currentValue : StatusValue
  confidence : Int
  policyVersion : String
  reasonCodes : List String
  supportingRunIds : List UUID
  effectiveAt : Int
  deriving DecidableEq

inductive EventType where
  | opened | failureObserved | successObserved | acknowledged | closed | note
  deriving DecidableEq, Repr

/-- The JSON `details` of the events `applyIncident` inserts. -/
inductive EventDetails where
  | success (streak : Int)
  | failure (streak : Int) (errorCode : Option Code)
  deriving DecidableEq, Repr

structure IncidentEvent where
  type : EventType
  runId : Option UUID
  details : EventDetails
  deriving DecidableEq

structure Incident where
  id : UUID
  domainId : UUID
  status : IncidentStatus
  failureStage : Option Text
  errorCode : Option Text
  openFailureCount : Int
  closeSuccessCount : Int
  openedAt : Int
  closedAt : Option Int
  openedByRunId : UUID
  closedByRunId : Option UUID
  /-- `incident_events`, in the order they were inserted. -/
  events : List IncidentEvent
  deriving DecidableEq

/-- `status IN ('open', 'acknowledged')`. -/
def Incident.isActive (i : Incident) : Bool :=
  i.status = .open || i.status = .acknowledged

/-- Column ranges and `CHECK` constraints of `incidents`. -/
def Incident.Checks (i : Incident) : Prop :=
  FitsInt4 i.openFailureCount ∧ 0 < i.openFailureCount ∧
  FitsInt4 i.closeSuccessCount ∧ 0 ≤ i.closeSuccessCount ∧
  (i.status = .closed ↔ i.closedAt ≠ none)


instance : DecidablePred Incident.Checks :=
  fun _ => inferInstanceAs (Decidable (_ ∧ _))

/-! ### The database -/

/-- The table of incidents. -/
abbrev Incidents : Type := KeyedTable Incident.id

/-- The tables the monitoring transactions read and write. `results`, `history`
    and `outbox` are only ever appended to. -/
structure DB where
  domains : KeyedTable Domain.id
  schedules : KeyedTable Schedule.id
  runs : KeyedTable Run.id
  results : List ResultRow
  history : List HistoryRow
  incidents : Incidents
  /-- The run ids of the jobs enqueued for delivery. -/
  outbox : List UUID

/-- The database before anything was monitored. -/
def DB.empty : DB where
  domains := .empty
  schedules := .empty
  runs := .empty
  results := []
  history := []
  incidents := .empty
  outbox := []

/-! ### Go records (`model.go`) -/

structure Target where
  domainASCII : Text
  expectedContentMode : Httpcheck.ContentMode
  current : Statuses
  confidence : Int
  failureStreak : Int
  successStreak : Int
  deriving DecidableEq

/-- A claimed run. `run` is the row as it was read, with the two fields
    `ClaimExecution` sets afterwards. -/
structure Execution where
  run : Run
  target : Target
  deriving DecidableEq

structure Evidence where
  localDNS : List Dnscheck.Result
  alternateDNS : List Dnscheck.Result
  http : Httpcheck.OriginResult
  pinnedHTTP : Option Httpcheck.OriginResult
  decision : Decision
  checkedAt : Int
  deriving DecidableEq

/-- The target `ClaimExecution` reads together with the run. -/
def Domain.target (domain : Domain) : Target where
  domainASCII := domain.domainASCII
  expectedContentMode := domain.expectedContentMode
  current := domain.current
  confidence := domain.confidence
  failureStreak := domain.failureStreak
  successStreak := domain.successStreak

/-- Go's zero `time.Time`, midnight of 1 January of the year 1. -/
def zeroTime : Int := -62135596800 * second

/-! ### A small database

    One new domain with one claimed run, for evaluating the transactions on. -/

def sampleDomain : Domain := newDomain 1 ⟨lit "example.com", by decide⟩

def sampleRun : Run where
  id := 7
  domainId := 1
  triggerType := .scheduled
  status := .running
  priority := .normal
  deduplicationKey := .scheduled 1 0 "v1"
  policyVersion := "v1"
  requestedBy := none
  scheduledFor := 0
  deadlineAt := 60 * second
  startedAt := some second
  completedAt := none
  lastErrorCode := none
  lastErrorMessage := none
  executionAttempts := 1
  workerId := some 1
  heartbeatAt := some second

def sampleDB : DB :=
  { DB.empty with
    domains := { rows := [sampleDomain], nodup := by decide }
    runs := { rows := [sampleRun], nodup := by decide } }

def sampleExecution : Execution where
  run := sampleRun
  target := sampleDomain.target

end DomainMonitor.Monitor
