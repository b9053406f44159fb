import Mathlib.Data.List.Lex
import Mathlib.Data.List.Sort
import DomainMonitor.Ispclass
import DomainMonitor.Classification.Classify
import DomainMonitor.Monitor.Complete
import DomainMonitor.Probe.Schema

/-! # Accepting a remote result (`internal/probe/results.go`)

    `SubmitResult` verifies what a probe signed, stores it as an observation of
    the run the job belongs to, compares it with the local observation, and
    updates the ISP status of the domain.

    The function is cut where it takes a lock: `checkEnvelope` needs no database,
    `lockJob` reads the job under its row lock, `observe` builds the rows and
    classifies, and `commitResult` is what follows the lock of the domain. The
    constraints of the inserted rows are checked in `commitResult`: an `INSERT`
    whose key another open transaction has taken waits for its end.
-/

namespace DomainMonitor.Probe

open Monitor Probeprotocol

/-- What ends `SubmitResult` early. -/
inductive SubmitError where
  | payloadTooLarge | signature (e : VerifyError) | forbidden | clockSkew | notFound | replay
  | expired | invalidRequest | persist (e : CompleteError) | insertResult | insertRemoteResult
  | loadLocalResult | lockDomain | insertHistory | completeJob | conflict
  deriving DecidableEq, Repr

/-- A statement that either goes through or fails with `e`. -/
def orFail {α : Type} (e : SubmitError) : Option α → Except SubmitError α
  | none => .error e
  | some a => .ok a

theorem orFail_ok {α : Type} {e : SubmitError} {o : Option α} {a : α} :
    orFail e o = .ok a ↔ o = some a := by
  cases o with
  | none => simp [orFail]
  | some b => simp [orFail]

/-- What the service is built from: the cryptography and the JSON decoder, the
    Unicode tables of the classifier, and how `jsonb` writes numbers. -/
structure Library where
  crypto : Crypto
  tables : Strings.Tables
  numeric : Json.Num → Option Json.Num

/-- One call of `SubmitResult`. -/
structure SubmitCall where
  principal : Principal
  jobID : UUID
  envelope : ResultEnvelope
  /-- What `s.now()` returned. -/
  goNow : Int
  /-- The id drawn for the new result. -/
  resultID : UUID

variable (lib : Library) (settings : Settings) (call : SubmitCall) (job : Job)
  (payload : ResultPayload)

/-- What a time parameter becomes in a `timestamptz` column. -/
def SubmitCall.now : Int := timestamptz call.goNow

/-! ### Before the transaction -/

/-- `durationAbs`: the least `Duration` is its own negative. -/
def durationAbs (value : Int) : Int := if value < 0 then wrap64 (-value) else value

/-- `abs` of `auth.go`. -/
def abs (value : Int) : Int := if value < 0 then wrap64 (-value) else value

/-- The payload names the probe that sent it and the job it was sent for. -/
def identityOk : Bool :=
  payload.protocolVersion = version && payload.probeID = call.principal.probeID &&
  payload.jobID = call.jobID && payload.regionCode = call.principal.regionCode &&
  payload.countryCode = call.principal.countryCode &&
  payload.networkName = call.principal.networkName &&
  payload.agentVersion = call.principal.agentVersion

/-- The times and the clock offset of the payload, on their own. -/
def observationClockOk : Bool :=
  payload.startedAt ≠ zeroTime && payload.startedAt ≤ payload.finishedAt &&
  timeSub payload.finishedAt payload.startedAt ≤ settings.jobTTL &&
  abs payload.clockOffsetMS ≤ milliseconds settings.maxClockSkew

/-- The end of the observation against the clock of the platform. -/
def serverClockOk (goNow : Int) (payload : ResultPayload) : Bool :=
  durationAbs (timeSub goNow payload.finishedAt) ≤ wrap64 (settings.maxClockSkew + settings.jobTTL)

def checkEnvelope : Except SubmitError (ResultPayload × List UInt8) :=
  if (call.envelope.payload.length : Int) > settings.maxPayloadBytes then .error .payloadTooLarge
  else match verifyResult lib.crypto call.principal.publicKey call.envelope with
  | .error e => .error (.signature e)
  | .ok (payload, payloadHash) =>
    if !identityOk call payload then .error .forbidden
    else if !observationClockOk settings payload then .error .clockSkew
    else if !serverClockOk settings call.goNow payload then .error .clockSkew
    else .ok (payload, payloadHash)

/-! ### The job -/

/-- `SELECT ... FROM remote_probe_jobs ... FOR UPDATE`, and the checks on it. -/
def lockJob (db : DB) : Except SubmitError Job :=
  match db.jobs.get? call.jobID with
  | none => .error .notFound
  | some job =>
    if job.status = .completed then .error .replay
    else if job.status ≠ .leased ∨ job.probeId ≠ call.principal.probeID ∨ payload.runID ≠ job.runId
        ∨ payload.nonce ≠ job.nonce then .error .forbidden
    else if job.expiresAt ≤ call.goNow then .error .expired
    else match job.leaseUntil with
    | none => .error .expired
    | some lease => if lease ≤ call.goNow then .error .expired else .ok job

/-- The job a result may be submitted for. -/
structure Submittable (job : Job) : Prop where
  leased : job.status = .leased
  probe : job.probeId = call.principal.probeID
  run : payload.runID = job.runId
  nonce : payload.nonce = job.nonce
  expires : call.goNow < job.expiresAt
  lease : ∃ lease, job.leaseUntil = some lease ∧ call.goNow < lease

theorem lockJob_ok {call : SubmitCall} {payload : ResultPayload} {db : DB} {job : Job}
    (h : lockJob call payload db = .ok job) :
    db.jobs.get? call.jobID = some job ∧ Submittable call payload job := by
  unfold lockJob at h
  cases hget : db.jobs.get? call.jobID with
  | none =>
    rw [hget] at h
    cases h
  | some found =>
    rw [hget] at h
    dsimp only at h
    split_ifs at h with hcompleted hforbidden hexpired
    cases hlease : found.leaseUntil with
    | none =>
      rw [hlease] at h
      cases h
    | some lease =>
      rw [hlease] at h
      dsimp only at h
      split_ifs at h with hover
      cases h
      simp only [not_or, not_not] at hforbidden
      obtain ⟨hleased, hprobe, hrun, hnonce⟩ := hforbidden
      exact ⟨rfl, hleased, hprobe, hrun, hnonce, Int.not_le.mp hexpired, lease, hlease,
        Int.not_le.mp hover⟩

/-! ### The observation -/

/-- `normalizeRemoteDNS`. -/
def normalizeRemoteDNS (values : List Dnscheck.Result) : List Dnscheck.Result :=
  values.map (fun result =>
    { result with
      resolver := .remoteSystem
      endpoint := if Utf8.trimSpace result.endpoint = [] then lit "system" else result.endpoint })

/-- `nullableText`: unlike `nullableString` it keeps the blanks around a text. -/
def nullableText (value : GoString) : Option GoString :=
  if Utf8.trimSpace value = [] then none else some value

/-- The parameters of the `INSERT INTO monitoring_results`, with the ISP status
    the later `UPDATE` gives the row. -/
def resultColumns (decision : Classification.Decision) (isp : ISPStatus) : ResultColumns where
  id := call.resultID
  runId := job.runId
  domainId := job.domainId
  vantage := .remote job.probeId
  observed :=
    { availability := decision.availability, dns := decision.dns, http := decision.http
      redirect := decision.redirect, isp, tls := decision.tls, content := decision.content }
  initialHTTP := nullableInt decision.initialHTTP
  finalHTTP := nullableInt decision.finalHTTP
  finalTarget := decision.finalTarget
  failureStage := nullableText (lit decision.failureStage)
  errorCode := decision.errorCode.bind (fun code => nullableText (lit code.text))
  errorMessage := nullableText decision.errorMessage
  confidence := decision.confidence
  confidenceLevel := decision.confidenceLevel
  policyVersion := job.policyVersion
  checkedAt := timestamptz payload.finishedAt
  completedAt := some call.now

/-- `json.Marshal(envelope)` in a `jsonb` column: the three members in its order,
    with the payload a value of its own rather than a string. -/
def envelopeValue (envelope : ResultEnvelope) : Option Json.Value := do
  let payload ← Jsonb.cast lib.numeric envelope.payload
  return .obj [(Jsonb.ofText (lit "payload"), payload),
    (Jsonb.ofText (lit "signature"), .str (Jsonb.ofText envelope.signature)),
    (Jsonb.ofText (lit "payload_sha256"), .str (Jsonb.ofText envelope.payloadSHA256))]

/-- The parameters of the `INSERT INTO remote_probe_results`. -/
def remoteResultColumns (payloadHash signature : List UInt8) (rawEnvelope : Json.Value) :
    RemoteResultColumns where
  monitoringResultId := call.resultID
  probeId := job.probeId
  jobId := call.jobID
  protocolVersion := payload.protocolVersion
  nonce := payload.nonce
  payloadHash := payloadHash
  signature := signature
  probeStartedAt := timestamptz payload.startedAt
  probeFinishedAt := timestamptz payload.finishedAt
  serverReceivedAt := call.now
  clockSkewMS := milliseconds (timeSub call.goNow payload.finishedAt)
  rawEnvelope := rawEnvelope

/-! ### Loading the ISP input -/

/-- `ORDER BY ... LIMIT 1`. -/
def firstBy {ρ : Type} (before : ρ → ρ → Prop) [DecidableRel before] (rows : List ρ) : Option ρ :=
  (rows.insertionSort before).head?

/-- `SELECT ... FROM http_checks ... WHERE resolver_mode = 'doh_pinned' ... LIMIT 1`. -/
def pinnedCheck (result : ResultRow) : Option HTTPCheckColumns :=
  let rank := fun c : HTTPCheckColumns => ((if c.scheme = .http then 1 else 0 : Nat), c.attemptNo)
  firstBy (fun a b => (rank b).1 < (rank a).1 ∨ (rank b).1 = (rank a).1 ∧ (rank b).2 ≤ (rank a).2)
    ((result.httpChecks.map (·.row.columns)).filter (·.resolverMode = .dohPinned))

def contentValid (status : ContentStatus) : Bool := status = .validHTML || status = .validNonHTML

/-- `errorStage`. -/
def errorStage (code : GoString) : String :=
  let starts := fun front : String => (lit front).isPrefixOf code
  if starts "DNS_" then "dns"
  else if starts "TCP_" || starts "SSRF_" then "tcp"
  else if starts "TLS_" then "tls"
  else if starts "HTTP_" then "http"
  else if starts "CONTENT_" then "content"
  else ""

/-- `date_bin('5 minutes', t, timestamptz '2001-01-01')`, as the number of the bin. -/
def fiveMinuteBin (t : Int) : Int := (t - 978307200 * second) / (5 * minute)

/-- The local results of a domain that are fresh enough. -/
def freshLocal (results : List ResultRow) (domainID : UUID) (since : Int) : List ResultRow :=
  results.filter (fun r => r.row.columns.domainId = domainID && r.row.columns.vantage = .localPrimary
    && since ≤ r.row.columns.checkedAt)

/-- The qualifying local failures. -/
def localFailures (runs : KeyedTable Run.id) (results : List ResultRow) (domainID : UUID)
    (since : Int) : List ResultRow :=
  (freshLocal results domainID since).filter (fun r =>
    r.row.columns.observed.availability = .unavailable &&
    (runs.get? r.row.columns.runId).any (fun run => run.triggerType ≠ .manual))

def queryTypeText : Dnscheck.QueryType → GoString
  | .a => lit "A"
  | .aaaa => lit "AAAA"
  | .cname => lit "CNAME"
  | .ns => lit "NS"

/-- The addresses Cloudflare answered, as the parts `string_agg` puts together in
    order. `none` when the result has none and drops out of the join. -/
def answerSet (result : ResultRow) : Option GoString :=
  let checks := result.dnsChecks.filter (fun c =>
    c.row.columns.resolverType = .cloudflareDoH && c.row.columns.rcode = some (lit "NOERROR") &&
    c.row.columns.errorCode.isNone)
  let parts := checks.flatMap (fun c =>
    (c.answers.filter (fun a => a.columns.rrType = .a ∨ a.columns.rrType = .aaaa)).map (fun a =>
      queryTypeText c.row.columns.queryType ++ lit ":" ++ queryTypeText a.columns.rrType ++ lit ":"
        ++ a.columns.rrValue))
  if parts = [] then none
  else
    let sorted := parts.insertionSort (fun x y => x.map UInt8.toNat ≤ y.map UInt8.toNat)
    some ((sorted.intersperse (lit ",")).flatten)

/-- The remote successes from the required region: the results with the hashes of
    their bodies. -/
def remoteSuccesses (nodes : KeyedTable Node.id) (results : List ResultRow) (domainID : UUID)
    (since : Int) : List (UUID × List UInt8) :=
  results.flatMap (fun r =>
    match r.row.columns.vantage with
    | .localPrimary => []
    | .remote probe =>
      if r.row.columns.domainId = domainID ∧ since ≤ r.row.columns.checkedAt ∧
          r.row.columns.observed.availability = .active ∧
          (nodes.get? probe).any (fun node => node.regionCode = settings.requiredRegion) then
        (r.httpChecks.map (·.row.columns)).filterMap (fun c =>
          if c.resolverMode = .remoteSystem ∧ c.finalStatusCode.any (fun s => 200 ≤ s && s ≤ 299) ∧
              contentValid c.contentStatus then
            c.bodySHA256.map (fun hash => (r.row.columns.id, hash))
          else none)
      else [])

/-- `loadISPInput`, over the tables with the new result in them. -/
def loadISPInput (principal : Principal) (goNow : Int) (job : Job)
    (remoteAvailability : Availability) (nodes : KeyedTable Node.id) (runs : KeyedTable Run.id)
    (results : List ResultRow) : Except SubmitError Ispclass.Input := do
  let localResult ← orFail .loadLocalResult
    (firstBy (fun a b : ResultRow => b.row.columns.checkedAt ≤ a.row.columns.checkedAt)
      (results.filter (fun r => r.row.columns.runId = job.runId &&
        r.row.columns.vantage = .localPrimary)))
  let columns := localResult.row.columns
  let pinned := pinnedCheck localResult
  let since := timestamptz (goNow - settings.evidenceFresh)
  let failures := localFailures runs results job.domainId since
  let answerSets := (freshLocal results job.domainId since).filterMap answerSet
  let successes := remoteSuccesses settings nodes results job.domainId since
  let successCount := (successes.map (·.1)).dedup.length
  return {
    localAvailability := columns.observed.availability
    localFailureCount := failures.length
    localFailureBuckets := (failures.map (fun r => fiveMinuteBin r.row.columns.checkedAt)).dedup.length
    localDNSDiscrepancy := columns.observed.dns = .discrepancy
    dohStable := answerSets.length ≥ 2 && answerSets.dedup.length = 1
    pinnedAvailability := pinned.map (fun c =>
      if c.finalStatusCode.any (fun s => 200 ≤ s && s < 300) && contentValid c.contentStatus
      then .active else .unavailable)
    pinnedFailureStage := (pinned.map (fun c => errorStage (c.errorCode.getD []))).getD ""
    remoteAvailability
    remoteSuccessCount := successCount
    remoteBodyHashStable := successCount ≥ 2 && (successes.map (·.2)).dedup.length = 1
    remoteFresh := true
    probeHealthy := principal.status = .online
    clockHealthy := true
    possibleGeoPolicy := columns.finalHTTP = some 451
    possibleWAF := columns.finalHTTP = some 403 || columns.finalHTTP = some 429 }

/-! ### Observing -/

/-- What `SubmitResult` has built when it asks for the lock of the domain. -/
structure Observation where
  job : Job
  result : ResultRow
  remote : RemoteResultRow
  isp : Ispclass.Decision

/-- From the `INSERT INTO monitoring_results` to the ISP classification. -/
def observe (payloadHash : List UInt8) (db : DB) :
    Except SubmitError Observation := do
  let remoteDNS := normalizeRemoteDNS payload.dns
  let decision := Classification.classify lib.tables remoteDNS [] payload.http
  let inserted ← orFail .insertResult (Row.insert? ResultColumns.Checks ResultColumns.texts
    (resultColumns call job payload decision .unknown))
  let dnsChecks ← (remoteDNS.foldlM persistDNSResult []).mapError .persist
  let httpChecks ← (payload.http.https.foldlM (persistHTTPAttempt .https .remoteSystem) []).mapError
    .persist
  let httpChecks ← (payload.http.http.foldlM (persistHTTPAttempt .http .remoteSystem)
    httpChecks).mapError .persist
  let rawEnvelope ← orFail .insertRemoteResult (envelopeValue lib call.envelope)
  let signature := (decodeSignature call.envelope.signature).getD []
  let remote ← orFail .insertRemoteResult
    (Row.insert? RemoteResultColumns.Checks RemoteResultColumns.texts
      (remoteResultColumns call job payload payloadHash signature rawEnvelope))
  let pending : ResultRow := { row := inserted, dnsChecks, httpChecks, reasons := [] }
  let input ← loadISPInput settings call.principal call.goNow job decision.availability db.nodes
    db.monitor.runs (db.monitor.results ++ [pending])
  let isp := Ispclass.classify input
  let row ← orFail .insertResult (Row.insert? ResultColumns.Checks ResultColumns.texts
    (resultColumns call job payload decision isp.status))
  return { job, remote, isp, result := { row, dnsChecks, httpChecks, reasons := isp.reasons } }

/-- The observation is one of the locked job. -/
theorem observe_job {lib : Library} {settings : Settings} {call : SubmitCall} {job : Job}
    {payload : ResultPayload} {payloadHash : List UInt8} {db : DB} {o : Observation}
    (h : observe lib settings call job payload payloadHash db = .ok o) : o.job = job := by
  simp only [observe, except_bind_ok] at h
  obtain ⟨_, -, _, -, _, -, _, -, _, -, _, -, _, -, _, -, h⟩ := h
  cases h
  rfl

/-! ### The domain -/

/-- `UPDATE domains SET current_isp_status = $2`. -/
def Domain.withISP (status : ISPStatus) (domain : Domain) : Domain :=
  { domain with current := { domain.current with isp := status } }

@[simp] theorem Domain.withISP_id (status : ISPStatus) (d : Domain) :
    (Domain.withISP status d).id = d.id := rfl

/-- The history row of a changed ISP status. -/
def ispHistoryRow (o : Observation) (previousISP : ISPStatus) : HistoryRow where
  domainId := o.job.domainId
  dimension := .isp
  previousValue := some (.isp previousISP)
  currentValue := .isp o.isp.status
  confidence := o.isp.confidence
  policyVersion := o.job.policyVersion
  reasonCodes := o.isp.reasons
  supportingRunIds := [o.job.runId]
  effectiveAt := call.now

/-- The row inserted when the status read under the lock differs. -/
def ispHistory (o : Observation) (previousISP : ISPStatus) : Except SubmitError (List HistoryRow) :=
  if previousISP ≠ o.isp.status then
    let row := ispHistoryRow call o previousISP
    if ConfidenceCheck row.confidence then .ok [row] else .error .insertHistory
  else .ok []

/-- The row update of a completed job. -/
def Job.complete (now : Int) (job : Job) : Job :=
  { job with
    status := .completed, completedAt := some now, leaseUntil := none, lastErrorCode := none }

@[simp] theorem Job.complete_id (now : Int) (job : Job) : (job.complete now).id = job.id := rfl

/-- `UPDATE remote_probe_jobs ... WHERE id = $1 AND status = 'leased'`. -/
def completeJob (now : Int) (id : UUID) (db : DB) : Except SubmitError (KeyedTable Job.id) :=
  match db.jobs.get? id with
  | none => .error .conflict
  | some job =>
    if job.status = .leased then
      orFail .completeJob (db.jobs.update? Job.Checks id (Job.complete now) (Job.complete_id now))
    else .error .conflict

/-- The keys and references of the inserted rows. -/
def insertable (o : Observation) (db : DB) : Except SubmitError Unit :=
  let c := o.result.row.columns
  if (db.monitor.runs.get? c.runId).isNone ∨ (db.monitor.domains.get? c.domainId).isNone ∨
      (db.nodes.get? o.job.probeId).isNone ∨
      db.monitor.results.any (fun r => r.row.columns.id = c.id) ∨
      db.monitor.results.any (fun r =>
        r.row.columns.runId = c.runId && r.row.columns.vantage = c.vantage) then
    .error .insertResult
  else if db.remoteResults.any (fun r => r.columns.jobId = call.jobID) ∨
      db.remoteResults.any (fun r =>
        r.columns.probeId = o.job.probeId && r.columns.nonce = o.remote.columns.nonce) then
    .error .replay
  else .ok ()

/-- The rest of the transaction, after `SELECT current_isp_status ... FOR UPDATE`
    returned `previousISP`. -/
def commitResult (o : Observation) (previousISP : ISPStatus) (db : DB) :
    Except SubmitError DB := do
  insertable call o db
  let history ← ispHistory call o previousISP
  let jobs ← completeJob call.now call.jobID db
  return { db with
    jobs
    remoteResults := db.remoteResults ++ [o.remote]
    monitor := { db.monitor with
      results := db.monitor.results ++ [o.result]
      history := db.monitor.history ++ history
      domains := db.monitor.domains.modify o.job.domainId (Domain.withISP o.isp.status)
        (Domain.withISP_id _) } }

/-- `SubmitResult` when nothing runs in between. -/
def submitResult (db : DB) :
    Except SubmitError (DB × Ispclass.Decision) := do
  let (payload, payloadHash) ← checkEnvelope lib settings call
  let job ← lockJob call payload db
  let o ← observe lib settings call job payload payloadHash db
  let domain ← orFail .lockDomain (db.monitor.domains.get? job.domainId)
  let db ← commitResult call o domain.current.isp db
  return (db, o.isp)

/-! ### Samples

    A completed run with valid content, and the result of a remote probe for it. -/

/-- The value of a call that went through. -/
def okOr {ε α : Type} (default : α) : Except ε α → α
  | .ok a => a
  | .error _ => default

theorem eq_ok_okOr {ε α : Type} {x : Except ε α} (default : α) (h : x.isOk = true) :
    x = .ok (okOr default x) := by
  cases x with
  | error e => cases h
  | ok a => rfl

def sampleAttempt : Httpcheck.Attempt where
  attempt := 1
  requestURL := lit "https://example.com/"
  initialStatusCode := 200
  finalStatusCode := 200
  content := { status := .validHTML }
  checkedAt := second

def sampleEvidence : Evidence where
  localDNS := []
  alternateDNS := []
  http := { https := [sampleAttempt] }
  pinnedHTTP := none
  decision := Classification.classify Strings.asciiTables [] [] { https := [sampleAttempt] }
  checkedAt := second

def samplePayload : Probeprotocol.ResultPayload where
  protocolVersion := Probeprotocol.version
  probeID := 5
  agentVersion := lit "1"
  regionCode := lit "SG"
  countryCode := lit "SG"
  jobID := 9
  runID := 7
  nonce := lit "n"
  startedAt := second
  finishedAt := 2 * second
  http := { https := [sampleAttempt] }

/-- A platform whose hash and signatures are trivial. -/
def sampleLibrary : Library where
  crypto :=
    { sha256 := fun _ => List.replicate 32 0
      sha256_length := fun _ => rfl
      verify := fun _ _ _ => true
      unmarshal := fun _ => some samplePayload }
  tables := Strings.asciiTables
  numeric := some

def sampleJob : Job where
  id := 9
  runId := 7
  domainId := 1
  probeId := 5
  status := .leased
  policyVersion := "v1"
  nonce := lit "n"
  issuedAt := 0
  expiresAt := minute
  claimedAt := some second
  leaseUntil := some minute
  attempts := 1
  completedAt := none
  lastErrorCode := none

def sampleNode : Node where
  id := 5
  regionCode := lit "SG"
  status := .online
  publicKey := []
  lastSeenAt := some second
  revokedAt := none

def sampleTables : DB where
  monitor := sampleDB
  nodes := { rows := [sampleNode], nodup := by decide }
  jobs := { rows := [sampleJob], nodup := by decide }
  remoteResults := []

def sampleSubmit : SubmitCall where
  principal :=
    { probeID := 5, regionCode := lit "SG", countryCode := lit "SG", networkName := []
      agentVersion := lit "1", status := .online, publicKey := [] }
  jobID := 9
  envelope :=
    { payload := lit "{}", payloadSHA256 := List.replicate 64 48, signature := List.replicate 86 65 }
  goNow := 3 * second
  resultID := 21

def sampleComplete : CompleteCall where
  startedAt := 2 * second
  goNow := 2 * second
  resultID := 20
  incidentID := 30

/-- The database after the completion. -/
def sampleCompleted : DB :=
  { sampleTables with
    monitor := okOr sampleDB (completeLocked defaultConfig sampleComplete sampleExecution
      sampleEvidence sampleDomain sampleDB) }

end DomainMonitor.Probe
