import DomainMonitor.Config
import DomainMonitor.Monitor.Schema

/-! # Completing a run (`internal/monitor/complete.go`)

    `CompleteRun` as one atomic transaction: it stores the evidence, advances
    the effective state of the domain, extends the status history, opens,
    updates or closes the domain's incident, and finally marks the run
    completed if it is still running. Any refused statement rolls everything
    back, so the model returns either an error or the whole new database.
-/

namespace DomainMonitor.Monitor

open Classification

/-- The statement whose failure rolled the transaction back. -/
inductive CompleteError where
  | lockDomain | insertResult | insertDNSCheck | insertDNSAnswer | insertHTTPCheck
  | insertRedirectHop | insertTLSCheck | updateDomain | insertHistory (dimension : Dimension)
  | updateRecoveryStreak | closeIncident | updateFailureStreak | openIncident
  | completeRun | executionLeaseLost
  deriving DecidableEq, Repr

/-- A statement that either goes through or fails with `e`. -/
def orError {α : Type} (e : CompleteError) : Option α → Except CompleteError α
  | none => .error e
  | some a => .ok a

/-- `INSERT` into a table with a `UNIQUE` key; `none` when the key is taken. -/
def insertUnique {κ ρ : Type} [DecidableEq κ] (key : ρ → κ) (rows : List ρ) (row : ρ) :
    Option (List ρ) :=
  if key row ∈ rows.map key then none else some (rows ++ [row])

/-! ### DNS evidence -/

/-- The parameters of the `INSERT INTO dns_answers`. -/
def dnsAnswerColumns (order : Nat) (answer : Dnscheck.Answer) : DNSAnswerColumns where
  answerOrder := order
  rrName := answer.name
  rrType := answer.type
  rrValue := answer.value
  ttlSeconds := answer.ttl.toNat

/-- The loop over `result.Answers`; `rows` are the answers inserted so far, so
    its length is the loop index. -/
def persistDNSAnswers : List Dnscheck.Answer → List DNSAnswerRow →
    Except CompleteError (List DNSAnswerRow)
  | [], rows => .ok rows
  | answer :: answers, rows => do
    let row ← orError .insertDNSAnswer (Row.insert? _ _ (dnsAnswerColumns rows.length answer))
    let rows ← orError .insertDNSAnswer (insertUnique (·.columns.answerOrder) rows row)
    persistDNSAnswers answers rows

/-- The parameters of the `INSERT INTO dns_checks`. -/
def dnsCheckColumns (result : Dnscheck.Result) : DNSCheckColumns where
  resolverType := result.resolver
  endpoint := result.endpoint
  queryName := result.queryName
  queryType := result.queryType
  attemptNo := result.attempt
  rcode := nullableString (lit result.rcode)
  truncated := result.truncated
  authoritative := result.authoritative
  durationUs := max64 0 (microseconds result.duration)
  errorCode := nullableCode result.errorCode
  errorMessage := nullableString result.errorMessage
  transport := result.transport
  checkedAt := timestamptz result.checkedAt

/-- `PersistDNSResult`. -/
def persistDNSResult (rows : List DNSCheckRow) (result : Dnscheck.Result) :
    Except CompleteError (List DNSCheckRow) := do
  let row ← orError .insertDNSCheck (Row.insert? _ _ (dnsCheckColumns result))
  let _ ← orError .insertDNSCheck (insertUnique (·.row.columns.key) rows ⟨row, []⟩)
  let answers ← persistDNSAnswers result.answers []
  return rows ++ [⟨row, answers⟩]

/-! ### HTTP evidence -/

/-- The parameters of the `INSERT INTO redirect_hops`. -/
def redirectHopColumns (hop : Httpcheck.RedirectHop) : RedirectHopColumns where
  hopNumber := hop.hop
  sourceURL := hop.sourceURL
  statusCode := hop.statusCode
  location := hop.location
  resolvedTarget := nullableString hop.resolvedTarget
  crossDomain := hop.crossDomain
  httpsDowngrade := hop.httpsDowngrade
  durationUs := max64 0 (microseconds hop.duration)
  errorCode := nullableCode hop.errorCode

/-- The loop over `attempt.Redirects`. -/
def persistRedirectHops : List Httpcheck.RedirectHop → List RedirectHopRow →
    Except CompleteError (List RedirectHopRow)
  | [], rows => .ok rows
  | hop :: hops, rows => do
    let row ← orError .insertRedirectHop (Row.insert? _ _ (redirectHopColumns hop))
    let rows ← orError .insertRedirectHop (insertUnique (·.columns.hopNumber) rows row)
    persistRedirectHops hops rows

/-- The parameters of the `INSERT INTO tls_checks`. -/
def tlsCheckColumns (result : Httpcheck.TLSResult) : TLSCheckColumns where
  serverName := result.serverName
  remoteAddress := nullableString result.remoteAddress
  tlsVersion := nullableString result.tlsVersion
  cipherSuite := nullableString result.cipherSuite
  certificateSubject := nullableString result.certificateSubject
  certificateIssuer := nullableString result.certificateIssuer
  serialHash := nullableBytes result.serialHash
  sans := result.sans
  validFrom := result.validFrom.map timestamptz
  validUntil := result.validUntil.map timestamptz
  expirationDays := result.expirationDays
  hostnameValid := result.hostnameValid
  chainValid := result.chainValid
  status := result.status
  diagnosticOnly := result.diagnosticOnly
  errorCode := nullableCode result.errorCode
  errorMessage := nullableString result.errorMessage
  checkedAt := timestamptz result.checkedAt

/-- `persistTLSCheck`, for a response that has a TLS state. -/
def persistTLSCheck : Option Httpcheck.TLSResult → Except CompleteError (Option TLSCheckRow)
  | none => .ok none
  | some result => some <$> orError .insertTLSCheck (Row.insert? _ _ (tlsCheckColumns result))

/-- The parameters of the `INSERT INTO http_checks`. -/
def httpCheckColumns (scheme : Scheme) (resolverMode : ResolverMode)
    (attempt : Httpcheck.Attempt) : HTTPCheckColumns where
  scheme := scheme
  resolverMode := resolverMode
  requestURL := attempt.requestURL
  effectiveURL := nullableString attempt.effectiveURL
  protocol := nullableString attempt.protocol
  attemptNo := attempt.attempt
  initialStatusCode := nullableInt attempt.initialStatusCode
  finalStatusCode := nullableInt attempt.finalStatusCode
  dnsDurationUs := durationMicroseconds attempt.timing.dns
  connectDurationUs := durationMicroseconds attempt.timing.connect
  tlsDurationUs := durationMicroseconds attempt.timing.tls
  ttfbDurationUs := durationMicroseconds attempt.timing.ttfb
  totalDurationUs := max64 0 (microseconds attempt.timing.total)
  contentType := nullableString attempt.content.contentType
  declaredContentLength := attempt.content.declaredContentLength
  bodySize := attempt.content.bodySize
  bodySHA256 := nullableBytes attempt.content.bodySHA256
  hashComplete := attempt.content.hashComplete
  bodyExcerpt := nullableBytes attempt.content.excerpt
  title := nullableString attempt.content.title
  contentStatus := attempt.content.status
  serverHeader := nullableString attempt.serverHeader
  selectedHeaders := attempt.headers
  errorCode := nullableCode attempt.errorCode
  errorMessage := nullableString attempt.errorMessage
  checkedAt := timestamptz attempt.checkedAt

/-- `PersistHTTPAttempt`. -/
def persistHTTPAttempt (scheme : Scheme) (resolverMode : ResolverMode) (rows : List HTTPCheckRow)
    (attempt : Httpcheck.Attempt) : Except CompleteError (List HTTPCheckRow) := do
  let row ← orError .insertHTTPCheck
    (Row.insert? _ _ (httpCheckColumns scheme resolverMode attempt))
  let _ ← orError .insertHTTPCheck (insertUnique (·.row.columns.key) rows ⟨row, [], none⟩)
  let redirectHops ← persistRedirectHops attempt.redirects []
  let tlsCheck ← persistTLSCheck attempt.tls
  return rows ++ [⟨row, redirectHops, tlsCheck⟩]

variable (streak : Int) (cfg : Config) (call : CompleteCall) (execution : Execution) (run : Run)
  (evidence : Evidence) (domain : Domain) (effective : EffectiveState)

/-- The four attempt loops of `CompleteRun`. -/
def persistHTTPEvidence : Except CompleteError (List HTTPCheckRow) := do
  let rows ← evidence.http.https.foldlM (persistHTTPAttempt .https .system) []
  let rows ← evidence.http.http.foldlM (persistHTTPAttempt .http .system) rows
  match evidence.pinnedHTTP with
  | none => return rows
  | some pinned => do
    let rows ← pinned.https.foldlM (persistHTTPAttempt .https .dohPinned) rows
    pinned.http.foldlM (persistHTTPAttempt .http .dohPinned) rows

/-! ### Effective state and history -/

/-- The `EffectiveInput` built from the locked domain row. -/
def effectiveInput (run : Run) (decision : Decision) : EffectiveInput where
  current := domain.current
  confidence := domain.confidence
  failureStreak := domain.failureStreak
  successStreak := domain.successStreak
  observed := decision
  qualifying := run.triggerType ≠ .manual
  openFailures := cfg.incidentOpenFailures
  closeSuccesses := cfg.incidentCloseSuccess

/-- `UPDATE domains SET ...`: every effective column is written back. -/
def Domain.withEffective (failureStage errorCode : Option Text) (checkedAt : Int) (domain : Domain) :
    Domain :=
  { domain with
    current := effective.statuses
    confidence := effective.confidence
    failureStreak := effective.failureStreak
    successStreak := effective.successStreak
    failureStage
    errorCode
    lastCheckedAt := some checkedAt }

@[simp] theorem Domain.withEffective_id (stage code : Option Text) (checkedAt : Int) (d : Domain) :
    (d.withEffective effective stage code checkedAt).id = d.id :=
  rfl

/-- The parameters of the update, converted to columns. -/
def updateDomain? (domains : KeyedTable Domain.id) (id : UUID) (effective : EffectiveState)
    (checkedAt : Int) : Option (KeyedTable Domain.id) := do
  let failureStage ← Text.ofNullable? (nullableString (lit effective.failureStage))
  let errorCode ← Text.ofNullable? (nullableCode effective.errorCode)
  domains.update? Domain.Checks id
    (Domain.withEffective effective failureStage errorCode checkedAt)
    (Domain.withEffective_id effective failureStage errorCode checkedAt)

/-- The row `persistHistory` inserts for one changed dimension. -/
def historyRow (before : EffectiveInput) (after : EffectiveState) (reasons : List String)
    (effectiveAt : Int) (dimension : Dimension) : HistoryRow where
  domainId := run.domainId
  dimension := dimension
  previousValue := some (statusValue before.current dimension)
  currentValue := statusValue after.statuses dimension
  confidence := after.confidence
  policyVersion := run.policyVersion
  reasonCodes := reasons
  supportingRunIds := [run.id]
  effectiveAt := effectiveAt

/-- `persistHistory`: one row per changed dimension, each subject to the
    `CHECK` on its confidence. -/
def persistHistory (before : EffectiveInput) (after : EffectiveState) (reasons : List String)
    (effectiveAt : Int) : Except CompleteError (List HistoryRow) :=
  after.changedDimensions.mapM (fun dimension =>
    let row := historyRow run before after reasons effectiveAt dimension
    if ConfidenceCheck row.confidence then .ok row else .error (.insertHistory dimension))

/-! ### Incidents -/

/-- `SELECT ... WHERE domain_id = $1 AND status IN ('open','acknowledged')`. -/
def Incidents.active? (incidents : Incidents) (domainId : UUID) : Option Incident :=
  incidents.rows.find? (fun i => i.domainId = domainId && i.isActive)

/-- `insertIncidentEvent`. -/
def Incident.addEvent (type : EventType) (run : Run) (details : EventDetails)
    (incident : Incident) : Incident :=
  { incident with events := incident.events ++ [{ type, runId := some run.id, details }] }

def Incident.recover (incident : Incident) : Incident :=
  { incident with closeSuccessCount := streak }

def Incident.close (checkedAt : Int) (incident : Incident) : Incident :=
  { incident with status := .closed, closedAt := some checkedAt, closedByRunId := some run.id }

def Incident.observeFailure (failureStage errorCode : Option Text) (incident : Incident) :
    Incident :=
  { incident with
    openFailureCount := max incident.openFailureCount streak
    failureStage
    errorCode
    closeSuccessCount := 0 }

@[simp] theorem Incident.addEvent_id (type : EventType) (run : Run) (details : EventDetails)
    (i : Incident) : (i.addEvent type run details).id = i.id := rfl

@[simp] theorem Incident.recover_id (i : Incident) : (i.recover streak).id = i.id :=
  rfl

@[simp] theorem Incident.close_id (checkedAt : Int) (i : Incident) :
    (i.close run checkedAt).id = i.id := rfl

@[simp] theorem Incident.observeFailure_id (stage code : Option Text) (i : Incident) :
    (i.observeFailure streak stage code).id = i.id := rfl

/-- The first branch of `applyIncident`: a success while an incident is active. -/
def observeSuccess (state : EffectiveState) (closeSuccesses checkedAt : Int) (incident : Incident)
    (incidents : Incidents) : Except CompleteError Incidents := do
  let details := EventDetails.success state.successStreak
  let incidents ← orError .updateRecoveryStreak
    (incidents.update? Incident.Checks incident.id (Incident.recover state.successStreak)
      (Incident.recover_id _))
  let incidents := incidents.modify incident.id (Incident.addEvent .successObserved run details)
    (Incident.addEvent_id _ _ _)
  if state.statuses.availability = .active ∧ state.successStreak ≥ closeSuccesses then
    let incidents ← orError .closeIncident
      (incidents.update? Incident.Checks incident.id (Incident.close run checkedAt)
        (Incident.close_id _ _))
    return incidents.modify incident.id (Incident.addEvent .closed run details)
      (Incident.addEvent_id _ _ _)
  else
    return incidents

/-- A failure while an incident is active. -/
def observeFailure (run : Run) (decision : Decision) (state : EffectiveState)
    (incident : Incident) (incidents : Incidents) : Except CompleteError Incidents := do
  let failureStage ← orError .updateFailureStreak
    (Text.ofNullable? (nullableString (lit decision.failureStage)))
  let errorCode ← orError .updateFailureStreak (Text.ofNullable? (nullableCode decision.errorCode))
  let incidents ← orError .updateFailureStreak
    (incidents.update? Incident.Checks incident.id
      (Incident.observeFailure state.failureStreak failureStage errorCode)
      (Incident.observeFailure_id _ _ _))
  return incidents.modify incident.id
    (Incident.addEvent .failureObserved run (.failure state.failureStreak decision.errorCode))
    (Incident.addEvent_id _ _ _)

/-- The incident a failure opens. -/
def newIncident (id : UUID) (run : Run) (decision : Decision) (state : EffectiveState)
    (checkedAt : Int) (failureStage errorCode : Option Text) : Incident where
  id := id
  domainId := run.domainId
  status := .open
  failureStage := failureStage
  errorCode := errorCode
  openFailureCount := state.failureStreak
  closeSuccessCount := 0
  openedAt := checkedAt
  closedAt := none
  openedByRunId := run.id
  closedByRunId := none
  events :=
    [{ type := .opened, runId := some run.id
       details := .failure state.failureStreak decision.errorCode }]

/-- `INSERT INTO incidents`: the constraints, the partial unique index
    `incidents_one_open_per_domain_idx`, and the primary key. -/
def openIncident (id : UUID) (run : Run) (decision : Decision) (state : EffectiveState)
    (checkedAt : Int) (incidents : Incidents) : Except CompleteError Incidents := do
  let failureStage ← orError .openIncident
    (Text.ofNullable? (nullableString (lit decision.failureStage)))
  let errorCode ← orError .openIncident (Text.ofNullable? (nullableCode decision.errorCode))
  let incident := newIncident id run decision state checkedAt failureStage errorCode
  if incident.Checks ∧ incidents.active? run.domainId = none then
    orError .openIncident (incidents.insert incident)
  else
    .error .openIncident

/-- `applyIncident`. -/
def applyIncident (newID : UUID) (run : Run) (decision : Decision) (state : EffectiveState)
    (openFailures closeSuccesses checkedAt : Int) (incidents : Incidents) :
    Except CompleteError Incidents :=
  match incidents.active? run.domainId, decision.availability with
  | some incident, .active => observeSuccess run state closeSuccesses checkedAt incident incidents
  | some incident, .unavailable | some incident, .degraded =>
    observeFailure run decision state incident incidents
  | none, .unavailable | none, .degraded =>
    if state.statuses.availability ≠ .unavailable ∨ state.failureStreak < openFailures then
      .ok incidents
    else
      openIncident newID run decision state checkedAt incidents
  | _, _ => .ok incidents

/-! ### CompleteRun -/

/-- One call of `CompleteRun`. -/
structure CompleteCall where
  /-- The database clock when the transaction began. -/
  startedAt : Int
  /-- What `s.now()` returns, consulted when the evidence carries no time. -/
  goNow : Int
  /-- The ids drawn for the new result and for an incident that may be opened. -/
  resultID : UUID
  incidentID : UUID
  deriving DecidableEq, Repr

def CompleteCall.now : Int := timestamptz call.startedAt

/-- `checked_at`: when the evidence was taken. -/
def CompleteCall.checkedAt (call : CompleteCall) (evidence : Evidence) : Int :=
  timestamptz (if evidence.checkedAt = zeroTime then call.goNow else evidence.checkedAt)

/-- The parameters of the `INSERT INTO monitoring_results`. -/
def resultColumns : ResultColumns :=
  let decision := evidence.decision
  { id := call.resultID
    runId := run.id
    domainId := run.domainId
    vantage := .localPrimary
    observed :=
      { availability := decision.availability, dns := decision.dns, http := decision.http
        redirect := decision.redirect, isp := decision.isp, tls := decision.tls
        content := decision.content }
    initialHTTP := nullableInt decision.initialHTTP
    finalHTTP := nullableInt decision.finalHTTP
    finalTarget := decision.finalTarget
    failureStage := nullableString (lit decision.failureStage)
    errorCode := nullableCode decision.errorCode
    errorMessage := nullableString decision.errorMessage
    confidence := decision.confidence
    confidenceLevel := decision.confidenceLevel
    policyVersion := run.policyVersion
    checkedAt := call.checkedAt evidence
    completedAt := some call.now }

/-- The row update of a completed run. -/
def Run.complete (now : Int) (run : Run) : Run :=
  { run with
    status := .completed
    completedAt := some now
    workerId := none
    heartbeatAt := none
    lastErrorCode := none
    lastErrorMessage := none }

@[simp] theorem Run.complete_id (now : Int) (run : Run) : (run.complete now).id = run.id := rfl

/-- `INSERT INTO monitoring_results`: constraints and texts, the foreign key to
    the run, the primary key, and `UNIQUE (monitoring_run_id, vantage_key)`. -/
def insertResult (call : CompleteCall) (run : Run) (evidence : Evidence) (db : DB) :
    Except CompleteError (Row ResultColumns.Checks ResultColumns.texts) := do
  let row ← orError .insertResult (Row.insert? _ _ (resultColumns call run evidence))
  if (db.runs.get? run.id).isNone then .error .insertResult
  else if db.results.any (fun r => r.row.columns.id = call.resultID) then .error .insertResult
  else if db.results.any (fun r =>
      r.row.columns.runId = run.id && r.row.columns.vantage = .localPrimary) then
    .error .insertResult
  else .ok row

/-- `UPDATE monitoring_runs ... WHERE id = $1 AND status = 'running'`. The guard
    looks at the status only, not at who claimed the run. -/
def finishRun (id : UUID) (db : DB) : Except CompleteError (KeyedTable Run.id) :=
  match db.runs.get? id with
  | none => .error .executionLeaseLost
  | some run =>
    if run.status = .running then
      orError .completeRun
        (db.runs.update? Run.Checks id (Run.complete call.now) (Run.complete_id _))
    else
      .error .executionLeaseLost

/-- The call of `applyIncident`, made for qualifying runs only. -/
def stepIncidents (incidents : Incidents) : Except CompleteError Incidents :=
  if run.triggerType ≠ .manual then
    applyIncident call.incidentID run evidence.decision effective cfg.incidentOpenFailures
      cfg.incidentCloseSuccess (call.checkedAt evidence) incidents
  else .ok incidents

/-- `CompleteRun` after `SELECT ... FROM domains ... FOR UPDATE` returned `domain`. -/
def completeLocked (db : DB) : Except CompleteError DB := do
  let run := execution.run
  let decision := evidence.decision
  let checkedAt := call.checkedAt evidence
  let row ← insertResult call run evidence db
  let dnsChecks ← (evidence.localDNS ++ evidence.alternateDNS).foldlM persistDNSResult []
  let httpChecks ← persistHTTPEvidence evidence
  let current := effectiveInput cfg domain run decision
  let effective := advance current
  let domains ← orError .updateDomain (updateDomain? db.domains run.domainId effective checkedAt)
  let history ← persistHistory run current effective decision.reasons checkedAt
  let incidents ← stepIncidents cfg call run evidence effective db.incidents
  let runs ← finishRun call run.id db
  return { db with
    domains, runs, incidents
    results := db.results ++ [{ row, dnsChecks, httpChecks, reasons := decision.reasons }]
    history := db.history ++ history }

/-- `CompleteRun`. -/
def completeRun (db : DB) : Except CompleteError DB := do
  let domain ← orError .lockDomain (db.domains.get? execution.run.domainId)
  completeLocked cfg call execution evidence domain db

/-! ### What a commit consists of -/

theorem orError_ok {α : Type} {e : CompleteError} {o : Option α} {a : α} :
    orError e o = .ok a ↔ o = some a := by
  cases o with
  | none => simp [orError]
  | some b => simp [orError]

/-- The effective state `CompleteRun` writes back. -/
def effectiveState (run : Run) (decision : Decision) : EffectiveState :=
  advance (effectiveInput cfg domain run decision)

/-- Everything a transaction that commits has computed on the way. -/
structure CommitParts where
  domain : Domain
  row : Row ResultColumns.Checks ResultColumns.texts
  dnsChecks : List DNSCheckRow
  httpChecks : List HTTPCheckRow
  domains : KeyedTable Domain.id
  history : List HistoryRow
  incidents : Incidents
  runs : KeyedTable Run.id

/-- Every statement of the transaction went through with these parts. -/
structure CommitParts.Ok (db : DB) (p : CommitParts) : Prop where
  domain : db.domains.get? execution.run.domainId = some p.domain
  row : insertResult call execution.run evidence db = .ok p.row
  dnsChecks : (evidence.localDNS ++ evidence.alternateDNS).foldlM persistDNSResult [] =
    .ok p.dnsChecks
  httpChecks : persistHTTPEvidence evidence = .ok p.httpChecks
  domains : updateDomain? db.domains execution.run.domainId
    (effectiveState cfg p.domain execution.run evidence.decision) (call.checkedAt evidence) =
      some p.domains
  history : persistHistory execution.run
    (effectiveInput cfg p.domain execution.run evidence.decision)
    (effectiveState cfg p.domain execution.run evidence.decision) evidence.decision.reasons
    (call.checkedAt evidence) = .ok p.history
  incidents : stepIncidents cfg call execution.run evidence
    (effectiveState cfg p.domain execution.run evidence.decision) db.incidents = .ok p.incidents
  runs : finishRun call execution.run.id db = .ok p.runs

/-- The database these parts make up. -/
def CommitParts.commit (p : CommitParts) (evidence : Evidence) (db : DB) : DB :=
  { db with
    domains := p.domains, runs := p.runs, incidents := p.incidents
    results := db.results ++
      [{ row := p.row, dnsChecks := p.dnsChecks, httpChecks := p.httpChecks
         reasons := evidence.decision.reasons }]
    history := db.history ++ p.history }

variable {call : CompleteCall} {execution : Execution} {evidence : Evidence} {db : DB} {run : Run}

/-- `CompleteRun` commits exactly when every statement goes through. -/
theorem completeRun_ok_iff {cfg : Config} {db' : DB} :
    completeRun cfg call execution evidence db = .ok db' ↔
      ∃ p : CommitParts, p.Ok cfg call execution evidence db ∧ db' = p.commit evidence db := by
  simp only [completeRun, completeLocked, except_bind_ok, orError_ok]
  constructor
  · rintro ⟨domain, hdomain, row, hrow, dns, hdns, http, hhttp, domains, hdomains, history,
      hhistory, incidents, hincidents, runs, hruns, hdb⟩
    refine ⟨⟨domain, row, dns, http, domains, history, incidents, runs⟩,
      ⟨hdomain, hrow, hdns, hhttp, hdomains, hhistory, hincidents, hruns⟩, ?_⟩
    cases hdb
    rfl
  · rintro ⟨p, hp, rfl⟩
    exact ⟨p.domain, hp.domain, p.row, hp.row, p.dnsChecks, hp.dnsChecks, p.httpChecks,
      hp.httpChecks, p.domains, hp.domains, p.history, hp.history, p.incidents, hp.incidents,
      p.runs, hp.runs, rfl⟩

/-- The final update: the run was running, and only its row changes. -/
theorem finishRun_ok {id : UUID} {runs : KeyedTable Run.id} (h : finishRun call id db = .ok runs) :
    ∃ run, db.runs.get? id = some run ∧ run.status = .running ∧ (run.complete call.now).Checks ∧
      runs = db.runs.modify id (Run.complete call.now) (Run.complete_id _) := by
  unfold finishRun at h
  cases hrun : db.runs.get? id with
  | none => rw [hrun] at h; cases h
  | some run =>
    rw [hrun] at h
    dsimp only at h
    by_cases hstatus : run.status = .running
    · rw [if_pos hstatus, orError_ok, KeyedTable.update?_of_get? hrun] at h
      by_cases hchecks : (run.complete call.now).Checks
      · rw [if_pos hchecks] at h
        cases h
        exact ⟨run, rfl, hstatus, hchecks, rfl⟩
      · rw [if_neg hchecks] at h; cases h
    · rw [if_neg hstatus] at h; cases h

theorem Row.insert?_some {γ : Type} {Checks : γ → Prop} [DecidablePred Checks]
    {texts : γ → List (Option GoString)} {columns : γ} {row : Row Checks texts}
    (h : Row.insert? Checks texts columns = some row) : row.columns = columns := by
  unfold Row.insert? at h
  split at h
  · cases h
    rfl
  · cases h

/-- The stored row has the columns of the `INSERT`. -/
theorem insertResult_ok {row : Row ResultColumns.Checks ResultColumns.texts}
    (h : insertResult call run evidence db = .ok row) :
    row.columns = resultColumns call run evidence := by
  simp only [insertResult, except_bind_ok, orError_ok] at h
  obtain ⟨row', hrow, h⟩ := h
  split at h
  · cases h
  split at h
  · cases h
  split at h
  · cases h
  · cases h
    exact Row.insert?_some hrow

/-- The domain update: only the row of the domain changes, to the effective state. -/
theorem updateDomain?_some {domains domains' : KeyedTable Domain.id} {id : UUID}
    {domain : Domain} {effective : EffectiveState} {checkedAt : Int}
    (hdomain : domains.get? id = some domain)
    (h : updateDomain? domains id effective checkedAt = some domains') :
    ∃ stage code, Text.ofNullable? (nullableString (lit effective.failureStage)) = some stage ∧
      Text.ofNullable? (nullableCode effective.errorCode) = some code ∧
      (domain.withEffective effective stage code checkedAt).Checks ∧
      domains' = domains.modify id (Domain.withEffective effective stage code checkedAt)
        (Domain.withEffective_id _ _ _ _) := by
  unfold updateDomain? at h
  simp only [Option.bind_eq_bind, Option.bind_eq_some_iff] at h
  obtain ⟨stage, hstage, code, hcode, hupdate⟩ := h
  rw [KeyedTable.update?_of_get? hdomain] at hupdate
  by_cases hchecks : (domain.withEffective effective stage code checkedAt).Checks
  · rw [if_pos hchecks] at hupdate
    cases hupdate
    exact ⟨stage, code, hstage, hcode, hchecks, rfl⟩
  · rw [if_neg hchecks] at hupdate; cases hupdate

/-- No domain disappears. -/
theorem completeRun_domains {cfg : Config} {db' : DB}
    (h : completeRun cfg call execution evidence db = .ok db') {d : UUID}
    (hd : (db.domains.get? d).isSome = true) : (db'.domains.get? d).isSome = true := by
  obtain ⟨p, hp, rfl⟩ := completeRun_ok_iff.mp h
  obtain ⟨stage, code, -, -, -, hdomains⟩ := updateDomain?_some hp.domain hp.domains
  show (p.domains.get? d).isSome = true
  rwa [hdomains, KeyedTable.isSome_get?_modify]

/-! ### Evidence without a conclusion -/

/-- The evidence of a run whose checks were all cut short. -/
def inconclusiveEvidence (checkedAt : Int) : Evidence where
  localDNS := []
  alternateDNS := []
  http := { https := [] }
  pinnedHTTP := none
  decision := { availability := .unknown }
  checkedAt := checkedAt

/-- Its result row is accepted. -/
theorem insertResult_inconclusive (call : CompleteCall) (now : Int)
    (hrun : (db.runs.get? run.id).isNone = false) (hresults : db.results = []) :
    ∃ row, insertResult call run (inconclusiveEvidence now) db = .ok row := by
  have hchecks : (resultColumns call run (inconclusiveEvidence now)).Checks := by
    unfold ResultColumns.Checks resultColumns inconclusiveEvidence
    dsimp only
    decide
  have htexts : ∀ t ∈ (resultColumns call run (inconclusiveEvidence now)).texts, ∀ s ∈ t,
      Utf8.Storable s := by
    unfold ResultColumns.texts resultColumns inconclusiveEvidence
    dsimp only
    decide
  have hinsert : Row.insert? ResultColumns.Checks ResultColumns.texts
      (resultColumns call run (inconclusiveEvidence now)) = some ⟨_, hchecks, htexts⟩ :=
    dif_pos ⟨hchecks, htexts⟩
  unfold insertResult
  rw [hinsert, hrun, hresults]
  exact ⟨_, rfl⟩

/-- A manual run that is still running can always be completed with it. -/
theorem completeRun_inconclusive (call : CompleteCall) {domain : Domain} (now : Int)
    (hdomain : db.domains.get? execution.run.domainId = some domain) (hvalid : domain.Checks)
    (hmanual : execution.run.triggerType = .manual)
    (hrun : db.runs.get? execution.run.id = some run) (hrunning : run.status = .running)
    (hchecks : (run.complete call.now).Checks) (hresults : db.results = []) :
    ∃ db', completeRun cfg call execution (inconclusiveEvidence now) db = .ok db' := by
  let carried : EffectiveState :=
    { statuses := domain.current, confidence := domain.confidence
      failureStreak := domain.failureStreak, successStreak := domain.successStreak }
  have heffective : effectiveState cfg domain execution.run (inconclusiveEvidence now).decision =
      carried := advance_carried (.inr rfl)
  obtain ⟨row, hrow⟩ := insertResult_inconclusive call now (by rw [hrun]; rfl) hresults
  have hdomains : updateDomain? db.domains execution.run.domainId
      (effectiveState cfg domain execution.run (inconclusiveEvidence now).decision)
      (call.checkedAt (inconclusiveEvidence now)) =
      some (db.domains.modify execution.run.domainId (Domain.withEffective carried none none
        (call.checkedAt (inconclusiveEvidence now))) (Domain.withEffective_id _ _ _ _)) := by
    obtain ⟨hconfidence, hfit, hnonneg, hfit', hnonneg', -⟩ := hvalid
    have hstage : Text.ofNullable? (nullableString (lit carried.failureStage)) = some none := by
      show Text.ofNullable? (nullableString (lit "")) = some none
      rw [nullableString_empty]
      rfl
    have hcode : Text.ofNullable? (nullableCode carried.errorCode) = some none := rfl
    rw [heffective]
    unfold updateDomain?
    rw [hstage, hcode, Option.bind_eq_bind, Option.bind_some, Option.bind_some,
      KeyedTable.update?_of_get? hdomain,
      if_pos ⟨hconfidence, hfit, hnonneg, hfit', hnonneg', fun _ h => (by cases h)⟩]
  have hruns : finishRun call execution.run.id db = .ok (db.runs.modify execution.run.id
      (Run.complete call.now) (Run.complete_id _)) := by
    unfold finishRun
    rw [hrun]
    dsimp only
    rw [if_pos hrunning, orError_ok, KeyedTable.update?_of_get? hrun, if_pos hchecks]
  let parts : CommitParts :=
    { domain, row, dnsChecks := [], httpChecks := []
      domains := db.domains.modify execution.run.domainId (Domain.withEffective carried none none
        (call.checkedAt (inconclusiveEvidence now))) (Domain.withEffective_id _ _ _ _)
      history := [], incidents := db.incidents
      runs := db.runs.modify execution.run.id (Run.complete call.now) (Run.complete_id _) }
  have hparts : parts.Ok cfg call execution (inconclusiveEvidence now) db :=
    { domain := hdomain, row := hrow, dnsChecks := rfl, httpChecks := rfl, domains := hdomains
      history := by
        show persistHistory _ _ (effectiveState cfg domain execution.run _) _ _ = _
        rw [heffective]
        rfl
      incidents := if_neg (not_not_intro hmanual), runs := hruns }
  exact ⟨parts.commit (inconclusiveEvidence now) db, completeRun_ok_iff.mpr ⟨parts, hparts, rfl⟩⟩

end DomainMonitor.Monitor
