import Mathlib.Data.List.Dedup
import DomainMonitor.Monitor.Evidence
import DomainMonitor.Probe.Results

/-! # The evidence for a block (`docs/phase4-remote-probe-and-isp.md`)

    The classification policy lists what `HIGH_CONFIDENCE_BLOCK` requires. The
    classifier decides over the digest `loadISPInput` assembles, and some of the
    list is not in it: the digest has the failure stage of the pinned path but not
    that of the system path, the final status of the system path but not that of
    the pinned path, and a local observation that is `UNKNOWN` counts as one that
    is not `ACTIVE`.
-/

namespace DomainMonitor.Probe

open Monitor Ispclass

/-! ### What is stored -/

/-- The local observation of a run. -/
def localObservation (results : List ResultRow) (runID : UUID) : Option ResultRow :=
  firstBy (fun a b : ResultRow => b.row.columns.checkedAt ≤ a.row.columns.checkedAt)
    (results.filter (fun r => r.row.columns.runId = runID && r.row.columns.vantage = .localPrimary))

/-- The begin of the freshness window. -/
def freshSince (settings : Settings) (call : SubmitCall) : Int :=
  timestamptz (call.goNow - settings.evidenceFresh)

def pinnedSuccess (c : HTTPCheckColumns) : Bool :=
  c.finalStatusCode.any (fun s => 200 ≤ s && s < 300) && contentValid c.contentStatus

/-- The stage the pinned path failed at. -/
def pinnedStage (c : HTTPCheckColumns) : String := errorStage (c.errorCode.getD [])

/-- Status codes that a firewall or a geographic policy explains. -/
def PolicyAnswer (code : Int) : Prop := code = 403 ∨ code = 429 ∨ code = 451

/-- The system path and the pinned path of a local observation failed at one stage. -/
def SameStage (observation : ResultRow) : Prop :=
  ∃ check, pinnedCheck observation = some check ∧ pinnedSuccess check = false ∧
    observation.row.columns.failureStage = some (lit (pinnedStage check))

/-- The ISP status of a domain. -/
def ispStatus (db : DB) (domainID : UUID) : Option ISPStatus :=
  (db.monitor.domains.get? domainID).map (fun d => d.current.isp)

section

variable (settings : Settings) (call : SubmitCall) (job : Job) (db : DB)
  (observation received : ResultRow)

/-- The qualifying failures, the DoH answers and the remote successes with the
    received result among them, each with the body it saw. -/
def qualifyingFailures : List ResultRow :=
  localFailures db.monitor.runs db.monitor.results job.domainId (freshSince settings call)

def dohAnswers : List GoString :=
  (freshLocal db.monitor.results job.domainId (freshSince settings call)).filterMap answerSet

def successBodies : List (UUID × List UInt8) :=
  remoteSuccesses settings db.nodes (db.monitor.results ++ [received]) job.domainId
    (freshSince settings call)

def failureBuckets : List Int :=
  ((qualifyingFailures settings call job db).map
    (fun r => fiveMinuteBin r.row.columns.checkedAt)).dedup

/-- What the policy requires. -/
structure FullEvidence : Prop where
  failed : observation.row.columns.observed.availability = .unavailable ∨
    observation.row.columns.observed.availability = .degraded
  failures : 3 ≤ (qualifyingFailures settings call job db).length
  buckets : 2 ≤ (failureBuckets settings call job db).length
  successes : ∃ hash, 2 ≤ (((successBodies settings call job db received).filter
    (fun s => s.2 = hash)).map Prod.fst).dedup.length
  stableDoH : 2 ≤ (dohAnswers settings call job db).length ∧
    ∀ a ∈ dohAnswers settings call job db, ∀ b ∈ dohAnswers settings call job db, a = b
  stage : SameStage observation
  online : call.principal.status = .online ∧
    ∃ node, db.nodes.get? job.probeId = some node ∧ node.status = .online
  unexplained : (∀ code ∈ observation.row.columns.finalHTTP, ¬ PolicyAnswer code) ∧
    ∀ c ∈ observation.httpChecks, ∀ code ∈ c.row.columns.finalStatusCode, ¬ PolicyAnswer code

/-- What the code requires. -/
structure LoadedEvidence : Prop where
  notActive : observation.row.columns.observed.availability ≠ .active
  online : call.principal.status = .online
  remote : received.row.columns.observed.availability = .active
  notDNSOnly : ¬ ((∃ check, pinnedCheck observation = some check ∧ pinnedSuccess check = true) ∧
    observation.row.columns.observed.dns = .discrepancy)
  unexplained : ∀ code ∈ observation.row.columns.finalHTTP, ¬ PolicyAnswer code
  failures : 3 ≤ (qualifyingFailures settings call job db).length
  buckets : 2 ≤ (failureBuckets settings call job db).length
  successes : 2 ≤ ((successBodies settings call job db received).map Prod.fst).dedup.length ∧
    ((successBodies settings call job db received).map Prod.snd).dedup.length = 1
  stableDoH : 2 ≤ (dohAnswers settings call job db).length ∧
    (dohAnswers settings call job db).dedup.length = 1
  pinnedStage : ∃ check, pinnedCheck observation = some check ∧ pinnedStage check ≠ ""

/-- What the policy requires and no query loads. -/
structure UnloadedEvidence : Prop where
  failed : observation.row.columns.observed.availability = .unavailable ∨
    observation.row.columns.observed.availability = .degraded
  stage : SameStage observation
  online : ∃ node, db.nodes.get? job.probeId = some node ∧ node.status = .online
  unexplained : ∀ c ∈ observation.httpChecks, ∀ code ∈ c.row.columns.finalStatusCode,
    ¬ PolicyAnswer code

end

variable {settings : Settings} {call : SubmitCall} {job : Job} {db : DB}
  {observation received : ResultRow}

/-! ### One hash, one answer -/

theorem eq_of_dedup_length_one {α : Type} [DecidableEq α] {l : List α} (h : l.dedup.length = 1) :
    ∃ a, ∀ x ∈ l, x = a := by
  obtain ⟨a, ha⟩ := List.length_eq_one_iff.mp h
  refine ⟨a, fun x hx => ?_⟩
  rw [← List.mem_dedup, ha, List.mem_singleton] at hx
  exact hx

/-- **What is missing** from the loaded evidence is what no query loads. -/
theorem full_iff_unloaded (h : LoadedEvidence settings call job db observation received) :
    FullEvidence settings call job db observation received ↔
      UnloadedEvidence job db observation := by
  constructor
  · intro hfull
    exact ⟨hfull.failed, hfull.stage, hfull.online.2, hfull.unexplained.2⟩
  · intro hunloaded
    refine ⟨hunloaded.failed, h.failures, h.buckets, ?_, ⟨h.stableDoH.1, ?_⟩, hunloaded.stage,
      ⟨h.online, hunloaded.online⟩, h.unexplained, hunloaded.unexplained⟩
    · obtain ⟨hcount, hone⟩ := h.successes
      obtain ⟨hash, hhash⟩ := eq_of_dedup_length_one hone
      refine ⟨hash, ?_⟩
      rwa [List.filter_eq_self.mpr]
      intro s hs
      exact decide_eq_true (hhash s.2 (List.mem_map_of_mem hs))
    · obtain ⟨set, hset⟩ := eq_of_dedup_length_one h.stableDoH.2
      intro a ha b hb
      rw [hset a ha, hset b hb]

/-! ### What is loaded -/

variable {results : List ResultRow} {r : ResultRow}

/-- A remote result is not among the local ones. -/
theorem filter_append_remote {p : ResultRow → Bool} (h : r.row.columns.vantage ≠ .localPrimary)
    (hp : ∀ r, p r = true → r.row.columns.vantage = .localPrimary) :
    (results ++ [r]).filter p = results.filter p := by
  have hr : p r = false := Bool.eq_false_iff.mpr fun hr => h (hp r hr)
  rw [List.filter_append, List.filter_singleton, hr, cond_false, List.append_nil]

theorem localObservation_append {runID : UUID} (h : r.row.columns.vantage ≠ .localPrimary) :
    localObservation (results ++ [r]) runID = localObservation results runID := by
  unfold localObservation
  rw [filter_append_remote h]
  intro r hr
  simp only [Bool.and_eq_true, decide_eq_true_eq] at hr
  exact hr.2

variable {pinned : Option HTTPCheckColumns} {domainID : UUID} {pending : ResultRow} {lib : Library}
  {since : Int}

theorem freshLocal_append (h : r.row.columns.vantage ≠ .localPrimary) :
    freshLocal (results ++ [r]) domainID since = freshLocal results domainID since := by
  unfold freshLocal
  rw [filter_append_remote h]
  intro r hr
  simp only [Bool.and_eq_true, decide_eq_true_eq] at hr
  exact hr.1.2

/-- The same observation, with the ISP status it was given later. -/
structure Reclassified (pending received : ResultRow) : Prop where
  httpChecks : received.httpChecks = pending.httpChecks
  columns : received.row.columns = { pending.row.columns with
    observed := { pending.row.columns.observed with isp := received.row.columns.observed.isp } }

theorem remoteSuccesses_reclassified {nodes : KeyedTable Node.id} {received : ResultRow}
    (h : Reclassified pending received) :
    remoteSuccesses settings nodes (results ++ [pending]) domainID since =
      remoteSuccesses settings nodes (results ++ [received]) domainID since := by
  unfold remoteSuccesses
  rw [List.flatMap_append, List.flatMap_append, List.flatMap_singleton, List.flatMap_singleton,
    h.httpChecks, h.columns]

theorem any_policy_iff {code : Option Int} :
    (code ≠ some 451 ∧ code ≠ some 403 ∧ code ≠ some 429) ↔ ∀ c ∈ code, ¬ PolicyAnswer c := by
  cases code with
  | none => simp
  | some c =>
    simp only [ne_eq, Option.some.injEq, Option.mem_some, forall_eq', PolicyAnswer]
    omega

theorem pinned_active_iff :
    pinned.map (fun c => if pinnedSuccess c then Availability.active else .unavailable) =
        some .active ↔ ∃ check, pinned = some check ∧ pinnedSuccess check = true := by
  cases pinned with
  | none => simp
  | some check => cases h : pinnedSuccess check <;> simp [h]

theorem pinned_stage_iff :
    (pinned.map pinnedStage).getD "" ≠ "" ↔ ∃ check, pinned = some check ∧ pinnedStage check ≠ "" := by
  cases pinned with
  | none => simp
  | some check => simp

/-- The digest is conclusive when the loaded evidence is complete. -/
theorem conclusive_iff_loaded {input : Input}
    (h : loadISPInput settings call.principal call.goNow job pending.row.columns.observed.availability db.nodes db.monitor.runs (db.monitor.results ++ [pending]) = .ok input)
    (hremote : pending.row.columns.vantage ≠ .localPrimary)
    (hreclassified : Reclassified pending received) :
    ∃ observation, localObservation db.monitor.results job.runId = some observation ∧
      (Conclusive input ↔ LoadedEvidence settings call job db observation received) := by
  simp only [loadISPInput, except_bind_ok, orFail_ok] at h
  obtain ⟨observation, hobservation, h⟩ := h
  cases h
  refine ⟨observation, by rw [← localObservation_append hremote]; exact hobservation, ?_⟩
  rw [localFailures, freshLocal_append hremote, remoteSuccesses_reclassified hreclassified]
  have havailability : received.row.columns.observed.availability =
      pending.row.columns.observed.availability := by rw [hreclassified.columns]
  have hpolicy := @any_policy_iff observation.row.columns.finalHTTP
  constructor
  · intro hc
    refine ⟨hc.notActive, of_decide_eq_true hc.healthy.1, havailability.trans hc.remote, ?_, ?_,
      hc.failures.1, hc.failures.2, ?_, ?_, pinned_stage_iff.mp hc.pinnedStage⟩
    · intro ⟨hactive, hdiscrepancy⟩
      exact hc.notDNSOnly ⟨pinned_active_iff.mpr hactive, decide_eq_true hdiscrepancy⟩
    · obtain ⟨hgeo, hwaf, -⟩ := hc.explained
      simp only [Bool.or_eq_false_iff, decide_eq_false_iff_not] at hgeo hwaf
      exact hpolicy.mp ⟨hgeo, hwaf⟩
    · have hstable := hc.successes.2
      simp only [Bool.and_eq_true, decide_eq_true_eq] at hstable
      exact hstable
    · have hstable := hc.dohStable
      simp only [Bool.and_eq_true, decide_eq_true_eq] at hstable
      exact hstable
  · intro hl
    obtain ⟨hgeo, hwaf⟩ := hpolicy.mpr hl.unexplained
    refine ⟨hl.notActive, rfl, ⟨decide_eq_true hl.online, rfl⟩, havailability.symm.trans hl.remote,
      ?_, ⟨decide_eq_false hgeo, by simp [hwaf.1, hwaf.2], rfl⟩, ⟨hl.failures, hl.buckets⟩,
      ⟨hl.successes.1, ?_⟩, ?_, pinned_stage_iff.mpr hl.pinnedStage⟩
    · intro ⟨hactive, hdiscrepancy⟩
      exact hl.notDNSOnly ⟨pinned_active_iff.mp hactive, of_decide_eq_true hdiscrepancy⟩
    · simp only [Bool.and_eq_true, decide_eq_true_eq]
      exact hl.successes
    · simp only [Bool.and_eq_true, decide_eq_true_eq]
      exact hl.stableDoH

/-! ### What is written -/

/-- An accepted result is observed for its job, stored, and its classification
    written to the domain. -/
theorem submitResult_ok {db' : DB} {decision : Decision}
    (h : submitResult lib settings call db = .ok (db', decision)) :
    ∃ job payload payloadHash o, db.jobs.get? call.jobID = some job ∧
      observe lib settings call job payload payloadHash db = .ok o ∧
      db'.monitor.results = db.monitor.results ++ [o.result] ∧
      ispStatus db' job.domainId = some o.isp.status := by
  simp only [submitResult, except_bind_ok] at h
  obtain ⟨⟨payload, payloadHash⟩, -, job, hlock, o, hobserve, domain, hdomain, db'', hcommit, h⟩ := h
  cases h
  refine ⟨job, payload, payloadHash, o, (lockJob_ok hlock).1, hobserve, ?_⟩
  simp only [commitResult, except_bind_ok] at hcommit
  obtain ⟨-, -, history, -, jobs, -, hcommit⟩ := hcommit
  cases hcommit
  refine ⟨rfl, ?_⟩
  show (((db.monitor.domains.modify o.job.domainId (Domain.withISP o.isp.status)
    (Domain.withISP_id _)).get? job.domainId).map _) = _
  rw [observe_job hobserve, KeyedTable.get?_modify_self, orFail_ok.mp hdomain]
  rfl

/-- The stored row is the one the digest was loaded with, up to its ISP status. -/
theorem observe_loads {payload : Probeprotocol.ResultPayload} {payloadHash : List UInt8}
    {o : Observation} (h : observe lib settings call job payload payloadHash db = .ok o) :
    ∃ pending input, pending.row.columns.vantage ≠ .localPrimary ∧ Reclassified pending o.result ∧
      loadISPInput settings call.principal call.goNow job
        pending.row.columns.observed.availability db.nodes db.monitor.runs
        (db.monitor.results ++ [pending]) = .ok input ∧
      o.isp = classify input := by
  simp only [observe, except_bind_ok] at h
  obtain ⟨inserted, hinserted, dnsChecks, -, _, -, httpChecks, -, _, -, remote, -, input, hinput, row,
    hrow, h⟩ := h
  cases h
  have hpending := Row.insert?_eq_some.mp (orFail_ok.mp hinserted)
  have hcolumns := Row.insert?_eq_some.mp (orFail_ok.mp hrow)
  refine ⟨⟨inserted, dnsChecks, httpChecks, []⟩, input, ?_, ⟨rfl, ?_⟩, ?_, rfl⟩
  · show inserted.columns.vantage ≠ .localPrimary
    rw [hpending]
    exact Vantage.noConfusion
  · show row.columns = _
    simp only [hcolumns, hpending, resultColumns]
  · simp only [hpending, resultColumns]
    exact hinput

/-- **Evidence for a block**: an accepted result writes `HIGH_CONFIDENCE_BLOCK` when
    the loaded evidence is complete, and it is written on full evidence only if and
    only if what no query loads is there as well. -/
theorem high_confidence_block_iff {lib : Library} {settings : Settings} {call : SubmitCall}
    {db db' : DB} {decision : Decision}
    (h : submitResult lib settings call db = .ok (db', decision)) :
    ∃ job observation received, db.jobs.get? call.jobID = some job ∧
      localObservation db.monitor.results job.runId = some observation ∧
      db'.monitor.results = db.monitor.results ++ [received] ∧
      (ispStatus db' job.domainId = some .highConfidenceBlock ↔
        LoadedEvidence settings call job db observation received) ∧
      ((ispStatus db' job.domainId = some .highConfidenceBlock →
          FullEvidence settings call job db observation received) ↔
        (LoadedEvidence settings call job db observation received →
          UnloadedEvidence job db observation)) := by
  obtain ⟨job, payload, payloadHash, o, hjob, hobserve, hresults, hstatus⟩ := submitResult_ok h
  obtain ⟨pending, input, hremote, hreclassified, hinput, hisp⟩ := observe_loads hobserve
  obtain ⟨observation, hobservation, hconclusive⟩ :=
    conclusive_iff_loaded hinput hremote hreclassified
  have hwritten : ispStatus db' job.domainId = some .highConfidenceBlock ↔
      LoadedEvidence settings call job db observation o.result := by
    rw [hstatus, Option.some.injEq, hisp, classify_high_iff, hconclusive]
  refine ⟨job, observation, o.result, hjob, hobservation, hresults, hwritten, ?_⟩
  rw [hwritten]
  constructor
  · intro hfull hloaded
    exact (full_iff_unloaded hloaded).mp (hfull hloaded)
  · intro hunloaded hloaded
    exact (full_iff_unloaded hloaded).mpr (hunloaded hloaded)

/-! ### A firewall in front of the pinned path

    Three local failures at the TCP stage in three buckets, and two remote
    successes with one body. The path pinned to the DoH answer is refused, or is
    answered 403. -/

def bodyAttempt : Httpcheck.Attempt :=
  { sampleAttempt with content := { status := .validHTML, bodySHA256 := List.replicate 32 7 } }

def refusedAttempt : Httpcheck.Attempt where
  attempt := 1
  requestURL := lit "https://example.com/"
  errorCode := some .tcpRefused
  checkedAt := second

def forbiddenAttempt : Httpcheck.Attempt where
  attempt := 1
  requestURL := lit "https://example.com/"
  initialStatusCode := 403
  finalStatusCode := 403
  errorCode := some .httpClientError
  checkedAt := second

def refusedCheck : HTTPCheckRow where
  row := ⟨httpCheckColumns .https .dohPinned refusedAttempt, by decide +kernel, by decide +kernel⟩
  redirectHops := []
  tlsCheck := none

def forbiddenCheck : HTTPCheckRow where
  row := ⟨httpCheckColumns .https .dohPinned forbiddenAttempt, by decide +kernel,
    by decide +kernel⟩
  redirectHops := []
  tlsCheck := none

def bodyCheck : HTTPCheckRow where
  row := ⟨httpCheckColumns .https .remoteSystem bodyAttempt, by decide +kernel, by decide +kernel⟩
  redirectHops := []
  tlsCheck := none

def dohCheckColumns : DNSCheckColumns where
  resolverType := .cloudflareDoH
  endpoint := lit "https://cloudflare-dns.com/dns-query"
  queryName := lit "example.com"
  queryType := .a
  attemptNo := 1
  rcode := some (lit "NOERROR")
  truncated := false
  authoritative := false
  durationUs := 0
  errorCode := none
  errorMessage := none
  transport := "https"
  checkedAt := second

def dohCheck : DNSCheckRow where
  row := ⟨dohCheckColumns, by decide +kernel, by decide +kernel⟩
  answers := [⟨⟨0, lit "example.com", .a, lit "192.0.2.1", 60⟩, by decide +kernel, by decide +kernel⟩]

def failureColumns (id runId : UUID) (checkedAt : Int) : ResultColumns where
  id := id
  runId := runId
  domainId := 1
  vantage := .localPrimary
  observed := { Statuses.unknown with availability := .unavailable }
  initialHTTP := none
  finalHTTP := none
  finalTarget := none
  failureStage := some (lit "tcp")
  errorCode := some (lit "TCP_REFUSED")
  errorMessage := none
  confidence := 90
  confidenceLevel := .high
  policyVersion := "v1"
  checkedAt := checkedAt
  completedAt := some checkedAt

def successColumns : ResultColumns :=
  { failureColumns 14 8 (-6 * minute) with
    vantage := .remote 5, observed := { Statuses.unknown with availability := .active }
    failureStage := none, errorCode := none }

def localFailure : Row ResultColumns.Checks ResultColumns.texts :=
  ⟨failureColumns 11 7 second, by decide +kernel, by decide +kernel⟩

/-- The results, with what the pinned path of the last run saw. -/
def blockResults (pinned : HTTPCheckRow) : List ResultRow :=
  [⟨localFailure, [dohCheck], [pinned], []⟩,
   ⟨⟨failureColumns 12 8 (-6 * minute), by decide +kernel, by decide +kernel⟩, [dohCheck], [], []⟩,
   ⟨⟨failureColumns 13 9 (-12 * minute), by decide +kernel, by decide +kernel⟩, [], [], []⟩,
   ⟨⟨successColumns, by decide +kernel, by decide +kernel⟩, [], [bodyCheck], []⟩]

def blockDB (pinned : HTTPCheckRow) : DB :=
  { sampleTables with
    monitor := { sampleDB with
      runs := { rows := [sampleRun, { sampleRun with id := 8 }, { sampleRun with id := 9 }]
                nodup := by decide }
      results := blockResults pinned } }

def blockLibrary : Library :=
  { sampleLibrary with
    crypto := { sampleLibrary.crypto with
      unmarshal := fun _ => some { samplePayload with http := { https := [bodyAttempt] } } } }

/-- Both paths are refused: the verdict rests on full evidence. -/
theorem high_confidence_block_refused :
    ∃ db' decision, submitResult blockLibrary defaultSettings sampleSubmit (blockDB refusedCheck) =
        .ok (db', decision) ∧
      ispStatus db' 1 = some .highConfidenceBlock ∧
      ∃ observation received,
        FullEvidence defaultSettings sampleSubmit sampleJob (blockDB refusedCheck) observation
          received := by
  obtain ⟨⟨db', decision⟩, h, hstatus⟩ := exists_ok_of_any (by decide +kernel :
    (submitResult blockLibrary defaultSettings sampleSubmit (blockDB refusedCheck)).toOption.any
      (fun r => ispStatus r.1 1 = some .highConfidenceBlock) = true)
  have hstatus := of_decide_eq_true hstatus
  refine ⟨db', decision, h, hstatus, ?_⟩
  obtain ⟨job, observation, received, hjob, hobservation, -, -, hiff⟩ := high_confidence_block_iff h
  have hsample : job = sampleJob := Option.some.inj (hjob.symm.trans rfl)
  subst hsample
  have hfirst : (blockResults refusedCheck).head? = some observation := hobservation
  cases hfirst
  refine ⟨_, received, hiff.mpr ?_ hstatus⟩
  intro _
  refine ⟨.inl rfl, ⟨refusedCheck.row.columns, rfl, by decide +kernel, by decide +kernel⟩,
    ⟨sampleNode, rfl, rfl⟩, ?_⟩
  intro c hc code hcode
  rw [List.mem_singleton.mp hc] at hcode
  cases hcode

/-- The pinned path is answered 403, at another stage than the system path failed:
    the verdict is the same. -/
theorem forbidden_reported_as_block :
    ∃ db' decision, submitResult blockLibrary defaultSettings sampleSubmit (blockDB forbiddenCheck) =
        .ok (db', decision) ∧
      ispStatus db' 1 = some .highConfidenceBlock ∧
      ∃ observation, localObservation (blockDB forbiddenCheck).monitor.results 7 = some observation ∧
        observation.row.columns.failureStage = some (lit "tcp") ∧
        (pinnedCheck observation).map (fun c => (pinnedStage c, c.finalStatusCode)) =
          some ("http", some 403) ∧
        ∀ received, ¬ FullEvidence defaultSettings sampleSubmit sampleJob (blockDB forbiddenCheck)
          observation received := by
  obtain ⟨⟨db', decision⟩, h, hstatus⟩ := exists_ok_of_any (by decide +kernel :
    (submitResult blockLibrary defaultSettings sampleSubmit (blockDB forbiddenCheck)).toOption.any
      (fun r => ispStatus r.1 1 = some .highConfidenceBlock) = true)
  refine ⟨db', decision, h, of_decide_eq_true hstatus, _, rfl, rfl, by decide +kernel, ?_⟩
  intro received hfull
  exact hfull.unexplained.2 forbiddenCheck List.mem_cons_self 403 rfl (.inl rfl)

end DomainMonitor.Probe
