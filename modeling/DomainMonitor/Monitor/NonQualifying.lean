import DomainMonitor.Monitor.Incidents

/-! # Runs that do not qualify

    A manual run, or a run that observed nothing conclusive, is meant to leave
    the effective state of its domain alone. `Advance` does return the stored
    state for such a run, but failure stage and error code are not part of its
    input: it returns them empty, and the `UPDATE` that follows writes every
    column back. So the frame holds exactly for domains without a stored
    failure.
-/

namespace DomainMonitor.Monitor

open Classification

/-- A manual run, or one whose observation is `UNKNOWN`. -/
def NonQualifying (run : Run) (decision : Decision) : Prop :=
  run.triggerType = .manual ∨ decision.availability = .unknown

/-- Only `last_checked_at`, the evidence and the run itself differ: every other
    column of every domain, the status history and the incidents are as before. -/
def OnlyEvidenceChanged (db db' : DB) : Prop :=
  (∀ d domain, db.domains.get? d = some domain →
    ∃ checked, db'.domains.get? d = some { domain with lastCheckedAt := checked }) ∧
  db'.history = db.history ∧ db'.incidents = db.incidents ∧
  db'.schedules = db.schedules ∧ db'.outbox = db.outbox

section

variable {cfg : Config} {call : CompleteCall} {execution : Execution} {evidence : Evidence}
  {db db' : DB} {domain : Domain}

/-- `Advance` carries the stored state over. -/
theorem effectiveState_nonQualifying (h : NonQualifying execution.run evidence.decision) :
    effectiveState cfg domain execution.run evidence.decision =
      (effectiveInput cfg domain execution.run evidence.decision).carried := by
  apply advance_carried
  rcases h with h | h
  · exact .inl (decide_eq_false (not_not_intro h))
  · exact .inr h

/-- No incident is opened, updated or closed. -/
theorem stepIncidents_nonQualifying (h : NonQualifying execution.run evidence.decision)
    {effective : EffectiveState} {incidents incidents' : Incidents}
    (hstep : stepIncidents cfg call execution.run evidence effective incidents = .ok incidents') :
    incidents' = incidents := by
  rcases stepIncidents_ok hstep with ⟨-, hsame⟩ | ⟨hq, hout⟩
  · exact hsame
  · -- The run is not manual, so the observation is inconclusive.
    have hunknown := h.resolve_left hq
    cases hout with
    | inconclusive => rfl
    | healthy _ hdec | recovering _ _ hdec | resolved _ _ hdec =>
      exact absurd (hunknown.symm.trans hdec) (by decide)
    | tolerated _ hdec | failedAgain _ _ _ _ hdec | opened _ _ _ _ _ hdec =>
      rcases hdec with hdec | hdec <;> exact absurd (hunknown.symm.trans hdec) (by decide)

/-- What a commit of a run that does not qualify writes: the stored state, with
    failure stage and error code cleared. -/
theorem completeRun_nonQualifying (h : NonQualifying execution.run evidence.decision)
    (hdomain : db.domains.get? execution.run.domainId = some domain)
    (hcommit : completeRun cfg call execution evidence db = .ok db') :
    (∀ d, db'.domains.get? d = if d = execution.run.domainId then
        some { domain with
          failureStage := none, errorCode := none
          lastCheckedAt := some (call.checkedAt evidence) }
      else db.domains.get? d) ∧
    db'.history = db.history ∧ db'.incidents = db.incidents ∧
    db'.schedules = db.schedules ∧ db'.outbox = db.outbox := by
  obtain ⟨p, hp, rfl⟩ := completeRun_ok_iff.mp hcommit
  obtain rfl : p.domain = domain := Option.some.inj (hp.domain.symm.trans hdomain)
  have heff : effectiveState cfg p.domain execution.run evidence.decision =
      (effectiveInput cfg p.domain execution.run evidence.decision).carried :=
    effectiveState_nonQualifying h
  obtain ⟨stage, code, hstage, hcode, -, hdomains⟩ := updateDomain?_some hp.domain hp.domains
  rw [heff] at hstage hcode hdomains
  obtain rfl : none = stage := Option.some.inj hstage
  obtain rfl : none = code := Option.some.inj hcode
  refine ⟨?_, ?_, stepIncidents_nonQualifying h hp.incidents, rfl, rfl⟩
  · intro d
    show p.domains.get? d = _
    rw [hdomains, KeyedTable.get?_modify]
    by_cases hd : d = execution.run.domainId
    · rw [if_pos hd, if_pos hd, hd, hdomain]
      rfl
    · rw [if_neg hd, if_neg hd]
  · have hhistory := hp.history
    rw [heff] at hhistory
    obtain hnil : [] = p.history := Except.ok.inj hhistory
    show db.history ++ p.history = db.history
    rw [← hnil, List.append_nil]

/-- **Frame of a run that does not qualify**: its commit leaves the effective
    state, the history and the incidents alone if and only if the domain has
    neither a stored failure stage nor a stored error code. -/
theorem nonQualifying_frame_iff (h : NonQualifying execution.run evidence.decision)
    (hdomain : db.domains.get? execution.run.domainId = some domain)
    (hcommit : completeRun cfg call execution evidence db = .ok db') :
    OnlyEvidenceChanged db db' ↔ domain.failureStage = none ∧ domain.errorCode = none := by
  obtain ⟨hdomains, hhistory, hincidents, hschedules, houtbox⟩ :=
    completeRun_nonQualifying h hdomain hcommit
  constructor
  · rintro ⟨hsame, -⟩
    obtain ⟨checked, hnew⟩ := hsame _ domain hdomain
    rw [hdomains, if_pos rfl] at hnew
    have heq := Option.some.inj hnew
    exact ⟨congrArg Domain.failureStage heq.symm, congrArg Domain.errorCode heq.symm⟩
  · rintro ⟨hstage, hcode⟩
    refine ⟨?_, hhistory, hincidents, hschedules, houtbox⟩
    intro d e he
    by_cases hd : d = execution.run.domainId
    · obtain rfl : domain = e := Option.some.inj (hdomain.symm.trans (hd ▸ he))
      refine ⟨some (call.checkedAt evidence), ?_⟩
      rw [hdomains, if_pos hd]
      cases domain
      cases hstage
      cases hcode
      rfl
    · refine ⟨e.lastCheckedAt, ?_⟩
      rw [hdomains, if_neg hd, he]

end

/-! ### A manual check of a degraded domain -/

def sampleManualRun : Run :=
  { sampleRun with triggerType := .manual, requestedBy := some 5 }

/-- The new domain with the manual run in progress. -/
def sampleManualDB : DB :=
  { sampleDB with runs := { rows := [sampleManualRun], nodup := by decide } }

/-- The same after one refused connection. -/
def sampleDegradedDB : DB :=
  { sampleManualDB with
    domains :=
      { rows := [{ sampleDomain with
          current := { Statuses.unknown with availability := .degraded }
          failureStreak := 1
          failureStage := some ⟨lit "tcp", by decide⟩
          errorCode := some ⟨lit "TCP_REFUSED", by decide⟩ }]
        nodup := by decide } }

def sampleManualExecution : Execution := { sampleExecution with run := sampleManualRun }

def sampleManualCommit (db : DB) : Except CompleteError DB :=
  completeRun defaultConfig
    { startedAt := 6 * second, goNow := 6 * second, resultID := 1, incidentID := 1 }
    sampleManualExecution sampleOutage db

theorem sampleManual_nonQualifying :
    NonQualifying sampleManualExecution.run sampleOutage.decision := .inl rfl

/-- A new domain has no stored failure, so its manual check is framed. -/
theorem nonQualifying_frame_new_domain :
    ∃ db', sampleManualCommit sampleManualDB = .ok db' ∧
      OnlyEvidenceChanged sampleManualDB db' := by
  have hok : (sampleManualCommit sampleManualDB).isOk = true := by decide
  cases hcommit : sampleManualCommit sampleManualDB with
  | error e => rw [hcommit] at hok; cases hok
  | ok db' =>
    have hdomain : sampleManualDB.domains.get? sampleManualExecution.run.domainId =
        some sampleDomain := rfl
    have hframe := (nonQualifying_frame_iff sampleManual_nonQualifying hdomain hcommit).mpr
      ⟨rfl, rfl⟩
    exact ⟨db', rfl, hframe⟩

/-- The manual check of the degraded domain commits and erases the failure stage
    and the error code that the scheduled run had stored. -/
theorem manual_run_erases_stored_failure :
    ∃ db', sampleManualCommit sampleDegradedDB = .ok db' ∧
      (sampleDegradedDB.domains.get? 1).map Domain.errorCode =
        some (some ⟨lit "TCP_REFUSED", by decide⟩) ∧
      (db'.domains.get? 1).map Domain.errorCode = some none ∧
      ¬ OnlyEvidenceChanged sampleDegradedDB db' := by
  have hok : (sampleManualCommit sampleDegradedDB).isOk = true := by decide
  cases hcommit : sampleManualCommit sampleDegradedDB with
  | error e => rw [hcommit] at hok; cases hok
  | ok db' =>
    obtain ⟨hdomains, -⟩ := completeRun_nonQualifying sampleManual_nonQualifying rfl hcommit
    have hnew := hdomains 1
    rw [if_pos (show 1 = sampleManualExecution.run.domainId from rfl)] at hnew
    refine ⟨db', rfl, rfl, by rw [hnew]; rfl, ?_⟩
    rintro ⟨hsame, -⟩
    obtain ⟨checked, hkept⟩ := hsame 1 _ rfl
    rw [hnew] at hkept
    have hcode := congrArg Domain.errorCode (Option.some.inj hkept)
    cases hcode

end DomainMonitor.Monitor
