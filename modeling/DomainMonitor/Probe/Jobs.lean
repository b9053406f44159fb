import DomainMonitor.Lib.Transition
import DomainMonitor.Probe.Results

/-! # The jobs of remote probes (`internal/probe/jobs.go`, `auth.go`, `results.go`)

    `DispatchPending` issues a job for a run, `Claim` leases it to its probe,
    `SubmitResult` completes it and `Revoke` cancels what a probe has left.

    The system runs the statements of these transactions one by one, in any order
    and with any clocks. A row stays locked from the statement that writes it to the
    end of its transaction, so each statement finds a job as the last commit left it.
    What was read without a lock may be outdated: a job is issued for any candidate,
    and a result is classified on any snapshot.
-/

namespace DomainMonitor.Probe

open Monitor

/-! ### Statements -/

/-- `status IN ('queued','leased')`. -/
def Job.isOpen (job : Job) : Bool := job.status = .queued || job.status = .leased

/-- The `UPDATE`s of `remote_probe_jobs`, but for the one of `SubmitResult`. -/
inductive Update where
  /-- `DispatchPending` expires the jobs of all probes, `Claim` those of one. -/
  | expire (probe : Option UUID) (now : Int)
  | requeue (probe : UUID) (now : Int)
  | lease (id : UUID) (goNow jobLease : Int)
  | cancel (probe : UUID)

/-- The `WHERE` clause. -/
def Update.selects (job : Job) : Update → Bool
  | .expire probe now => probe.all (job.probeId = ·) && job.isOpen && job.expiresAt ≤ now
  | .requeue probe now => job.probeId = probe && job.status = .leased &&
      job.leaseUntil.any (· ≤ now) && now < job.expiresAt && job.attempts < 20
  | .lease id _ _ => job.id = id && job.status = .queued
  | .cancel probe => job.probeId = probe && job.isOpen

/-- The `SET` clause. `Claim` computes the end of a lease from the `expires_at` it
    has read under the lock of the row. -/
def Update.set (job : Job) : Update → Job
  | .expire _ _ => { job with status := .expired, lastErrorCode := some "PROBE_JOB_EXPIRED" }
  | .requeue _ _ => { job with status := .queued, claimedAt := none, leaseUntil := none }
  | .lease _ goNow jobLease =>
    { job with
      status := .leased
      claimedAt := some (timestamptz goNow)
      leaseUntil := some (timestamptz (min (goNow + jobLease) job.expiresAt))
      attempts := job.attempts + 1 }
  | .cancel _ => { job with status := .cancelled, lastErrorCode := some "PROBE_REVOKED" }

theorem Update.set_id (u : Update) (job : Job) : (u.set job).id = job.id := by
  cases u <;> rfl

/-- The statement fails when one of the new rows violates a constraint. -/
def Update.exec (u : Update) (jobs : KeyedTable Job.id) : Option (KeyedTable Job.id) :=
  if ∀ job ∈ jobs.rows, u.selects job → (u.set job).Checks then
    some (jobs.updateWhere (fun job => u.selects job) (fun job => u.set job) u.set_id)
  else none

variable (lib : Library) (settings : Settings)

/-- The row `DispatchPending` inserts for a candidate, with the id and the nonce it
    has drawn. -/
def newJob (goNow : Int) (id : UUID) (nonce : GoString) (probe : Node) (run : Run) : Job where
  id := id
  runId := run.id
  domainId := run.domainId
  probeId := probe.id
  status := .queued
  policyVersion := run.policyVersion
  nonce := nonce
  issuedAt := timestamptz goNow
  expiresAt := timestamptz (goNow + settings.jobTTL)
  claimedAt := none
  leaseUntil := none
  attempts := 0
  completedAt := none
  lastErrorCode := none

/-- `INSERT INTO remote_probe_jobs` with its keys and references. -/
def insertJob (db : DB) (job : Job) : Option DB :=
  if ¬ job.Checks ∨ (db.monitor.runs.get? job.runId).isNone ∨
      (db.monitor.domains.get? job.domainId).isNone ∨ (db.nodes.get? job.probeId).isNone ∨
      db.jobs.any (fun j => j.nonce = job.nonce || j.runId = job.runId && j.probeId = job.probeId) then
    none
  else (db.jobs.insert job).map (fun jobs => { db with jobs })

/-! ### The system -/

inductive JobStatement where
  | update (u : Update)
  | insert
  | submit (call : SubmitCall)
  | elsewhere

inductive JobStep : DB → JobStatement → DB → Prop where
  | update {db : DB} {u : Update} {jobs : KeyedTable Job.id} (h : u.exec db.jobs = some jobs) :
      JobStep db (.update u) { db with jobs }
  | insert {db db' : DB} {goNow : Int} {id : UUID} {nonce : GoString} {probe : Node} {run : Run}
      (h : insertJob db (newJob settings goNow id nonce probe run) = some db') :
      JobStep db .insert db'
  -- The lock of the job is held from the checks on it to the commit.
  | submit {db seen db' : DB} {call : SubmitCall} {payload : Probeprotocol.ResultPayload}
      {payloadHash : List UInt8} {job : Job} {o : Observation} {previousISP : ISPStatus}
      (henvelope : checkEnvelope lib settings call = .ok (payload, payloadHash))
      (hjob : lockJob call payload db = .ok job)
      (ho : observe lib settings call job payload payloadHash seen = .ok o)
      (h : commitResult call o previousISP db = .ok db') : JobStep db (.submit call) db'
  | elsewhere {db db' : DB} (hjobs : db'.jobs = db.jobs)
      (hresults : db'.remoteResults = db.remoteResults) : JobStep db .elsewhere db'

def jobSystem : LTS.System DB JobStatement where
  init := fun db => db.jobs.rows = [] ∧ db.remoteResults = []
  step := JobStep lib settings

variable {lib settings} {db db' : DB} {job : Job} {u : Update} {l : JobStatement}

/-! ### What a statement does to a job -/

/-- The number of results accepted for a job. -/
def DB.accepted (db : DB) (id : UUID) : Nat :=
  db.remoteResults.countP (fun r => r.columns.jobId = id)

/-- The row under an id before and after a statement, and the number of results it
    accepts for it. -/
inductive Change : Option Job → Option Job → Nat → Prop where
  | same (o : Option Job) : Change o o 0
  | issue {job : Job} (hchecks : job.Checks) (hstatus : job.status = .queued)
      (hattempts : job.attempts = 0) : Change none (some job) 0
  | update {job : Job} {u : Update} (h : u.selects job = true) : Change (some job) (some (u.set job)) 0
  | complete {job : Job} {now : Int} (hleased : job.status = .leased)
      (hchecks : (job.complete now).Checks) : Change (some job) (some (job.complete now)) 1

theorem Update.exec_change {jobs jobs' : KeyedTable Job.id} (h : u.exec jobs = some jobs') (id : UUID) :
    Change (jobs.get? id) (jobs'.get? id) 0 := by
  unfold Update.exec at h
  split at h
  · cases h
    rw [KeyedTable.get?_updateWhere]
    cases jobs.get? id with
    | none => exact .same none
    | some job =>
      rw [Option.map_some]
      split
      · exact .update ‹_›
      · exact .same _
  · cases h

theorem insertJob_change {goNow : Int} {id' : UUID} {nonce : GoString} {probe : Node} {run : Run}
    (h : insertJob db (newJob settings goNow id' nonce probe run) = some db') (id : UUID) :
    Change (db.jobs.get? id) (db'.jobs.get? id) 0 ∧ db'.remoteResults = db.remoteResults := by
  unfold insertJob at h
  split at h
  · cases h
  · rename_i hrefused
    obtain ⟨jobs, hjobs, rfl⟩ := Option.map_eq_some_iff.mp h
    refine ⟨?_, rfl⟩
    rw [KeyedTable.get?_insert hjobs]
    split
    · rename_i hid
      rw [hid, (KeyedTable.insert_eq_some hjobs).1]
      exact .issue (not_not.mp (not_or.mp hrefused).1) rfl rfl
    · exact .same _

theorem observe_jobId {call : SubmitCall} {payload : Probeprotocol.ResultPayload}
    {payloadHash : List UInt8} {o : Observation}
    (h : observe lib settings call job payload payloadHash db = .ok o) :
    o.remote.columns.jobId = call.jobID := by
  simp only [observe, except_bind_ok] at h
  obtain ⟨_, -, _, -, _, -, _, -, _, -, remote, hremote, _, -, _, -, h⟩ := h
  cases h
  rw [Row.insert?_some (orFail_ok.mp hremote)]
  rfl

theorem completeJob_ok {now : Int} {id : UUID} {jobs : KeyedTable Job.id}
    (h : completeJob now id db = .ok jobs) : ∃ job, db.jobs.get? id = some job ∧
      job.status = .leased ∧ (job.complete now).Checks ∧
      jobs = db.jobs.modify id (Job.complete now) (Job.complete_id now) := by
  unfold completeJob at h
  cases hget : db.jobs.get? id with
  | none => rw [hget] at h; cases h
  | some job =>
    rw [hget] at h
    dsimp only at h
    split at h
    · rw [orFail_ok, KeyedTable.update?_of_get? hget] at h
      split at h
      · cases h
        exact ⟨job, rfl, ‹_›, ‹_›, rfl⟩
      · cases h
    · cases h

/-- **Inversion**, for every statement and every job. -/
theorem JobStep.change (h : JobStep lib settings db l db') (id : UUID) :
    ∃ n, Change (db.jobs.get? id) (db'.jobs.get? id) n ∧ db'.accepted id = db.accepted id + n := by
  cases h with
  | update h => exact ⟨0, Update.exec_change h id, rfl⟩
  | insert h =>
    obtain ⟨hchange, hresults⟩ := insertJob_change h id
    exact ⟨0, hchange, by rw [DB.accepted, hresults]; rfl⟩
  | @submit _ _ call _ _ _ o _ henvelope hlock ho h =>
    simp only [commitResult, except_bind_ok] at h
    obtain ⟨-, -, _, -, jobs, hjobs, h⟩ := h
    cases h
    obtain ⟨job, hget, hleased, hchecks, rfl⟩ := completeJob_ok hjobs
    refine ⟨if call.jobID = id then 1 else 0, ?_, ?_⟩
    · rw [KeyedTable.get?_modify]
      by_cases hid : id = call.jobID
      · rw [if_pos hid, if_pos hid.symm, hid, hget]
        exact .complete hleased hchecks
      · rw [if_neg hid, if_neg (Ne.symm hid)]
        exact .same _
    · simp [DB.accepted, List.countP_append, List.countP_singleton, observe_jobId ho]
  | elsewhere hjobs hresults => exact ⟨0, hjobs ▸ .same _, by rw [DB.accepted, hresults]; rfl⟩

/-! ### Invariants -/

/-- What holds of every stored job. -/
structure Job.Sound (job : Job) : Prop where
  checks : job.Checks
  queued : job.status = .queued → job.attempts < 20
  leased : job.status = .leased → ∃ lease, job.leaseUntil = some lease ∧ lease ≤ job.expiresAt

/-- No `UPDATE` selects a job that was completed, expired or cancelled. -/
theorem Update.isOpen_of_selects (h : u.selects job = true) : job.isOpen = true := by
  cases u <;> simp_all [Update.selects, Job.isOpen]

theorem Update.not_completed (h : u.selects job = true) :
    job.status ≠ .completed ∧ (u.set job).status ≠ .completed := by
  have hopen := Update.isOpen_of_selects h
  constructor
  · intro hstatus
    simp [Job.isOpen, hstatus] at hopen
  · cases u <;> simp [Update.set]

theorem Job.Sound.update (hs : job.Sound) (h : u.selects job = true) : (u.set job).Sound := by
  obtain ⟨⟨hlow, hhigh, htimes, hclaimed, hcompleted⟩, hqueued, -⟩ := hs
  have hnone : job.completedAt = none :=
    not_not.mp (mt hcompleted.mpr (Update.not_completed h).1)
  cases u with
  | expire | cancel =>
    exact ⟨⟨hlow, hhigh, htimes, hclaimed, by simp [Update.set, hnone]⟩, by simp [Update.set],
      by simp [Update.set]⟩
  | requeue =>
    simp only [Update.selects, Bool.and_eq_true, decide_eq_true_eq] at h
    exact ⟨⟨hlow, hhigh, htimes, .inl rfl, by simp [Update.set, hnone]⟩, fun _ => h.2,
      by simp [Update.set]⟩
  | lease id goNow jobLease =>
    -- Only queued jobs are leased, and these have attempts left.
    simp only [Update.selects, Bool.and_eq_true, decide_eq_true_eq] at h
    have hleft := hqueued h.2
    refine ⟨⟨?_, ?_, htimes, by simp [Update.set], by simp [Update.set, hnone]⟩, by simp [Update.set],
      fun _ => ⟨_, rfl, (timestamptz_le _).trans (min_le_right _ _)⟩⟩
    · show 0 ≤ job.attempts + 1
      omega
    · show job.attempts + 1 ≤ 20
      omega

/-- A job is completed exactly when a result was accepted for it, and then by one. -/
structure JobsSound (db : DB) : Prop where
  sound : ∀ id job, db.jobs.get? id = some job → job.Sound
  results : ∀ id, db.accepted id =
    if (db.jobs.get? id).any (fun job => job.status = .completed) then 1 else 0

theorem JobsSound.step (hdb : JobsSound db) (h : JobStep lib settings db l db') : JobsSound db' := by
  constructor
  · intro id job' hget'
    obtain ⟨n, hchange, -⟩ := h.change id
    rw [hget'] at hchange
    generalize hget : db.jobs.get? id = before at hchange
    cases hchange with
    | same => exact hdb.sound id job' hget
    | issue hchecks hstatus hattempts =>
      exact ⟨hchecks, fun _ => by omega, fun hleased => by simp [hstatus] at hleased⟩
    | update hselects => exact (hdb.sound id _ hget).update hselects
    | complete hleased hchecks => exact ⟨hchecks, by simp [Job.complete], by simp [Job.complete]⟩
  · intro id
    obtain ⟨n, hchange, haccepted⟩ := h.change id
    rw [haccepted, hdb.results id]
    generalize db.jobs.get? id = before at hchange
    generalize db'.jobs.get? id = after at hchange
    cases hchange with
    | same => rfl
    | issue hchecks hstatus hattempts => simp [hstatus]
    | update hselects => simp [Update.not_completed hselects]
    | complete hleased hchecks => simp [hleased, Job.complete]

theorem jobsSound_reachable (h : (jobSystem lib settings).Reachable db) : JobsSound db := by
  refine LTS.System.invariant (P := JobsSound) ?_ (fun _ _ _ hdb hl => hdb.step hl) h
  rintro db ⟨hjobs, hresults⟩
  have hnone : ∀ id, db.jobs.get? id = none := by
    intro id
    rw [KeyedTable.get?, hjobs, List.find?_nil]
  constructor
  · simp [hnone]
  · simp [hnone, DB.accepted, hresults]

/-- A job that is neither queued nor leased keeps its row. -/
theorem closed_step {id : UUID} (hclosed : job.isOpen = false)
    (h : JobStep lib settings db l db') (hget : db.jobs.get? id = some job) :
    db'.jobs.get? id = some job := by
  obtain ⟨n, hchange, -⟩ := h.change id
  rw [hget] at hchange
  generalize db'.jobs.get? id = after at hchange
  cases hchange with
  | same => rfl
  | update hselects =>
    rw [Update.isOpen_of_selects hselects] at hclosed
    cases hclosed
  | complete hleased hchecks => simp [Job.isOpen, hleased] at hclosed

/-- A call of `SubmitResult` that runs alone is a step of the system. -/
theorem submitResult_step {call : SubmitCall} {isp : Ispclass.Decision}
    (h : submitResult lib settings call db = .ok (db', isp)) :
    JobStep lib settings db (.submit call) db' := by
  simp only [submitResult, except_bind_ok] at h
  obtain ⟨_, henvelope, _, hlock, _, ho, _, -, _, hcommit, h⟩ := h
  cases h
  exact .submit henvelope hlock ho hcommit

end DomainMonitor.Probe
