import DomainMonitor.Config
import DomainMonitor.Monitor.Schema

/-! # Claiming a run (`internal/monitor/store.go`)

    `ClaimExecution` as one atomic transaction. The run row is locked by
    `SELECT ... FOR UPDATE`; what the transaction then does depends on three
    clocks: the worker's `s.now()`, the database's `now()` (the start of the
    transaction, at microsecond precision), and the heartbeats other workers
    left in the table.
-/

namespace DomainMonitor.Monitor

/-! ### Row updates -/

/-- The row update of a run that is past its deadline. -/
def Run.expire (now : Int) (run : Run) : Run :=
  { run with
    status := .failed
    completedAt := some now
    lastErrorCode := some "RUN_DEADLINE_EXCEEDED"
    lastErrorMessage := some "Monitoring run expired before execution could complete."
    workerId := none
    heartbeatAt := none }

/-- The row update of a run that was claimed too often. Unlike expiry it keeps
    the worker and the heartbeat. -/
def Run.exhaust (now : Int) (run : Run) : Run :=
  { run with
    status := .failed
    completedAt := some now
    lastErrorCode := some "JOB_DELIVERY_ATTEMPTS_EXHAUSTED"
    lastErrorMessage := some "Monitoring worker delivery attempts were exhausted." }

/-- The row update of a successful claim. -/
def Run.claim (now : Int) (worker : WorkerID) (run : Run) : Run :=
  { run with
    status := .running
    startedAt := run.startedAt.or (some now)
    workerId := some worker
    heartbeatAt := some now
    executionAttempts := run.executionAttempts + 1
    lastErrorCode := none
    lastErrorMessage := none }

@[simp] theorem Run.expire_id (now : Int) (run : Run) : (run.expire now).id = run.id := rfl

@[simp] theorem Run.exhaust_id (now : Int) (run : Run) : (run.exhaust now).id = run.id := rfl

@[simp] theorem Run.claim_id (now : Int) (worker : WorkerID) (run : Run) :
    (run.claim now worker).id = run.id := rfl

/-! ### Guards -/

/-- `status = 'completed' OR status = 'cancelled'`: nothing left to claim. -/
def Run.isSettled (run : Run) : Bool :=
  run.status = .completed || run.status = .cancelled

variable (cfg : Config) (call : ClaimCall) (db : DB)

/-- The run's own lease, on the worker's clock and at full precision. -/
def Run.leaseHeld (goNow : Int) (run : Run) : Bool :=
  run.status = .running && run.heartbeatAt.any (fun h => h > goNow - cfg.monitorQueueLease)

/-- `heartbeat_at > now() - ($3 * interval '1 millisecond')`: the lease of
    another run, on the database's clock and in whole milliseconds. -/
def Run.holdsDomain (now : Int) (run : Run) : Bool :=
  run.status = .running &&
    run.heartbeatAt.any (fun h => h > now - milliseconds cfg.monitorQueueLease * millisecond)

/-- `EXISTS (SELECT 1 FROM monitoring_runs WHERE domain_id = $1 AND id <> $2 ...)`. -/
def DB.anotherRunActive (now : Int) (db : DB) (run : Run) : Bool :=
  db.runs.any (fun o => o.domainId = run.domainId && o.id ≠ run.id && o.holdsDomain cfg now)

/-! ### ClaimExecution -/

inductive ClaimError where
  | runNotFound | runCompleted | runExpired | runBusy
  /-- An `UPDATE` was refused by the database and the transaction rolled back. -/
  | expireRun | failExhaustedRun | claimRun
  deriving DecidableEq, Repr

/-- One call of `ClaimExecution`. -/
structure ClaimCall where
  runID : UUID
  workerID : WorkerID
  /-- The database clock when the transaction began. -/
  startedAt : Int
  /-- What `s.now()` returned to the worker. -/
  goNow : Int
  /-- What `pg_try_advisory_xact_lock` returned. -/
  domainClaimed : Bool
  deriving DecidableEq, Repr

/-- SQL `now()` throughout the transaction. -/
def ClaimCall.now : Int := timestamptz call.startedAt

/-- The execution handed to the worker. -/
def newExecution (run : Run) (domain : Domain) : Execution where
  run := { run with status := .running, executionAttempts := run.executionAttempts + 1 }
  target := domain.target

/-- An `UPDATE` followed by `COMMIT`: a refused update rolls back. -/
def DB.commitUpdate (id : UUID) (f : Run → Run) (hf : ∀ r, (f r).id = r.id) (refused : ClaimError)
    (result : Except ClaimError Execution) : DB × Except ClaimError Execution :=
  match db.runs.update? Run.Checks id f hf with
  | none => (db, .error refused)
  | some runs => ({ db with runs }, result)

/-- `ClaimExecution`: the database after the transaction, and what the worker
    gets back. Both failure updates commit and still return `ErrRunExpired`. -/
def claimExecution : DB × Except ClaimError Execution :=
  match db.runs.get? call.runID with
  | none => (db, .error .runNotFound)
  | some run =>
    -- The SELECT joins `domains`: without the domain there is no row either.
    match db.domains.get? run.domainId with
    | none => (db, .error .runNotFound)
    | some domain =>
      if run.isSettled then (db, .error .runCompleted)
      else if run.deadlineAt ≤ call.goNow then
        db.commitUpdate run.id (Run.expire call.now) (Run.expire_id _) .expireRun (.error .runExpired)
      else if run.leaseHeld cfg call.goNow then (db, .error .runBusy)
      else if !call.domainClaimed then (db, .error .runBusy)
      else if db.anotherRunActive cfg call.now run then (db, .error .runBusy)
      else if run.executionAttempts ≥ cfg.outboxMaxAttempts then
        db.commitUpdate run.id (Run.exhaust call.now) (Run.exhaust_id _) .failExhaustedRun
          (.error .runExpired)
      else
        db.commitUpdate run.id (Run.claim call.now call.workerID) (Run.claim_id _ _) .claimRun
          (.ok (newExecution run domain))

/-- `Execute` returns nil, so that the consumer acknowledges the message, when
    the claim reports a completed or an expired run. -/
def acknowledgesClaimError : ClaimError → Bool
  | .runCompleted | .runExpired => true
  | _ => false

/-! ### What a claim can do -/

/-- The database after the row of `run` was rewritten by `f`. -/
def DB.setRun (id : UUID) (f : Run → Run) (hf : ∀ r, (f r).id = r.id) : DB :=
  { db with runs := db.runs.modify id f hf }

variable {db : DB} {id : UUID} {run : Run}

theorem DB.setRun_get? (hrun : db.runs.get? id = some run) (f : Run → Run)
    (hf : ∀ r, (f r).id = r.id) : (db.setRun id f hf).runs.get? id = some (f run) := by
  show (db.runs.modify id f hf).get? id = _
  rw [KeyedTable.get?_modify_self, hrun, Option.map_some]

theorem DB.setRun_get?_ne (db : DB) {id' : UUID} (f : Run → Run) (hf : ∀ r, (f r).id = r.id)
    (h : id' ≠ id) : (db.setRun id f hf).runs.get? id' = db.runs.get? id' :=
  KeyedTable.get?_modify_ne _ f hf h

/-- Every outcome of `ClaimExecution`: an error that leaves the database as it
    was, or one of the three committed updates. -/
inductive ClaimStep (db : DB) : DB × Except ClaimError Execution → Prop where
  | refused (e : ClaimError) (he : e ≠ .runExpired) : ClaimStep db (db, .error e)
  | expired (run : Run) (hrun : db.runs.get? call.runID = some run)
      (hdomain : (db.domains.get? run.domainId).isSome = true)
      (hsettled : run.isSettled = false) (hdeadline : run.deadlineAt ≤ call.goNow)
      (hchecks : (run.expire call.now).Checks) :
      ClaimStep db
        (db.setRun call.runID (Run.expire call.now) (Run.expire_id _), .error .runExpired)
  | exhausted (run : Run) (hrun : db.runs.get? call.runID = some run)
      (hdomain : (db.domains.get? run.domainId).isSome = true)
      (hsettled : run.isSettled = false) (hdeadline : call.goNow < run.deadlineAt)
      (hlease : run.leaseHeld cfg call.goNow = false)
      (hlock : call.domainClaimed = true)
      (hother : db.anotherRunActive cfg call.now run = false)
      (hattempts : cfg.outboxMaxAttempts ≤ run.executionAttempts)
      (hchecks : (run.exhaust call.now).Checks) :
      ClaimStep db
        (db.setRun call.runID (Run.exhaust call.now) (Run.exhaust_id _), .error .runExpired)
  | claimed (run : Run) (domain : Domain) (hrun : db.runs.get? call.runID = some run)
      (hdomain : db.domains.get? run.domainId = some domain)
      (hsettled : run.isSettled = false) (hdeadline : call.goNow < run.deadlineAt)
      (hlease : run.leaseHeld cfg call.goNow = false)
      (hlock : call.domainClaimed = true)
      (hother : db.anotherRunActive cfg call.now run = false)
      (hattempts : run.executionAttempts < cfg.outboxMaxAttempts)
      (hchecks : (run.claim call.now call.workerID).Checks) :
      ClaimStep db
        (db.setRun call.runID (Run.claim call.now call.workerID) (Run.claim_id _ _),
          .ok (newExecution run domain))

/-- A committed update rewrites exactly the row it names. -/
theorem commitUpdate_eq (db : DB) (hrun : db.runs.get? id = some run) (f : Run → Run)
    (hf : ∀ r, (f r).id = r.id) (refused : ClaimError) (result : Except ClaimError Execution) :
    db.commitUpdate id f hf refused result =
      if (f run).Checks then (db.setRun id f hf, result) else (db, .error refused) := by
  unfold DB.commitUpdate DB.setRun
  rw [KeyedTable.update?_of_get? hrun]
  by_cases h : (f run).Checks
  · rw [if_pos h, if_pos h]
  · rw [if_neg h, if_neg h]

theorem claimExecution_step (db : DB) : ClaimStep cfg call db (claimExecution cfg call db) := by
  have refused : ∀ e, e ≠ .runExpired → ClaimStep cfg call db (db, .error e) := .refused
  unfold claimExecution
  cases hrun : db.runs.get? call.runID with
  | none => exact refused .runNotFound (by decide)
  | some run =>
    have hid : run.id = call.runID := KeyedTable.key_of_get? hrun
    dsimp only
    cases hdomain : db.domains.get? run.domainId with
    | none => exact refused .runNotFound (by decide)
    | some domain =>
      have hsome : (db.domains.get? run.domainId).isSome = true := by rw [hdomain]; rfl
      simp only [hid, commitUpdate_eq db hrun]
      -- The guards in source order: each either refuses or is known to fail below.
      by_cases hsettled : run.isSettled = true
      · rw [if_pos hsettled]
        exact refused .runCompleted (by decide)
      rw [if_neg hsettled]
      rw [Bool.not_eq_true] at hsettled
      by_cases hdeadline : run.deadlineAt ≤ call.goNow
      · rw [if_pos hdeadline]
        split
        · exact .expired run hrun hsome hsettled hdeadline ‹_›
        · exact refused .expireRun (by decide)
      rw [if_neg hdeadline]
      by_cases hlease : run.leaseHeld cfg call.goNow = true
      · rw [if_pos hlease]
        exact refused .runBusy (by decide)
      rw [if_neg hlease]
      rw [Bool.not_eq_true] at hlease
      by_cases hlock : (!call.domainClaimed) = true
      · rw [if_pos hlock]
        exact refused .runBusy (by decide)
      rw [if_neg hlock]
      by_cases hother : db.anotherRunActive cfg call.now run = true
      · rw [if_pos hother]
        exact refused .runBusy (by decide)
      rw [if_neg hother]
      by_cases hattempts : run.executionAttempts ≥ cfg.outboxMaxAttempts
      · rw [if_pos hattempts]
        split
        · exact .exhausted run hrun hsome hsettled (by omega) hlease (by simpa using hlock)
            (by simpa using hother) hattempts ‹_›
        · exact refused .failExhaustedRun (by decide)
      · rw [if_neg hattempts]
        split
        · exact .claimed run domain hrun hdomain hsettled (by omega) hlease (by simpa using hlock)
            (by simpa using hother) (by omega) ‹_›
        · exact refused .claimRun (by decide)

/-- The claim of a run that is past its deadline, when the run and its domain exist. -/
theorem claimExecution_expired (hrun : db.runs.get? call.runID = some run)
    (hdomain : (db.domains.get? run.domainId).isSome = true)
    (hdeadline : run.deadlineAt ≤ call.goNow) :
    claimExecution cfg call db =
      if run.isSettled then (db, .error .runCompleted)
      else if (run.expire call.now).Checks then
        (db.setRun call.runID (Run.expire call.now) (Run.expire_id _), .error .runExpired)
      else (db, .error .expireRun) := by
  obtain ⟨domain, hdomain⟩ := Option.isSome_iff_exists.mp hdomain
  have hid : run.id = call.runID := KeyedTable.key_of_get? hrun
  unfold claimExecution
  rw [hrun]
  dsimp only
  rw [hdomain]
  dsimp only
  rw [if_pos hdeadline, hid, commitUpdate_eq db hrun]

section Alone

variable (cfg : Config) (call : ClaimCall) {domain : Domain}
  (hrun : db.runs.get? call.runID = some run)
  (hdomain : db.domains.get? run.domainId = some domain) (hsettled : run.isSettled = false)
  (hdeadline : call.goNow < run.deadlineAt) (hlease : run.leaseHeld cfg call.goNow = false)
  (hlock : call.domainClaimed = true) (hother : db.anotherRunActive cfg call.now run = false)

include hrun hdomain hsettled hdeadline hlease hlock hother

/-- A claim of a run that was claimed too often fails it. -/
theorem claimExecution_exhausts (hattempts : cfg.outboxMaxAttempts ≤ run.executionAttempts)
    (hchecks : (run.exhaust call.now).Checks) :
    claimExecution cfg call db =
      (db.setRun call.runID (Run.exhaust call.now) (Run.exhaust_id _), .error .runExpired) := by
  have hid : run.id = call.runID := KeyedTable.key_of_get? hrun
  unfold claimExecution
  rw [hrun]
  dsimp only
  rw [hdomain]
  dsimp only
  rw [if_neg (by simp [hsettled]), if_neg (by omega), if_neg (by simp [hlease]),
    if_neg (by simp [hlock]), if_neg (by simp [hother]), if_pos hattempts, hid,
    commitUpdate_eq db hrun, if_pos hchecks]

/-- A claim that passes every guard succeeds. -/
theorem claimExecution_claims (hattempts : run.executionAttempts < cfg.outboxMaxAttempts)
    (hchecks : (run.claim call.now call.workerID).Checks) :
    claimExecution cfg call db =
      (db.setRun call.runID (Run.claim call.now call.workerID) (Run.claim_id _ _),
        .ok (newExecution run domain)) := by
  have hid : run.id = call.runID := KeyedTable.key_of_get? hrun
  unfold claimExecution
  rw [hrun]
  dsimp only
  rw [hdomain]
  dsimp only
  rw [if_neg (by simp [hsettled]), if_neg (by omega), if_neg (by simp [hlease]),
    if_neg (by simp [hlock]), if_neg (by simp [hother]), if_neg (by omega), hid,
    commitUpdate_eq db hrun, if_pos hchecks]

end Alone

/-- The outcome of a call whose result is known. -/
theorem ClaimStep.of_eq {cfg : Config} {call : ClaimCall} {out : DB × Except ClaimError Execution}
    (h : claimExecution cfg call db = out) :
    ClaimStep cfg call db out :=
  h ▸ claimExecution_step cfg call db

end DomainMonitor.Monitor
