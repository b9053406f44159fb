import Mathlib.Data.List.Sort
import DomainMonitor.Config
import DomainMonitor.Monitor.Schema

/-! # Creating runs (`internal/monitor/scheduler.go`, `service.go`)

    The two ways a run comes into being: `ScheduleDue` turns due schedules into
    scheduled runs, and `createManualRun` queues a manual run under an
    idempotency key. Both insert with `ON CONFLICT (deduplication_key) DO
    NOTHING` and enqueue a job in the same transaction.
-/

namespace DomainMonitor.Monitor

/-! ### Inserting a run -/

variable (cfg : Config) (goNow : Int) (call : ScheduleCall) (db : DB)

/-- The row both functions insert. -/
def newRun (id domainId : UUID) (triggerType : TriggerType) (priority : Priority)
    (key : DeduplicationKey) (requestedBy : Option UUID) (scheduledFor goNow : Int) : Run where
  id := id
  domainId := domainId
  triggerType := triggerType
  status := .queued
  priority := priority
  deduplicationKey := key
  policyVersion := cfg.monitorPolicyVersion
  requestedBy := requestedBy
  scheduledFor := timestamptz scheduledFor
  deadlineAt := timestamptz (goNow + cfg.monitorRunTimeout)
  startedAt := none
  completedAt := none
  lastErrorCode := none
  lastErrorMessage := none
  executionAttempts := 0
  workerId := none
  heartbeatAt := none

/-- `INSERT ... ON CONFLICT (deduplication_key) DO NOTHING`, and the job for a
    new run: `none` when the row is refused, and otherwise the new database with
    the number of rows inserted. -/
def DB.insertRun (run : Run) : Option (DB × Nat) :=
  if ¬ run.Checks then none
  else if db.runs.any (fun r => r.deduplicationKey = run.deduplicationKey) then some (db, 0)
  else (db.runs.insert run).map
    (fun runs => ({ db with runs, outbox := db.outbox ++ [run.id] }, 1))

/-! ### ScheduleDue -/

/-- One call of `ScheduleDue`. -/
structure ScheduleCall where
  /-- The database clock when the transaction began. -/
  startedAt : Int
  /-- What `s.now()` returned. -/
  goNow : Int
  /-- The schedules another transaction has locked (`SKIP LOCKED`). -/
  isLocked : UUID → Bool
  /-- The id drawn for the run of a schedule. -/
  newID : UUID → UUID

def ScheduleCall.now : Int := timestamptz call.startedAt

/-- `CASE schedule.priority WHEN 'critical' THEN 0 WHEN 'normal' THEN 1 ELSE 2 END`. -/
def priorityRank : Priority → Nat
  | .critical => 0
  | .normal => 1
  | .low => 2

/-- `ORDER BY` priority, then `next_due_at`. -/
def Schedule.before (a b : Schedule) : Prop :=
  priorityRank a.priority < priorityRank b.priority ∨
    priorityRank a.priority = priorityRank b.priority ∧ a.nextDueAt ≤ b.nextDueAt

instance (a b : Schedule) : Decidable (a.before b) :=
  inferInstanceAs (Decidable (_ ∨ _))

/-- The `WHERE` clause, and the lock. -/
def Schedule.isDue (schedule : Schedule) : Bool :=
  schedule.enabled && schedule.nextDueAt ≤ call.now && !call.isLocked schedule.id &&
    (db.domains.get? schedule.domainId).any
      (fun domain => domain.monitoringEnabled && domain.lifecycleStatus = .active)

/-- The batch the query returns. -/
def dueSchedules : List Schedule :=
  ((db.schedules.rows.filter (Schedule.isDue call db)).insertionSort Schedule.before).take
    cfg.schedulerBatchSize.toNat

/-- `Truncate(time.Second)`. -/
def truncateSecond (t : Int) : Int := t - t % second

/-- `UPDATE monitor_schedules SET ...`. -/
def Schedule.advance (slot : Int) (created : Option UUID) (schedule : Schedule) : Schedule :=
  { schedule with
    lastDueAt := some slot
    lastRunId := created.or schedule.lastRunId
    nextDueAt := timestamptz goNow + schedule.intervalSeconds * second +
      schedule.jitterSeconds * second
    version := schedule.version + 1 }

@[simp] theorem Schedule.advance_id (slot : Int) (created : Option UUID) (s : Schedule) :
    (s.advance goNow slot created).id = s.id := rfl

/-- The body of the loop: the run of one schedule, then its next due time. -/
def scheduleOne (acc : DB × Nat) (schedule : Schedule) :
    Option (DB × Nat) := do
  let slot := truncateSecond schedule.nextDueAt
  let run := newRun cfg (call.newID schedule.id) schedule.domainId .scheduled schedule.priority
    (.scheduled schedule.domainId slot cfg.monitorPolicyVersion) none slot call.goNow
  let (db, inserted) ← acc.1.insertRun run
  let created := if inserted = 1 then some run.id else none
  let schedules := db.schedules.modify schedule.id (Schedule.advance call.goNow slot created)
    (Schedule.advance_id _ _ _)
  return ({ db with schedules }, acc.2 + inserted)

/-- `ScheduleDue`: the new database and the number of runs created, or `none`
    when a statement failed and everything was rolled back. -/
def scheduleDue : Option (DB × Nat) :=
  (dueSchedules cfg call db).foldlM (scheduleOne cfg call) (db, 0)

/-! ### createManualRun -/

inductive ManualRunError where
  | invalidIdempotencyKey | domainNotFound | domainInactive
  /-- The `INSERT` was refused. -/
  | createManualRun
  deriving DecidableEq, Repr

/-- One call of `createManualRun`. -/
structure ManualRunCall where
  domainID : UUID
  userID : UUID
  idempotencyKey : GoString
  goNow : Int
  newID : UUID
  deriving DecidableEq, Repr

/-- `createManualRun`: the new database, the id of the run that answers the
    request, and whether it was created now. -/
def createManualRun (cfg : Config) (call : ManualRunCall) (db : DB) :
    Except ManualRunError (DB × UUID × Bool) :=
  let idempotencyKey := Utf8.trimSpace call.idempotencyKey
  if idempotencyKey = [] ∨ idempotencyKey.length > 200 then .error .invalidIdempotencyKey
  else match db.domains.get? call.domainID with
    | none => .error .domainNotFound
    | some domain =>
      if domain.lifecycleStatus ≠ .active then .error .domainInactive
      else if ¬ Utf8.Storable idempotencyKey then .error .createManualRun
      else
        let run := newRun cfg call.newID call.domainID .manual .critical
          (.manual call.domainID call.userID idempotencyKey) (some call.userID) call.goNow
          call.goNow
        match db.insertRun run with
        | none => .error .createManualRun
        | some (db', 0) =>
          match db.runs.rows.find? (fun r => r.deduplicationKey = run.deduplicationKey) with
          | none => .error .createManualRun
          | some existing => .ok (db', existing.id, false)
        | some (db', _) => .ok (db', run.id, true)

/-! ### What creating runs can do -/

/-- A run as it was inserted: queued, never claimed, for an existing domain. -/
structure Run.IsFresh (domains : KeyedTable Domain.id) (run : Run) : Prop where
  status : run.status = .queued
  startedAt : run.startedAt = none
  completedAt : run.completedAt = none
  heartbeatAt : run.heartbeatAt = none
  executionAttempts : run.executionAttempts = 0
  deadlineAt : run.deadlineAt = timestamptz (goNow + cfg.monitorRunTimeout)
  domain : (domains.get? run.domainId).isSome = true
  checks : run.Checks

/-- Only fresh runs, schedules and jobs were added. -/
structure RunsExtended (db' : DB) : Prop where
  domains : db'.domains = db.domains
  results : db'.results = db.results
  history : db'.history = db.history
  incidents : db'.incidents = db.incidents
  kept : ∀ id run, db.runs.get? id = some run → db'.runs.get? id = some run
  added : ∀ id run, db'.runs.get? id = some run →
    db.runs.get? id = some run ∨ db.runs.get? id = none ∧ run.IsFresh cfg goNow db.domains

theorem RunsExtended.refl : RunsExtended cfg goNow db db :=
  ⟨rfl, rfl, rfl, rfl, fun _ _ h => h, fun _ _ h => .inl h⟩

variable {cfg : Config} {db db' : DB} {call : ScheduleCall}

theorem RunsExtended.trans {goNow : Int} {db'' : DB} (h : RunsExtended cfg goNow db db')
    (h' : RunsExtended cfg goNow db' db'') :
    RunsExtended cfg goNow db db'' where
  domains := h'.domains.trans h.domains
  results := h'.results.trans h.results
  history := h'.history.trans h.history
  incidents := h'.incidents.trans h.incidents
  kept id run hrun := h'.kept id run (h.kept id run hrun)
  added id run hrun := by
    rcases h'.added id run hrun with hold | ⟨hnone, hfresh⟩
    · exact h.added id run hold
    · rw [h.domains] at hfresh
      refine .inr ⟨?_, hfresh⟩
      cases hget : db.runs.get? id with
      | none => rfl
      | some r => rw [h.kept id r hget] at hnone; cases hnone

theorem newRun_isFresh (cfg : Config) (id d : UUID) (trigger : TriggerType) (priority : Priority)
    (key : DeduplicationKey) (user : Option UUID) (scheduledFor goNow : Int)
    {domains : KeyedTable Domain.id} (hd : (domains.get? d).isSome = true)
    (hchecks : (newRun cfg id d trigger priority key user scheduledFor goNow).Checks) :
    (newRun cfg id d trigger priority key user scheduledFor goNow).IsFresh cfg goNow domains :=
  ⟨rfl, rfl, rfl, rfl, rfl, rfl, hd, hchecks⟩

theorem insertRun_extended {goNow : Int} {run : Run} {n : Nat}
    (hfresh : run.Checks → run.IsFresh cfg goNow db.domains) (h : db.insertRun run = some (db', n)) :
    RunsExtended cfg goNow db db' ∧ db'.schedules = db.schedules := by
  unfold DB.insertRun at h
  by_cases hchecks : run.Checks
  case neg => rw [if_pos hchecks] at h; cases h
  rw [if_neg (not_not_intro hchecks)] at h
  by_cases hconflict : db.runs.any (fun r => r.deduplicationKey = run.deduplicationKey) = true
  · rw [if_pos hconflict] at h
    cases h
    exact ⟨.refl cfg goNow db, rfl⟩
  · rw [if_neg hconflict, Option.map_eq_some_iff] at h
    obtain ⟨runs, hinsert, hdb⟩ := h
    cases hdb
    have hget := KeyedTable.get?_insert hinsert
    have hnone := (KeyedTable.insert_eq_some hinsert).1
    refine ⟨⟨rfl, rfl, rfl, rfl, ?_, ?_⟩, rfl⟩
    · intro id r hr
      show runs.get? id = some r
      rw [hget, if_neg, hr]
      rintro rfl
      rw [hnone] at hr
      cases hr
    · intro id r hr
      change runs.get? id = some r at hr
      rw [hget] at hr
      by_cases hid : id = run.id
      · rw [if_pos hid] at hr
        cases hr
        exact .inr ⟨hid ▸ hnone, hfresh hchecks⟩
      · rw [if_neg hid] at hr
        exact .inl hr

/-- One turn of the loop. -/
theorem scheduleOne_extended {acc acc' : DB × Nat} {schedule : Schedule}
    (hd : (acc.1.domains.get? schedule.domainId).isSome = true)
    (h : scheduleOne cfg call acc schedule = some acc') :
    RunsExtended cfg call.goNow acc.1 acc'.1 := by
  simp only [scheduleOne, Option.bind_eq_bind, Option.bind_eq_some_iff] at h
  obtain ⟨⟨db, inserted⟩, hinsert, hacc⟩ := h
  cases hacc
  obtain ⟨hext, -⟩ := insertRun_extended (newRun_isFresh cfg _ _ _ _ _ _ _ call.goNow hd) hinsert
  exact ⟨hext.domains, hext.results, hext.history, hext.incidents, hext.kept, hext.added⟩

/-- The whole loop: by induction on the batch, whose domains all exist. -/
theorem scheduleLoop_extended :
    ∀ (batch : List Schedule) (acc acc' : DB × Nat),
      (∀ s ∈ batch, (acc.1.domains.get? s.domainId).isSome = true) →
      batch.foldlM (scheduleOne cfg call) acc = some acc' →
      RunsExtended cfg call.goNow acc.1 acc'.1 := by
  intro batch
  induction batch with
  | nil =>
    intro acc acc' _ h
    cases h
    exact .refl cfg call.goNow acc.1
  | cons schedule batch ih =>
    intro acc acc' hd h
    rw [List.foldlM_cons, Option.bind_eq_bind, Option.bind_eq_some_iff] at h
    obtain ⟨acc₁, hone, hrest⟩ := h
    have hext := scheduleOne_extended (hd schedule List.mem_cons_self) hone
    refine hext.trans (ih acc₁ acc' ?_ hrest)
    intro s hs
    rw [hext.domains]
    exact hd s (List.mem_cons_of_mem _ hs)

theorem scheduleDue_extended {n : Nat} (h : scheduleDue cfg call db = some (db', n)) :
    RunsExtended cfg call.goNow db db' := by
  refine scheduleLoop_extended _ (db, 0) (db', n) ?_ h
  intro s hs
  have hs' := List.mem_of_mem_take hs
  rw [List.mem_insertionSort, List.mem_filter] at hs'
  have hdue := hs'.2
  simp only [Schedule.isDue, Bool.and_eq_true] at hdue
  cases hget : db.domains.get? s.domainId with
  | none => rw [hget] at hdue; cases hdue.2
  | some domain => rfl

theorem createManualRun_extended {call : ManualRunCall} {id : UUID} {created : Bool}
    (h : createManualRun cfg call db = .ok (db', id, created)) :
    RunsExtended cfg call.goNow db db' := by
  unfold createManualRun at h
  dsimp only at h
  split at h
  · cases h
  · cases hdomain : db.domains.get? call.domainID with
    | none => rw [hdomain] at h; cases h
    | some domain =>
      rw [hdomain] at h
      dsimp only at h
      split at h
      · cases h
      · split at h
        · cases h
        · have hd : (db.domains.get? call.domainID).isSome = true := by rw [hdomain]; rfl
          have hext : ∀ db₁ n, db.insertRun (newRun cfg call.newID call.domainID .manual .critical
              (.manual call.domainID call.userID (Utf8.trimSpace call.idempotencyKey))
              (some call.userID) call.goNow call.goNow) = some (db₁, n) →
              RunsExtended cfg call.goNow db db₁ := fun db₁ n hins =>
            (insertRun_extended (newRun_isFresh cfg _ _ _ _ _ _ _ call.goNow hd) hins).1
          split at h
          · cases h
          · split at h
            · cases h
            · cases h
              exact hext _ _ ‹_›
          · cases h
            exact hext _ _ ‹_›

end DomainMonitor.Monitor
