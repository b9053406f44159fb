import DomainMonitor.Lib.Loop
import DomainMonitor.Lib.RowLock
import DomainMonitor.Monitor.Enqueue
import DomainMonitor.Monitor.Schedules

/-! # Schedulers side by side (`internal/monitor/scheduler.go`, `service.go`)

    Any number of `ScheduleDue` transactions, interleaved with `createManualRun`,
    with the calls that enable and disable schedules, and with everything else
    the system does to runs and events.

    - A pass is two steps: the query, which locks the rows it returns and skips rows
      that others have locked, and the commit of what its loop did to them.
    - The inserts of a pass take effect at its commit. Two transactions that insert
      the same key wait for one another on the unique index, so this is the order
      in which PostgreSQL lets them through.

    Runs and events stay in step (`Jobs`), and the slots of a schedule that is not
    turned off and on again are an interval apart (`Spaced`).
-/

namespace DomainMonitor.Monitor.Scheduling

open RowLock

/-! ### The system -/

variable {call : ScheduleCall} {db : DB} {schedule : Schedule} {pass : Pass} {txn : Txn}
  {t t' : Tables} {created i : Nat} {interval : Int} {d k : UUID} {l : Statement}
  {before : List Int}

variable {batch : List Schedule} {stream : GoString} {cfg : Config} {id : UUID} {run : Run}
  {now goNow slot : Int} {db' : DB}

theorem mem_dueSchedules (h : schedule ∈ dueSchedules cfg call db) :
    schedule ∈ db.schedules.rows ∧ schedule.isDue call db = true := by
  have hmem := List.mem_of_mem_take h
  rw [List.mem_insertionSort, List.mem_filter] at hmem
  exact hmem

theorem nodup_dueSchedules (cfg : Config) (call : ScheduleCall) (db : DB) :
    ((dueSchedules cfg call db).map Schedule.id).Nodup := by
  have hfiltered : ((db.schedules.rows.filter (Schedule.isDue call db)).map Schedule.id).Nodup :=
    db.schedules.nodup.sublist (List.filter_sublist.map Schedule.id)
  have hsorted := (List.perm_insertionSort Schedule.before
    (db.schedules.rows.filter (Schedule.isDue call db))).map Schedule.id
  exact (hsorted.nodup_iff.mpr hfiltered).sublist ((List.take_sublist _ _).map Schedule.id)

/-- The `WHERE` clause, read as a conjunction. -/
theorem isDue_iff :
    schedule.isDue call db = true ↔ schedule.enabled = true ∧ schedule.nextDueAt ≤ call.now ∧
      call.isLocked schedule.id = false ∧ (db.domains.get? schedule.domainId).any
        (fun domain => domain.monitoringEnabled && domain.lifecycleStatus = .active) = true := by
  simp only [Schedule.isDue, Bool.and_eq_true, decide_eq_true_eq, Bool.not_eq_true', and_assoc]

/-- A `ScheduleDue` whose query has returned. Database and process read one clock,
    the process after the database. -/
structure Txn where
  pass : Pass
  batch : List Schedule
  clock : pass.call.startedAt ≤ pass.call.goNow
  nodup : (batch.map Schedule.id).Nodup
  due : ∀ schedule ∈ batch, schedule.nextDueAt ≤ pass.call.now

/-- `SELECT ... FOR UPDATE OF schedule SKIP LOCKED`. -/
def Txn.select (pass : Pass) (clock : pass.call.startedAt ≤ pass.call.goNow) (db : DB) : Txn where
  pass := pass
  batch := dueSchedules pass.cfg pass.call db
  clock := clock
  nodup := nodup_dueSchedules pass.cfg pass.call db
  due _ h := (isDue_iff.mp (mem_dueSchedules h).2).2.1

/-- The rows of `monitor_schedules`, locked with what was read from them. -/
def scheduleLocks : Discipline Tables Txn UUID Schedule where
  row t id := t.db.schedules.get? id
  holds t := t.batch.map (fun schedule => (schedule.id, schedule))

/-- The columns of a run that no statement updates. -/
def identity (run : Run) : UUID × UUID × TriggerType × DeduplicationKey × Int :=
  (run.id, run.domainId, run.triggerType, run.deduplicationKey, run.scheduledFor)

/-- The rest of the system: workers and dispatchers update rows of `monitoring_runs`
    and `job_outbox`, but nobody else inserts or deletes any. -/
structure Elsewhere (t t' : Tables) : Prop where
  runs : t'.db.runs.rows.map identity = t.db.runs.rows.map identity
  events : t'.events.rows.map Queue.OutboxRow.event = t.events.rows.map Queue.OutboxRow.event
  schedules : t'.db.schedules = t.db.schedules

inductive Statement where
  | select (i : Nat)
  | commit (i : Nat)
  | rollback (i : Nat)
  | createManualRun
  | ensureSchedule (domainID : UUID) (reenabled : Bool)
  | elsewhere
  deriving DecidableEq

inductive Step : RowLock.Sessions Tables Txn → Statement → RowLock.Sessions Tables Txn → Prop where
  | select {s : RowLock.Sessions Tables Txn} {i : Nat} {pass : Pass} (hidle : s.txns i = none)
      (hclock : pass.call.startedAt ≤ pass.call.goNow)
      (hlocked : ∀ id, scheduleLocks.Locked s id → pass.call.isLocked id = true) :
      Step s (.select i) (s.setTxn i (some (.select pass hclock s.db.db)))
  | commit {s : RowLock.Sessions Tables Txn} {i : Nat} {txn : Txn} {t' : Tables} {created : Nat}
      (ht : s.txns i = some txn) (h : scheduleBatch txn.pass txn.batch s.db = some (t', created)) :
      Step s (.commit i) { (s.setTxn i none) with db := t' }
  -- A failed statement, a lost connection or a crash at any point.
  | rollback {s : RowLock.Sessions Tables Txn} {i : Nat} : Step s (.rollback i) (s.setTxn i none)
  | createManualRun {s : RowLock.Sessions Tables Txn} {pass : ManualPass} {t' : Tables} {id : UUID}
      {created : Bool} (h : createManualRunTx pass s.db = .ok (t', id, created)) :
      Step s .createManualRun { s with db := t' }
  -- Creating, enabling or disabling a schedule waits for whoever has locked it.
  | ensureSchedule {s : RowLock.Sessions Tables Txn} {call : EnsureCall} {d : UUID} {enabled : Bool}
      {schedules : Schedules} (hjitter : 0 ≤ call.jitter ∧ call.jitter < 60)
      (hfree : ∀ row ∈ s.db.db.schedules.rows, row.domainId = d → ¬ scheduleLocks.Locked s row.id)
      (h : Monitor.ensureSchedule call d enabled s.db.db.schedules = some schedules) :
      Step s (.ensureSchedule d (reenables d enabled s.db.db.schedules))
        { s with db := { s.db with db := { s.db.db with schedules } } }
  | elsewhere {s : RowLock.Sessions Tables Txn} {t' : Tables} (h : Elsewhere s.db t') :
      Step s .elsewhere { s with db := t' }

/-- No run and no event yet; the schedules satisfy the constraints of their table. -/
def IsInitial (s : RowLock.Sessions Tables Txn) : Prop :=
  (∀ i, s.txns i = none) ∧ s.db.db.runs.rows = [] ∧ s.db.events.rows = [] ∧
    Schedules.Valid s.db.db.schedules

def system : LTS.System (RowLock.Sessions Tables Txn) Statement where
  init := IsInitial
  step := Step

/-! ### What a pass does -/

/-- One turn of the loop: the schedule is advanced, and its run and event are either
    both inserted or both not. -/
theorem scheduleOneTx_cases {acc acc' : Tables × Nat}
    (h : scheduleOneTx pass acc schedule = some acc') :
    (∃ last, acc'.1.db.schedules = acc.1.db.schedules.modify schedule.id
      (Schedule.advance pass.call.goNow (truncateSecond schedule.nextDueAt) last)
      (Schedule.advance_id _ _ _)) ∧
    ((acc'.1.db.runs.rows = acc.1.db.runs.rows ∧ acc'.1.events.rows = acc.1.events.rows) ∨
      (acc'.1.db.runs.rows = acc.1.db.runs.rows ++ [pass.run schedule] ∧
        acc'.1.events.rows = acc.1.events.rows ++ [Queue.newRow (jobEvent pass.stream
          (pass.newEventID schedule.id) pass.call.now (pass.run schedule))])) := by
  simp only [scheduleOneTx, Option.bind_eq_bind, Option.bind_eq_some_iff] at h
  obtain ⟨⟨t, inserted⟩, hinsert, hdone⟩ := h
  cases hdone
  rcases insertRunTx_cases hinsert with ⟨-, rfl, -, -⟩ | ⟨-, -, -, runs, hruns, hdb, hevents⟩
  · exact ⟨⟨_, rfl⟩, .inl ⟨rfl, rfl⟩⟩
  · have hrows := (KeyedTable.insert_eq_some hruns).2
    refine ⟨⟨if inserted = 1 then some (pass.run schedule).id else none, ?_⟩, .inr ⟨?_, hevents⟩⟩
    · have hschedules : t.db.schedules = acc.1.db.schedules := by rw [hdb]
      dsimp only
      rw [hschedules]
    · show t.db.runs.rows = _
      rw [hdb]
      exact hrows

/-- What a pass over `batch` leaves behind. -/
structure Passed (pass : Pass) (batch : List Schedule) (t t' : Tables) : Prop where
  /-- Runs were created for some schedules of the batch, one for each at most. -/
  runs : ∃ created : List Schedule, created.Sublist batch ∧
    t'.db.runs.rows = t.db.runs.rows ++ created.map pass.run
  advanced : ∀ schedule ∈ batch, ∃ last, t'.db.schedules.get? schedule.id =
    (t.db.schedules.get? schedule.id).map
      (Schedule.advance pass.call.goNow (truncateSecond schedule.nextDueAt) last)
  others : ∀ id, id ∉ batch.map Schedule.id →
    t'.db.schedules.get? id = t.db.schedules.get? id

/-- The loop, by induction on the batch. No schedule occurs in it twice, so the later
    turns leave alone what the first one did. -/
theorem scheduleLoop_passed : ∀ (batch : List Schedule) (acc acc' : Tables × Nat),
    (batch.map Schedule.id).Nodup → batch.foldlM (scheduleOneTx pass) acc = some acc' →
    Passed pass batch acc.1 acc'.1 := by
  intro batch
  induction batch with
  | nil =>
    intro acc acc' _ h
    cases h
    exact ⟨⟨[], .slnil, (List.append_nil _).symm⟩, fun _ h => absurd h List.not_mem_nil,
      fun _ _ => rfl⟩
  | cons first batch ih =>
    intro acc acc' hnodup h
    rw [List.map_cons, List.nodup_cons] at hnodup
    obtain ⟨hfirst, hnodup⟩ := hnodup
    rw [List.foldlM_cons, Option.bind_eq_bind, Option.bind_eq_some_iff] at h
    obtain ⟨acc₁, hone, hrest⟩ := h
    obtain ⟨⟨last, hschedules⟩, hruns⟩ := scheduleOneTx_cases hone
    have hpassed := ih acc₁ acc' hnodup hrest
    constructor
    · obtain ⟨created, hsub, hrows⟩ := hpassed.runs
      rcases hruns with ⟨hsame, -⟩ | ⟨hnew, -⟩
      · exact ⟨created, hsub.cons first, by rw [hrows, hsame]⟩
      · exact ⟨first :: created, hsub.cons_cons first, by rw [hrows, hnew]; simp⟩
    · intro schedule hmem
      rcases List.mem_cons.mp hmem with rfl | hmem
      · exact ⟨last, by rw [hpassed.others _ hfirst, hschedules, KeyedTable.get?_modify_self]⟩
      · have hne : schedule.id ≠ first.id := by
          intro hid
          exact hfirst (hid ▸ List.mem_map_of_mem hmem)
        obtain ⟨last', hadvanced⟩ := hpassed.advanced schedule hmem
        refine ⟨last', ?_⟩
        rw [hadvanced, hschedules, KeyedTable.get?_modify_ne _ _ _ hne]
    · intro id hid
      rw [List.map_cons, List.mem_cons, not_or] at hid
      rw [hpassed.others id hid.2, hschedules, KeyedTable.get?_modify_ne _ _ _ hid.1]

theorem scheduleBatch_passed (h : scheduleBatch txn.pass txn.batch t = some (t', created)) :
    Passed txn.pass txn.batch t t' :=
  scheduleLoop_passed txn.batch (t, 0) (t', created) txn.nodup h

/-! ### Schedules stay valid -/

variable {s s' : RowLock.Sessions Tables Txn}

theorem advance_checks {created : Option UUID} (h : schedule.Checks) :
    (schedule.advance goNow slot created).Checks := by
  obtain ⟨hinterval, hlow, hhigh, hversion⟩ := h
  exact ⟨hinterval, hlow, hhigh, Int.add_pos hversion Int.one_pos⟩

theorem scheduleBatch_valid (hvalid : Schedules.Valid t.db.schedules)
    (h : scheduleBatch pass batch t = some (t', created)) : Schedules.Valid t'.db.schedules := by
  refine Loop.foldlM_invariant (P := fun acc => Schedules.Valid acc.1.db.schedules) ?_ hvalid h
  intro acc schedule acc' _ hacc hone
  obtain ⟨⟨last, hschedules⟩, -⟩ := scheduleOneTx_cases hone
  rw [hschedules]
  exact hacc.modify schedule.id (Schedule.advance_id _ _ _) (fun _ => rfl) (fun _ => advance_checks)

theorem createManualRunTx_schedules {pass : ManualPass} {created : Bool}
    (h : createManualRunTx pass t = .ok (t', id, created)) : t'.db.schedules = t.db.schedules := by
  obtain ⟨n, hinsert⟩ := createManualRunTx_insert h
  rcases insertRunTx_cases hinsert with ⟨-, rfl, -, -⟩ | ⟨-, -, -, runs, -, hdb, -⟩
  · rfl
  · rw [hdb]

theorem valid_step (hvalid : Schedules.Valid s.db.db.schedules) (h : Step s l s') :
    Schedules.Valid s'.db.db.schedules := by
  cases h with
  | select => exact hvalid
  | commit ht h => exact scheduleBatch_valid hvalid h
  | rollback => exact hvalid
  | createManualRun h => exact (createManualRunTx_schedules h) ▸ hvalid
  | ensureSchedule hjitter hfree h => exact ensureSchedule_valid hjitter hvalid h
  | elsewhere h => exact h.schedules ▸ hvalid

theorem valid_reachable (h : system.Reachable s) : Schedules.Valid s.db.db.schedules :=
  LTS.System.invariant (P := fun s => Schedules.Valid s.db.db.schedules)
    (fun _ (hs : IsInitial _) => hs.2.2.2) (fun _ _ _ hvalid hl => valid_step hvalid hl) h

/-! ### Locks -/

/-- Every step respects the locks on schedules. -/
theorem Step.move (hvalid : Schedules.Valid s.db.db.schedules) (hs : scheduleLocks.Consistent s)
    (h : Step s l s') : scheduleLocks.Move s s' := by
  cases h with
  | @select i pass hidle hclock hlocked =>
    refine .lock ((dueSchedules pass.cfg pass.call s.db.db).map (fun x => (x.id, x))) ?_ ?_ ?_
    · intro p hp hheld
      obtain ⟨schedule, hmem, rfl⟩ := List.mem_map.mp hp
      -- A locked row would have been skipped.
      have hskip := hlocked _ hheld
      rw [(isDue_iff.mp (mem_dueSchedules hmem).2).2.2.1] at hskip
      cases hskip
    · intro p hp
      obtain ⟨schedule, hmem, rfl⟩ := List.mem_map.mp hp
      exact KeyedTable.get?_of_mem (mem_dueSchedules hmem).1
    · rw [Discipline.held_of_idle hidle]
      rfl
  | @commit i txn t' created ht h =>
    refine .commit (fun id hid => (scheduleBatch_passed h).others id ?_)
    intro hmem
    obtain ⟨schedule, hschedule, rfl⟩ := List.mem_map.mp hmem
    refine hid schedule ?_
    rw [Discipline.held_of_txn ht]
    exact List.mem_map.mpr ⟨schedule, hschedule, rfl⟩
  | rollback => exact .rollback
  | createManualRun h =>
    refine .background (fun k _ => ?_)
    show KeyedTable.get? _ k = KeyedTable.get? _ k
    rw [createManualRunTx_schedules h]
  | @ensureSchedule call d enabled schedules hjitter hfree h =>
    refine .background (fun k hk => ?_)
    obtain ⟨i, row, hheld⟩ := hk
    have hrow : s.db.db.schedules.get? k = some row := hs.read hheld
    obtain ⟨hmem, hkey⟩ := KeyedTable.get?_some hrow
    -- The call does not touch the locked row: it waits for the row of its own domain.
    have hother : row.domainId ≠ d := by
      intro hd
      exact hfree row hmem hd ⟨i, row, hkey.symm ▸ hheld⟩
    show schedules.get? k = s.db.db.schedules.get? k
    rw [ensureSchedule_get? hvalid h hrow, if_neg hother, hrow]
  | elsewhere h =>
    refine .background (fun k _ => ?_)
    show KeyedTable.get? _ k = KeyedTable.get? _ k
    rw [h.schedules]

theorem consistent_reachable (h : system.Reachable s) : scheduleLocks.Consistent s :=
  Discipline.consistent_reachable (fun _ (hs : IsInitial _) => hs.1)
    (fun _ _ _ hr hs hl => Step.move (valid_reachable hr) hs hl) h

/-- What the query returned is still committed when its transaction ends. -/
theorem batch_committed (h : system.Reachable s) (ht : s.txns i = some txn)
    (hmem : schedule ∈ txn.batch) : s.db.db.schedules.get? schedule.id = some schedule := by
  have hheld : (schedule.id, schedule) ∈ scheduleLocks.held s i := by
    rw [Discipline.held_of_txn ht]
    exact List.mem_map.mpr ⟨schedule, hmem, rfl⟩
  exact (consistent_reachable h).read hheld

/-! ### Runs and events -/

/-- The events are those of the runs, in the order of their insertion. -/
def Jobs (t : Tables) : Prop :=
  t.events.rows.map (fun row => row.event.payload) = t.db.runs.rows.map (fun run => jobPayload run.id)

theorem Jobs.append (h : Jobs t) (hruns : t'.db.runs.rows = t.db.runs.rows ++ [run])
    (hevents : t'.events.rows = t.events.rows ++ [Queue.newRow (jobEvent stream id now run)]) :
    Jobs t' := by
  unfold Jobs at h ⊢
  rw [hruns, hevents, List.map_append, List.map_append, h]
  rfl

theorem jobs_insert {eventID : UUID} {n : Nat} (ht : Jobs t)
    (h : insertRunTx stream eventID now run t = some (t', n)) : Jobs t' := by
  rcases insertRunTx_cases h with ⟨-, rfl, -, -⟩ | ⟨-, -, -, runs, hruns, hdb, hevents⟩
  · exact ht
  · have hrows : t'.db.runs.rows = t.db.runs.rows ++ [run] := by
      rw [hdb]
      exact (KeyedTable.insert_eq_some hruns).2
    exact ht.append hrows hevents

theorem jobs_batch (ht : Jobs t) (h : scheduleBatch pass batch t = some (t', created)) :
    Jobs t' := by
  refine Loop.foldlM_invariant (P := fun acc => Jobs acc.1) ?_ ht h
  intro acc schedule acc' _ hacc hone
  rcases (scheduleOneTx_cases hone).2 with ⟨hruns, hevents⟩ | ⟨hruns, hevents⟩
  · unfold Jobs at hacc ⊢
    rw [hruns, hevents, hacc]
  · exact hacc.append hruns hevents

theorem jobs_step (hjobs : Jobs s.db) (h : Step s l s') : Jobs s'.db := by
  cases h with
  | select => exact hjobs
  | commit ht h => exact jobs_batch hjobs h
  | rollback => exact hjobs
  | createManualRun h =>
    obtain ⟨n, hinsert⟩ := createManualRunTx_insert h
    exact jobs_insert hjobs hinsert
  | ensureSchedule => exact hjobs
  | @elsewhere t' h =>
    -- Payloads and ids are among the columns that stay as they are.
    have hpayloads := congrArg (List.map Queue.Event.payload) h.events
    have hids := congrArg (List.map (fun x => jobPayload x.1)) h.runs
    simp only [List.map_map] at hpayloads hids
    exact hpayloads.trans (Eq.trans hjobs hids.symm)

theorem jobs_reachable (h : system.Reachable s) : Jobs s.db := by
  refine LTS.System.invariant (P := fun s => Jobs s.db) ?_ (fun _ _ _ hjobs hl => jobs_step hjobs hl) h
  intro s hs
  obtain ⟨-, hruns, hevents, -⟩ := hs
  unfold Jobs
  rw [hruns, hevents]
  rfl

/-- In step, runs and events correspond one to one. -/
theorem Jobs.one_to_one (h : Jobs t) :
    (∀ run ∈ t.db.runs.rows, ∃! row, row ∈ t.events.rows ∧ row.event.payload = jobPayload run.id) ∧
    (∀ row ∈ t.events.rows, ∃! run, run ∈ t.db.runs.rows ∧ row.event.payload = jobPayload run.id) := by
  have hnodup : (t.db.runs.rows.map (fun run => jobPayload run.id)).Nodup := by
    have hids := t.db.runs.nodup.map (fun a b => jobPayload_inj (a := a) (b := b))
    rwa [List.map_map] at hids
  constructor
  · intro run hrun
    obtain ⟨row, hrow, hpayload⟩ := List.mem_map.mp (h.symm ▸ List.mem_map_of_mem hrun)
    refine ⟨row, ⟨hrow, hpayload⟩, ?_⟩
    rintro row' ⟨hrow', hpayload'⟩
    exact List.inj_on_of_nodup_map (h ▸ hnodup) hrow' hrow (hpayload'.trans hpayload.symm)
  · intro row hrow
    obtain ⟨run, hrun, hpayload⟩ := List.mem_map.mp (h ▸ List.mem_map_of_mem hrow)
    refine ⟨run, ⟨hrun, hpayload.symm⟩, ?_⟩
    rintro run' ⟨hrun', hpayload'⟩
    exact List.inj_on_of_nodup_map hnodup hrun' hrun (hpayload'.symm.trans hpayload.symm)

/-! ### Slots -/

/-- The slots of the scheduled runs of a domain, in the order of their insertion. -/
def slotsOf (d : UUID) (db : DB) : List Int :=
  (db.runs.rows.filter (fun r => r.triggerType = .scheduled && r.domainId = d)).map Run.scheduledFor

theorem timestamptz_truncateSecond (t : Int) :
    timestamptz (truncateSecond t) = truncateSecond t := by
  unfold timestamptz truncateSecond second microsecond
  omega

theorem slotsOf_append {new : List Run} (h : db'.runs.rows = db.runs.rows ++ new) :
    slotsOf d db' = slotsOf d db ++
      (new.filter (fun r => r.triggerType = .scheduled && r.domainId = d)).map Run.scheduledFor := by
  rw [slotsOf, h, List.filter_append, List.map_append, slotsOf]

/-- The slots a pass adds for a domain. -/
theorem slots_created (pass : Pass) (created : List Schedule) (d : UUID) :
    ((created.map pass.run).filter (fun r => r.triggerType = .scheduled && r.domainId = d)).map
      Run.scheduledFor =
    (created.filter (fun x => x.domainId = d)).map (fun x => truncateSecond x.nextDueAt) := by
  rw [List.filter_map, List.map_map]
  have hfilter : (fun r : Run => decide (r.triggerType = .scheduled) && decide (r.domainId = d)) ∘
      pass.run = fun x => decide (x.domainId = d) := by
    funext x
    show (decide (TriggerType.scheduled = .scheduled) && decide (x.domainId = d)) = _
    simp
  rw [hfilter]
  apply List.map_congr_left
  intro x _
  exact timestamptz_truncateSecond x.nextDueAt

/-- Slots are made of columns that are never updated. -/
theorem slotsOf_congr (h : db'.runs.rows.map identity = db.runs.rows.map identity) :
    slotsOf d db' = slotsOf d db := by
  have hslots : ∀ db : DB, slotsOf d db = ((db.runs.rows.map identity).filter
      (fun x => x.2.2.1 = .scheduled && x.2.1 = d)).map (fun x => x.2.2.2.2) := by
    intro db
    rw [List.filter_map, List.map_map]
    rfl
  rw [hslots, hslots, h]

/-- Of the rows with different keys, at most one has a given key. -/
theorem filter_key {α : Type} {κ : Type} [DecidableEq κ] {f : α → κ} {l : List α} {x : α}
    (hnodup : (l.map f).Nodup) (h : ∀ y ∈ l, f y = f x → y = x) :
    l.filter (fun y => f y = f x) = [] ∨ l.filter (fun y => f y = f x) = [x] := by
  induction l with
  | nil => exact .inl rfl
  | cons y l ih =>
    rw [List.map_cons, List.nodup_cons] at hnodup
    obtain ⟨hy, hnodup⟩ := hnodup
    by_cases hkey : f y = f x
    · have hrest : l.filter (fun z => f z = f x) = [] := by
        rw [List.filter_eq_nil_iff]
        intro z hz hzx
        exact hy (List.mem_map.mpr ⟨z, hz, (by simpa using hzx : f z = f x).trans hkey.symm⟩)
      right
      rw [List.filter_cons_of_pos (by simpa using hkey), hrest, h y List.mem_cons_self hkey]
    · rw [List.filter_cons_of_neg (by simpa using hkey)]
      exact ih hnodup (fun z hz => h z (List.mem_cons_of_mem y hz))

/-- Advancing moves the next slot by an interval at least, and past the clock. -/
theorem advance_slot {created : Option UUID} {row : Schedule} (hchecks : row.Checks)
    (hdue : row.nextDueAt ≤ timestamptz goNow) :
    truncateSecond row.nextDueAt + row.intervalSeconds * second ≤
        truncateSecond (row.advance goNow slot created).nextDueAt ∧
      goNow < (row.advance goNow slot created).nextDueAt := by
  have hinterval := hchecks.interval_pos
  have hjitter := hchecks.2.1
  have hnow : goNow < timestamptz goNow + microsecond := by
    unfold timestamptz microsecond
    omega
  simp only [Schedule.advance, truncateSecond]
  unfold second microsecond at *
  omega

/-- Since the slots were `before`, the schedule `k` of domain `d` has got new slots
    that are an interval apart, the last of them an interval before the one that is
    due next. -/
def Spaced (k d : UUID) (interval : Int) (before : List Int) (t : Tables) : Prop :=
  ∃ row new, t.db.schedules.get? k = some row ∧ row.domainId = d ∧ row.intervalSeconds = interval ∧
    slotsOf d t.db = before ++ new ∧ new.Pairwise (fun a b => a + interval * second ≤ b) ∧
    ∀ a ∈ new, a + interval * second ≤ truncateSecond row.nextDueAt

/-- Nothing happened to the slots, and the schedule is due when it was due before. -/
theorem Spaced.keep (h : Spaced k d interval before t) (hslots : slotsOf d t'.db = slotsOf d t.db)
    (hrow : ∀ row, t.db.schedules.get? k = some row → ∃ row', t'.db.schedules.get? k = some row' ∧
      row'.domainId = row.domainId ∧ row'.intervalSeconds = row.intervalSeconds ∧
      row'.nextDueAt = row.nextDueAt) : Spaced k d interval before t' := by
  obtain ⟨row, new, hget, hdomain, hinterval, hnew, hapart, hlast⟩ := h
  obtain ⟨row', hget', hdomain', hinterval', hdue⟩ := hrow row hget
  exact ⟨row', new, hget', hdomain'.trans hdomain, hinterval'.trans hinterval, hslots.trans hnew,
    hapart, hdue ▸ hlast⟩

/-- A pass. -/
theorem Spaced.commit (hr : system.Reachable s) (h : Spaced k d interval before s.db)
    (ht : s.txns i = some txn) (hbatch : scheduleBatch txn.pass txn.batch s.db = some (t', created)) :
    Spaced k d interval before t' := by
  have hvalid := valid_reachable hr
  have hpassed := scheduleBatch_passed hbatch
  obtain ⟨row, new, hget, rfl, rfl, hnew, hapart, hlast⟩ := h
  obtain ⟨hmem, hkey⟩ := KeyedTable.get?_some hget
  obtain ⟨made, hsub, hruns⟩ := hpassed.runs
  -- The batch consists of committed rows, of which one belongs to the domain.
  have hcommitted : ∀ x ∈ txn.batch, x ∈ s.db.db.schedules.rows := fun x hx =>
    (KeyedTable.get?_some (batch_committed hr ht hx)).1
  have honly : ∀ x ∈ txn.batch, x.domainId = row.domainId → x = row := fun x hx hd =>
    hvalid.eq_of_domain (hcommitted x hx) hmem hd
  have hslots := slotsOf_append (d := row.domainId) hruns
  rw [slots_created, hnew] at hslots
  by_cases hin : row ∈ txn.batch
  · obtain ⟨last, hadvanced⟩ := hpassed.advanced row hin
    rw [hkey, hget, Option.map_some] at hadvanced
    have hdue : row.nextDueAt ≤ timestamptz txn.pass.call.goNow :=
      (txn.due row hin).trans (timestamptz_mono txn.clock)
    have hstep : truncateSecond row.nextDueAt + row.intervalSeconds * second ≤
        truncateSecond (row.advance txn.pass.call.goNow (truncateSecond row.nextDueAt) last).nextDueAt :=
      (advance_slot (hvalid.checks row hmem) hdue).1
    have hpos := (hvalid.checks row hmem).interval_pos
    have hnodup : (made.map Schedule.domainId).Nodup := by
      refine List.Nodup.map_on ?_ (List.Nodup.of_map Schedule.id
        (txn.nodup.sublist (hsub.map Schedule.id)))
      intro a ha b hb hab
      exact hvalid.eq_of_domain (hcommitted a (hsub.subset ha)) (hcommitted b (hsub.subset hb)) hab
    have hlast' : ∀ a ∈ new, a + row.intervalSeconds * second ≤
        truncateSecond (row.advance txn.pass.call.goNow (truncateSecond row.nextDueAt) last).nextDueAt := by
      intro a ha
      have := hlast a ha
      unfold second at *
      omega
    rcases filter_key hnodup (fun y hy => honly y (hsub.subset hy)) with hnone | hone
    · rw [hnone, List.map_nil, List.append_nil] at hslots
      exact ⟨_, new, hadvanced, rfl, rfl, hslots, hapart, hlast'⟩
    · rw [hone, List.append_assoc] at hslots
      refine ⟨_, new ++ [truncateSecond row.nextDueAt], hadvanced, rfl, rfl, hslots, ?_, ?_⟩
      · rw [List.pairwise_append]
        exact ⟨hapart, List.pairwise_singleton _ _, fun a ha => List.forall_mem_singleton.mpr (hlast a ha)⟩
      · exact List.forall_mem_append.mpr ⟨hlast', List.forall_mem_singleton.mpr hstep⟩
  · have hnone : made.filter (fun x => x.domainId = row.domainId) = [] := by
      rw [List.filter_eq_nil_iff]
      intro x hx hd
      exact hin (honly x (hsub.subset hx) (by simpa using hd) ▸ hsub.subset hx)
    rw [hnone, List.map_nil, List.append_nil] at hslots
    refine ⟨row, new, ?_, rfl, rfl, hslots, hapart, hlast⟩
    rw [hpassed.others k, hget]
    intro hid
    obtain ⟨x, hx, hxk⟩ := List.mem_map.mp hid
    have hsame : x = row :=
      s.db.db.schedules.eq_of_key_eq (hcommitted x hx) hmem (hxk.trans hkey.symm)
    exact hin (hsame ▸ hx)

/-- **Step lemma**, for every statement that does not turn the schedule on again. -/
theorem spaced_step (hl : l ≠ .ensureSchedule d true) (hr : system.Reachable s)
    (h : Spaced k d interval before s.db) (hstep : Step s l s') :
    Spaced k d interval before s'.db := by
  cases hstep with
  | select => exact h
  | commit ht hbatch => exact h.commit hr ht hbatch
  | rollback => exact h
  | createManualRun hmanual =>
    refine h.keep ?_ ?_
    · obtain ⟨n, hinsert⟩ := createManualRunTx_insert hmanual
      rcases insertRunTx_cases hinsert with ⟨-, rfl, -, -⟩ | ⟨-, -, -, runs, hruns, hdb, -⟩
      · rfl
      · have hrows := (KeyedTable.insert_eq_some hruns).2
        have hslots := slotsOf_append (d := d)
          (show ({ s.db.db with runs } : DB).runs.rows = _ from hrows)
        -- A manual run is not a scheduled one.
        rw [hdb]
        exact hslots.trans (List.append_nil _)
    · intro row hrow
      exact ⟨row, by rw [createManualRunTx_schedules hmanual]; exact hrow, rfl, rfl, rfl⟩
  | @ensureSchedule call d' enabled schedules hjitter hfree hensure =>
    refine h.keep rfl ?_
    intro row hrow
    have hget := ensureSchedule_get? (valid_reachable hr) hensure hrow
    refine ⟨_, hget, ?_⟩
    split
    · rename_i hd
      refine ⟨rfl, rfl, ?_⟩
      -- The schedule was on already, or it is turned off: its due time stays.
      have hoff : (enabled && !row.enabled) = false := by
        obtain ⟨row₀, -, hrow₀, hdomain, -⟩ := h
        rw [hrow] at hrow₀
        cases hrow₀
        have hfound := (valid_reachable hr).ofDomain_eq (KeyedTable.get?_some hrow).1
        rw [hd] at hfound
        rw [← hdomain, hd] at hl
        have hlabel : reenables d' enabled s.db.db.schedules = (enabled && !row.enabled) := by
          rw [reenables, hfound]
          rfl
        rw [hlabel] at hl
        cases hflag : enabled && !row.enabled with
        | false => rfl
        | true => rw [hflag] at hl; exact absurd rfl hl
      show (if enabled && !row.enabled then call.now else row.nextDueAt) = row.nextDueAt
      rw [hoff]
      rfl
    · exact ⟨rfl, rfl, rfl⟩
  | elsewhere helse =>
    refine h.keep (slotsOf_congr helse.runs) ?_
    intro row hrow
    exact ⟨row, by rw [helse.schedules]; exact hrow, rfl, rfl, rfl⟩

/-- **Run lemma.** -/
theorem spaced_steps {ls : List Statement} (hr : system.Reachable s)
    (hmem : schedule ∈ s.db.db.schedules.rows) (h : system.Steps s ls s')
    (hls : ∀ l ∈ ls, l ≠ .ensureSchedule schedule.domainId true) :
    Spaced schedule.id schedule.domainId schedule.intervalSeconds
      (slotsOf schedule.domainId s.db.db) s'.db := by
  have hstart : Spaced schedule.id schedule.domainId schedule.intervalSeconds
      (slotsOf schedule.domainId s.db.db) s.db :=
    ⟨schedule, [], KeyedTable.get?_of_mem hmem, rfl, rfl, (List.append_nil _).symm, List.Pairwise.nil,
      fun _ ha => absurd ha List.not_mem_nil⟩
  refine (h.preserves_along (P := fun s₁ => system.Reachable s₁ ∧ Spaced schedule.id
    schedule.domainId schedule.intervalSeconds (slotsOf schedule.domainId s.db.db) s₁.db)
    ?_ hls ⟨hr, hstart⟩).2
  intro s₁ l s₂ hl hs₁ hstep
  exact ⟨.step l hs₁.1 hstep, spaced_step hl hs₁.1 hs₁.2 hstep⟩

/-! ### Passes -/

/-- A due schedule is left out only when the batch is full. -/
theorem dueSchedules_full (hmem : schedule ∈ db.schedules.rows)
    (hdue : schedule.isDue call db = true) (hout : schedule ∉ dueSchedules cfg call db) :
    (dueSchedules cfg call db).length = cfg.schedulerBatchSize.toNat := by
  unfold dueSchedules at hout ⊢
  have hsorted : schedule ∈ (db.schedules.rows.filter (Schedule.isDue call db)).insertionSort
      Schedule.before := by
    rw [List.mem_insertionSort, List.mem_filter]
    exact ⟨hmem, hdue⟩
  generalize (db.schedules.rows.filter (Schedule.isDue call db)).insertionSort
    Schedule.before = due at hout hsorted ⊢
  rw [List.length_take]
  by_contra hshort
  have hall : due.take cfg.schedulerBatchSize.toNat = due := List.take_of_length_le (by omega)
  exact hout (by rw [hall]; exact hsorted)

/-- A pass creates one run for a domain at most, and every schedule it took is due
    after the clock it read. -/
theorem commit_coalesces (hr : system.Reachable s) (ht : s.txns i = some txn)
    (h : Step s (.commit i) s') :
    (∃ new : List Run, s'.db.db.runs.rows = s.db.db.runs.rows ++ new ∧
      (new.map Run.domainId).Nodup) ∧
    ∀ schedule ∈ txn.batch, ∃ row, s'.db.db.schedules.get? schedule.id = some row ∧
      txn.pass.call.goNow < row.nextDueAt := by
  cases h with
  | @commit _ txn' t' created ht' hbatch =>
    rw [ht] at ht'
    cases ht'
    have hvalid := valid_reachable hr
    have hpassed := scheduleBatch_passed hbatch
    constructor
    · obtain ⟨made, hsub, hruns⟩ := hpassed.runs
      refine ⟨made.map txn.pass.run, hruns, ?_⟩
      have hnodup := List.Nodup.of_map Schedule.id (txn.nodup.sublist (hsub.map Schedule.id))
      rw [List.map_map]
      refine List.Nodup.map_on ?_ hnodup
      intro a ha b hb hab
      have hmade : ∀ x ∈ made, x ∈ s.db.db.schedules.rows := fun x hx =>
        (KeyedTable.get?_some (batch_committed hr ht (hsub.subset hx))).1
      exact hvalid.eq_of_domain (hmade a ha) (hmade b hb) hab
    · intro schedule hmem
      have hget := batch_committed hr ht hmem
      obtain ⟨last, hadvanced⟩ := hpassed.advanced schedule hmem
      rw [hget, Option.map_some] at hadvanced
      have hdue : schedule.nextDueAt ≤ timestamptz txn.pass.call.goNow :=
        (txn.due schedule hmem).trans (timestamptz_mono txn.clock)
      exact ⟨_, hadvanced,
        (advance_slot (hvalid.checks schedule (KeyedTable.get?_some hget).1) hdue).2⟩

/-! ### The model without texts -/

theorem wholeSlots_step (hwhole : WholeSlots s.db.db) (h : Step s l s') : WholeSlots s'.db.db := by
  cases h with
  | select => exact hwhole
  | commit ht h => exact (scheduleBatch_refines _ _ _ hwhole h).2
  | rollback => exact hwhole
  | createManualRun h => exact (createManualRunTx_refines hwhole h).2
  | ensureSchedule => exact hwhole
  | @elsewhere t' h =>
    intro run hrun
    -- The key of a run is among the columns that stay as they are.
    have hmem : identity run ∈ s.db.db.runs.rows.map identity := h.runs ▸ List.mem_map_of_mem hrun
    obtain ⟨run₀, hrun₀, hidentity⟩ := List.mem_map.mp hmem
    have hkey : run₀.deduplicationKey = run.deduplicationKey :=
      congrArg (fun x => x.2.2.2.1) hidentity
    exact hkey ▸ hwhole run₀ hrun₀

theorem wholeSlots_reachable (h : system.Reachable s) : WholeSlots s.db.db := by
  refine LTS.System.invariant (P := fun s => WholeSlots s.db.db) ?_
    (fun _ _ _ hwhole hl => wholeSlots_step hwhole hl) h
  intro s hs run hrun
  rw [hs.2.1] at hrun
  cases hrun

/-- **Refinement**: in every reachable state, what the transactions do to the
    database with their formatted keys is what `scheduleDue` and `createManualRun`
    do to it, and they report the same. -/
theorem transactions_refine (hr : system.Reachable s) :
    (∀ pass batch t n, scheduleBatch pass batch s.db = some (t, n) →
      batch.foldlM (scheduleOne pass.cfg pass.call) (s.db.db, 0) = some (t.db, n)) ∧
    ∀ pass t id created, createManualRunTx pass s.db = .ok (t, id, created) →
      createManualRun pass.cfg pass.call s.db.db = .ok (t.db, id, created) := by
  have hwhole := wholeSlots_reachable hr
  constructor
  · intro pass batch t n h
    exact (scheduleBatch_refines batch _ _ hwhole h).1
  · intro pass t id created h
    exact (createManualRunTx_refines hwhole h).1

/-! ### Duplicate-free scheduling -/

/-- **Scheduling**: in every state reached by interleaving schedulers and manual
    requests,

    - each run has one event with its id and each event belongs to one run;
    - a pass that commits creates at most one run for each domain, hence for each
      schedule, and leaves the schedules it took due after its clock; a due schedule
      that nobody has locked is not taken only if the batch is full;
    - from here on, as long as a schedule is not turned off and on again, the slots
      of the runs created for it are an interval apart. -/
theorem scheduling_duplicate_free (hr : system.Reachable s) :
    (∀ run ∈ s.db.db.runs.rows, ∃! row, row ∈ s.db.events.rows ∧
      row.event.payload = jobPayload run.id) ∧
    (∀ row ∈ s.db.events.rows, ∃! run, run ∈ s.db.db.runs.rows ∧
      row.event.payload = jobPayload run.id) ∧
    (∀ i txn s', s.txns i = some txn → system.step s (.commit i) s' →
      (∃ new : List Run, s'.db.db.runs.rows = s.db.db.runs.rows ++ new ∧
        (new.map Run.domainId).Nodup) ∧
      ∀ schedule ∈ txn.batch, ∃ row, s'.db.db.schedules.get? schedule.id = some row ∧
        txn.pass.call.goNow < row.nextDueAt) ∧
    (∀ i s', system.step s (.select i) s' → ∃ txn, s'.txns i = some txn ∧
      ∀ schedule ∈ s.db.db.schedules.rows, schedule.isDue txn.pass.call s.db.db = true →
        schedule ∈ txn.batch ∨ txn.batch.length = txn.pass.cfg.schedulerBatchSize.toNat) ∧
    ∀ ls s' schedule, schedule ∈ s.db.db.schedules.rows → system.Steps s ls s' →
      .ensureSchedule schedule.domainId true ∉ ls →
      ∃ new, slotsOf schedule.domainId s'.db.db = slotsOf schedule.domainId s.db.db ++ new ∧
        new.Pairwise (fun a b => a + schedule.intervalSeconds * second ≤ b) := by
  obtain ⟨hruns, hevents⟩ := (jobs_reachable hr).one_to_one
  refine ⟨hruns, hevents, ?_, ?_, ?_⟩
  · intro i txn s' ht hstep
    exact commit_coalesces hr ht hstep
  · intro i s' hstep
    cases hstep with
    | @select _ pass hidle hclock hlocked =>
      refine ⟨_, RowLock.Sessions.setTxn_self _ _ _, ?_⟩
      intro schedule hmem hdue
      by_cases hin : schedule ∈ dueSchedules pass.cfg pass.call s.db.db
      · exact .inl hin
      · exact .inr (dueSchedules_full hmem hdue hin)
  · intro ls s' schedule hmem hsteps hls
    have hallowed : ∀ l ∈ ls, l ≠ .ensureSchedule schedule.domainId true := by
      intro l hl heq
      exact hls (heq ▸ hl)
    obtain ⟨row, new, -, -, -, hnew, hapart, -⟩ := spaced_steps hr hmem hsteps hallowed
    exact ⟨new, hnew, hapart⟩

/-- Two domains whose schedules have missed two intervals. -/
def sampleTables : Tables where
  db :=
    { DB.empty with
      domains := ⟨[sampleDomain, { sampleDomain with id := 2 }], by decide⟩
      schedules := ⟨[newSchedule 11 1 0 0 true, newSchedule 12 2 7 0 true], by decide⟩ }
  events := .empty

/-- A scheduler with batches of one. -/
def samplePass (isLocked : UUID → Bool) : Pass where
  cfg := { defaultConfig with schedulerBatchSize := 1 }
  stream := lit "monitor"
  call := { startedAt := 3 * hour, goNow := 3 * hour + 1, isLocked, newID := (· + 100) }
  newEventID := (· + 200)

def sampleManual : ManualPass where
  cfg := defaultConfig
  stream := lit "monitor"
  call := ⟨1, 5, lit "again", 3 * hour, 300⟩
  newEventID := 301
  startedAt := 3 * hour

/-- The query of a sample scheduler. -/
def sampleSelect (isLocked : UUID → Bool) : Txn :=
  .select (samplePass isLocked) (Int.le_add_one (Int.le_refl _)) sampleTables.db

/-- Two schedulers side by side take a schedule each, and a manual request comes in
    between: three runs, three events. -/
theorem scheduling_two_schedulers :
    ∃ s, system.Reachable s ∧ s.db.db.runs.rows.length = 3 ∧ s.db.events.rows.length = 3 ∧
      ∀ run ∈ s.db.db.runs.rows, ∃! row, row ∈ s.db.events.rows ∧
        row.event.payload = jobPayload run.id := by
  let first := sampleSelect (fun _ => false)
  let second := sampleSelect (fun id => id = 11)
  have hrun : ((createManualRunTx sampleManual sampleTables).toOption.bind (fun m =>
      (scheduleBatch second.pass second.batch m.1).bind (fun b =>
        scheduleBatch first.pass first.batch b.1))).map
      (fun a => (a.1.db.runs.rows.length, a.1.events.rows.length)) = some (3, 3) := by
    decide +kernel
  obtain ⟨⟨t₃, n₃⟩, hbind, hlengths⟩ := Option.map_eq_some_iff.mp hrun
  obtain ⟨⟨t₁, id, created⟩, hmanual, hbind⟩ := Option.bind_eq_some_iff.mp hbind
  obtain ⟨⟨t₂, n₂⟩, hsecond, hfirst⟩ := Option.bind_eq_some_iff.mp hbind
  have hok : createManualRunTx sampleManual sampleTables = .ok (t₁, id, created) := by
    cases hresult : createManualRunTx sampleManual sampleTables with
    | error e => rw [hresult] at hmanual; cases hmanual
    | ok r => rw [hresult] at hmanual; cases hmanual; rfl
  let s₀ : RowLock.Sessions Tables Txn := ⟨sampleTables, fun _ => none⟩
  have h₀ : system.Reachable s₀ := .init ⟨fun _ => rfl, rfl, rfl, by
    constructor
    · decide
    · decide⟩
  let s₁ := s₀.setTxn 0 (some first)
  have h₁ : Step s₀ (.select 0) s₁ := by
    refine .select rfl _ ?_
    rintro id ⟨i, row, hheld⟩
    cases hheld
  let s₂ := s₁.setTxn 1 (some second)
  have h₂ : Step s₁ (.select 1) s₂ := by
    refine .select rfl _ ?_
    -- Only the first scheduler has locked anything: schedule 11.
    intro id hlocked
    obtain ⟨i, row, hheld⟩ := hlocked
    by_cases hi : i = 0
    · subst hi
      have hbatch : scheduleLocks.held s₁ 0 = [(11, newSchedule 11 1 0 0 true)] := by decide +kernel
      rw [hbatch, List.mem_singleton] at hheld
      cases hheld
      decide
    · have hidle : s₁.txns i = none := RowLock.Sessions.setTxn_ne s₀ _ hi
      rw [Discipline.held_of_idle hidle] at hheld
      cases hheld
  have h₃ : Step s₂ .createManualRun { s₂ with db := t₁ } := .createManualRun hok
  let s₄ : RowLock.Sessions Tables Txn := { (s₂.setTxn 1 none) with db := t₂ }
  have h₄ : Step { s₂ with db := t₁ } (.commit 1) s₄ := .commit rfl hsecond
  let s₅ : RowLock.Sessions Tables Txn := { (s₄.setTxn 0 none) with db := t₃ }
  have h₅ : Step s₄ (.commit 0) s₅ := .commit rfl hfirst
  have hreached : system.Reachable s₅ :=
    .step _ (.step _ (.step _ (.step _ (.step _ h₀ h₁) h₂) h₃) h₄) h₅
  exact ⟨s₅, hreached, congrArg Prod.fst hlengths, congrArg Prod.snd hlengths,
    (scheduling_duplicate_free hreached).1⟩

/-- A manual request in the state the schedulers start from. -/
theorem transactions_refine_manual : ∃ t id,
    createManualRunTx sampleManual sampleTables = .ok (t, id, true) ∧
      createManualRun defaultConfig sampleManual.call sampleTables.db = .ok (t.db, id, true) := by
  obtain ⟨⟨t, id, created⟩, h, hcreated⟩ := exists_ok_of_any (by decide +kernel :
    (createManualRunTx sampleManual sampleTables).toOption.any (fun r => r.2.2) = true)
  dsimp only at hcreated
  subst hcreated
  let s : RowLock.Sessions Tables Txn := ⟨sampleTables, fun _ => none⟩
  have hr : system.Reachable s := .init ⟨fun _ => rfl, rfl, rfl, by decide, by decide⟩
  exact ⟨t, id, h, (transactions_refine hr).2 sampleManual t id true h⟩

end DomainMonitor.Monitor.Scheduling
