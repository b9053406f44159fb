import Mathlib.Data.List.Find
import DomainMonitor.Lib.Rfc3339
import DomainMonitor.Lib.Uuid
import DomainMonitor.Monitor.Scheduler
import DomainMonitor.Queue.Outbox

/-! # Runs and their jobs (`internal/monitor/scheduler.go`, `service.go`)

    `ScheduleDue` and `createManualRun` with the texts they send to PostgreSQL: the
    formatted deduplication key, on which the unique index decides whether a run is
    new, and the row of `job_outbox` that `EnqueueTx` inserts in the same
    transaction. The formatted keys determine their parts, so these functions do to
    the runs what `scheduleDue` and `createManualRun` do
    (`scheduleBatch_refines`, `createManualRunTx_refines`).
-/

namespace DomainMonitor.Monitor

/-! ### Deduplication keys -/

/-- `fmt.Sprintf("monitor:%s:%s:%s:local", ...)` and
    `fmt.Sprintf("manual:%s:%s:%s", ...)`. -/
def DeduplicationKey.text : DeduplicationKey → GoString
  | .scheduled domain slot policyVersion =>
    lit "monitor:" ++ (Uuid.text domain ++ 58 :: (Rfc3339.format (slot / second) ++
      (58 :: (lit policyVersion ++ lit ":local"))))
  | .manual domain user idempotencyKey =>
    lit "manual:" ++ (Uuid.text domain ++ 58 :: (Uuid.text user ++ 58 :: idempotencyKey))

/-- The slot of a schedule is truncated to the second. -/
def DeduplicationKey.WholeSecond : DeduplicationKey → Prop
  | .scheduled _ slot _ => slot % second = 0
  | .manual .. => True

theorem lit_inj {a b : String} (h : lit a = lit b) : a = b := by
  have hdecode : ∀ l : List Char,
      Utf8.decode (l.flatMap String.utf8EncodeChar) = l.map Utf8.Rune.char := by
    intro l
    induction l with
    | nil => rfl
    | cons c l ih => rw [List.flatMap_cons, Utf8.decode_encode_append, ih, List.map_cons]
  have hchars := congrArg Utf8.decode h
  rw [lit, lit, hdecode, hdecode] at hchars
  refine String.toList_inj.mp (List.map_injective_iff.mpr ?_ hchars)
  intro c d hcd
  cases hcd
  rfl

theorem colon_not_mem_uuid (id : UUID) : 58 ∉ Uuid.text id := by
  have hdigit : ∀ d < 16, Encoding.hexDigit d ≠ 58 := by decide
  intro h
  rcases Uuid.mem_text h with h | ⟨d, hd, h⟩
  · cases h
  · exact hdigit d hd h.symm

/-- Ids have no colon, so the colon after an id ends it. -/
theorem uuid_append_inj {a b : UUID} {x y : GoString}
    (h : Uuid.text a ++ 58 :: x = Uuid.text b ++ 58 :: y) : a = b ∧ x = y := by
  obtain ⟨hid, hrest⟩ := Strings.append_sep_inj (colon_not_mem_uuid a) (colon_not_mem_uuid b) h
  exact ⟨Uuid.text_inj hid, hrest⟩

/-- **The formatted key determines the key**, whatever the policy version and the
    client's key contain: they stand last in their format. -/
theorem DeduplicationKey.text_inj {k k' : DeduplicationKey} (hk : k.WholeSecond)
    (hk' : k'.WholeSecond) (h : k.text = k'.text) : k = k' := by
  have hheads : ∀ x y, lit "monitor:" ++ x ≠ lit "manual:" ++ y := by
    intro x y heq
    have hsecond := congrArg (fun l => l[1]?) heq
    simp [show lit "monitor:" = [109, 111, 110, 105, 116, 111, 114, 58] by decide,
      show lit "manual:" = [109, 97, 110, 117, 97, 108, 58] by decide] at hsecond
  cases k with
  | scheduled domain slot policy =>
    cases k' with
    | scheduled domain' slot' policy' =>
      rw [text, text] at h
      obtain ⟨rfl, hrest⟩ := uuid_append_inj (List.append_cancel_left h)
      obtain ⟨hslot, hpolicy⟩ := Rfc3339.format_append_inj hrest
      obtain rfl := lit_inj (List.append_cancel_right (List.cons.inj hpolicy).2)
      have hslots : slot = slot' := by
        have hk : slot % second = 0 := hk
        have hk' : slot' % second = 0 := hk'
        rw [← Int.mul_ediv_add_emod slot second, ← Int.mul_ediv_add_emod slot' second, hslot, hk, hk']
      rw [hslots]
    | manual => exact absurd h (hheads _ _)
  | manual domain user key =>
    cases k' with
    | scheduled => exact absurd h.symm (hheads _ _)
    | manual domain' user' key' =>
      rw [text, text] at h
      obtain ⟨rfl, hrest⟩ := uuid_append_inj (List.append_cancel_left h)
      obtain ⟨rfl, rfl⟩ := uuid_append_inj hrest
      rfl

/-! ### Jobs -/

/-- A string of printable characters other than quotes and backslashes is written as
    it stands. -/
theorem isBody_uuid (id : UUID) : Json.isBody (Uuid.text id) = true := by
  have hplain : ∀ b ∈ Uuid.text id, 32 ≤ b ∧ b ≠ 34 ∧ b ≠ 92 := by
    have hdigit : ∀ d < 16, 32 ≤ Encoding.hexDigit d ∧ Encoding.hexDigit d ≠ 34 ∧
        Encoding.hexDigit d ≠ 92 := by decide
    intro b hb
    rcases Uuid.mem_text hb with rfl | ⟨d, hd, rfl⟩
    · decide
    · exact hdigit d hd
  generalize Uuid.text id = text at hplain
  induction text with
  | nil => rfl
  | cons b rest ih =>
    obtain ⟨hlow, hquote, hslash⟩ := hplain b List.mem_cons_self
    rw [Json.isBody_cons rest hslash, ih (fun c hc => hplain c (List.mem_cons_of_mem b hc))]
    simp [hlow, hquote, hslash]

/-- `Job{RunID: runID.String()}`. -/
def jobPayload (runID : UUID) : Json.Value :=
  .obj [(⟨lit "run_id", by decide⟩, .str ⟨Uuid.text runID, isBody_uuid runID⟩)]

theorem jobPayload_inj {a b : UUID} (h : jobPayload a = jobPayload b) : a = b := by
  simp only [jobPayload, Json.Value.obj.injEq, List.cons.injEq, Prod.mk.injEq, Json.Value.str.injEq,
    Json.Str.mk.injEq, and_true, true_and] at h
  exact Uuid.text_inj h

/-- The event both functions enqueue for a new run. -/
def jobEvent (stream : GoString) (id : UUID) (createdAt : Int) (run : Run) : Queue.Event where
  id := id
  idempotencyKey := lit "outbox:" ++ run.deduplicationKey.text
  type := lit "monitor.run.requested"
  stream := stream
  payload := jobPayload run.id
  createdAt := createdAt

/-! ### The transactions -/

/-- The database with the rows of `job_outbox`, of which `DB.outbox` keeps only the
    run ids. -/
structure Tables where
  db : DB
  events : Queue.Outbox

/-- The `INSERT` of a run and, for a new one, `EnqueueTx`. -/
def insertRunTx (stream : GoString) (eventID : UUID) (now : Int) (run : Run) (t : Tables) :
    Option (Tables × Nat) :=
  if ¬ run.Checks then none
  else if t.db.runs.any (fun r => r.deduplicationKey.text = run.deduplicationKey.text) then
    some (t, 0)
  else do
    let runs ← t.db.runs.insert run
    let events ← Queue.enqueueTx (jobEvent stream eventID now run) t.events
    return ({ db := { t.db with runs, outbox := t.db.outbox ++ [run.id] }, events }, 1)

/-- One call of `ScheduleDue`, with the configuration of its process. -/
structure Pass where
  cfg : Config
  stream : GoString
  call : ScheduleCall
  /-- The id drawn for the event of a schedule's run. -/
  newEventID : UUID → UUID

/-- The run of a schedule that is due. -/
def Pass.run (pass : Pass) (schedule : Schedule) : Run :=
  let slot := truncateSecond schedule.nextDueAt
  newRun pass.cfg (pass.call.newID schedule.id) schedule.domainId .scheduled schedule.priority
    (.scheduled schedule.domainId slot pass.cfg.monitorPolicyVersion) none slot pass.call.goNow

/-- The body of the loop. -/
def scheduleOneTx (pass : Pass) (acc : Tables × Nat) (schedule : Schedule) :
    Option (Tables × Nat) := do
  let slot := truncateSecond schedule.nextDueAt
  let run := pass.run schedule
  let (t, inserted) ← insertRunTx pass.stream (pass.newEventID schedule.id) pass.call.now run acc.1
  let created := if inserted = 1 then some run.id else none
  let schedules := t.db.schedules.modify schedule.id
    (Schedule.advance pass.call.goNow slot created) (Schedule.advance_id _ _ _)
  return ({ t with db := { t.db with schedules } }, acc.2 + inserted)

/-- `ScheduleDue` after its query returned `batch`. -/
def scheduleBatch (pass : Pass) (batch : List Schedule) (t : Tables) : Option (Tables × Nat) :=
  batch.foldlM (scheduleOneTx pass) (t, 0)

/-- One call of `createManualRun`, with the configuration of its process. -/
structure ManualPass where
  cfg : Config
  stream : GoString
  call : ManualRunCall
  newEventID : UUID
  /-- The database clock when the transaction began. -/
  startedAt : Int

def ManualPass.run (pass : ManualPass) : Run :=
  newRun pass.cfg pass.call.newID pass.call.domainID .manual .critical
    (.manual pass.call.domainID pass.call.userID (Utf8.trimSpace pass.call.idempotencyKey))
    (some pass.call.userID) pass.call.goNow pass.call.goNow

/-- `createManualRun`. -/
def createManualRunTx (pass : ManualPass) (t : Tables) :
    Except ManualRunError (Tables × UUID × Bool) :=
  let idempotencyKey := Utf8.trimSpace pass.call.idempotencyKey
  if idempotencyKey = [] ∨ idempotencyKey.length > 200 then .error .invalidIdempotencyKey
  else match t.db.domains.get? pass.call.domainID with
    | none => .error .domainNotFound
    | some domain =>
      if domain.lifecycleStatus ≠ .active then .error .domainInactive
      else if ¬ Utf8.Storable idempotencyKey then .error .createManualRun
      else
        let run := pass.run
        match insertRunTx pass.stream pass.newEventID (timestamptz pass.startedAt) run t with
        | none => .error .createManualRun
        | some (t', 0) =>
          match t.db.runs.rows.find? (fun r =>
              r.deduplicationKey.text = run.deduplicationKey.text) with
          | none => .error .createManualRun
          | some existing => .ok (t', existing.id, false)
        | some (t', _) => .ok (t', run.id, true)

/-! ### What an insertion does -/

/-- The event inserted for a run. -/
theorem enqueueTx_rows {event : Queue.Event} {outbox outbox' : Queue.Outbox}
    (h : Queue.enqueueTx event outbox = some outbox') :
    outbox'.rows = outbox.rows ++ [Queue.newRow event] := by
  unfold Queue.enqueueTx at h
  split at h
  · cases h
  · split at h
    · cases h
    · exact (KeyedTable.insert_eq_some h).2

variable {run : Run} {t t' : Tables}

variable {stream : GoString} {pass : ManualPass} {created : Bool} {eventID id : UUID} {now : Int}
  {n : Nat} {db : DB}

/-- **Inversion**: the key was taken and nothing happens, or run and event are
    appended to their tables. -/
theorem insertRunTx_cases (h : insertRunTx stream eventID now run t = some (t', n)) :
    (t.db.runs.any (fun r => r.deduplicationKey.text = run.deduplicationKey.text) = true ∧
      t' = t ∧ n = 0 ∧ run.Checks) ∨
    (t.db.runs.any (fun r => r.deduplicationKey.text = run.deduplicationKey.text) = false ∧
      n = 1 ∧ run.Checks ∧ ∃ runs, t.db.runs.insert run = some runs ∧
      t'.db = { t.db with runs, outbox := t.db.outbox ++ [run.id] } ∧
      t'.events.rows = t.events.rows ++ [Queue.newRow (jobEvent stream eventID now run)]) := by
  unfold insertRunTx at h
  by_cases hchecks : run.Checks
  case neg => rw [if_pos hchecks] at h; cases h
  rw [if_neg (not_not_intro hchecks)] at h
  cases htaken : t.db.runs.any
      (fun r => r.deduplicationKey.text = run.deduplicationKey.text) with
  | true =>
    rw [if_pos htaken] at h
    cases h
    exact .inl ⟨rfl, rfl, rfl, hchecks⟩
  | false =>
    rw [if_neg (by rw [htaken]; exact Bool.false_ne_true)] at h
    simp only [Option.bind_eq_bind, Option.bind_eq_some_iff] at h
    obtain ⟨runs, hruns, events, hevents, hdone⟩ := h
    cases hdone
    exact .inr ⟨rfl, rfl, hchecks, runs, hruns, rfl, enqueueTx_rows hevents⟩

/-! ### Refinement -/

/-- Every stored slot is a whole second. -/
def WholeSlots (db : DB) : Prop := ∀ run ∈ db.runs.rows, run.deduplicationKey.WholeSecond

/-- On whole seconds, formatted keys are equal exactly when the keys are. -/
theorem decide_text_eq (hdb : WholeSlots db) (hrun : run.deduplicationKey.WholeSecond) (r : Run)
    (hr : r ∈ db.runs.rows) :
    decide (r.deduplicationKey.text = run.deduplicationKey.text) =
      decide (r.deduplicationKey = run.deduplicationKey) := by
  apply decide_eq_decide.mpr
  constructor
  · exact DeduplicationKey.text_inj (hdb r hr) hrun
  · intro h
    rw [h]

/-- So the unique index finds the same conflicts. -/
theorem any_text_eq (hdb : WholeSlots db) (hrun : run.deduplicationKey.WholeSecond) :
    db.runs.any (fun r => r.deduplicationKey.text = run.deduplicationKey.text) =
      db.runs.any (fun r => r.deduplicationKey = run.deduplicationKey) := by
  rw [Bool.eq_iff_iff, KeyedTable.any, KeyedTable.any, List.any_eq_true, List.any_eq_true]
  refine exists_congr fun r => and_congr_right fun hr => ?_
  rw [decide_text_eq hdb hrun r hr]

theorem wholeSecond_run (pass : Pass) (schedule : Schedule) :
    (pass.run schedule).deduplicationKey.WholeSecond := by
  show truncateSecond schedule.nextDueAt % second = 0
  unfold truncateSecond second
  omega

theorem insertRunTx_refines (hdb : WholeSlots t.db) (hrun : run.deduplicationKey.WholeSecond)
    (h : insertRunTx stream eventID now run t = some (t', n)) :
    t.db.insertRun run = some (t'.db, n) ∧ WholeSlots t'.db := by
  unfold DB.insertRun
  rw [← any_text_eq hdb hrun]
  rcases insertRunTx_cases h with ⟨htaken, rfl, rfl, hchecks⟩ | ⟨hfree, rfl, hchecks, runs, hruns, hdb', -⟩
  · exact ⟨by rw [if_neg (not_not_intro hchecks), if_pos htaken], hdb⟩
  · refine ⟨?_, ?_⟩
    · rw [if_neg (not_not_intro hchecks), if_neg (by rw [hfree]; exact Bool.false_ne_true), hruns,
        hdb', Option.map_some]
    · intro r hr
      rw [hdb'] at hr
      change r ∈ runs.rows at hr
      rw [(KeyedTable.insert_eq_some hruns).2, List.mem_append, List.mem_singleton] at hr
      rcases hr with hr | rfl
      · exact hdb r hr
      · exact hrun

theorem scheduleOneTx_refines {pass : Pass} {acc acc' : Tables × Nat} {schedule : Schedule}
    (hdb : WholeSlots acc.1.db) (h : scheduleOneTx pass acc schedule = some acc') :
    scheduleOne pass.cfg pass.call (acc.1.db, acc.2) schedule = some (acc'.1.db, acc'.2) ∧
      WholeSlots acc'.1.db := by
  simp only [scheduleOneTx, Option.bind_eq_bind, Option.bind_eq_some_iff] at h
  obtain ⟨⟨t, inserted⟩, hinsert, hdone⟩ := h
  cases hdone
  obtain ⟨hparts, hwhole⟩ := insertRunTx_refines hdb (wholeSecond_run pass schedule) hinsert
  refine ⟨?_, hwhole⟩
  simp only [scheduleOne, Option.bind_eq_bind, Option.bind_eq_some_iff]
  exact ⟨(t.db, inserted), hparts, rfl⟩

/-- The loop over the batch, by induction on the batch. -/
theorem scheduleBatch_refines {pass : Pass} : ∀ (batch : List Schedule) (acc acc' : Tables × Nat),
    WholeSlots acc.1.db → batch.foldlM (scheduleOneTx pass) acc = some acc' →
    batch.foldlM (scheduleOne pass.cfg pass.call) (acc.1.db, acc.2) =
      some (acc'.1.db, acc'.2) ∧ WholeSlots acc'.1.db := by
  intro batch
  induction batch with
  | nil =>
    intro acc acc' hdb h
    cases h
    exact ⟨rfl, hdb⟩
  | cons schedule batch ih =>
    intro acc acc' hdb h
    rw [List.foldlM_cons, Option.bind_eq_bind, Option.bind_eq_some_iff] at h
    obtain ⟨acc₁, hone, hrest⟩ := h
    obtain ⟨hparts, hwhole⟩ := scheduleOneTx_refines hdb hone
    obtain ⟨hparts', hwhole'⟩ := ih acc₁ acc' hwhole hrest
    refine ⟨?_, hwhole'⟩
    rw [List.foldlM_cons, hparts]
    exact hparts'

/-- A manual request that succeeds has gone through one insertion. -/
theorem createManualRunTx_insert (h : createManualRunTx pass t = .ok (t', id, created)) :
    ∃ n, insertRunTx pass.stream pass.newEventID (timestamptz pass.startedAt) pass.run t =
      some (t', n) := by
  unfold createManualRunTx at h
  dsimp only at h
  split at h
  · cases h
  · split at h
    · cases h
    · split at h
      · cases h
      · split at h
        · cases h
        · split at h
          · cases h
          · rename_i hinsert
            split at h
            · cases h
            · cases h
              exact ⟨0, hinsert⟩
          · rename_i n _ hinsert
            cases h
            exact ⟨n, hinsert⟩

theorem createManualRunTx_refines (hdb : WholeSlots t.db)
    (h : createManualRunTx pass t = .ok (t', id, created)) :
    createManualRun pass.cfg pass.call t.db = .ok (t'.db, id, created) ∧ WholeSlots t'.db := by
  obtain ⟨n, hinsert⟩ := createManualRunTx_insert h
  have hmanual : pass.run.deduplicationKey.WholeSecond := trivial
  obtain ⟨hparts, hwhole⟩ := insertRunTx_refines hdb hmanual hinsert
  refine ⟨?_, hwhole⟩
  unfold createManualRunTx at h
  unfold createManualRun
  dsimp only at h ⊢
  -- The guards are the same; what follows them differs in the key that is compared.
  split at h
  · cases h
  · rename_i hkey
    rw [if_neg hkey]
    cases hdomain : t.db.domains.get? pass.call.domainID with
    | none => rw [hdomain] at h; cases h
    | some domain =>
      rw [hdomain] at h
      dsimp only at h ⊢
      split at h
      · cases h
      · rename_i hactive
        rw [if_neg hactive]
        split at h
        · cases h
        · rename_i hstorable
          rw [hinsert] at h
          rw [if_neg hstorable, show newRun .. = pass.run from rfl, hparts]
          rw [List.find?_congr (decide_text_eq hdb hmanual)] at h
          cases n with
          | zero =>
            cases hfind : t.db.runs.rows.find? (fun r =>
                r.deduplicationKey = pass.run.deduplicationKey) with
            | none => rw [hfind] at h; cases h
            | some existing =>
              rw [hfind] at h
              cases h
              rfl
          | succ n =>
            cases h
            rfl

end DomainMonitor.Monitor
