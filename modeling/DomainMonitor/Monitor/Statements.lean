import DomainMonitor.Lib.Transition
import DomainMonitor.Monitor.Workers

/-! # Claiming a run, statement by statement

    `ClaimExecution` sends several statements within one READ COMMITTED
    transaction: the `SELECT ... FOR UPDATE` that locks the run, the attempt to
    take the advisory lock of the domain, the `EXISTS` over the other runs and one
    `UPDATE`. Here the statements of any number of transactions interleave. Each
    statement sees what is committed when it starts, row locks and advisory locks
    are held until the transaction ends, and an `UPDATE` becomes visible when it
    commits.

    The main result is that every commit is a `claimExecution` on the database it
    commits to, although its guards were evaluated by earlier statements.
-/

namespace DomainMonitor.Monitor

/-! ### Transactions -/

/-- The update a claim decides on. -/
inductive RowUpdate where
  | expire | exhaust | claim
  deriving DecidableEq, Repr

def RowUpdate.apply (now : Int) (worker : WorkerID) : RowUpdate → Run → Run
  | .expire => Run.expire now
  | .exhaust => Run.exhaust now
  | .claim => Run.claim now worker

theorem RowUpdate.apply_id (now : Int) (worker : WorkerID) (update : RowUpdate) (run : Run) :
    (update.apply now worker run).id = run.id := by
  cases update <;> rfl

/-- How far a transaction has got, with the row it read and the worker's clock. -/
inductive Stage where
  | begun
  /-- `SELECT ... FOR UPDATE` returned: the row is locked from here on. -/
  | selected (run : Run)
  /-- Past its deadline. -/
  | expiring (run : Run) (goNow : Int)
  /-- Free as far as its own row tells. -/
  | claimable (run : Run) (goNow : Int)
  /-- `pg_try_advisory_xact_lock` returned true: the domain is locked from here on. -/
  | domainLocked (run : Run) (goNow : Int)
  /-- No other run of the domain was active. -/
  | alone (run : Run) (goNow : Int)
  /-- The `UPDATE` was accepted and waits for the commit. -/
  | updated (run : Run) (goNow : Int) (update : RowUpdate)
  deriving DecidableEq

/-- A `ClaimExecution` transaction in progress. -/
structure ClaimTxn where
  runID : UUID
  workerID : WorkerID
  startedAt : Int
  stage : Stage
  deriving DecidableEq

variable (cfg : Config) (db : DB) (runID : UUID) (hash : UUID → Int)

namespace ClaimTxn

def now (t : ClaimTxn) : Int := timestamptz t.startedAt

/-- The transaction as one atomic call. -/
def call (t : ClaimTxn) (goNow : Int) : ClaimCall where
  runID := t.runID
  workerID := t.workerID
  startedAt := t.startedAt
  goNow := goNow
  domainClaimed := true

/-- The transaction holds the row lock of its run. -/
def holdsRow (t : ClaimTxn) : Bool :=
  match t.stage with
  | .begun => false
  | _ => true

/-- The domain whose advisory lock the transaction holds. -/
def lockedDomain (t : ClaimTxn) : Option UUID :=
  match t.stage with
  | .domainLocked run _ | .alone run _ => some run.domainId
  | .updated run _ .exhaust | .updated run _ .claim => some run.domainId
  | _ => none

/-- An `UPDATE` of the locked row: accepted when the new row passes the checks. -/
def write (t : ClaimTxn) (run : Run) (goNow : Int) (update : RowUpdate) (refused : ClaimError) :
    Except ClaimError Stage :=
  if (update.apply t.now t.workerID run).Checks then .ok (.updated run goNow update)
  else .error refused

/-- The next statement of `ClaimExecution`, with the Go code before it; an error
    ends the transaction with a rollback. `clock` is the shared clock and
    `domainClaimed` what the advisory lock call returns. -/
def next (clock : Int) (domainClaimed : Bool) (t : ClaimTxn) : Except ClaimError Stage :=
  match t.stage with
  | .begun =>
    match db.runs.get? t.runID with
    | none => .error .runNotFound
    | some run =>
      if (db.domains.get? run.domainId).isSome then .ok (.selected run) else .error .runNotFound
  | .selected run =>
    if run.isSettled then .error .runCompleted
    else if run.deadlineAt ≤ clock then .ok (.expiring run clock)
    else if run.leaseHeld cfg clock then .error .runBusy
    else .ok (.claimable run clock)
  | .expiring run goNow => t.write run goNow .expire .expireRun
  | .claimable run goNow =>
    if domainClaimed then .ok (.domainLocked run goNow) else .error .runBusy
  | .domainLocked run goNow =>
    if db.anotherRunActive cfg t.now run then .error .runBusy else .ok (.alone run goNow)
  | .alone run goNow =>
    if run.executionAttempts ≥ cfg.outboxMaxAttempts then
      t.write run goNow .exhaust .failExhaustedRun
    else t.write run goNow .claim .claimRun
  -- Nothing is left to do but to commit.
  | .updated run goNow update => .ok (.updated run goNow update)

end ClaimTxn

/-! ### Interleaving -/

/-- The committed database, the clock and the open transactions. -/
structure Sessions where
  db : DB
  clock : Int
  txns : Nat → Option ClaimTxn

def Sessions.setTxn (s : Sessions) (i : Nat) (t : Option ClaimTxn) : Sessions :=
  { s with txns := fun j => if j = i then t else s.txns j }

@[simp] theorem Sessions.setTxn_self (s : Sessions) (i : Nat) (t : Option ClaimTxn) :
    (s.setTxn i t).txns i = t := if_pos rfl

variable {s : Sessions} {domainClaimed : Bool} {now clock : Int} {i : Nat}

@[simp] theorem Sessions.setTxn_ne (s : Sessions) {j : Nat} (t : Option ClaimTxn) (h : j ≠ i) :
    (s.setTxn i t).txns j = s.txns j := if_neg h

/-- Some transaction holds the row lock of the run. -/
def Sessions.rowLocked (s : Sessions) (id : UUID) : Prop :=
  ∃ j t, s.txns j = some t ∧ t.runID = id ∧ t.holdsRow = true

/-- Some transaction holds the advisory lock with this key. -/
def Sessions.keyLocked (s : Sessions) (key : Int) : Prop :=
  ∃ j t d, s.txns j = some t ∧ t.lockedDomain = some d ∧ hash d = key

/-- A transaction of the rest of the system commits: completions update their run
    and wait for its row lock, the others do not touch existing runs. -/
inductive Background (s : Sessions) : DB → Prop where
  | complete (call : CompleteCall) (execution : Execution) (evidence : Evidence) (db' : DB)
      (hfree : ¬ s.rowLocked execution.run.id)
      (h : completeRun cfg call execution evidence s.db = .ok db') : Background s db'
  | scheduleDue (call : ScheduleCall) (db' : DB) (n : Nat)
      (h : scheduleDue cfg call s.db = some (db', n)) : Background s db'
  | createManualRun (call : ManualRunCall) (db' : DB) (id : UUID) (created : Bool)
      (h : createManualRun cfg call s.db = .ok (db', id, created)) : Background s db'
  | other (db' : DB) (h : OtherTransaction s.db db') : Background s db'

inductive Statement where
  | tick (t : Int)
  | background (db : DB)
  | start (i : Nat) (run : UUID) (worker : WorkerID)
  | next (i : Nat)
  | rollback (i : Nat)
  | commit (i : Nat)

/-- One statement, or the passing of time. `hash` is PostgreSQL's
    `hashtextextended`, which turns a domain into a lock key. -/
inductive Sessions.Step : Sessions → Statement → Sessions → Prop where
  | tick {s : Sessions} {t : Int} (ht : s.clock ≤ t) :
      Step s (.tick t) { s with clock := t }
  | background {s : Sessions} {db' : DB} (h : Background cfg s db') :
      Step s (.background db') { s with db := db' }
  | start {s : Sessions} {i : Nat} {run : UUID} {worker : WorkerID} (hidle : s.txns i = none) :
      Step s (.start i run worker) (s.setTxn i (some ⟨run, worker, s.clock, .begun⟩))
  | next {s : Sessions} {i : Nat} {t : ClaimTxn} {domainClaimed : Bool} {stage : Stage}
      (ht : s.txns i = some t)
      -- The `SELECT` waits for the row lock.
      (hrow : t.stage = .begun → ¬ s.rowLocked t.runID)
      (hlock : ∀ run goNow, t.stage = .claimable run goNow →
        (domainClaimed = true ↔ ¬ s.keyLocked hash (hash run.domainId)))
      (h : t.next cfg s.db s.clock domainClaimed = .ok stage) :
      Step s (.next i) (s.setTxn i (some { t with stage }))
  -- An error return, a lost connection or a crash at any point.
  | rollback {s : Sessions} {i : Nat} : Step s (.rollback i) (s.setTxn i none)
  | commit {s : Sessions} {i : Nat} {t : ClaimTxn} {run : Run} {goNow : Int} {update : RowUpdate}
      (ht : s.txns i = some t) (hstage : t.stage = .updated run goNow update) :
      Step s (.commit i)
        { (s.setTxn i none) with
          db := s.db.setRun t.runID (update.apply t.now t.workerID)
            (RowUpdate.apply_id t.now t.workerID update) }

/-- No transaction is open and no run is running. -/
def Sessions.IsInitial (s : Sessions) : Prop :=
  (∀ i, s.txns i = none) ∧ ∀ id run, s.db.runs.get? id = some run → run.status ≠ .running

def sessions : LTS.System Sessions Statement where
  init := Sessions.IsInitial
  step := Sessions.Step cfg hash

/-! ### What a transaction knows

    The facts established by its statements, which the locks keep true. -/

/-- The row as it was read, still committed. -/
structure ReadRow (run : Run) : Prop where
  row : db.runs.get? runID = some run
  domain : (db.domains.get? run.domainId).isSome = true

/-- The guards on the row itself. -/
structure Claimable (run : Run) (goNow : Int) : Prop
    extends ReadRow db runID run where
  settled : run.isSettled = false
  deadline : goNow < run.deadlineAt
  lease : run.leaseHeld cfg goNow = false

/-- The guard on the other runs of the domain. -/
structure Alone (now : Int) (run : Run) (goNow : Int) : Prop
    extends Claimable cfg db runID run goNow where
  alone : db.anotherRunActive cfg now run = false

def ClaimTxn.Valid (t : ClaimTxn) : Prop :=
  match t.stage with
  | .begun => True
  | .selected run => ReadRow db t.runID run
  | .expiring run goNow => ReadRow db t.runID run ∧ run.isSettled = false ∧ run.deadlineAt ≤ goNow
  | .claimable run goNow | .domainLocked run goNow => Claimable cfg db t.runID run goNow
  | .alone run goNow => Alone cfg db t.runID t.now run goNow
  | .updated run goNow .expire =>
    (ReadRow db t.runID run ∧ run.isSettled = false ∧ run.deadlineAt ≤ goNow) ∧
      (run.expire t.now).Checks
  | .updated run goNow .exhaust =>
    Alone cfg db t.runID t.now run goNow ∧ cfg.outboxMaxAttempts ≤ run.executionAttempts ∧
      (run.exhaust t.now).Checks
  | .updated run goNow .claim =>
    Alone cfg db t.runID t.now run goNow ∧ run.executionAttempts < cfg.outboxMaxAttempts ∧
      (run.claim t.now t.workerID).Checks

section

variable {cfg : Config} {hash : UUID → Int} {db db' : DB} {t : ClaimTxn}

variable {goNow : Int} {run : Run} {update : RowUpdate} {stage : Stage} {j : Nat} {id : UUID}
  {worker : WorkerID}

/-- `EXISTS` found nothing: no other run of the domain holds it. -/
theorem anotherRunActive_eq_false_iff :
    db.anotherRunActive cfg now run = false ↔
      ∀ id o, db.runs.get? id = some o → o.domainId = run.domainId → id ≠ run.id →
        o.holdsDomain cfg now = false := by
  constructor
  · intro h id o ho hdomain hid
    have hkey : o.id = id := KeyedTable.key_of_get? ho
    have hrow := KeyedTable.any_eq_false h ho
    simpa [hdomain, hkey, hid] using hrow
  · intro h
    by_contra hactive
    rw [Bool.not_eq_false] at hactive
    obtain ⟨id, o, ho, hrow⟩ := KeyedTable.any_eq_true hactive
    have hkey : o.id = id := KeyedTable.key_of_get? ho
    simp only [Bool.and_eq_true, decide_eq_true_eq, hkey] at hrow
    obtain ⟨⟨hdomain, hid⟩, hholds⟩ := hrow
    rw [h id o ho hdomain hid] at hholds
    cases hholds

theorem ClaimTxn.write_ok {refused : ClaimError} (h : t.write run goNow update refused = .ok stage) :
    stage = .updated run goNow update ∧ (update.apply t.now t.workerID run).Checks := by
  unfold ClaimTxn.write at h
  by_cases hchecks : (update.apply t.now t.workerID run).Checks
  · rw [if_pos hchecks] at h
    cases h
    exact ⟨rfl, hchecks⟩
  · rw [if_neg hchecks] at h
    cases h

/-- **Step lemma** for one transaction: its next statement establishes the facts of
    the stage it leads to. -/
theorem ClaimTxn.Valid.next (hv : t.Valid cfg db)
    (h : t.next cfg db clock domainClaimed = .ok stage) :
    ({ t with stage } : ClaimTxn).Valid cfg db := by
  obtain ⟨runID, workerID, startedAt, before⟩ := t
  cases before with
  | begun =>
    simp only [ClaimTxn.next] at h
    cases hrun : db.runs.get? runID with
    | none =>
      rw [hrun] at h
      cases h
    | some run =>
      rw [hrun] at h
      dsimp only at h
      by_cases hdomain : (db.domains.get? run.domainId).isSome = true
      · rw [if_pos hdomain] at h
        cases h
        exact ⟨hrun, hdomain⟩
      · rw [if_neg hdomain] at h
        cases h
  | selected run =>
    have hread : ReadRow db runID run := hv
    simp only [ClaimTxn.next] at h
    by_cases hsettled : run.isSettled = true
    · rw [if_pos hsettled] at h
      cases h
    rw [if_neg hsettled] at h
    rw [Bool.not_eq_true] at hsettled
    by_cases hdeadline : run.deadlineAt ≤ clock
    · rw [if_pos hdeadline] at h
      cases h
      exact ⟨hread, hsettled, hdeadline⟩
    rw [if_neg hdeadline] at h
    by_cases hlease : run.leaseHeld cfg clock = true
    · rw [if_pos hlease] at h
      cases h
    rw [if_neg hlease] at h
    cases h
    exact ⟨hread, hsettled, by omega, by simpa using hlease⟩
  | expiring run goNow =>
    obtain ⟨rfl, hchecks⟩ := ClaimTxn.write_ok h
    exact ⟨hv, hchecks⟩
  | claimable run goNow =>
    simp only [ClaimTxn.next] at h
    split at h
    · cases h
      exact hv
    · cases h
  | domainLocked run goNow =>
    simp only [ClaimTxn.next] at h
    by_cases halone : db.anotherRunActive cfg (timestamptz startedAt) run = true
    · rw [ClaimTxn.now, if_pos halone] at h
      cases h
    · rw [ClaimTxn.now, if_neg halone] at h
      cases h
      exact ⟨hv, Bool.not_eq_true _ ▸ halone⟩
  | alone run goNow =>
    simp only [ClaimTxn.next] at h
    by_cases hattempts : run.executionAttempts ≥ cfg.outboxMaxAttempts
    · rw [if_pos hattempts] at h
      obtain ⟨rfl, hchecks⟩ := ClaimTxn.write_ok h
      exact ⟨hv, hattempts, hchecks⟩
    · rw [if_neg hattempts] at h
      obtain ⟨rfl, hchecks⟩ := ClaimTxn.write_ok h
      exact ⟨hv, by omega, hchecks⟩
  | updated run goNow update =>
    cases h
    exact hv

/-- What another transaction may change under the feet of `t`. -/
theorem ClaimTxn.Valid.stable (hv : t.Valid cfg db)
    (hrow : t.holdsRow = true → ∀ run, db.runs.get? t.runID = some run →
      db'.runs.get? t.runID = some run)
    (hdomains : ∀ d, (db.domains.get? d).isSome = true → (db'.domains.get? d).isSome = true)
    (halone : ∀ run, t.lockedDomain = some run.domainId →
      db.anotherRunActive cfg t.now run = false → db'.anotherRunActive cfg t.now run = false) :
    t.Valid cfg db' := by
  obtain ⟨runID, workerID, startedAt, stage⟩ := t
  -- Each group of facts is kept on its own.
  have hread : ∀ run, stage ≠ .begun → ReadRow db runID run → ReadRow db' runID run := by
    intro run hstage h
    have hholds : ClaimTxn.holdsRow ⟨runID, workerID, startedAt, stage⟩ = true := by
      cases stage with
      | begun => exact absurd rfl hstage
      | _ => rfl
    exact ⟨hrow hholds run h.row, hdomains _ h.domain⟩
  have hclaimable : ∀ run goNow, stage ≠ .begun → Claimable cfg db runID run goNow →
      Claimable cfg db' runID run goNow := by
    intro run goNow hstage h
    exact ⟨hread run hstage h.toReadRow, h.settled, h.deadline, h.lease⟩
  cases stage with
  | begun => trivial
  | selected run => exact hread run (by simp) hv
  | expiring run goNow => exact ⟨hread run (by simp) hv.1, hv.2⟩
  | claimable run goNow => exact hclaimable run goNow (by simp) hv
  | domainLocked run goNow => exact hclaimable run goNow (by simp) hv
  | alone run goNow =>
    exact ⟨hclaimable run goNow (by simp) hv.toClaimable, halone run rfl hv.alone⟩
  | updated run goNow update =>
    cases update with
    | expire => exact ⟨⟨hread run (by simp) hv.1.1, hv.1.2⟩, hv.2⟩
    | exhaust =>
      exact ⟨⟨hclaimable run goNow (by simp) hv.1.toClaimable, halone run rfl hv.1.alone⟩, hv.2⟩
    | claim =>
      exact ⟨⟨hclaimable run goNow (by simp) hv.1.toClaimable, halone run rfl hv.1.alone⟩, hv.2⟩

/-- The facts behind an accepted `UPDATE` are those `claimExecution` asks for. -/
theorem ClaimTxn.Valid.commit_eq (hv : t.Valid cfg db)
    (hstage : t.stage = .updated run goNow update) :
    (claimExecution cfg (t.call goNow) db).1 =
      db.setRun t.runID (update.apply t.now t.workerID)
        (RowUpdate.apply_id t.now t.workerID update) := by
  unfold ClaimTxn.Valid at hv
  rw [hstage] at hv
  cases update with
  | expire =>
    obtain ⟨⟨hread, hsettled, hdeadline⟩, hchecks⟩ := hv
    have hclaim := claimExecution_expired cfg (t.call goNow) hread.row hread.domain hdeadline
    change (run.expire (t.call goNow).now).Checks at hchecks
    rw [if_neg (by simp [hsettled]), if_pos hchecks] at hclaim
    rw [hclaim]
    rfl
  | exhaust =>
    obtain ⟨halone, hattempts, hchecks⟩ := hv
    obtain ⟨domain, hdomain⟩ := Option.isSome_iff_exists.mp halone.domain
    have hclaim := claimExecution_exhausts cfg (t.call goNow) halone.row hdomain
      halone.settled halone.deadline halone.lease rfl halone.alone hattempts hchecks
    rw [hclaim]
    rfl
  | claim =>
    obtain ⟨halone, hattempts, hchecks⟩ := hv
    obtain ⟨domain, hdomain⟩ := Option.isSome_iff_exists.mp halone.domain
    have hclaim := claimExecution_claims cfg (t.call goNow) halone.row hdomain
      halone.settled halone.deadline halone.lease rfl halone.alone hattempts hchecks
    rw [hclaim]
    rfl

/-! ### Locks -/

/-- A commit that starts no run and leaves locked rows alone. -/
structure Quiet (locked : UUID → Prop) (db db' : DB) : Prop where
  kept : ∀ id run, locked id → db.runs.get? id = some run → db'.runs.get? id = some run
  running : ∀ id run, db'.runs.get? id = some run → run.status = .running →
    db.runs.get? id = some run
  domains : ∀ d, (db.domains.get? d).isSome = true → (db'.domains.get? d).isSome = true

theorem RunsExtended.quiet {locked : UUID → Prop} (h : RunsExtended cfg goNow db db') :
    Quiet locked db db' where
  kept id run _ hrun := h.kept id run hrun
  running id run hrun hrunning := by
    rcases h.added id run hrun with hold | ⟨-, hfresh⟩
    · exact hold
    · rw [hfresh.status] at hrunning
      cases hrunning
  domains d hd := by
    rw [h.domains]
    exact hd

theorem Background.quiet (h : Background cfg s db') : Quiet s.rowLocked s.db db' := by
  cases h with
  | complete call execution evidence _ hfree hcomplete =>
    obtain ⟨p, hp, rfl⟩ := completeRun_ok_iff.mp hcomplete
    obtain ⟨row, hrow, hrunning, -, hruns⟩ := finishRun_ok hp.runs
    refine ⟨?_, ?_, ?_⟩
    · intro id run hlocked hrun
      show p.runs.get? id = some run
      rw [hruns, KeyedTable.get?_modify_ne, hrun]
      rintro rfl
      exact hfree hlocked
    · intro id run hrun hstatus
      change p.runs.get? id = some run at hrun
      rw [hruns] at hrun
      rcases KeyedTable.get?_modify_cases hrow hrun with ⟨-, rfl⟩ | ⟨-, hrun⟩
      · -- The completed run is not running any more.
        cases hstatus
      · exact hrun
    · intro d hd
      exact completeRun_domains hcomplete hd
  | scheduleDue call _ n hcall => exact (scheduleDue_extended hcall).quiet
  | createManualRun call _ id created hcall => exact (createManualRun_extended hcall).quiet
  | other _ hother =>
    refine ⟨?_, ?_, hother.domains⟩
    · intro id run _ hrun
      rw [hother.runs]
      exact hrun
    · intro id run hrun _
      rw [hother.runs] at hrun
      exact hrun

/-- If no run starts, a domain without an active run stays so. -/
theorem anotherRunActive_mono
    (hrunning : ∀ id o, db'.runs.get? id = some o → o.status = .running → o.domainId = run.domainId → db.runs.get? id = some o)
    (h : db.anotherRunActive cfg now run = false) : db'.anotherRunActive cfg now run = false := by
  rw [anotherRunActive_eq_false_iff] at h ⊢
  intro id o ho hdomain hid
  by_cases hstatus : o.status = .running
  · exact h id o (hrunning id o ho hstatus hdomain) hdomain hid
  · simp [Run.holdsDomain, hstatus]

/-- The state of the locks: what each transaction knows is true, and no two
    transactions hold the same row or the same advisory lock. -/
structure Sessions.Consistent (cfg : Config) (hash : UUID → Int) (s : Sessions) : Prop where
  valid : ∀ i t, s.txns i = some t → t.Valid cfg s.db
  started : ∀ i t, s.txns i = some t → t.startedAt ≤ s.clock
  rows : ∀ i j t t', s.txns i = some t → s.txns j = some t' → t.holdsRow = true →
    t'.holdsRow = true → t.runID = t'.runID → i = j
  domains : ∀ i j t t' d d', s.txns i = some t → s.txns j = some t' → t.lockedDomain = some d →
    t'.lockedDomain = some d' → hash d = hash d' → i = j

/-- Which transaction sits in a slot after one was replaced. -/
theorem Sessions.setTxn_some {o : Option ClaimTxn} {t : ClaimTxn}
    (h : (s.setTxn i o).txns j = some t) : j = i ∧ o = some t ∨ j ≠ i ∧ s.txns j = some t := by
  by_cases hj : j = i
  · subst hj
    rw [Sessions.setTxn_self] at h
    exact .inl ⟨rfl, h⟩
  · rw [Sessions.setTxn_ne _ _ hj] at h
    exact .inr ⟨hj, h⟩

/-- Ending a transaction releases its locks. -/
theorem Sessions.Consistent.release (hs : s.Consistent cfg hash) :
    (s.setTxn i none).Consistent cfg hash := by
  have hold : ∀ j t, (s.setTxn i none).txns j = some t → s.txns j = some t := by
    intro j t hj
    rcases Sessions.setTxn_some hj with ⟨-, hnone⟩ | ⟨-, hj⟩
    · cases hnone
    · exact hj
  refine ⟨?_, ?_, ?_, ?_⟩
  · intro j t hj
    exact hs.valid j t (hold j t hj)
  · intro j t hj
    exact hs.started j t (hold j t hj)
  · intro j k t t' hj hk
    exact hs.rows j k t t' (hold j t hj) (hold k t' hk)
  · intro j k t t' d d' hj hk
    exact hs.domains j k t t' d d' (hold j t hj) (hold k t' hk)

/-- A statement acquires the row lock only in the first stage. -/
theorem ClaimTxn.holdsRow_of_ne_begun (h : t.stage ≠ .begun) : t.holdsRow = true := by
  unfold ClaimTxn.holdsRow
  cases hstage : t.stage with
  | begun => exact absurd hstage h
  | _ => rfl

/-- A statement acquires the domain only by the advisory lock call. -/
theorem ClaimTxn.next_lockedDomain {d : UUID} (h : t.next cfg db clock domainClaimed = .ok stage)
    (hd : ({ t with stage } : ClaimTxn).lockedDomain = some d) :
    t.lockedDomain = some d ∨
      ∃ run goNow, t.stage = .claimable run goNow ∧ domainClaimed = true ∧ run.domainId = d := by
  obtain ⟨runID, workerID, startedAt, before⟩ := t
  cases before with
  | begun =>
    simp only [ClaimTxn.next] at h
    split at h
    · cases h
    · split at h
      · cases h
        cases hd
      · cases h
  | selected run =>
    simp only [ClaimTxn.next] at h
    split at h
    · cases h
    · split at h
      · cases h
        cases hd
      · split at h
        · cases h
        · cases h
          cases hd
  | expiring run goNow =>
    obtain ⟨rfl, -⟩ := ClaimTxn.write_ok h
    cases hd
  | claimable run goNow =>
    simp only [ClaimTxn.next] at h
    split at h
    · rename_i hclaimed
      cases h
      exact .inr ⟨run, goNow, rfl, hclaimed, Option.some.inj hd⟩
    · cases h
  | domainLocked run goNow =>
    simp only [ClaimTxn.next] at h
    split at h
    · cases h
    · cases h
      exact .inl hd
  | alone run goNow =>
    simp only [ClaimTxn.next] at h
    split at h
    · obtain ⟨rfl, -⟩ := ClaimTxn.write_ok h
      exact .inl hd
    · obtain ⟨rfl, -⟩ := ClaimTxn.write_ok h
      exact .inl hd
  | updated run goNow update =>
    cases h
    exact .inl hd

theorem ClaimTxn.Valid.readRow (hv : t.Valid cfg db) (hstage : t.stage = .updated run goNow update) :
    ReadRow db t.runID run := by
  unfold ClaimTxn.Valid at hv
  rw [hstage] at hv
  cases update with
  | expire => exact hv.1.1
  | exhaust => exact hv.1.toReadRow
  | claim => exact hv.1.toReadRow

/-! ### The invariant is kept -/

variable {s s' : Sessions} {a : Statement} {i : Nat}

/-- What one transaction knows survives the commit of another. -/
theorem valid_of_commit (hs : s.Consistent cfg hash) (ht : s.txns i = some t)
    (hstage : t.stage = .updated run goNow update) {t' : ClaimTxn} (hji : j ≠ i)
    (hj : s.txns j = some t') :
    t'.Valid cfg (s.db.setRun t.runID (update.apply t.now t.workerID)
      (RowUpdate.apply_id t.now t.workerID update)) := by
  have hread := (hs.valid i t ht).readRow hstage
  apply (hs.valid j t' hj).stable
  · -- Both hold a row lock, so the rows differ.
    intro hholds row hrow
    rw [DB.setRun_get?_ne, hrow]
    intro hsame
    have hholds' := ClaimTxn.holdsRow_of_ne_begun (t := t) (by rw [hstage]; simp)
    exact hji (hs.rows j i t' t hj ht hholds hholds' hsame)
  · intro d hd
    exact hd
  · intro row hlocked
    apply anotherRunActive_mono
    intro id o ho hrunning hdomain
    by_cases hid : id = t.runID
    · -- The row just written runs only after a claim, which locked another domain.
      subst hid
      rw [DB.setRun_get? hread.row] at ho
      obtain rfl := Option.some.inj ho
      have hother : t.lockedDomain = some run.domainId → False := by
        intro hlocked'
        apply hji
        apply hs.domains j i t' t _ _ hj ht hlocked hlocked'
        rw [← hdomain]
        cases update <;> rfl
      cases update with
      | expire => cases hrunning
      | exhaust => cases hrunning
      | claim => exact (hother (by unfold ClaimTxn.lockedDomain; rw [hstage])).elim
    · rw [DB.setRun_get?_ne _ _ _ hid] at ho
      exact ho

/-- What a transaction knows survives the rest of the system. -/
theorem valid_of_background (h : Background cfg s db') {t : ClaimTxn} (hj : s.txns j = some t)
    (hv : t.Valid cfg s.db) : t.Valid cfg db' := by
  have hquiet := h.quiet
  apply hv.stable
  · intro hholds run hrun
    exact hquiet.kept t.runID run ⟨j, t, hj, rfl, hholds⟩ hrun
  · exact hquiet.domains
  · intro run _
    apply anotherRunActive_mono
    intro id o ho hrunning _
    exact hquiet.running id o ho hrunning

/-- Putting a transaction in place, if its locks are free. -/
theorem Sessions.Consistent.install (hs : s.Consistent cfg hash) (hv : t.Valid cfg s.db)
    (hstarted : t.startedAt ≤ s.clock)
    (hrows : t.holdsRow = true → ∀ j t', j ≠ i → s.txns j = some t' → t'.holdsRow = true →
      t'.runID ≠ t.runID)
    (hdomains : ∀ d, t.lockedDomain = some d → ∀ j t' d', j ≠ i → s.txns j = some t' →
      t'.lockedDomain = some d' → hash d' ≠ hash d) :
    (s.setTxn i (some t)).Consistent cfg hash := by
  refine ⟨?_, ?_, ?_, ?_⟩
  · intro j t' hj
    rcases Sessions.setTxn_some hj with ⟨-, heq⟩ | ⟨-, hj⟩
    · cases heq
      exact hv
    · exact hs.valid j t' hj
  · intro j t' hj
    rcases Sessions.setTxn_some hj with ⟨-, heq⟩ | ⟨-, hj⟩
    · cases heq
      exact hstarted
    · exact hs.started j t' hj
  · intro j k t₁ t₂ hj hk hrow₁ hrow₂ hsame
    rcases Sessions.setTxn_some hj with ⟨hji, heq₁⟩ | ⟨hji, hj⟩
    · rcases Sessions.setTxn_some hk with ⟨hki, -⟩ | ⟨hki, hk⟩
      · rw [hji, hki]
      · cases heq₁
        exact absurd hsame.symm (hrows hrow₁ k t₂ hki hk hrow₂)
    · rcases Sessions.setTxn_some hk with ⟨-, heq₂⟩ | ⟨-, hk⟩
      · cases heq₂
        exact absurd hsame (hrows hrow₂ j t₁ hji hj hrow₁)
      · exact hs.rows j k t₁ t₂ hj hk hrow₁ hrow₂ hsame
  · intro j k t₁ t₂ d₁ d₂ hj hk hd₁ hd₂ hsame
    rcases Sessions.setTxn_some hj with ⟨hji, heq₁⟩ | ⟨hji, hj⟩
    · rcases Sessions.setTxn_some hk with ⟨hki, -⟩ | ⟨hki, hk⟩
      · rw [hji, hki]
      · cases heq₁
        exact absurd hsame.symm (hdomains d₁ hd₁ k t₂ d₂ hki hk hd₂)
    · rcases Sessions.setTxn_some hk with ⟨-, heq₂⟩ | ⟨-, hk⟩
      · cases heq₂
        exact absurd hsame (hdomains d₂ hd₂ j t₁ d₁ hji hj hd₁)
      · exact hs.domains j k t₁ t₂ d₁ d₂ hj hk hd₁ hd₂ hsame

/-- **Step lemma**: no statement breaks the locks. -/
theorem consistent_step (hs : s.Consistent cfg hash) (h : Sessions.Step cfg hash s a s') :
    s'.Consistent cfg hash := by
  cases h with
  | tick ht =>
    refine ⟨hs.valid, ?_, hs.rows, hs.domains⟩
    intro j t hj
    exact Int.le_trans (hs.started j t hj) ht
  | background hback =>
    refine ⟨?_, hs.started, hs.rows, hs.domains⟩
    intro j t hj
    exact valid_of_background hback hj (hs.valid j t hj)
  | rollback => exact hs.release
  | start hidle =>
    refine hs.install trivial (Int.le_refl _) ?_ ?_
    · intro hholds
      cases hholds
    · intro d hlocked
      cases hlocked
  | next ht hrow hlock hnext =>
    rename_i i t domainClaimed stage
    refine hs.install ((hs.valid i t ht).next hnext) (hs.started i t ht) ?_ ?_
    · intro _ j t' hji hj hholds hsame
      by_cases hbegun : t.stage = .begun
      · -- The `SELECT` has just acquired the lock.
        exact hrow hbegun ⟨j, t', hj, hsame, hholds⟩
      · exact hji (hs.rows j i t' t hj ht hholds (ClaimTxn.holdsRow_of_ne_begun hbegun) hsame)
    · intro d hlocked j t' d' hji hj hlocked' hsame
      rcases ClaimTxn.next_lockedDomain hnext hlocked with hheld | ⟨run, goNow, hstage, hclaimed, hd⟩
      · exact hji (hs.domains j i t' t d' d hj ht hlocked' hheld hsame)
      · -- `pg_try_advisory_xact_lock` has just returned true.
        subst hd
        exact (hlock run goNow hstage).mp hclaimed ⟨j, t', d', hj, hlocked', hsame⟩
  | commit ht hstage =>
    rename_i i t run goNow update
    have hreleased := hs.release (i := i)
    refine ⟨?_, hreleased.started, hreleased.rows, hreleased.domains⟩
    intro j t' hj
    rcases Sessions.setTxn_some hj with ⟨-, hnone⟩ | ⟨hji, hj⟩
    · cases hnone
    · exact valid_of_commit hs ht hstage hji hj

theorem consistent_reachable (h : (sessions cfg hash).Reachable s) : s.Consistent cfg hash := by
  refine LTS.System.invariant (P := Sessions.Consistent cfg hash) ?_
    (fun _ _ _ hs hstep => consistent_step hs hstep) h
  intro s hinit
  have hnone : ∀ i t, s.txns i ≠ some t := by
    intro i t ht
    rw [hinit.1 i] at ht
    cases ht
  refine ⟨?_, ?_, ?_, ?_⟩
  · intro i t ht
    exact absurd ht (hnone i t)
  · intro i t ht
    exact absurd ht (hnone i t)
  · intro i j t t' ht
    exact absurd ht (hnone i t)
  · intro i j t t' d d' ht
    exact absurd ht (hnone i t)

/-! ### A transaction that runs alone

    Conversely, every claim can be played statement by statement when no other
    transaction is open. -/

theorem Sessions.setTxn_setTxn (s : Sessions) (i : Nat) (o o' : Option ClaimTxn) :
    (s.setTxn i o).setTxn i o' = s.setTxn i o' := by
  unfold Sessions.setTxn
  congr 1
  funext j
  by_cases hj : j = i <;> simp [hj]

theorem Sessions.setTxn_none (h : s.txns i = none) : s.setTxn i none = s := by
  unfold Sessions.setTxn
  congr 1
  funext j
  by_cases hj : j = i
  · rw [if_pos hj, hj, h]
  · rw [if_neg hj]

/-- The next statement of the only open transaction: every lock is free. -/
theorem serial_next (hidle : ∀ j, s.txns j = none) (h : t.next cfg s.db s.clock true = .ok stage) :
    Sessions.Step cfg hash (s.setTxn i (some t)) (.next i) (s.setTxn i (some { t with stage })) := by
  have honly : ∀ j t', (s.setTxn i (some t)).txns j = some t' → t = t' := by
    intro j t' hj
    rcases Sessions.setTxn_some hj with ⟨-, heq⟩ | ⟨-, hj⟩
    · exact Option.some.inj heq
    · rw [hidle j] at hj
      cases hj
  rw [← Sessions.setTxn_setTxn s i (some t) (some { t with stage })]
  apply Sessions.Step.next (Sessions.setTxn_self _ _ _) ?_ ?_ h
  · rintro hbegun ⟨j, t', hj, -, hholds⟩
    obtain rfl := honly j t' hj
    unfold ClaimTxn.holdsRow at hholds
    rw [hbegun] at hholds
    cases hholds
  · intro run goNow hstage
    refine iff_of_true rfl ?_
    rintro ⟨j, t', d, hj, hlocked, -⟩
    obtain rfl := honly j t' hj
    unfold ClaimTxn.lockedDomain at hlocked
    rw [hstage] at hlocked
    cases hlocked

/-- The last two: the `UPDATE`, and a commit that leaves no transaction open. -/
theorem serial_finish (hidle : ∀ j, s.txns j = none) {ls : List Statement}
    (hsteps : (sessions cfg hash).Steps s ls (s.setTxn i (some ⟨id, worker, s.clock, stage⟩)))
    (hupdate : ClaimTxn.next cfg s.db s.clock true ⟨id, worker, s.clock, stage⟩ =
      .ok (.updated run goNow update)) :
    ∃ ls, (sessions cfg hash).Steps s ls
      { s with db := (s.db.setRun id (update.apply (timestamptz s.clock) worker)
          (RowUpdate.apply_id (timestamptz s.clock) worker update)) } := by
  have hcommit : Sessions.Step cfg hash
      (s.setTxn i (some ⟨id, worker, s.clock, .updated run goNow update⟩)) (.commit i) _ :=
    .commit (Sessions.setTxn_self s i _) rfl
  rw [Sessions.setTxn_setTxn, Sessions.setTxn_none (hidle i)] at hcommit
  exact ⟨_, hsteps.append (.cons _ _ (serial_next hidle hupdate) (.single hcommit))⟩

/-- The first two statements: select the row and look at it. -/
theorem serial_select (hash : UUID → Int) (hidle : ∀ j, s.txns j = none)
    (hread : ReadRow s.db id run)
    (hdecide : ClaimTxn.next cfg s.db s.clock true ⟨id, worker, s.clock, .selected run⟩ =
      .ok stage) :
    (sessions cfg hash).Steps s [.start i id worker, .next i, .next i]
      (s.setTxn i (some ⟨id, worker, s.clock, stage⟩)) := by
  have hselect : ClaimTxn.next cfg s.db s.clock true ⟨id, worker, s.clock, .begun⟩ =
      .ok (.selected run) := by
    simp only [ClaimTxn.next]
    rw [hread.row]
    dsimp only
    rw [if_pos hread.domain]
  have h₁ : Sessions.Step cfg hash s (.start i id worker) _ := .start (hidle i)
  exact .cons _ _ h₁ (.cons _ _ (serial_next hidle hselect)
    (.cons _ _ (serial_next hidle hdecide) (.nil _)))

/-- Up to the `UPDATE`, for a run that can be claimed. -/
theorem serial_alone (hash : UUID → Int) (hidle : ∀ j, s.txns j = none)
    (h : Alone cfg s.db id (timestamptz s.clock) run s.clock) :
    ∃ ls, (sessions cfg hash).Steps s ls
      (s.setTxn i (some ⟨id, worker, s.clock, .alone run s.clock⟩)) := by
  have hdecide : ClaimTxn.next cfg s.db s.clock true ⟨id, worker, s.clock, .selected run⟩ =
      .ok (.claimable run s.clock) := by
    have hdeadline := h.deadline
    simp only [ClaimTxn.next]
    rw [if_neg (by simp [h.settled]), if_neg (by omega), if_neg (by simp [h.lease])]
  have hlock : ClaimTxn.next cfg s.db s.clock true ⟨id, worker, s.clock, .claimable run s.clock⟩ =
      .ok (.domainLocked run s.clock) := rfl
  have hexists : ClaimTxn.next cfg s.db s.clock true
      ⟨id, worker, s.clock, .domainLocked run s.clock⟩ = .ok (.alone run s.clock) := by
    have hnone : ¬ s.db.anotherRunActive cfg (timestamptz s.clock) run = true := by simp [h.alone]
    exact if_neg hnone
  exact ⟨_, (serial_select hash hidle h.toReadRow hdecide).append
    (.cons _ _ (serial_next hidle hlock) (.cons _ _ (serial_next hidle hexists) (.nil _)))⟩

/-- **Serial transactions**: a call of `claimExecution` is a run of the statements. -/
theorem serial_claimExecution (hash : UUID → Int) (hidle : ∀ j, s.txns j = none) {db' : DB}
    {result : Except ClaimError Execution}
    (h : claimExecution cfg ⟨id, worker, s.clock, s.clock, true⟩ s.db = (db', result)) :
    ∃ ls, (sessions cfg hash).Steps s ls { s with db := db' } := by
  cases ClaimStep.of_eq h with
  | refused e he => exact ⟨[], .nil s⟩
  | expired run hrun hdomain hsettled hdeadline hchecks =>
    have hdecide : ClaimTxn.next cfg s.db s.clock true ⟨id, worker, s.clock, .selected run⟩ =
        .ok (.expiring run s.clock) := by
      simp only [ClaimTxn.next]
      rw [if_neg (by simp [hsettled]), if_pos hdeadline]
    have hupdate : ClaimTxn.next cfg s.db s.clock true ⟨id, worker, s.clock,
        .expiring run s.clock⟩ = .ok (.updated run s.clock .expire) := if_pos hchecks
    exact serial_finish (i := 0) hidle (serial_select hash hidle ⟨hrun, hdomain⟩ hdecide) hupdate
  | exhausted run hrun hdomain hsettled hdeadline hlease hlock hother hattempts hchecks =>
    have halone : Alone cfg s.db id (timestamptz s.clock) run s.clock :=
      ⟨⟨⟨hrun, hdomain⟩, hsettled, hdeadline, hlease⟩, hother⟩
    have hupdate : ClaimTxn.next cfg s.db s.clock true ⟨id, worker, s.clock,
        .alone run s.clock⟩ = .ok (.updated run s.clock .exhaust) := by
      simp only [ClaimTxn.next]
      rw [if_pos hattempts]
      exact if_pos hchecks
    obtain ⟨ls, hsteps⟩ := serial_alone (i := 0) hash hidle halone
    exact serial_finish hidle hsteps hupdate
  | claimed run domain hrun hdomain hsettled hdeadline hlease hlock hother hattempts hchecks =>
    have hsome : (s.db.domains.get? run.domainId).isSome = true := by
      rw [hdomain]
      rfl
    have halone : Alone cfg s.db id (timestamptz s.clock) run s.clock :=
      ⟨⟨⟨hrun, hsome⟩, hsettled, hdeadline, hlease⟩, hother⟩
    have hupdate : ClaimTxn.next cfg s.db s.clock true ⟨id, worker, s.clock,
        .alone run s.clock⟩ = .ok (.updated run s.clock .claim) := by
      simp only [ClaimTxn.next]
      rw [if_neg (by omega)]
      exact if_pos hchecks
    obtain ⟨ls, hsteps⟩ := serial_alone (i := 0) hash hidle halone
    exact serial_finish hidle hsteps hupdate

/-- **Atomic claims**: whatever was interleaved with its statements, a transaction
    that commits does to the database what `claimExecution` does to it at that
    moment; and every call of `claimExecution` is a run of the statements. -/
theorem claims_atomic (cfg : Config) (hash : UUID → Int) :
    (∀ s i t s', (sessions cfg hash).Reachable s → s.txns i = some t →
      (sessions cfg hash).step s (.commit i) s' →
      ∃ goNow, t.startedAt ≤ s.clock ∧ s'.db = (claimExecution cfg (t.call goNow) s.db).1) ∧
    ∀ s id worker, (∀ j, s.txns j = none) → ∃ ls, (sessions cfg hash).Steps s ls
      { s with db := (claimExecution cfg ⟨id, worker, s.clock, s.clock, true⟩ s.db).1 } := by
  constructor
  · intro s i t s' hr ht hstep
    have hs := consistent_reachable hr
    cases hstep with
    | @commit _ _ run goNow update ht' hstage =>
      rw [ht] at ht'
      cases ht'
      exact ⟨goNow, hs.started i t ht, by rw [(hs.valid i t ht).commit_eq hstage]⟩
  · intro s id worker hidle
    exact serial_claimExecution hash hidle rfl

end

end DomainMonitor.Monitor
