import DomainMonitor.Lib.Transition
import DomainMonitor.Monitor.Claim
import DomainMonitor.Monitor.Complete
import DomainMonitor.Monitor.Scheduler

/-! # Workers sharing a database

    Any number of worker goroutines take run ids from the job stream, claim the
    run, gather evidence and complete it. Deliveries may be repeated, workers
    may crash at any point, and transactions of the rest of the system run in
    between. Each transaction is one atomic step, taken at the moment it holds
    the row lock of its run; `now()` inside it is the time it began, which may be
    earlier.

    What the clock of a worker reads when the database clock shows `t` is left
    open by a parameter: `AnyClock` for clocks that may differ arbitrarily,
    `SharedClock` for a single one.
-/

namespace DomainMonitor.Monitor

/-! ### States -/

/-- What a worker goroutine is doing. -/
inductive Phase where
  | idle
  /-- It took a message for `run` from the stream at database time `since`. -/
  | received (run : UUID) (since : Int)
  | executing (execution : Execution)

/-- The database and its workers. `claims` and `commits` record, newest first,
    every successful `ClaimExecution` and `CompleteRun` with the goroutine that
    made it. -/
structure Cluster where
  db : DB
  clock : Int
  slots : Nat → Phase
  claims : List (UUID × Nat)
  commits : List (UUID × Nat)

def Cluster.setSlot (s : Cluster) (slot : Nat) (phase : Phase) : Cluster :=
  { s with slots := fun i => if i = slot then phase else s.slots i }

@[simp] theorem Cluster.setSlot_self (s : Cluster) (slot : Nat) (phase : Phase) :
    (s.setSlot slot phase).slots slot = phase := if_pos rfl

@[simp] theorem Cluster.setSlot_ne (s : Cluster) {slot i : Nat} (phase : Phase) (h : i ≠ slot) :
    (s.setSlot slot phase).slots i = s.slots i := if_neg h

/-! ### Steps -/

inductive Action where
  | tick (t : Int)
  | other (db : DB)
  | scheduleDue (call : ScheduleCall)
  | createManualRun (call : ManualRunCall)
  | deliver (slot : Nat) (run : UUID)
  | claim (slot : Nat) (startedAt goNow : Int) (domainClaimed : Bool)
  | complete (slot : Nat) (call : CompleteCall) (evidence : Evidence)
  | crash (slot : Nat)

def Action.isComplete : Action → Bool
  | .complete .. => true
  | _ => false

/-- Worker clocks that may differ from each other and from the database's. -/
def AnyClock (_clock _goNow : Int) : Prop := True

/-- One clock for everybody. -/
def SharedClock (clock goNow : Int) : Prop := goNow = clock

variable (cfg : Config) (worker : Nat → WorkerID) (Clock : Int → Int → Prop)

/-- A transaction that creates runs reads the clock before it commits. -/
def ReadBefore (clock goNow : Int) : Prop :=
  ∃ t, t ≤ clock ∧ Clock t goNow

def ResultRow.isLocal (r : ResultRow) : Bool := r.row.columns.vantage = .localPrimary

/-- The transactions of the rest of the system: they write neither runs nor
    local results, and a domain that runs refer to cannot be deleted. -/
structure OtherTransaction (db db' : DB) : Prop where
  runs : db'.runs = db.runs
  results : db'.results.filter ResultRow.isLocal = db.results.filter ResultRow.isLocal
  domains : ∀ d, (db.domains.get? d).isSome = true → (db'.domains.get? d).isSome = true

/-- One step. `worker i` is the identity of the process goroutine `i` runs in.
    A transaction that is rolled back changes nothing and needs no step; the
    goroutine that ran it becomes idle, and its message may be delivered again. -/
inductive Cluster.Step : Cluster → Action → Cluster → Prop where
  | tick {s : Cluster} {t : Int} (ht : s.clock ≤ t) :
      Step s (.tick t) { s with clock := t }
  | other {s : Cluster} {db' : DB} (h : OtherTransaction s.db db') :
      Step s (.other db') { s with db := db' }
  | scheduleDue {s : Cluster} {call : ScheduleCall} {db' : DB} {n : Nat}
      (hclock : ReadBefore Clock s.clock call.goNow) (h : scheduleDue cfg call s.db = some (db', n)) :
      Step s (.scheduleDue call) { s with db := db' }
  | createManualRun {s : Cluster} {call : ManualRunCall} {db' : DB} {id : UUID} {created : Bool}
      (hclock : ReadBefore Clock s.clock call.goNow)
      (h : createManualRun cfg call s.db = .ok (db', id, created)) :
      Step s (.createManualRun call) { s with db := db' }
  | deliver {s : Cluster} {slot : Nat} {run : UUID} (hidle : s.slots slot = .idle)
      (hrun : (s.db.runs.get? run).isSome = true) :
      Step s (.deliver slot run) (s.setSlot slot (.received run s.clock))
  | claimed {s : Cluster} {slot : Nat} {run : UUID} {since startedAt goNow : Int}
      {domainClaimed : Bool} {db' : DB} {execution : Execution}
      (hslot : s.slots slot = .received run since) (hsince : since ≤ startedAt)
      (hstart : startedAt ≤ s.clock) (hclock : Clock s.clock goNow)
      (h : claimExecution cfg ⟨run, worker slot, startedAt, goNow, domainClaimed⟩ s.db =
        (db', .ok execution)) :
      Step s (.claim slot startedAt goNow domainClaimed)
        { (s.setSlot slot (.executing execution)) with
          db := db', claims := (run, slot) :: s.claims }
  | notClaimed {s : Cluster} {slot : Nat} {run : UUID} {since startedAt goNow : Int}
      {domainClaimed : Bool} {db' : DB} {e : ClaimError}
      (hslot : s.slots slot = .received run since) (hsince : since ≤ startedAt)
      (hstart : startedAt ≤ s.clock) (hclock : Clock s.clock goNow)
      (h : claimExecution cfg ⟨run, worker slot, startedAt, goNow, domainClaimed⟩ s.db =
        (db', .error e)) :
      Step s (.claim slot startedAt goNow domainClaimed)
        { (s.setSlot slot .idle) with db := db' }
  | completed {s : Cluster} {slot : Nat} {call : CompleteCall} {execution : Execution}
      {evidence : Evidence} {db' : DB} (hslot : s.slots slot = .executing execution)
      (hstart : call.startedAt ≤ s.clock)
      (h : completeRun cfg call execution evidence s.db = .ok db') :
      Step s (.complete slot call evidence)
        { (s.setSlot slot .idle) with
          db := db', commits := (execution.run.id, slot) :: s.commits }
  | crash {s : Cluster} {slot : Nat} :
      Step s (.crash slot) (s.setSlot slot .idle)

/-- Before any run exists: arbitrary domains and schedules, idle workers. -/
def Cluster.IsInitial (s : Cluster) : Prop :=
  s.db.runs = .empty ∧ s.db.results = [] ∧ (∀ slot, s.slots slot = .idle) ∧
    s.claims = [] ∧ s.commits = []

def workers : LTS.System Cluster Action where
  init := Cluster.IsInitial
  step := Cluster.Step cfg worker Clock

/-! ### Executing a schedule -/

/-- The step an action makes, computed; `none` when the action is not possible.
    Transactions of the rest of the system are not executed. -/
def Cluster.exec? (s : Cluster) : Action → Option Cluster
  | .tick t => if s.clock ≤ t then some { s with clock := t } else none
  | .other _ => none
  | .scheduleDue call =>
    (scheduleDue cfg call s.db).map (fun out => { s with db := out.1 })
  | .createManualRun call =>
    match createManualRun cfg call s.db with
    | .ok (db', _, _) => some { s with db := db' }
    | .error _ => none
  | .deliver slot run =>
    match s.slots slot with
    | .idle =>
      if (s.db.runs.get? run).isSome then some (s.setSlot slot (.received run s.clock)) else none
    | _ => none
  | .claim slot startedAt goNow domainClaimed =>
    match s.slots slot with
    | .received run since =>
      if since ≤ startedAt ∧ startedAt ≤ s.clock then
        match claimExecution cfg ⟨run, worker slot, startedAt, goNow, domainClaimed⟩ s.db with
        | (db', .ok execution) =>
          some { (s.setSlot slot (.executing execution)) with
            db := db', claims := (run, slot) :: s.claims }
        | (db', .error _) => some { (s.setSlot slot .idle) with db := db' }
      else none
    | _ => none
  | .complete slot call evidence =>
    match s.slots slot with
    | .executing execution =>
      if call.startedAt ≤ s.clock then
        match completeRun cfg call execution evidence s.db with
        | .ok db' =>
          some { (s.setSlot slot .idle) with
            db := db', commits := (execution.run.id, slot) :: s.commits }
        | .error _ => none
      else none
    | _ => none
  | .crash slot => some (s.setSlot slot .idle)

/-- A whole schedule. -/
def Cluster.execAll? (actions : List Action) (s : Cluster) : Option Cluster :=
  actions.foldlM (Cluster.exec? cfg worker) s

/-- What an action's worker clock reads must be allowed by `Clock`. -/
def Action.ClockOk (s : Cluster) : Action → Prop
  | .scheduleDue call => Clock s.clock call.goNow
  | .createManualRun call => Clock s.clock call.goNow
  | .claim _ _ goNow _ => Clock s.clock goNow
  | _ => True

/-- The executed step is a step of the system. -/
theorem Cluster.exec?_step {cfg : Config} {worker : Nat → WorkerID} {Clock : Int → Int → Prop}
    {s s' : Cluster} {a : Action} (hclock : a.ClockOk Clock s)
    (h : s.exec? cfg worker a = some s') : Cluster.Step cfg worker Clock s a s' := by
  cases a with
  | tick t =>
    simp only [exec?, Option.ite_none_right_eq_some, Option.some.injEq] at h
    obtain ⟨ht, rfl⟩ := h
    exact .tick ht
  | other db => cases h
  | scheduleDue call =>
    simp only [exec?, Option.map_eq_some_iff] at h
    obtain ⟨⟨db', n⟩, hcall, rfl⟩ := h
    exact .scheduleDue ⟨s.clock, Int.le_refl _, hclock⟩ hcall
  | createManualRun call =>
    simp only [exec?] at h
    split at h
    · cases h
      exact .createManualRun ⟨s.clock, Int.le_refl _, hclock⟩ ‹_›
    · cases h
  | deliver slot run =>
    simp only [exec?] at h
    split at h
    · simp only [Option.ite_none_right_eq_some, Option.some.injEq] at h
      obtain ⟨hrun, rfl⟩ := h
      exact .deliver ‹_› hrun
    · cases h
  | claim slot startedAt goNow domainClaimed =>
    simp only [exec?] at h
    split at h
    · simp only [Option.ite_none_right_eq_some] at h
      obtain ⟨⟨hsince, hstart⟩, h⟩ := h
      split at h
      · cases h
        exact .claimed ‹_› hsince hstart hclock ‹_›
      · cases h
        exact .notClaimed ‹_› hsince hstart hclock ‹_›
    · cases h
  | complete slot call evidence =>
    simp only [exec?] at h
    split at h
    · simp only [Option.ite_none_right_eq_some] at h
      obtain ⟨hstart, h⟩ := h
      split at h
      · cases h
        exact .completed ‹_› hstart ‹_›
      · cases h
    · cases h
  | crash slot =>
    cases h
    exact .crash

/-- With arbitrary clocks, an executed schedule is a run of the system. -/
theorem execAll?_steps {cfg : Config} {worker : Nat → WorkerID} :
    ∀ {actions : List Action} {s s' : Cluster}, s.execAll? cfg worker actions = some s' →
      (workers cfg worker AnyClock).Steps s actions s' := by
  intro actions
  induction actions with
  | nil =>
    intro s s' h
    cases h
    exact .nil s
  | cons a actions ih =>
    intro s s' h
    rw [Cluster.execAll?, List.foldlM_cons, Option.bind_eq_bind, Option.bind_eq_some_iff] at h
    obtain ⟨s₁, hone, hrest⟩ := h
    have hclock : a.ClockOk AnyClock s := by cases a <;> exact trivial
    exact .cons a actions (Cluster.exec?_step hclock hone) (ih hrest)

/-- One new domain and no runs. -/
def sampleCluster : Cluster where
  db := { DB.empty with domains := sampleDB.domains }
  clock := 0
  slots := fun _ => .idle
  claims := []
  commits := []

theorem sampleCluster_isInitial : sampleCluster.IsInitial := ⟨rfl, rfl, fun _ => rfl, rfl, rfl⟩

/-- What a schedule leads to from there is reachable. -/
theorem sampleCluster_reaches (actions : List Action) (P : Cluster → Bool)
    (h : (sampleCluster.execAll? cfg worker actions).any P = true) :
    ∃ s, (workers cfg worker AnyClock).Reachable s ∧ P s = true := by
  obtain ⟨s, hexec, hs⟩ := (Option.any_eq_true P _).mp h
  exact ⟨s, .steps (.init sampleCluster_isInitial) (execAll?_steps hexec), hs⟩

/-- Worker `0` queues a manual check of the domain, claims it and stops before
    completing it. -/
def sampleClaim : List Action :=
  [.createManualRun
      { domainID := 1, userID := 5, idempotencyKey := lit "k", goNow := 0, newID := 7 },
    .deliver 0 7, .claim 0 0 0 true]

variable {out : DB × Except ClaimError Execution} {o : Option Run} {db' : DB} {goNow : Int}

section Steps

variable {cfg : Config} {worker : Nat → WorkerID} {Clock : Int → Int → Prop} {s s' : Cluster}
  {a : Action}

/-! ### What a step can do to one run -/

/-- Every way action `a` can change the row of run `id`. -/
inductive RunChange (cfg : Config) (Clock : Int → Int → Prop) (s : Cluster) (a : Action)
    (id : UUID) : Option Run → Option Run → Prop where
  | same (o : Option Run) : RunChange cfg Clock s a id o o
  | created (run : Run) (goNow : Int) (hclock : ReadBefore Clock s.clock goNow)
      (hfresh : run.IsFresh cfg goNow s.db.domains) :
      RunChange cfg Clock s a id none (some run)
  | expired (run : Run) (startedAt goNow : Int) (hstart : startedAt ≤ s.clock)
      (hclock : Clock s.clock goNow) (hsettled : run.isSettled = false)
      (hdeadline : run.deadlineAt ≤ goNow)
      (hchecks : (run.expire (timestamptz startedAt)).Checks) :
      RunChange cfg Clock s a id (some run) (some (run.expire (timestamptz startedAt)))
  | exhausted (run : Run) (startedAt : Int) (hstart : startedAt ≤ s.clock)
      (hsettled : run.isSettled = false)
      (hattempts : cfg.outboxMaxAttempts ≤ run.executionAttempts)
      (hchecks : (run.exhaust (timestamptz startedAt)).Checks) :
      RunChange cfg Clock s a id (some run) (some (run.exhaust (timestamptz startedAt)))
  | claimed (run : Run) (worker : WorkerID) (slot : Nat) (since startedAt goNow : Int)
      (hslot : s.slots slot = .received id since) (hsince : since ≤ startedAt)
      (hstart : startedAt ≤ s.clock) (hclock : Clock s.clock goNow)
      (hsettled : run.isSettled = false) (hdeadline : goNow < run.deadlineAt)
      (hlease : run.leaseHeld cfg goNow = false)
      (hattempts : run.executionAttempts < cfg.outboxMaxAttempts)
      (hchecks : (run.claim (timestamptz startedAt) worker).Checks) :
      RunChange cfg Clock s a id (some run) (some (run.claim (timestamptz startedAt) worker))
  | completed (run : Run) (now : Int) (hact : a.isComplete = true)
      (hrunning : run.status = .running) (hchecks : (run.complete now).Checks) :
      RunChange cfg Clock s a id (some run) (some (run.complete now))

theorem RunsExtended.runChange (hclock : ReadBefore Clock s.clock goNow)
    (h : RunsExtended cfg goNow s.db db') (id : UUID) :
    RunChange cfg Clock s a id (s.db.runs.get? id) (db'.runs.get? id) := by
  cases hnew : db'.runs.get? id with
  | none =>
    cases hold : s.db.runs.get? id with
    | none => exact .same none
    | some run => rw [h.kept id run hold] at hnew; cases hnew
  | some run =>
    rcases h.added id run hnew with hold | ⟨hnone, hfresh⟩
    · rw [hold]
      exact .same (some run)
    · rw [hnone]
      exact .created run goNow hclock hfresh

/-- A claim, whatever it returns. -/
theorem claimExecution_runChange {slot : Nat} {run : UUID} {since startedAt : Int}
    {domainClaimed : Bool} (hslot : s.slots slot = .received run since) (hsince : since ≤ startedAt)
    (hstart : startedAt ≤ s.clock) (hclock : Clock s.clock goNow)
    (h : claimExecution cfg ⟨run, worker slot, startedAt, goNow, domainClaimed⟩ s.db = out)
    (id : UUID) : RunChange cfg Clock s a id (s.db.runs.get? id) (out.1.runs.get? id) := by
  -- Rows other than the claimed one are not touched by any of the updates.
  have other : ∀ (f : Run → Run) (hf : ∀ r, (f r).id = r.id), id ≠ run →
      RunChange cfg Clock s a id (s.db.runs.get? id) ((s.db.setRun run f hf).runs.get? id) := by
    intro f hf hid
    rw [DB.setRun_get?_ne _ _ _ hid]
    exact .same _
  cases ClaimStep.of_eq h with
  | refused e he => exact .same _
  | expired row hrow _ hsettled hdeadline hchecks =>
    by_cases hid : id = run
    · subst hid
      rw [DB.setRun_get? hrow, hrow]
      exact .expired row startedAt goNow hstart hclock hsettled hdeadline hchecks
    · exact other _ _ hid
  | exhausted row hrow _ hsettled _ _ _ _ hattempts hchecks =>
    by_cases hid : id = run
    · subst hid
      rw [DB.setRun_get? hrow, hrow]
      exact .exhausted row startedAt hstart hsettled hattempts hchecks
    · exact other _ _ hid
  | claimed row domain hrow hdomain hsettled hdeadline hlease hlock hother hattempts hchecks =>
    by_cases hid : id = run
    · subst hid
      rw [DB.setRun_get? hrow, hrow]
      exact .claimed row (worker slot) slot since startedAt goNow hslot hsince hstart hclock
        hsettled hdeadline hlease hattempts hchecks
    · exact other _ _ hid

theorem completeRun_runChange {call : CompleteCall} {execution : Execution} {evidence : Evidence}
    (hact : a.isComplete = true) (h : completeRun cfg call execution evidence s.db = .ok db')
    (id : UUID) : RunChange cfg Clock s a id (s.db.runs.get? id) (db'.runs.get? id) := by
  obtain ⟨p, hp, rfl⟩ := completeRun_ok_iff.mp h
  obtain ⟨run, hrun, hrunning, hchecks, hruns⟩ := finishRun_ok hp.runs
  show RunChange cfg Clock s a id _ (p.runs.get? id)
  rw [hruns, KeyedTable.get?_modify]
  by_cases hid : id = execution.run.id
  · rw [if_pos hid, hid, hrun, Option.map_some]
    exact .completed run call.now hact hrunning hchecks
  · rw [if_neg hid]
    exact .same _

/-- **Inversion**: a step changes each run in one of the listed ways. -/
theorem Cluster.Step.runChange (h : Cluster.Step cfg worker Clock s a s') (id : UUID) :
    RunChange cfg Clock s a id (s.db.runs.get? id) (s'.db.runs.get? id) := by
  cases h with
  | tick | deliver | crash => exact .same _
  | other h =>
    show RunChange cfg Clock s _ id _ (KeyedTable.get? _ id)
    rw [h.runs]
    exact .same _
  | scheduleDue hclock h => exact (scheduleDue_extended h).runChange hclock id
  | createManualRun hclock h => exact (createManualRun_extended h).runChange hclock id
  | claimed hslot hsince hstart hclock h | notClaimed hslot hsince hstart hclock h =>
    exact claimExecution_runChange hslot hsince hstart hclock h id
  | completed hslot hstart h => exact completeRun_runChange rfl h id

/-- A claim writes runs only. -/
theorem claimExecution_tables {call : ClaimCall} {db : DB} (h : claimExecution cfg call db = out) :
    out.1.domains = db.domains ∧ out.1.results = db.results := by
  cases ClaimStep.of_eq h <;> exact ⟨rfl, rfl⟩

/-- Domains are never deleted. -/
theorem Cluster.Step.domains (h : Cluster.Step cfg worker Clock s a s') {d : UUID}
    (hd : (s.db.domains.get? d).isSome = true) : (s'.db.domains.get? d).isSome = true := by
  cases h with
  | tick | deliver | crash => exact hd
  | other h => exact h.domains d hd
  | scheduleDue _ h =>
    show (KeyedTable.get? _ d).isSome = true
    rw [(scheduleDue_extended h).domains]
    exact hd
  | createManualRun _ h =>
    show (KeyedTable.get? _ d).isSome = true
    rw [(createManualRun_extended h).domains]
    exact hd
  | claimed _ _ _ _ h | notClaimed _ _ _ _ h =>
    show (KeyedTable.get? _ d).isSome = true
    have htables := claimExecution_tables h
    rw [htables.1]
    exact hd
  | completed _ _ h => exact completeRun_domains h hd

/-! ### Settled runs -/

variable {run : Run} {id : UUID}

/-- A completed or cancelled run is never changed again. -/
theorem RunChange.of_settled (hsettled : run.isSettled = true)
    (h : RunChange cfg Clock s a id (some run) o) : o = some run := by
  cases h with
  | same => rfl
  | expired _ _ _ _ _ hopen | exhausted _ _ _ hopen | claimed _ _ _ _ _ _ _ _ _ _ hopen =>
    rw [hsettled] at hopen
    cases hopen
  | completed _ _ _ hrunning =>
    rw [Run.isSettled, hrunning] at hsettled
    cases hsettled

/-- Along a run of the system. -/
theorem settled_steps {ls : List Action} (h : (workers cfg worker Clock).Steps s ls s')
    (hrun : s.db.runs.get? id = some run) (hsettled : run.isSettled = true) :
    s'.db.runs.get? id = some run := by
  refine h.preserves (P := fun s => s.db.runs.get? id = some run) ?_ hrun
  intro s l s' hs hstep
  have hchange := Cluster.Step.runChange hstep id
  rw [hs] at hchange
  exact hchange.of_settled hsettled

/-! ### Well-formed runs -/

/-- What holds of every stored run, with whatever clocks. -/
structure Run.WellFormed (domains : KeyedTable Domain.id) (run : Run) : Prop where
  checks : run.Checks
  domain : (domains.get? run.domainId).isSome = true
  queued : run.status = .queued → run.startedAt = none ∧ run.executionAttempts = 0
  running : run.status = .running → run.heartbeatAt ≠ none ∧ 1 ≤ run.executionAttempts
  started : run.status = .failed ∨ run.status = .running → run.startedAt ≠ none

/-- A row with a `completed_at` has a `started_at`. -/
theorem startedAt_ne_none_of_checks (h : run.Checks) (hc : run.completedAt ≠ none) :
    run.startedAt ≠ none :=
  h.2.1.resolve_left hc

theorem RunChange.wellFormed {run' : Run} (hold : ∀ run, o = some run → run.WellFormed s.db.domains)
    (h : RunChange cfg Clock s a id o (some run')) : run'.WellFormed s.db.domains := by
  cases h with
  | same => exact hold run' rfl
  | created _ goNow hclock hfresh =>
    refine ⟨hfresh.checks, hfresh.domain, fun _ => ⟨hfresh.startedAt, hfresh.executionAttempts⟩,
      ?_, ?_⟩
    · intro h
      rw [hfresh.status] at h
      cases h
    · intro h
      rw [hfresh.status] at h
      rcases h with h | h <;> cases h
  | expired run startedAt goNow hstart hclock hsettled hdeadline hchecks =>
    refine ⟨hchecks, (hold run rfl).domain, fun h => (by cases h), fun h => (by cases h), ?_⟩
    exact fun _ => startedAt_ne_none_of_checks hchecks (by simp [Run.expire])
  | exhausted run startedAt hstart hsettled hattempts hchecks =>
    refine ⟨hchecks, (hold run rfl).domain, fun h => (by cases h), fun h => (by cases h), ?_⟩
    exact fun _ => startedAt_ne_none_of_checks hchecks (by simp [Run.exhaust])
  | claimed run worker slot since startedAt goNow hslot hsince hstart hclock hsettled hdeadline
      hlease hattempts hchecks =>
    have hnonneg : 0 ≤ run.executionAttempts := (hold run rfl).checks.2.2.1
    refine ⟨hchecks, (hold run rfl).domain, fun h => (by cases h), fun _ => ⟨?_, ?_⟩, fun _ => ?_⟩
    · simp [Run.claim]
    · show 1 ≤ run.executionAttempts + 1
      omega
    · cases hs : run.startedAt <;> simp [Run.claim, hs]
  | completed run now hact hrunning hchecks =>
    refine ⟨hchecks, (hold run rfl).domain, fun h => (by cases h), fun h => (by cases h), ?_⟩
    intro h
    rcases h with h | h <;> cases h

/-- Every run of a reachable state is well formed. -/
theorem runs_wellFormed (h : (workers cfg worker Clock).Reachable s)
    (hrun : s.db.runs.get? id = some run) : run.WellFormed s.db.domains := by
  have key : ∀ id run, s.db.runs.get? id = some run → run.WellFormed s.db.domains := by
    refine LTS.System.invariant
      (P := fun s => ∀ id run, s.db.runs.get? id = some run → run.WellFormed s.db.domains)
      ?_ ?_ h
    · rintro s ⟨hempty, -⟩ id run hrun
      rw [hempty, KeyedTable.get?_empty] at hrun
      cases hrun
    · intro s a s' hs hstep id run hrun
      have hchange := Cluster.Step.runChange hstep id
      rw [hrun] at hchange
      obtain ⟨hchecks, hdomain, hqueued, hrunning, hstarted⟩ :=
        hchange.wellFormed (fun run hold => hs id run hold)
      exact ⟨hchecks, Cluster.Step.domains hstep hdomain, hqueued, hrunning, hstarted⟩
  exact key id run hrun

end Steps

end DomainMonitor.Monitor
