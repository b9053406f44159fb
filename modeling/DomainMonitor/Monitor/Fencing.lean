import DomainMonitor.Monitor.Workers

/-! # Lease fencing

    `CompleteRun` checks that the run is still `running`, not that the caller is
    the worker who claimed it last. Evidence of a worker whose lease ran out is
    therefore kept out only as long as nobody can claim a run twice. With one
    clock that is the case exactly when the queue lease covers the run timeout
    (or one execution attempt is allowed); the configuration relates the two
    durations nowhere. With clocks that differ, only the attempt limit helps.
-/

namespace DomainMonitor.Monitor

/-- The goroutine that made the newest successful claim of run `id`. -/
def Cluster.lastClaimer (s : Cluster) (id : UUID) : Option Nat :=
  (s.claims.find? (fun c => c.1 = id)).map Prod.snd

/-- Every committing `CompleteRun` is called by the worker that claimed the run last. -/
def Fenced (cfg : Config) (worker : Nat → WorkerID) (Clock : Int → Int → Prop) : Prop :=
  ∀ s slot call evidence s' execution, (workers cfg worker Clock).Reachable s →
    Cluster.Step cfg worker Clock s (.complete slot call evidence) s' →
    s.slots slot = .executing execution →
    ∃ last, s.lastClaimer execution.run.id = some last ∧ worker last = worker slot

/-- A duration rounded up to whole microseconds. -/
def ceilMicrosecond (d : Int) : Int := timestamptz (d + 999)

/-- Adding a duration before rounding down gains at most its ceiling. -/
theorem timestamptz_add_le (t d : Int) :
    timestamptz (t + d) ≤ timestamptz t + ceilMicrosecond d := by
  unfold ceilMicrosecond timestamptz microsecond
  omega

variable {Clock : Int → Int → Prop} {goNow clock : Int} {call : ClaimCall} {i : Nat}

section

variable {cfg : Config} {worker : Nat → WorkerID} {Clock : Int → Int → Prop} {s s' : Cluster}
  {a : Action}

/-! ### Attempts count claims -/

/-- The attempts recorded for a run; a run that does not exist has none. -/
def attemptsOf (o : Option Run) : Int := o.elim 0 Run.executionAttempts

def Cluster.claimCount (s : Cluster) (id : UUID) : Nat := s.claims.countP (fun c => c.1 = id)

theorem attemptsOf_setRun (db : DB) {run : UUID} (f : Run → Run) (hf : ∀ r, (f r).id = r.id)
    (hattempts : ∀ r, (f r).executionAttempts = r.executionAttempts) (id : UUID) :
    attemptsOf ((db.setRun run f hf).runs.get? id) = attemptsOf (db.runs.get? id) := by
  show attemptsOf ((db.runs.modify run f hf).get? id) = _
  rw [KeyedTable.get?_modify]
  split
  · subst id
    cases db.runs.get? run with
    | none => rfl
    | some row => exact hattempts row
  · rfl

variable {run : Run} {db db' : DB} {execution : Execution} {id : UUID}

/-- A claim that fails adds no attempt. -/
theorem claimExecution_error_attempts {e : ClaimError}
    (h : claimExecution cfg call db = (db', .error e)) (id : UUID) :
    attemptsOf (db'.runs.get? id) = attemptsOf (db.runs.get? id) := by
  cases ClaimStep.of_eq h with
  | refused => rfl
  | expired => exact attemptsOf_setRun db (Run.expire call.now) _ (fun _ => rfl) id
  | exhausted => exact attemptsOf_setRun db (Run.exhaust call.now) _ (fun _ => rfl) id

/-- A claim that succeeds adds one to the run it claims. -/
theorem claimExecution_ok_attempts (h : claimExecution cfg call db = (db', .ok execution))
    (id : UUID) :
    attemptsOf (db'.runs.get? id) =
      attemptsOf (db.runs.get? id) + if call.runID = id then 1 else 0 := by
  cases ClaimStep.of_eq h with
  | claimed run domain hrun =>
    by_cases hid : call.runID = id
    · subst hid
      rw [DB.setRun_get? hrun, hrun, if_pos rfl]
      rfl
    · rw [DB.setRun_get?_ne _ _ _ (Ne.symm hid), if_neg hid, Int.add_zero]

theorem RunsExtended.attempts (h : RunsExtended cfg goNow db db') (id : UUID) :
    attemptsOf (db'.runs.get? id) = attemptsOf (db.runs.get? id) := by
  cases hnew : db'.runs.get? id with
  | none =>
    cases hold : db.runs.get? id with
    | none => rfl
    | some run =>
      rw [h.kept id run hold] at hnew
      cases hnew
  | some run =>
    rcases h.added id run hnew with hold | ⟨hnone, hfresh⟩
    · rw [hold]
    · rw [hnone]
      exact hfresh.executionAttempts

theorem completeRun_attempts {call : CompleteCall} {evidence : Evidence}
    (h : completeRun cfg call execution evidence db = .ok db') (id : UUID) :
    attemptsOf (db'.runs.get? id) = attemptsOf (db.runs.get? id) := by
  obtain ⟨p, hp, rfl⟩ := completeRun_ok_iff.mp h
  obtain ⟨run, hrun, -, -, hruns⟩ := finishRun_ok hp.runs
  show attemptsOf (p.runs.get? id) = _
  rw [hruns, KeyedTable.get?_modify]
  split
  · subst id
    rw [hrun]
    rfl
  · rfl

/-- **Step lemma**: a step records a claim exactly when it adds an attempt. -/
theorem claimCount_step (h : Cluster.Step cfg worker Clock s a s') (id : UUID)
    (hs : (s.claimCount id : Int) = attemptsOf (s.db.runs.get? id)) :
    (s'.claimCount id : Int) = attemptsOf (s'.db.runs.get? id) := by
  cases h with
  | tick | deliver | crash => exact hs
  | other hother =>
    show _ = attemptsOf (KeyedTable.get? _ id)
    rw [hother.runs]
    exact hs
  | scheduleDue hclock hcall =>
    rw [(scheduleDue_extended hcall).attempts]
    exact hs
  | createManualRun hclock hcall =>
    rw [(createManualRun_extended hcall).attempts]
    exact hs
  | notClaimed hslot hsince hstart hclock hclaim =>
    show (s.claimCount id : Int) = attemptsOf (KeyedTable.get? _ id)
    rw [claimExecution_error_attempts hclaim]
    exact hs
  | claimed hslot hsince hstart hclock hclaim =>
    rename_i slot claimed _ _ _ _ _ _
    have hcount : ((claimed, slot) :: s.claims).countP (fun c => c.1 = id) =
        s.claimCount id + if claimed = id then 1 else 0 := by
      simp [Cluster.claimCount, List.countP_cons]
    show ((((claimed, slot) :: s.claims).countP (fun c => c.1 = id) : Nat) : Int) =
      attemptsOf (KeyedTable.get? _ id)
    rw [hcount, claimExecution_ok_attempts hclaim, ← hs]
    split <;> simp
  | completed hslot hstart hcomplete =>
    show (s.claimCount id : Int) = attemptsOf (KeyedTable.get? _ id)
    rw [completeRun_attempts hcomplete]
    exact hs

theorem claimCount_eq (h : (workers cfg worker Clock).Reachable s) (id : UUID) :
    (s.claimCount id : Int) = attemptsOf (s.db.runs.get? id) := by
  refine LTS.System.invariant (P := fun s => (s.claimCount id : Int) =
    attemptsOf (s.db.runs.get? id)) ?_ (fun _ _ _ hs hstep => claimCount_step hstep id hs) h
  intro s hinit
  obtain ⟨hruns, -, -, hclaims, -⟩ := hinit
  simp [Cluster.claimCount, hclaims, hruns, attemptsOf]

/-! ### Who executes a run has claimed it -/

theorem executing_step (h : Cluster.Step cfg worker Clock s a s')
    (hs : ∀ i execution, s.slots i = .executing execution → (execution.run.id, i) ∈ s.claims) :
    ∀ i execution, s'.slots i = .executing execution → (execution.run.id, i) ∈ s'.claims := by
  intro i execution hi
  -- A slot that was set to something else does not execute.
  have other : ∀ (slot : Nat) (phase : Phase), (∀ e, phase ≠ .executing e) →
      (s.setSlot slot phase).slots i = .executing execution → (execution.run.id, i) ∈ s.claims := by
    intro slot phase hphase hi
    by_cases hslot : i = slot
    · subst hslot
      rw [Cluster.setSlot_self] at hi
      exact absurd hi (hphase execution)
    · rw [Cluster.setSlot_ne _ _ hslot] at hi
      exact hs i execution hi
  cases h with
  | tick | other | scheduleDue | createManualRun => exact hs i execution hi
  | deliver | notClaimed | completed | crash => exact other _ _ (fun e he => by cases he) hi
  | claimed hslot hsince hstart hclock hclaim =>
    rename_i slot claimed _ _ _ _ _ execution'
    change (s.setSlot slot (.executing execution')).slots i = _ at hi
    show _ ∈ (claimed, slot) :: s.claims
    by_cases hi' : i = slot
    · subst hi'
      rw [Cluster.setSlot_self] at hi
      cases hi
      cases ClaimStep.of_eq hclaim with
      | claimed run domain hrun =>
        have hid : run.id = claimed := KeyedTable.key_of_get? hrun
        show (run.id, i) ∈ _
        rw [hid]
        exact List.mem_cons_self
    · rw [Cluster.setSlot_ne _ _ hi'] at hi
      exact List.mem_cons_of_mem _ (hs i execution hi)

theorem executing_claimed (h : (workers cfg worker Clock).Reachable s)
    (hi : s.slots i = .executing execution) : (execution.run.id, i) ∈ s.claims := by
  refine LTS.System.invariant (P := fun s => ∀ i execution, s.slots i = .executing execution →
    (execution.run.id, i) ∈ s.claims) ?_ (fun _ _ _ hs hstep => executing_step hstep hs) h i
    execution hi
  intro s hinit i execution hi
  rw [hinit.2.2.1 i] at hi
  cases hi

/-- The only element of its kind is the first one found. -/
theorem find?_of_countP_le_one {α : Type} {p : α → Bool} {l : List α} {x : α}
    (hcount : l.countP p ≤ 1) (hx : x ∈ l) (hp : p x = true) : l.find? p = some x := by
  induction l with
  | nil => cases hx
  | cons y l ih =>
    by_cases hy : p y = true
    · rw [List.find?_cons_of_pos hy]
      rw [List.countP_cons_of_pos hy] at hcount
      rcases List.mem_cons.mp hx with rfl | hx
      · rfl
      · -- A second element would make the count two.
        have hpos := List.countP_pos_iff.mpr ⟨x, hx, hp⟩
        omega
    · rw [List.find?_cons_of_neg hy]
      rw [List.countP_cons_of_neg hy] at hcount
      rcases List.mem_cons.mp hx with rfl | hx
      · exact absurd hp hy
      · exact ih hcount hx

/-- Where no run is claimed twice, completions are fenced. -/
theorem fenced_of_attempts_le_one
    (honce : ∀ s, (workers cfg worker Clock).Reachable s → ∀ id run,
      s.db.runs.get? id = some run → run.executionAttempts ≤ 1) : Fenced cfg worker Clock := by
  intro s slot call evidence s' execution hreach hstep hslot
  have hclaimed := executing_claimed hreach hslot
  have hcount : s.claimCount execution.run.id ≤ 1 := by
    have hattempts := claimCount_eq hreach execution.run.id
    cases hrun : s.db.runs.get? execution.run.id with
    | none =>
      rw [hrun] at hattempts
      simp only [attemptsOf, Option.elim_none] at hattempts
      omega
    | some run =>
      have hle := honce s hreach _ run hrun
      rw [hrun] at hattempts
      simp only [attemptsOf, Option.elim_some] at hattempts
      omega
  refine ⟨slot, ?_, rfl⟩
  rw [Cluster.lastClaimer, find?_of_countP_le_one hcount hclaimed (by simp)]
  rfl

/-! ### Attempts never exceed the limit -/

theorem attempts_le_max (hmax : 0 ≤ cfg.outboxMaxAttempts)
    (h : (workers cfg worker Clock).Reachable s) (hrun : s.db.runs.get? id = some run) :
    run.executionAttempts ≤ cfg.outboxMaxAttempts := by
  refine LTS.System.invariant (P := fun s => ∀ id run, s.db.runs.get? id = some run →
    run.executionAttempts ≤ cfg.outboxMaxAttempts) ?_ ?_ h id run hrun
  · intro s hinit id run hrun
    rw [hinit.1, KeyedTable.get?_empty] at hrun
    cases hrun
  · intro s a s' hs hstep id run hrun
    have hchange := Cluster.Step.runChange hstep id
    rw [hrun] at hchange
    generalize hold : s.db.runs.get? id = o at hchange
    cases hchange with
    | same => exact hs id run hold
    | created _ _ _ hfresh =>
      rw [hfresh.executionAttempts]
      exact hmax
    | expired run => exact hs id run hold
    | exhausted run => exact hs id run hold
    | completed run => exact hs id run hold
    | claimed run _ _ _ _ _ _ _ _ _ _ _ _ hattempts =>
      show run.executionAttempts + 1 ≤ _
      omega

/-! ### One clock, and a lease that covers the timeout -/

/-- What one clock guarantees about a run: how far ahead the deadline can be, and
    that a run which is not queued cannot be claimed any more. -/
structure Run.Timely (cfg : Config) (clock : Int) (run : Run) : Prop where
  deadline : run.deadlineAt ≤ timestamptz clock + ceilMicrosecond cfg.monitorRunTimeout
  attempts : run.executionAttempts ≤ 1
  status : run.status ≠ .partialRun
  queued : run.status = .queued → run.executionAttempts = 0
  running : run.status = .running → ∃ heartbeat, run.heartbeatAt = some heartbeat ∧
    run.deadlineAt ≤ heartbeat + ceilMicrosecond cfg.monitorRunTimeout
  failed : run.status = .failed →
    run.deadlineAt ≤ clock ∨ cfg.outboxMaxAttempts ≤ run.executionAttempts

theorem Run.Timely.mono {clock' : Int} (h : run.Timely cfg clock) (hle : clock ≤ clock') :
    run.Timely cfg clock' := by
  refine ⟨?_, h.attempts, h.status, h.queued, h.running, ?_⟩
  · have hmono := timestamptz_mono hle
    have hdeadline := h.deadline
    omega
  · intro hfailed
    rcases h.failed hfailed with hpast | hmax
    · left
      omega
    · right
      exact hmax

/-- The same for the whole cluster: a message that was received at `since` is for
    a run that existed then. -/
structure Cluster.Timely (cfg : Config) (s : Cluster) : Prop where
  runs : ∀ id run, s.db.runs.get? id = some run → run.Timely cfg s.clock
  received : ∀ i id since, s.slots i = .received id since → ∃ run, s.db.runs.get? id = some run ∧
    run.deadlineAt ≤ timestamptz since + ceilMicrosecond cfg.monitorRunTimeout

/-- A run that can be claimed was never claimed before. -/
theorem Run.Timely.first_claim
    (hlease : ceilMicrosecond cfg.monitorRunTimeout ≤ cfg.monitorQueueLease)
    (h : run.Timely cfg clock) (hsettled : run.isSettled = false)
    (hdeadline : clock < run.deadlineAt) (hfree : run.leaseHeld cfg clock = false)
    (hattempts : run.executionAttempts < cfg.outboxMaxAttempts) : run.executionAttempts = 0 := by
  cases hstatus : run.status with
  | queued => exact h.queued hstatus
  | running =>
    -- The lease of a running run outlasts its deadline.
    obtain ⟨heartbeat, hbeat, hbound⟩ := h.running hstatus
    simp only [Run.leaseHeld, hstatus, hbeat, decide_true, Option.any_some, Bool.true_and,
      decide_eq_false_iff_not, gt_iff_lt, Int.not_lt] at hfree
    omega
  | partialRun => exact absurd hstatus h.status
  | completed =>
    rw [Run.isSettled, hstatus] at hsettled
    cases hsettled
  | failed =>
    rcases h.failed hstatus with hpast | hmax
    · omega
    · omega
  | cancelled =>
    rw [Run.isSettled, hstatus] at hsettled
    cases hsettled

theorem RunChange.timely (hlease : ceilMicrosecond cfg.monitorRunTimeout ≤ cfg.monitorQueueLease)
    (hs : s.Timely cfg) {run' : Run}
    (h : RunChange cfg SharedClock s a id (s.db.runs.get? id) (some run')) :
    run'.Timely cfg s.clock := by
  generalize hold : s.db.runs.get? id = o at h
  cases h with
  | same => exact hs.runs id run' hold
  | created _ goNow hclock hfresh =>
    obtain ⟨t, ht, hread⟩ := hclock
    have hgo : goNow = t := hread
    refine ⟨?_, ?_, ?_, fun _ => hfresh.executionAttempts, ?_, ?_⟩
    · have hround := timestamptz_add_le goNow cfg.monitorRunTimeout
      have hmono : timestamptz goNow ≤ timestamptz s.clock := timestamptz_mono (by omega)
      rw [hfresh.deadlineAt]
      omega
    · rw [hfresh.executionAttempts]
      omega
    · rw [hfresh.status]
      decide
    · intro hrunning
      rw [hfresh.status] at hrunning
      cases hrunning
    · intro hfailed
      rw [hfresh.status] at hfailed
      cases hfailed
  | expired run startedAt goNow hstart hclock hsettled hdeadline hchecks =>
    have hrun := hs.runs id run hold
    have hgo : goNow = s.clock := hclock
    refine ⟨hrun.deadline, hrun.attempts, fun h => (by cases h), fun h => (by cases h),
      fun h => (by cases h), fun _ => .inl ?_⟩
    show run.deadlineAt ≤ s.clock
    omega
  | exhausted run startedAt hstart hsettled hattempts hchecks =>
    have hrun := hs.runs id run hold
    exact ⟨hrun.deadline, hrun.attempts, fun h => (by cases h), fun h => (by cases h),
      fun h => (by cases h), fun _ => .inr hattempts⟩
  | claimed run worker slot since startedAt goNow hslot hsince hstart hclock hsettled hdeadline
      hfree hattempts hchecks =>
    have hrun := hs.runs id run hold
    have hgo : goNow = s.clock := hclock
    subst hgo
    have hfirst := hrun.first_claim hlease hsettled hdeadline hfree hattempts
    refine ⟨hrun.deadline, ?_, fun h => (by cases h), fun h => (by cases h), ?_,
      fun h => (by cases h)⟩
    · show run.executionAttempts + 1 ≤ 1
      omega
    · -- The transaction began after the message was received, so after the run existed.
      intro _
      obtain ⟨row, hrow, hbound⟩ := hs.received slot id since hslot
      obtain rfl : run = row := Option.some.inj (hold.symm.trans hrow)
      have hmono : timestamptz since ≤ timestamptz startedAt := timestamptz_mono hsince
      refine ⟨timestamptz startedAt, rfl, ?_⟩
      show run.deadlineAt ≤ _
      omega
  | completed run now hact hrunning hchecks =>
    have hrun := hs.runs id run hold
    exact ⟨hrun.deadline, hrun.attempts, fun h => (by cases h), fun h => (by cases h),
      fun h => (by cases h), fun h => (by cases h)⟩

/-- A stored run stays, with its deadline. -/
theorem RunChange.keeps_deadline {o : Option Run} (h : RunChange cfg Clock s a id (some run) o) :
    ∃ run', o = some run' ∧ run'.deadlineAt = run.deadlineAt := by
  cases h with
  | same | expired | exhausted | claimed | completed => exact ⟨_, rfl, rfl⟩

theorem Cluster.Step.clock_le (h : Cluster.Step cfg worker Clock s a s') : s.clock ≤ s'.clock := by
  cases h with
  | tick ht => exact ht
  | other | scheduleDue | createManualRun | deliver | claimed | notClaimed | completed | crash =>
    exact Int.le_refl _

/-- A message a goroutine holds was received before, or just now. -/
theorem Cluster.Step.received (h : Cluster.Step cfg worker Clock s a s') {since : Int}
    (hi : s'.slots i = .received id since) :
    s.slots i = .received id since ∨
      since = s.clock ∧ (s.db.runs.get? id).isSome = true := by
  -- Going idle or executing does not receive anything.
  have other : ∀ (slot : Nat) (phase : Phase), (∀ id since, phase ≠ .received id since) →
      (s.setSlot slot phase).slots i = .received id since → s.slots i = .received id since := by
    intro slot phase hphase hi
    by_cases hslot : i = slot
    · subst hslot
      rw [Cluster.setSlot_self] at hi
      exact absurd hi (hphase id since)
    · rw [Cluster.setSlot_ne _ _ hslot] at hi
      exact hi
  cases h with
  | tick | other | scheduleDue | createManualRun => exact .inl hi
  | claimed | notClaimed | completed | crash =>
    exact .inl (other _ _ (fun _ _ he => by cases he) hi)
  | deliver hidle hrun =>
    rename_i slot run
    by_cases hslot : i = slot
    · subst hslot
      rw [Cluster.setSlot_self] at hi
      cases hi
      exact .inr ⟨rfl, hrun⟩
    · rw [Cluster.setSlot_ne _ _ hslot] at hi
      exact .inl hi

/-- **Step lemma**. -/
theorem timely_step (hlease : ceilMicrosecond cfg.monitorRunTimeout ≤ cfg.monitorQueueLease)
    (hs : s.Timely cfg) (h : Cluster.Step cfg worker SharedClock s a s') : s'.Timely cfg := by
  refine ⟨?_, ?_⟩
  · intro id run hrun
    have hchange := h.runChange id
    rw [hrun] at hchange
    exact (hchange.timely hlease hs).mono h.clock_le
  · intro i id since hi
    have hbefore : ∃ run, s.db.runs.get? id = some run ∧
        run.deadlineAt ≤ timestamptz since + ceilMicrosecond cfg.monitorRunTimeout := by
      rcases h.received hi with hold | ⟨rfl, hsome⟩
      · exact hs.received i id since hold
      · obtain ⟨run, hrun⟩ := Option.isSome_iff_exists.mp hsome
        exact ⟨run, hrun, (hs.runs id run hrun).deadline⟩
    obtain ⟨run, hrun, hbound⟩ := hbefore
    have hchange := h.runChange id
    rw [hrun] at hchange
    obtain ⟨run', hrun', hdeadline⟩ := hchange.keeps_deadline
    refine ⟨run', hrun', ?_⟩
    omega

theorem timely_reachable (hlease : ceilMicrosecond cfg.monitorRunTimeout ≤ cfg.monitorQueueLease)
    (h : (workers cfg worker SharedClock).Reachable s) : s.Timely cfg := by
  refine LTS.System.invariant (P := Cluster.Timely cfg) ?_
    (fun _ _ _ hs hstep => timely_step hlease hs hstep) h
  intro s hinit
  refine ⟨?_, ?_⟩
  · intro id run hrun
    rw [hinit.1, KeyedTable.get?_empty] at hrun
    cases hrun
  · intro i id since hi
    rw [hinit.2.2.1 i] at hi
    cases hi

end

/-! ### A second claim

    When the lease can run out before the deadline, a manual run is claimed by
    one worker, claimed again by another, and completed by the first. -/

/-- The sample database with `run` as its only run. -/
def oneRunDB (run : Run) : DB :=
  { sampleCluster.db with runs := ⟨[run], List.nodup_singleton _⟩, outbox := [run.id] }

section

variable {cfg : Config} {run : Run}

theorem oneRunDB_get? (run : Run) : (oneRunDB run).runs.get? run.id = some run := by
  simp [oneRunDB, KeyedTable.get?]

theorem oneRunDB_setRun (run : Run) (f : Run → Run) (hf : ∀ r, (f r).id = r.id) :
    (oneRunDB run).setRun run.id f hf = oneRunDB (f run) := by
  simp [oneRunDB, DB.setRun, KeyedTable.modify, hf]

theorem oneRunDB_alone (cfg : Config) (now : Int) (run : Run) :
    (oneRunDB run).anotherRunActive cfg now run = false := by
  simp [oneRunDB, DB.anotherRunActive, KeyedTable.any]

/-- Claiming the only run. -/
theorem oneRunDB_claim (cfg : Config) (run : Run) {worker : WorkerID} {startedAt : Int}
    (hdomain : run.domainId = 1) (hsettled : run.isSettled = false)
    (hdeadline : goNow < run.deadlineAt) (hlease : run.leaseHeld cfg goNow = false)
    (hattempts : run.executionAttempts < cfg.outboxMaxAttempts)
    (hchecks : (run.claim (timestamptz startedAt) worker).Checks) :
    claimExecution cfg ⟨run.id, worker, startedAt, goNow, true⟩ (oneRunDB run) =
      (oneRunDB (run.claim (timestamptz startedAt) worker), .ok (newExecution run sampleDomain)) := by
  have hclaim := claimExecution_claims cfg ⟨run.id, worker, startedAt, goNow, true⟩
    (oneRunDB_get? run) (by rw [hdomain]; rfl) hsettled hdeadline hlease rfl
    (oneRunDB_alone cfg _ run) hattempts hchecks
  rw [oneRunDB_setRun] at hclaim
  exact hclaim

/-- Completing it, whoever claimed it: a manual run without a conclusion. -/
theorem oneRunDB_complete (cfg : Config) (run : Run) (execution : Execution) (now : Int)
    (hid : execution.run.id = run.id)
    (hdomain : execution.run.domainId = 1) (hmanual : execution.run.triggerType = .manual)
    (hrunning : run.status = .running) (hchecks : (run.complete (timestamptz now)).Checks) :
    ∃ db', completeRun cfg ⟨now, now, 1, 1⟩ execution (inconclusiveEvidence now) (oneRunDB run) =
      .ok db' := by
  have hget : (oneRunDB run).domains.get? execution.run.domainId = some sampleDomain := by
    rw [hdomain]
    rfl
  have hrun : (oneRunDB run).runs.get? execution.run.id = some run := by
    rw [hid]
    exact oneRunDB_get? run
  exact completeRun_inconclusive cfg ⟨now, now, 1, 1⟩ now hget (by decide) hmanual hrun hrunning
    hchecks rfl

/-- The manual run that is queued at `goNow`. -/
def queuedRun (cfg : Config) (goNow : Int) : Run :=
  newRun cfg 7 1 .manual .critical (.manual 1 5 (lit "k")) (some 5) goNow goNow

def queueCall (goNow : Int) : ManualRunCall where
  domainID := 1
  userID := 5
  idempotencyKey := lit "k"
  goNow := goNow
  newID := 7

theorem createManualRun_queueCall (h : (queuedRun cfg goNow).Checks) :
    createManualRun cfg (queueCall goNow) sampleCluster.db =
      .ok (oneRunDB (queuedRun cfg goNow), 7, true) := by
  have hinsert : sampleCluster.db.insertRun (newRun cfg 7 1 .manual .critical
      (.manual 1 5 (lit "k")) (some 5) goNow goNow) = some (oneRunDB (queuedRun cfg goNow), 1) := by
    unfold queuedRun at h
    unfold DB.insertRun
    rw [if_neg (not_not_intro h)]
    rfl
  have hkey : Utf8.trimSpace (queueCall goNow).idempotencyKey = lit "k" := by
    show Utf8.trimSpace (lit "k") = lit "k"
    decide
  have hdomain : sampleCluster.db.domains.get? (queueCall goNow).domainID = some sampleDomain := rfl
  unfold createManualRun
  dsimp only
  rw [hkey, if_neg (by decide), hdomain]
  dsimp only
  rw [if_neg (by decide), if_neg (not_not_intro (by decide))]
  dsimp only [queueCall]
  rw [hinsert]
  rfl

variable {worker : Nat → WorkerID} {i j : Nat}

/-- The schedule: queued at `goNow`, claimed by `i` at `c₁`, claimed again by `j` at
    `c₂`, completed by `i`. `g₁` and `g₂` are what their clocks read. -/
theorem late_completion (hij : i ≠ j) (hmax : 2 ≤ cfg.outboxMaxAttempts) (goNow c₁ g₁ c₂ g₂ : Int)
    (hc : c₁ ≤ c₂) (hread : Clock c₁ goNow) (hread₁ : Clock c₁ g₁) (hread₂ : Clock c₂ g₂)
    (hqueued : timestamptz goNow < (queuedRun cfg goNow).deadlineAt)
    (hfirst : g₁ < (queuedRun cfg goNow).deadlineAt)
    (hsecond : g₂ < (queuedRun cfg goNow).deadlineAt)
    (hexpired : timestamptz c₁ ≤ g₂ - cfg.monitorQueueLease) :
    ∃ s call evidence s' execution, (workers cfg worker Clock).Reachable s ∧
      Cluster.Step cfg worker Clock s (.complete i call evidence) s' ∧
      s.slots i = .executing execution ∧ s.lastClaimer execution.run.id = some j := by
  let queued := queuedRun cfg goNow
  let claimed := queued.claim (timestamptz c₁) (worker i)
  let reclaimed := claimed.claim (timestamptz c₂) (worker j)
  have hcreate : createManualRun cfg (queueCall goNow) sampleCluster.db =
      .ok (oneRunDB queued, 7, true) :=
    createManualRun_queueCall ⟨hqueued, .inl rfl, (by decide : (0 : Int) ≤ 0 ∧ (0 : Int) ≤ 100)⟩
  have hclaim₁ : claimExecution cfg ⟨7, worker i, c₁, g₁, true⟩ (oneRunDB queued) =
      (oneRunDB claimed, .ok (newExecution queued sampleDomain)) :=
    oneRunDB_claim cfg queued rfl rfl hfirst rfl (by show (0 : Int) < _; omega)
      ⟨hqueued, .inl rfl, (by decide : (0 : Int) ≤ 1 ∧ (1 : Int) ≤ 100)⟩
  have hlease : claimed.leaseHeld cfg g₂ = false := by
    simp [claimed, Run.leaseHeld, Run.claim]
    omega
  have hclaim₂ : claimExecution cfg ⟨7, worker j, c₂, g₂, true⟩ (oneRunDB claimed) =
      (oneRunDB reclaimed, .ok (newExecution claimed sampleDomain)) :=
    oneRunDB_claim cfg claimed rfl rfl hsecond hlease (by show (1 : Int) < _; omega)
      ⟨hqueued, .inl rfl, (by decide : (0 : Int) ≤ 2 ∧ (2 : Int) ≤ 100)⟩
  obtain ⟨db', hcomplete⟩ := oneRunDB_complete cfg reclaimed (newExecution queued sampleDomain) c₂
    rfl rfl rfl rfl
    ⟨hqueued, .inr (by simp [reclaimed, claimed, Run.claim, Run.complete]),
      (by decide : (0 : Int) ≤ 2 ∧ (2 : Int) ≤ 100)⟩
  -- The states along the schedule.
  let s₀ : Cluster := { sampleCluster with clock := c₁ }
  let s₁ : Cluster := { s₀ with db := oneRunDB queued }
  let s₂ : Cluster := s₁.setSlot i (.received 7 c₁)
  let s₃ : Cluster := { (s₂.setSlot i (.executing (newExecution queued sampleDomain))) with
    db := oneRunDB claimed, claims := [(7, i)] }
  let s₄ : Cluster := { s₃ with clock := c₂ }
  let s₅ : Cluster := s₄.setSlot j (.received 7 c₂)
  let s₆ : Cluster := { (s₅.setSlot j (.executing (newExecution claimed sampleDomain))) with
    db := oneRunDB reclaimed, claims := [(7, j), (7, i)] }
  have h₁ : (workers cfg worker Clock).step s₀ (.createManualRun (queueCall goNow)) s₁ :=
    .createManualRun ⟨c₁, Int.le_refl _, hread⟩ hcreate
  have h₂ : (workers cfg worker Clock).step s₁ (.deliver i 7) s₂ := .deliver rfl rfl
  have h₃ : (workers cfg worker Clock).step s₂ (.claim i c₁ g₁ true) s₃ :=
    .claimed (Cluster.setSlot_self _ _ _) (Int.le_refl _) (Int.le_refl _) hread₁ hclaim₁
  have h₄ : (workers cfg worker Clock).step s₃ (.tick c₂) s₄ := .tick hc
  have h₅ : (workers cfg worker Clock).step s₄ (.deliver j 7) s₅ := by
    refine .deliver ?_ rfl
    show ((s₂.setSlot i _).slots j) = _
    rw [Cluster.setSlot_ne _ _ hij.symm]
    exact Cluster.setSlot_ne _ _ hij.symm
  have h₆ : (workers cfg worker Clock).step s₅ (.claim j c₂ g₂ true) s₆ :=
    .claimed (Cluster.setSlot_self _ _ _) (Int.le_refl _) (Int.le_refl _) hread₂ hclaim₂
  have hslot : s₆.slots i = .executing (newExecution queued sampleDomain) := by
    show ((s₅.setSlot j _).slots i) = _
    rw [Cluster.setSlot_ne _ _ hij]
    show ((s₄.setSlot j _).slots i) = _
    rw [Cluster.setSlot_ne _ _ hij]
    exact Cluster.setSlot_self _ _ _
  have hreach : (workers cfg worker Clock).Reachable s₆ := by
    have hinit : (workers cfg worker Clock).Reachable s₀ :=
      .init ⟨rfl, rfl, fun _ => rfl, rfl, rfl⟩
    exact hinit.steps (.cons _ _ h₁ (.cons _ _ h₂ (.cons _ _ h₃ (.cons _ _ h₄ (.cons _ _ h₅
      (.cons _ _ h₆ (.nil _)))))))
  -- The newest claim is the one of `j`, and `i` completes the run.
  exact ⟨s₆, _, _, _, _, hreach, .completed hslot (Int.le_refl _) hcomplete, hslot, rfl⟩

theorem not_fenced_of_late_completion (hworkers : worker i ≠ worker j)
    (h : ∃ s call evidence s' execution, (workers cfg worker Clock).Reachable s ∧ Cluster.Step cfg worker Clock s (.complete i call evidence) s' ∧ s.slots i = .executing execution ∧ s.lastClaimer execution.run.id = some j) :
    ¬ Fenced cfg worker Clock := by
  obtain ⟨s, call, evidence, s', execution, hreach, hstep, hslot, hlast⟩ := h
  intro hfenced
  obtain ⟨last, hlast', hworker⟩ := hfenced s i call evidence s' execution hreach hstep hslot
  obtain rfl : j = last := Option.some.inj (hlast.symm.trans hlast')
  exact hworkers hworker.symm

/-- On one clock the second claim fits between the end of the lease and the deadline. -/
theorem late_completion_sharedClock (hij : i ≠ j) (hmax : 2 ≤ cfg.outboxMaxAttempts)
    (hpos : 0 < cfg.monitorQueueLease)
    (hlease : cfg.monitorQueueLease < ceilMicrosecond cfg.monitorRunTimeout) :
    ∃ s call evidence s' execution, (workers cfg worker SharedClock).Reachable s ∧
      Cluster.Step cfg worker SharedClock s (.complete i call evidence) s' ∧
      s.slots i = .executing execution ∧ s.lastClaimer execution.run.id = some j := by
  -- Queued one nanosecond before a microsecond ends, the run gains the most from rounding.
  have hdeadline : (queuedRun cfg 999).deadlineAt = ceilMicrosecond cfg.monitorRunTimeout := by
    show timestamptz (999 + cfg.monitorRunTimeout) = timestamptz (cfg.monitorRunTimeout + 999)
    rw [Int.add_comm]
  have hmicro : 1000 ≤ ceilMicrosecond cfg.monitorRunTimeout := by
    unfold ceilMicrosecond timestamptz microsecond at hlease ⊢
    omega
  have hzero : timestamptz 999 = 0 := by decide
  let late := max 999 cfg.monitorQueueLease
  refine late_completion hij hmax 999 999 999 late late (by omega) rfl rfl rfl ?_ ?_ ?_ ?_
  · omega
  · omega
  · omega
  · omega

/-- With clocks that differ, the scheduler's may be ahead by more than any lease. -/
theorem late_completion_anyClock (hij : i ≠ j) (hmax : 2 ≤ cfg.outboxMaxAttempts)
    (hpos : 0 < cfg.monitorQueueLease) (htimeout : 0 < cfg.monitorRunTimeout) :
    ∃ s call evidence s' execution, (workers cfg worker AnyClock).Reachable s ∧
      Cluster.Step cfg worker AnyClock s (.complete i call evidence) s' ∧
      s.slots i = .executing execution ∧ s.lastClaimer execution.run.id = some j := by
  have hdeadline : (queuedRun cfg (999 + 1000 * cfg.monitorQueueLease)).deadlineAt =
      timestamptz (999 + 1000 * cfg.monitorQueueLease + cfg.monitorRunTimeout) := rfl
  have hlate : 1000 * cfg.monitorQueueLease + 1000 ≤
      timestamptz (999 + 1000 * cfg.monitorQueueLease + cfg.monitorRunTimeout) := by
    unfold timestamptz microsecond
    omega
  have hqueued : timestamptz (999 + 1000 * cfg.monitorQueueLease) =
      1000 * cfg.monitorQueueLease := by
    unfold timestamptz microsecond
    omega
  have hzero : timestamptz 0 = 0 := by decide
  refine late_completion hij hmax (999 + 1000 * cfg.monitorQueueLease) 0 0 0 cfg.monitorQueueLease
    (by omega) trivial trivial trivial ?_ ?_ ?_ ?_
  · omega
  · omega
  · omega
  · omega

/-- **Lease fencing**: with two different workers and one clock, completions are
    fenced if and only if the queue lease covers the run timeout, rounded up to
    microseconds, or runs are executed once; with clocks that differ, if and only
    if runs are executed once. -/
theorem completion_fenced_iff (hcfg : cfg.Accepted) (worker : Nat → WorkerID) (i j : Nat)
    (hworkers : worker i ≠ worker j) :
    (Fenced cfg worker SharedClock ↔
      ceilMicrosecond cfg.monitorRunTimeout ≤ cfg.monitorQueueLease ∨
        cfg.outboxMaxAttempts = 1) ∧
    (Fenced cfg worker AnyClock ↔ cfg.outboxMaxAttempts = 1) := by
  have hranges := hcfg.ranges
  have hij : i ≠ j := fun h => hworkers (congrArg worker h)
  obtain ⟨hmin, -⟩ := hranges.outboxMaxAttempts
  have honce : ∀ Clock, cfg.outboxMaxAttempts = 1 → Fenced cfg worker Clock := by
    intro Clock hmax
    apply fenced_of_attempts_le_one
    intro s hreach id run hrun
    have hle := attempts_le_max (by omega) hreach hrun
    omega
  refine ⟨⟨?_, ?_⟩, ⟨?_, honce AnyClock⟩⟩
  · intro hfenced
    by_contra hneither
    rw [not_or, Int.not_le] at hneither
    exact not_fenced_of_late_completion hworkers (late_completion_sharedClock hij (by omega)
      hranges.monitorQueueLease hneither.1) hfenced
  · intro h
    rcases h with hlease | hmax
    · apply fenced_of_attempts_le_one
      intro s hreach id run hrun
      exact ((timely_reachable hlease hreach).runs id run hrun).attempts
    · exact honce SharedClock hmax
  · intro hfenced
    by_contra hmax
    exact not_fenced_of_late_completion hworkers (late_completion_anyClock hij (by omega)
      hranges.monitorQueueLease hranges.monitorRunTimeout) hfenced

end

/-- The default lease of 90 seconds covers the default timeout of 60. -/
theorem completion_fenced_default : Fenced defaultConfig id SharedClock := by
  have hfenced := completion_fenced_iff defaultConfig_accepted id 0 1 (by decide)
  exact hfenced.1.mpr (.inl (by decide))

/-- A queue lease of ten seconds, and otherwise the defaults. -/
def shortLeaseConfig : Config := { defaultConfig with monitorQueueLease := 10 * second }

theorem shortLeaseConfig_accepted : shortLeaseConfig.Accepted :=
  ⟨Env.withSettings [] [("MONITOR_QUEUE_LEASE", 10 * second)], rfl⟩

/-- With it, the evidence of worker `0` is committed after worker `1` has claimed
    the run again. -/
theorem late_worker_commits :
    shortLeaseConfig.Accepted ∧
    ∃ s call evidence s' execution, (workers shortLeaseConfig id SharedClock).Reachable s ∧
      Cluster.Step shortLeaseConfig id SharedClock s (.complete 0 call evidence) s' ∧
      s.slots 0 = .executing execution ∧ s.lastClaimer execution.run.id = some 1 :=
  ⟨shortLeaseConfig_accepted,
    late_completion_sharedClock (by decide) (by decide) (by decide) (by decide)⟩

end DomainMonitor.Monitor
