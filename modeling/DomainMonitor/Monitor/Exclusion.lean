import DomainMonitor.Monitor.Statements

/-! # One active run per domain

    Two runs of a domain must not be in progress at the same time. The claim of
    a run therefore looks for another run of its domain that is `running` with a
    heartbeat younger than the queue lease, under the advisory lock of the domain.
    That look compares in whole milliseconds while the lease has nanoseconds: a
    lease that is not a whole number of milliseconds is shortened, and for the
    rest of a millisecond two runs can hold the domain.
-/

namespace DomainMonitor.Monitor

/-- No two runs of a domain are running with a heartbeat younger than the lease. -/
def Sessions.Exclusive (cfg : Config) (s : Sessions) : Prop :=
  ∀ id id' run run', s.db.runs.get? id = some run → s.db.runs.get? id' = some run' → id ≠ id' →
    run.domainId = run'.domainId →
    ¬ (run.leaseHeld cfg s.clock = true ∧ run'.leaseHeld cfg s.clock = true)

/-- The lease as the other-run check counts it, in whole milliseconds. -/
def wholeLease (cfg : Config) : Int := milliseconds cfg.monitorQueueLease * millisecond

/-- The heartbeats of the running runs of a domain are at least the counted lease
    apart, and none is in the future. -/
structure Sessions.Spaced (cfg : Config) (s : Sessions) : Prop where
  past : ∀ id run h, s.db.runs.get? id = some run → run.status = .running →
    run.heartbeatAt = some h → h ≤ s.clock
  gap : ∀ id id' run run' h h', s.db.runs.get? id = some run → s.db.runs.get? id' = some run' →
    id ≠ id' → run.domainId = run'.domainId → run.status = .running → run'.status = .running →
    run.heartbeatAt = some h → run'.heartbeatAt = some h' →
    h + wholeLease cfg ≤ h' ∨ h' + wholeLease cfg ≤ h

section

variable {cfg : Config} {hash : UUID → Int} {s s' : Sessions} {a : Statement}

/-! ### Heartbeats keep their distance -/

/-- Nothing is lost when no run starts running and time passes. -/
theorem Sessions.Spaced.of_running (hs : s.Spaced cfg) (hclock : s.clock ≤ s'.clock)
    (hrunning : ∀ id run, s'.db.runs.get? id = some run → run.status = .running →
      s.db.runs.get? id = some run) : s'.Spaced cfg := by
  refine ⟨?_, ?_⟩
  · intro id run h hrun hstatus hbeat
    exact Int.le_trans (hs.past id run h (hrunning id run hrun hstatus) hstatus hbeat) hclock
  · intro id id' run run' h h' hrun hrun' hne hdomain hstatus hstatus'
    exact hs.gap id id' run run' h h' (hrunning id run hrun hstatus)
      (hrunning id' run' hrun' hstatus') hne hdomain hstatus hstatus'

/-- A run that does not hold the domain has an old heartbeat. -/
theorem heartbeat_le_of_holdsDomain {o : Run} {now h : Int} (hfree : o.holdsDomain cfg now = false)
    (hstatus : o.status = .running) (hbeat : o.heartbeatAt = some h) :
    h + wholeLease cfg ≤ now := by
  unfold Run.holdsDomain at hfree
  rw [hbeat] at hfree
  simp only [hstatus, decide_true, Option.any_some, Bool.true_and, decide_eq_false_iff_not,
    gt_iff_lt, Int.not_lt] at hfree
  unfold wholeLease
  omega

/-- The commit of a claim: its heartbeat is a whole lease after every other one. -/
theorem spaced_claim {id : UUID} {run : Run} {startedAt goNow : Int} (worker : WorkerID)
    (hs : s.Spaced cfg) (hstart : startedAt ≤ s.clock)
    (halone : Alone cfg s.db id (timestamptz startedAt) run goNow) :
    Sessions.Spaced cfg { s with db := (s.db.setRun id (Run.claim (timestamptz startedAt) worker)
      (Run.claim_id _ _)) } := by
  generalize hdb : s.db.setRun id (Run.claim (timestamptz startedAt) worker) _ = db'
  have hself : db'.runs.get? id = some (run.claim (timestamptz startedAt) worker) := by
    rw [← hdb]
    exact DB.setRun_get? halone.row _ _
  have hother : ∀ id', id' ≠ id → db'.runs.get? id' = s.db.runs.get? id' := by
    intro id' hne
    rw [← hdb]
    exact DB.setRun_get?_ne _ _ _ hne
  have hnow : timestamptz startedAt ≤ s.clock := Int.le_trans (timestamptz_le _) hstart
  have hid : run.id = id := KeyedTable.key_of_get? halone.row
  -- Everything else that runs in this domain is older.
  have hold : ∀ id' o h, id' ≠ id → s.db.runs.get? id' = some o → o.domainId = run.domainId →
      o.status = .running → o.heartbeatAt = some h → h + wholeLease cfg ≤ timestamptz startedAt := by
    intro id' o h hne ho hdomain hstatus hbeat
    have hfree := anotherRunActive_eq_false_iff.mp halone.alone id' o ho hdomain (by rw [hid]; exact hne)
    exact heartbeat_le_of_holdsDomain hfree hstatus hbeat
  refine ⟨?_, ?_⟩
  · intro id' o h ho hstatus hbeat
    change db'.runs.get? id' = some o at ho
    by_cases hne : id' = id
    · subst hne
      obtain rfl := Option.some.inj (hself.symm.trans ho)
      obtain rfl : timestamptz startedAt = h := Option.some.inj hbeat
      exact hnow
    · rw [hother id' hne] at ho
      exact hs.past id' o h ho hstatus hbeat
  · intro id₁ id₂ o₁ o₂ h₁ h₂ ho₁ ho₂ hne hdomain hstatus₁ hstatus₂ hbeat₁ hbeat₂
    change db'.runs.get? id₁ = some o₁ at ho₁
    change db'.runs.get? id₂ = some o₂ at ho₂
    by_cases hne₁ : id₁ = id
    · subst hne₁
      obtain rfl := Option.some.inj (hself.symm.trans ho₁)
      obtain rfl : timestamptz startedAt = h₁ := Option.some.inj hbeat₁
      rw [hother id₂ (Ne.symm hne)] at ho₂
      right
      exact hold id₂ o₂ h₂ (Ne.symm hne) ho₂ hdomain.symm hstatus₂ hbeat₂
    · rw [hother id₁ hne₁] at ho₁
      by_cases hne₂ : id₂ = id
      · subst hne₂
        obtain rfl := Option.some.inj (hself.symm.trans ho₂)
        obtain rfl : timestamptz startedAt = h₂ := Option.some.inj hbeat₂
        left
        exact hold id₁ o₁ h₁ hne ho₁ hdomain hstatus₁ hbeat₁
      · rw [hother id₂ hne₂] at ho₂
        exact hs.gap id₁ id₂ o₁ o₂ h₁ h₂ ho₁ ho₂ hne hdomain hstatus₁ hstatus₂ hbeat₁ hbeat₂

/-- **Step lemma**. -/
theorem spaced_step (hc : s.Consistent cfg hash) (hs : s.Spaced cfg)
    (h : Sessions.Step cfg hash s a s') : s'.Spaced cfg := by
  cases h with
  | tick ht => exact hs.of_running ht (fun _ _ hrun _ => hrun)
  | background hback => exact hs.of_running (Int.le_refl _) hback.quiet.running
  | start | next | rollback => exact hs.of_running (Int.le_refl _) (fun _ _ hrun _ => hrun)
  | commit ht hstage =>
    rename_i i t run goNow update
    have hv := hc.valid i t ht
    have hread := hv.readRow hstage
    -- The row that an expired or exhausted run leaves behind is not running.
    have hfailed : (update.apply t.now t.workerID run).status ≠ .running →
        ∀ id o, (s.db.setRun t.runID (update.apply t.now t.workerID)
          (RowUpdate.apply_id t.now t.workerID update)).runs.get? id = some o →
        o.status = .running → s.db.runs.get? id = some o := by
      intro hstatus id o ho hrunning
      by_cases hid : id = t.runID
      · subst hid
        rw [DB.setRun_get? hread.row] at ho
        obtain rfl := Option.some.inj ho
        exact absurd hrunning hstatus
      · rw [DB.setRun_get?_ne _ _ _ hid] at ho
        exact ho
    cases update with
    | expire => exact hs.of_running (Int.le_refl _) (hfailed (by simp [RowUpdate.apply, Run.expire]))
    | exhaust =>
      exact hs.of_running (Int.le_refl _) (hfailed (by simp [RowUpdate.apply, Run.exhaust]))
    | claim =>
      unfold ClaimTxn.Valid at hv
      rw [hstage] at hv
      have hspaced := spaced_claim t.workerID hs (hc.started i t ht) hv.1
      exact ⟨hspaced.past, hspaced.gap⟩

theorem spaced_reachable (h : (sessions cfg hash).Reachable s) : s.Spaced cfg := by
  refine LTS.System.invariant_under (P := Sessions.Spaced cfg) (Q := Sessions.Consistent cfg hash)
    (fun _ hr => consistent_reachable hr) ?_ (fun _ _ _ hc hs hstep => spaced_step hc hs hstep) h
  intro s hinit
  refine ⟨?_, ?_⟩
  · intro id run h hrun hstatus
    exact absurd hstatus (hinit.2 id run hrun)
  · intro id id' run run' h h' hrun hrun' hne hdomain hstatus
    exact absurd hstatus (hinit.2 id run hrun)

/-- Heartbeats that are a lease apart are not both young. -/
theorem exclusive_of_spaced (hwhole : wholeLease cfg = cfg.monitorQueueLease)
    (hs : s.Spaced cfg) : s.Exclusive cfg := by
  intro id id' run run' hrun hrun' hne hdomain hboth
  simp only [Run.leaseHeld, Bool.and_eq_true, decide_eq_true_eq, Option.any_eq_true] at hboth
  obtain ⟨⟨hstatus, h, hbeat, hyoung⟩, hstatus', h', hbeat', hyoung'⟩ := hboth
  have hpast := hs.past id run h hrun hstatus hbeat
  have hpast' := hs.past id' run' h' hrun' hstatus' hbeat'
  have hgap := hs.gap id id' run run' h h' hrun hrun' hne hdomain hstatus hstatus' hbeat hbeat'
  omega

/-- When the counted lease is the lease. -/
theorem wholeLease_eq_iff (hpos : 0 < cfg.monitorQueueLease) :
    wholeLease cfg = cfg.monitorQueueLease ↔ cfg.monitorQueueLease % millisecond = 0 := by
  unfold wholeLease
  rw [milliseconds_eq (by omega)]
  unfold millisecond
  omega

theorem wholeLease_le (hpos : 0 < cfg.monitorQueueLease) :
    0 ≤ wholeLease cfg ∧ wholeLease cfg ≤ cfg.monitorQueueLease ∧
      timestamptz (wholeLease cfg) = wholeLease cfg := by
  unfold wholeLease
  rw [milliseconds_eq (by omega)]
  unfold millisecond timestamptz microsecond
  omega

/-! ### Two claims within one lease -/

/-- A run of the sample domain that waits in the queue until after the lease. -/
def waitingRun (cfg : Config) (id : UUID) : Run :=
  { sampleRun with
    id := id
    status := .queued
    deduplicationKey := .scheduled 1 id "v1"
    deadlineAt := cfg.monitorQueueLease + 1
    startedAt := none
    executionAttempts := 0
    workerId := none
    heartbeatAt := none }

/-- The sample domain with two of them, and no open transaction. -/
def waitingSessions (cfg : Config) : Sessions where
  db := { sampleDB with runs := ⟨[waitingRun cfg 7, waitingRun cfg 8], by simp [waitingRun]⟩ }
  clock := 0
  txns := fun _ => none

theorem waitingSessions_runs {id : UUID} {o : Run}
    (h : (waitingSessions cfg).db.runs.get? id = some o) :
    id = 7 ∧ o = waitingRun cfg 7 ∨ id = 8 ∧ o = waitingRun cfg 8 := by
  have hkey : o.id = id := KeyedTable.key_of_get? h
  have hmem : o ∈ [waitingRun cfg 7, waitingRun cfg 8] := (KeyedTable.get?_some h).1
  rcases List.mem_cons.mp hmem with rfl | hmem
  · exact .inl ⟨hkey.symm, rfl⟩
  · obtain rfl := List.mem_singleton.mp hmem
    exact .inr ⟨hkey.symm, rfl⟩

theorem waitingSessions_isInitial : (waitingSessions cfg).IsInitial := by
  refine ⟨fun _ => rfl, ?_⟩
  intro id run hrun
  rcases waitingSessions_runs hrun with ⟨-, rfl⟩ | ⟨-, rfl⟩ <;> simp [waitingRun]

theorem waitingRun_claim_checks (hpos : 0 < cfg.monitorQueueLease) (id : UUID) (now : Int)
    (worker : WorkerID) : ((waitingRun cfg id).claim now worker).Checks := by
  refine ⟨?_, .inl rfl, (by decide : (0 : Int) ≤ 1 ∧ (1 : Int) ≤ 100)⟩
  show (0 : Int) < cfg.monitorQueueLease + 1
  omega

/-- **Two active runs**: with a lease that is not a whole number of milliseconds, the
    second claim is made as soon as the whole ones have passed. -/
theorem two_active_runs (cfg : Config) (hash : UUID → Int) (hmax : 1 ≤ cfg.outboxMaxAttempts)
    (hpos : 0 < cfg.monitorQueueLease) (hshort : wholeLease cfg < cfg.monitorQueueLease) :
    ∃ s, (sessions cfg hash).Reachable s ∧ ∃ run run', s.db.runs.get? 7 = some run ∧
      s.db.runs.get? 8 = some run' ∧ run.domainId = run'.domainId ∧
      run.leaseHeld cfg s.clock = true ∧ run'.leaseHeld cfg s.clock = true := by
  obtain ⟨hnonneg, -, hround⟩ := wholeLease_le hpos
  let s₀ := waitingSessions cfg
  let first := Run.claim (timestamptz 0) 0
  let second := Run.claim (timestamptz (wholeLease cfg)) 1
  let db₁ := s₀.db.setRun 7 first (Run.claim_id _ _)
  let db₂ := db₁.setRun 8 second (Run.claim_id _ _)
  have hfirst : db₁.runs.get? 7 = some (first (waitingRun cfg 7)) := DB.setRun_get? rfl _ _
  have hwaiting : db₁.runs.get? 8 = some (waitingRun cfg 8) :=
    DB.setRun_get?_ne _ _ _ (by decide)
  -- The first claim, at time zero, finds two waiting runs.
  have halone₁ : s₀.db.anotherRunActive cfg (timestamptz 0) (waitingRun cfg 7) = false := by
    rw [anotherRunActive_eq_false_iff]
    intro id o ho _ _
    rcases waitingSessions_runs ho with ⟨-, rfl⟩ | ⟨-, rfl⟩ <;> rfl
  have hclaim₁ : claimExecution cfg ⟨7, 0, 0, 0, true⟩ s₀.db =
      (db₁, .ok (newExecution (waitingRun cfg 7) sampleDomain)) :=
    claimExecution_claims cfg ⟨7, 0, 0, 0, true⟩ rfl rfl rfl
      (by show (0 : Int) < cfg.monitorQueueLease + 1; omega) rfl rfl halone₁
      (by show (0 : Int) < _; omega) (waitingRun_claim_checks hpos 7 _ _)
  -- The second one, when the counted lease has passed, does not see the first run.
  have halone₂ : db₁.anotherRunActive cfg (timestamptz (wholeLease cfg)) (waitingRun cfg 8) =
      false := by
    rw [anotherRunActive_eq_false_iff]
    intro id o ho _ hid
    by_cases hseven : id = 7
    · subst hseven
      obtain rfl := Option.some.inj (hfirst.symm.trans ho)
      rw [hround]
      show decide ((0 : Int) > wholeLease cfg - wholeLease cfg) = false
      simp
    · rw [DB.setRun_get?_ne _ _ _ hseven] at ho
      rcases waitingSessions_runs ho with ⟨-, rfl⟩ | ⟨-, rfl⟩ <;> rfl
  have hclaim₂ : claimExecution cfg ⟨8, 1, wholeLease cfg, wholeLease cfg, true⟩ db₁ =
      (db₂, .ok (newExecution (waitingRun cfg 8) sampleDomain)) :=
    claimExecution_claims cfg ⟨8, 1, wholeLease cfg, wholeLease cfg, true⟩ hwaiting rfl rfl
      (by show wholeLease cfg < cfg.monitorQueueLease + 1; omega) rfl rfl halone₂
      (by show (0 : Int) < _; omega) (waitingRun_claim_checks hpos 8 _ _)
  have hplay₁ : ∃ ls, (sessions cfg hash).Steps s₀ ls { s₀ with db := db₁ } :=
    serial_claimExecution hash (fun _ => rfl) hclaim₁
  have hplay₂ : ∃ ls, (sessions cfg hash).Steps { s₀ with db := db₁, clock := wholeLease cfg } ls
      { s₀ with db := db₂, clock := wholeLease cfg } :=
    serial_claimExecution hash (fun _ => rfl) hclaim₂
  obtain ⟨ls₁, hsteps₁⟩ := hplay₁
  obtain ⟨ls₂, hsteps₂⟩ := hplay₂
  have htick : Sessions.Step cfg hash { s₀ with db := db₁ } (.tick (wholeLease cfg))
      { s₀ with db := db₁, clock := wholeLease cfg } := .tick hnonneg
  refine ⟨_, (LTS.System.Reachable.init waitingSessions_isInitial).steps
    (hsteps₁.append (.cons _ _ htick hsteps₂)), ?_⟩
  refine ⟨first (waitingRun cfg 7), second (waitingRun cfg 8), ?_, ?_, rfl, ?_, ?_⟩
  · show db₂.runs.get? 7 = _
    rw [DB.setRun_get?_ne _ _ _ (by decide)]
    exact hfirst
  · exact DB.setRun_get? hwaiting _ _
  · show decide ((0 : Int) > wholeLease cfg - cfg.monitorQueueLease) = true
    rw [decide_eq_true_eq]
    omega
  · show decide (timestamptz (wholeLease cfg) > wholeLease cfg - cfg.monitorQueueLease) = true
    rw [decide_eq_true_eq, hround]
    omega

/-- **Claim exclusion**: with an accepted configuration, no two runs of a domain are
    ever active at once if and only if the queue lease is a whole number of
    milliseconds. -/
theorem claim_exclusion_iff (hcfg : cfg.Accepted) (hash : UUID → Int) :
    (∀ s, (sessions cfg hash).Reachable s → s.Exclusive cfg) ↔
      cfg.monitorQueueLease % millisecond = 0 := by
  have hpos := hcfg.ranges.monitorQueueLease
  rw [← wholeLease_eq_iff hpos]
  constructor
  · intro hexclusive
    by_contra hne
    obtain ⟨-, hle, -⟩ := wholeLease_le hpos
    obtain ⟨s, hreach, run, run', hrun, hrun', hdomain, hboth⟩ :=
      two_active_runs cfg hash hcfg.ranges.outboxMaxAttempts.1 hpos (by omega)
    exact hexclusive s hreach 7 8 run run' hrun hrun' (by decide) hdomain hboth
  · intro hwhole s hreach
    exact exclusive_of_spaced hwhole (spaced_reachable hreach)

end

/-- The default lease of ninety seconds excludes a second active run. -/
theorem claim_exclusion_default :
    defaultConfig.Accepted ∧ ∀ s, (sessions defaultConfig Int.ofNat).Reachable s →
      s.Exclusive defaultConfig :=
  ⟨defaultConfig_accepted, (claim_exclusion_iff defaultConfig_accepted Int.ofNat).mpr (by decide)⟩

/-- A queue lease of 1.5 milliseconds, and otherwise the defaults. -/
def halfMillisecondConfig : Config := { defaultConfig with monitorQueueLease := 1500 * microsecond }

theorem halfMillisecondConfig_accepted : halfMillisecondConfig.Accepted :=
  ⟨Env.withSettings [] [("MONITOR_QUEUE_LEASE", 1500 * microsecond)], rfl⟩

/-- With it, two runs of one domain are active one millisecond after the first claim. -/
theorem two_runs_hold_one_domain :
    halfMillisecondConfig.Accepted ∧
    ∃ s, (sessions halfMillisecondConfig Int.ofNat).Reachable s ∧
      ¬ s.Exclusive halfMillisecondConfig := by
  refine ⟨halfMillisecondConfig_accepted, ?_⟩
  obtain ⟨s, hreach, run, run', hrun, hrun', hdomain, hboth⟩ :=
    two_active_runs halfMillisecondConfig Int.ofNat (by decide) (by decide) (by decide)
  exact ⟨s, hreach, fun hexclusive =>
    hexclusive 7 8 run run' hrun hrun' (by decide) hdomain hboth⟩

end DomainMonitor.Monitor
