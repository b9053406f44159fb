import DomainMonitor.Monitor.Workers

/-! # Reaching and leaving terminal states

    Two questions about the end of a run. Does a run past its deadline become
    `failed`? Only if it was started: the expiry sets `completed_at`, and a
    constraint of the table refuses that for a row without `started_at`, so a run
    that expires in the queue stays queued and its message is never
    acknowledged. And is a terminal state final? `completed` and `cancelled`
    are; `failed` is not, because `ClaimExecution` does not look for it.
-/

namespace DomainMonitor.Monitor

section

variable {cfg : Config} {worker : Nat → WorkerID} {Clock : Int → Int → Prop} {s s' : Cluster}

/-! ### Expiry -/

/-- The claim of an expired run does what it should: it commits `failed` with
    `RUN_DEADLINE_EXCEEDED`, on a row that satisfies every constraint, and
    returns an error on which `Execute` acknowledges the message. -/
def ExpiresProperly (cfg : Config) (call : ClaimCall) (db : DB) : Prop :=
  ∃ db' e run', claimExecution cfg call db = (db', .error e) ∧ e = .runExpired ∧
    acknowledgesClaimError e = true ∧ db'.runs.get? call.runID = some run' ∧
    run'.status = .failed ∧ run'.lastErrorCode = some "RUN_DEADLINE_EXCEEDED" ∧ run'.Checks

/-- The constraints let exactly the started rows expire. -/
theorem expire_checks_iff {run : Run} (h : run.Checks) (now : Int) :
    (run.expire now).Checks ↔ run.startedAt ≠ none := by
  obtain ⟨horder, -, hmin, hmax⟩ := h
  constructor
  · intro hexpired
    show (run.expire now).startedAt ≠ none
    exact startedAt_ne_none_of_checks hexpired (by simp [Run.expire])
  · intro hstarted
    exact ⟨horder, .inr hstarted, hmin, hmax⟩

/-- **Expiry**: at or after its deadline, a reachable run is failed properly if
    and only if it was started and is not already completed or cancelled. -/
theorem expired_run_fails_iff (h : (workers cfg worker Clock).Reachable s) (call : ClaimCall)
    {run : Run} (hrun : s.db.runs.get? call.runID = some run)
    (hdeadline : run.deadlineAt ≤ call.goNow) :
    ExpiresProperly cfg call s.db ↔
      run.startedAt ≠ none ∧ run.status ≠ .completed ∧ run.status ≠ .cancelled := by
  have hwf := runs_wellFormed h hrun
  have hchecks := expire_checks_iff hwf.checks call.now
  have hclaim := claimExecution_expired cfg call hrun hwf.domain hdeadline
  have hsettled : run.isSettled = false ↔ run.status ≠ .completed ∧ run.status ≠ .cancelled := by
    simp [Run.isSettled]
  rw [← hsettled, ← hchecks]
  constructor
  · rintro ⟨db', e, run', heq, rfl, -⟩
    rw [hclaim] at heq
    -- The other two outcomes return different errors.
    by_cases hs : run.isSettled = true
    · rw [if_pos hs] at heq
      cases heq
    · rw [if_neg hs] at heq
      by_cases hc : (run.expire call.now).Checks
      · exact ⟨hc, by simpa using hs⟩
      · rw [if_neg hc] at heq
        cases heq
  · rintro ⟨hc, hs⟩
    rw [if_neg (by simp [hs]), if_pos hc] at hclaim
    exact ⟨_, _, run.expire call.now, hclaim, rfl, rfl, DB.setRun_get? hrun _ _, rfl, rfl, hc⟩

/-- The claim of run `7` one minute after it was queued, at its deadline. -/
def sampleLateClaim : ClaimCall where
  runID := 7
  workerID := 1
  startedAt := 60 * second
  goNow := 60 * second
  domainClaimed := true

/-- A run whose worker stopped expires at its deadline. -/
theorem expired_run_fails_abandoned :
    ∃ s run, (workers defaultConfig id AnyClock).Reachable s ∧ s.db.runs.get? 7 = some run ∧
      run.status = .running ∧ run.deadlineAt ≤ sampleLateClaim.goNow ∧
      ExpiresProperly defaultConfig sampleLateClaim s.db := by
  obtain ⟨s, hreach, hs⟩ := sampleCluster_reaches defaultConfig id sampleClaim
    (fun s => s.db.runs.get? 7 |>.any (fun run => run.status = .running ∧
      run.deadlineAt ≤ sampleLateClaim.goNow ∧ run.startedAt ≠ none)) (by decide)
  obtain ⟨run, hrun, hs⟩ := (Option.any_eq_true _ _).mp hs
  obtain ⟨hrunning, hdeadline, hstarted⟩ := of_decide_eq_true hs
  have hexpires := (expired_run_fails_iff hreach sampleLateClaim hrun hdeadline).mpr
    ⟨hstarted, by rw [hrunning]; decide, by rw [hrunning]; decide⟩
  exact ⟨s, run, hreach, hrun, hrunning, hdeadline, hexpires⟩

/-- A run that is still queued at its deadline: the table refuses the expiry,
    nothing changes, and the message is not acknowledged. -/
theorem queued_run_never_expires :
    ∃ s run, (workers defaultConfig id AnyClock).Reachable s ∧ s.db.runs.get? 7 = some run ∧
      run.status = .queued ∧ run.deadlineAt ≤ sampleLateClaim.goNow ∧
      ¬ ExpiresProperly defaultConfig sampleLateClaim s.db ∧
      claimExecution defaultConfig sampleLateClaim s.db = (s.db, .error .expireRun) ∧
      acknowledgesClaimError .expireRun = false := by
  obtain ⟨s, hreach, hs⟩ := sampleCluster_reaches defaultConfig id (sampleClaim.take 1)
    (fun s => s.db.runs.get? 7 |>.any (fun run => run.status = .queued ∧
      run.deadlineAt ≤ sampleLateClaim.goNow ∧ run.startedAt = none)) (by decide)
  obtain ⟨run, hrun, hs⟩ := (Option.any_eq_true _ _).mp hs
  obtain ⟨hqueued, hdeadline, hstarted⟩ := of_decide_eq_true hs
  have hwf := runs_wellFormed hreach hrun
  have hclaim := claimExecution_expired defaultConfig sampleLateClaim hrun hwf.domain hdeadline
  rw [if_neg (by simp [Run.isSettled, hqueued]), if_neg
    (fun hc => (expire_checks_iff hwf.checks _).mp hc hstarted)] at hclaim
  refine ⟨s, run, hreach, hrun, hqueued, hdeadline, ?_, hclaim, rfl⟩
  rintro ⟨db', e, run', heq, rfl, -⟩
  rw [hclaim] at heq
  cases heq

/-! ### Absorbing states -/

/-- Whatever the workers do next, status, completion time and error code of the
    run stay as they are, and nobody claims it again. -/
def Absorbing (cfg : Config) (worker : Nat → WorkerID) (s : Cluster) (id : UUID) (run : Run) :
    Prop :=
  ∀ ls s', (workers cfg worker AnyClock).Steps s ls s' →
    (∃ run', s'.db.runs.get? id = some run' ∧ run'.status = run.status ∧
      run'.completedAt = run.completedAt ∧ run'.lastErrorCode = run.lastErrorCode) ∧
    s'.claims.filter (fun c => c.1 = id) = s.claims.filter (fun c => c.1 = id)

variable {run : Run} {id : UUID}

/-- A run that is claimed was not settled. -/
theorem isSettled_of_claimed {call : ClaimCall} {db db' : DB} {execution : Execution}
    (hrun : db.runs.get? call.runID = some run)
    (h : claimExecution cfg call db = (db', .ok execution)) : run.isSettled = false := by
  cases ClaimStep.of_eq h with
  | claimed row domain hrow hdomain hsettled =>
    obtain rfl : run = row := Option.some.inj (hrun.symm.trans hrow)
    exact hsettled

/-- One step keeps the row of a settled run and the record of its claims. -/
theorem settled_step {a : Action} {claims : List (UUID × Nat)} (hsettled : run.isSettled = true)
    (h : Cluster.Step cfg worker Clock s a s')
    (hs : s.db.runs.get? id = some run ∧ s.claims.filter (fun c => c.1 = id) = claims) :
    s'.db.runs.get? id = some run ∧ s'.claims.filter (fun c => c.1 = id) = claims := by
  obtain ⟨hrun, hclaims⟩ := hs
  have hchange := h.runChange id
  rw [hrun] at hchange
  refine ⟨hchange.of_settled hsettled, ?_⟩
  cases h with
  | tick | other | scheduleDue | createManualRun | deliver | notClaimed | completed | crash =>
    exact hclaims
  | claimed hslot hsince hstart hclock hclaim =>
    rename_i slot claimed _ _ _ _ _ _
    have hne : claimed ≠ id := by
      rintro rfl
      rw [isSettled_of_claimed hrun hclaim] at hsettled
      cases hsettled
    show ((claimed, slot) :: s.claims).filter _ = claims
    rw [List.filter_cons_of_neg (by simpa using hne)]
    exact hclaims

theorem absorbing_of_settled (hrun : s.db.runs.get? id = some run) (hsettled : run.isSettled = true) :
    Absorbing cfg worker s id run := by
  intro ls s' hsteps
  obtain ⟨hrun', hclaims'⟩ := hsteps.preserves
    (P := fun t => t.db.runs.get? id = some run ∧
      t.claims.filter (fun c => c.1 = id) = s.claims.filter (fun c => c.1 = id))
    (fun _ _ _ ht hstep => settled_step hsettled hstep ht) ⟨hrun, rfl⟩
  exact ⟨⟨run, hrun', rfl, rfl, rfl⟩, hclaims'⟩

/-- A failed run is redelivered, and the claim fails it again at a later time. -/
theorem not_absorbing_of_failed (h : (workers cfg worker AnyClock).Reachable s)
    (hrun : s.db.runs.get? id = some run) (hfailed : run.status = .failed) :
    ¬ Absorbing cfg worker s id run := by
  intro habsorbing
  have hwf := runs_wellFormed h hrun
  -- A time at which `now()` differs from the recorded completion.
  obtain ⟨t, ht, hlater⟩ : ∃ t, s.clock ≤ t ∧ some (timestamptz t) ≠ run.completedAt := by
    cases hc : run.completedAt with
    | none => exact ⟨s.clock, by omega, by simp⟩
    | some c =>
      refine ⟨max s.clock (c + 1000), by omega, ?_⟩
      intro heq
      have : timestamptz (max s.clock (c + 1000)) = c := Option.some.inj heq
      unfold timestamptz microsecond at this
      omega
  have hsettled : run.isSettled = false := by simp [Run.isSettled, hfailed]
  have hclaim := claimExecution_expired cfg ⟨id, worker 0, t, max t run.deadlineAt, true⟩ hrun
    hwf.domain (by simp)
  rw [if_neg (by simp [hsettled]),
    if_pos ((expire_checks_iff hwf.checks _).mpr (hwf.started (.inl hfailed)))] at hclaim
  -- Whatever worker `0` was doing, it crashes and takes the message again.
  let idle : Cluster := ({ s with clock := t } : Cluster).setSlot 0 .idle
  have htick : Cluster.Step cfg worker AnyClock s (.tick t) { s with clock := t } := .tick ht
  have hcrash : Cluster.Step cfg worker AnyClock { s with clock := t } (.crash 0) idle := .crash
  have hdeliver : Cluster.Step cfg worker AnyClock idle (.deliver 0 id)
      (idle.setSlot 0 (.received id t)) :=
    .deliver (Cluster.setSlot_self _ _ _) (Option.isSome_iff_exists.mpr ⟨run, hrun⟩)
  have hexpire : Cluster.Step cfg worker AnyClock (idle.setSlot 0 (.received id t))
      (.claim 0 t (max t run.deadlineAt) true) _ :=
    .notClaimed (Cluster.setSlot_self _ _ _) (Int.le_refl t) (Int.le_refl t) trivial hclaim
  obtain ⟨⟨run', hrun', -, hcompleted, -⟩, -⟩ := habsorbing _ _
    (.cons _ _ htick (.cons _ _ hcrash (.cons _ _ hdeliver (.cons _ _ hexpire (.nil _)))))
  change (s.db.setRun id _ _).runs.get? id = some run' at hrun'
  rw [DB.setRun_get? hrun] at hrun'
  obtain rfl := Option.some.inj hrun'
  exact hlater hcompleted

/-- **Absorbing states**: of the three terminal states exactly `completed` and
    `cancelled` are final. -/
theorem terminal_absorbing_iff (h : (workers cfg worker AnyClock).Reachable s) {id : UUID}
    {run : Run} (hrun : s.db.runs.get? id = some run)
    (hterminal : run.status = .completed ∨ run.status = .cancelled ∨ run.status = .failed) :
    Absorbing cfg worker s id run ↔ run.status ≠ .failed := by
  constructor
  · intro habsorbing hfailed
    exact not_absorbing_of_failed h hrun hfailed habsorbing
  · intro hne
    apply absorbing_of_settled hrun
    rcases hterminal with hstatus | hstatus | hstatus
    · simp [Run.isSettled, hstatus]
    · simp [Run.isSettled, hstatus]
    · exact absurd hstatus hne

end

/-- The worker stops; another one finds the run past its deadline and fails it. -/
def sampleFailure : List Action :=
  sampleClaim ++ [.tick (60 * second), .deliver 1 7, .claim 1 (60 * second) (60 * second) true]

/-- Completed while it was claimed, a run stays completed. -/
theorem terminal_absorbing_completed :
    ∃ s run, (workers defaultConfig id AnyClock).Reachable s ∧ s.db.runs.get? 7 = some run ∧
      run.status = .completed ∧ Absorbing defaultConfig id s 7 run := by
  obtain ⟨s, hreach, hs⟩ := sampleCluster_reaches defaultConfig id
    (sampleClaim ++ [.complete 0 ⟨0, 0, 1, 1⟩ (inconclusiveEvidence 0)])
    (fun s => s.db.runs.get? 7 |>.any (fun run => run.status = .completed)) (by decide)
  obtain ⟨run, hrun, hs⟩ := (Option.any_eq_true _ _).mp hs
  have hcompleted := of_decide_eq_true hs
  exact ⟨s, run, hreach, hrun, hcompleted,
    (terminal_absorbing_iff hreach hrun (.inl hcompleted)).mpr (by rw [hcompleted]; decide)⟩

/-- The failed run is delivered to a worker whose clock is fifty seconds behind. -/
def sampleSlowClock : List Action :=
  [.deliver 2 7, .claim 2 (60 * second) (10 * second) true]

/-- A run that was failed at its deadline is claimed and executed again. -/
theorem failed_run_is_claimed_again :
    ∃ s run ls s' run', (workers defaultConfig id AnyClock).Reachable s ∧
      s.db.runs.get? 7 = some run ∧ run.status = .failed ∧
      run.lastErrorCode = some "RUN_DEADLINE_EXCEEDED" ∧
      (workers defaultConfig id AnyClock).Steps s ls s' ∧ s'.db.runs.get? 7 = some run' ∧
      run'.status = .running ∧ run'.lastErrorCode = none ∧ s'.claims = (7, 2) :: s.claims := by
  obtain ⟨s, hreach, hs⟩ := sampleCluster_reaches defaultConfig id sampleFailure
    (fun s => (s.db.runs.get? 7).any (fun run : Run =>
        run.status = .failed ∧ run.lastErrorCode = some "RUN_DEADLINE_EXCEEDED") &&
      (s.execAll? defaultConfig id sampleSlowClock).any (fun s' : Cluster =>
        (s'.db.runs.get? 7).any (fun run' : Run =>
          run'.status = .running ∧ run'.lastErrorCode = none) &&
        decide (s'.claims = (7, 2) :: s.claims))) (by decide)
  rw [Bool.and_eq_true, Option.any_eq_true, Option.any_eq_true] at hs
  obtain ⟨⟨run, hrun, hfailed⟩, s', hexec, hs'⟩ := hs
  rw [Bool.and_eq_true, Option.any_eq_true] at hs'
  obtain ⟨⟨run', hrun', hrunning⟩, hclaims⟩ := hs'
  obtain ⟨hfailed, hcode⟩ := of_decide_eq_true hfailed
  obtain ⟨hrunning, hcleared⟩ := of_decide_eq_true hrunning
  exact ⟨s, run, sampleSlowClock, s', run', hreach, hrun, hfailed, hcode, execAll?_steps hexec, hrun',
    hrunning, hcleared, of_decide_eq_true hclaims⟩

end DomainMonitor.Monitor
