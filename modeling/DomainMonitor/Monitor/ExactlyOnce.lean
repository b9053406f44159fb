import DomainMonitor.Monitor.Workers

/-! # Every run takes effect at most once

    For any interleaving of deliveries, redeliveries, claims, crashes and
    completions by any number of workers, a run contributes one local result row
    and one `Advance` step if it is completed, and none otherwise. The argument
    is one equation, kept by every step: the number of local result rows of a
    run, and the number of its committed `CompleteRun` transactions, are both
    equal to the number of its completions, which is `0` or `1`.
-/

namespace DomainMonitor.Monitor

/-- The local rows of `monitoring_results` for a run. -/
def DB.localResults (db : DB) (id : UUID) : Nat :=
  (db.results.filter ResultRow.isLocal).countP (fun r => r.row.columns.runId = id)

/-- The `Advance` steps a run has contributed: one for each commit of `CompleteRun`. -/
def Cluster.advanceSteps (s : Cluster) (id : UUID) : Nat :=
  s.commits.countP (fun c => c.1 = id)

/-- `1` for a completed run, `0` for any other. -/
def completions (run : Option Run) : Nat :=
  (run.any (fun r => r.status = .completed)).toNat

section

variable {cfg : Config} {worker : Nat → WorkerID} {Clock : Int → Int → Prop} {s s' : Cluster}
  {a : Action}

/-- Only `CompleteRun` completes a run. -/
theorem RunChange.completions_eq {id : UUID} {o o' : Option Run}
    (hact : a.isComplete = false) (h : RunChange cfg Clock s a id o o') :
    completions o' = completions o := by
  have notCompleted : ∀ run : Run, run.isSettled = false → completions (some run) = 0 := by
    intro run hsettled
    have hstatus : run.status ≠ .completed := by
      intro hcompleted
      rw [Run.isSettled, hcompleted] at hsettled
      cases hsettled
    simp [completions, hstatus]
  cases h with
  | same => rfl
  | created run goNow hclock hfresh => simp [completions, hfresh.status]
  | expired run _ _ _ _ hsettled => rw [notCompleted run hsettled]; rfl
  | exhausted run _ _ hsettled => rw [notCompleted run hsettled]; rfl
  | claimed run _ _ _ _ _ _ _ _ _ hsettled => rw [notCompleted run hsettled]; rfl
  | completed run now hcomplete =>
    rw [hact] at hcomplete
    cases hcomplete

/-- The two counters agree with the completions of every run. -/
def Cluster.EffectsMatch (s : Cluster) : Prop :=
  ∀ id, s.db.localResults id = completions (s.db.runs.get? id) ∧
    s.advanceSteps id = completions (s.db.runs.get? id)

/-- A step that neither completes a run nor touches local results. -/
theorem effectsMatch_of_same (hs : s.EffectsMatch) (h : Cluster.Step cfg worker Clock s a s')
    (hact : a.isComplete = false)
    (hresults : s'.db.results.filter ResultRow.isLocal = s.db.results.filter ResultRow.isLocal)
    (hcommits : s'.commits = s.commits) : s'.EffectsMatch := by
  intro id
  have hsame := (Cluster.Step.runChange h id).completions_eq hact
  obtain ⟨hlocal, hadvance⟩ := hs id
  rw [hsame]
  constructor
  · rw [DB.localResults, hresults]
    exact hlocal
  · rw [Cluster.advanceSteps, hcommits]
    exact hadvance

/-- The step that counts: the run was running, and afterwards it is completed,
    with one more row and one more commit. -/
theorem effectsMatch_completeRun {slot : Nat} {call : CompleteCall} {execution : Execution}
    {evidence : Evidence} {db' : DB} (hs : s.EffectsMatch)
    (h : completeRun cfg call execution evidence s.db = .ok db') :
    Cluster.EffectsMatch { (s.setSlot slot .idle) with
      db := db', commits := (execution.run.id, slot) :: s.commits } := by
  intro id
  obtain ⟨p, hp, rfl⟩ := completeRun_ok_iff.mp h
  obtain ⟨run, hrun, hrunning, -, hruns⟩ := finishRun_ok hp.runs
  have hcolumns := insertResult_ok hp.row
  obtain ⟨hlocal, hadvance⟩ := hs id
  -- Both counters grow by one for this run and stay for the others.
  have hlocal' : (p.commit evidence s.db).localResults id =
      s.db.localResults id + (decide (execution.run.id = id)).toNat := by
    show ((s.db.results ++ [_]).filter ResultRow.isLocal).countP _ = _
    have hislocal : ResultRow.isLocal ⟨p.row, p.dnsChecks, p.httpChecks,
        evidence.decision.reasons⟩ = true := by
      rw [ResultRow.isLocal, hcolumns]
      rfl
    rw [List.filter_append, List.countP_append, List.filter_cons_of_pos hislocal, List.filter_nil,
      List.countP_singleton, hcolumns]
    show _ + (if decide (execution.run.id = id) = true then 1 else 0) = _
    by_cases hid : execution.run.id = id <;> simp [DB.localResults, hid]
  have hadvance' : ((execution.run.id, slot) :: s.commits).countP (fun c => c.1 = id) =
      s.advanceSteps id + (decide (execution.run.id = id)).toNat := by
    rw [List.countP_cons]
    by_cases hid : execution.run.id = id <;> simp [Cluster.advanceSteps, hid]
  have hcompletions : completions (p.runs.get? id) =
      completions (s.db.runs.get? id) + (decide (execution.run.id = id)).toNat := by
    rw [hruns, KeyedTable.get?_modify]
    by_cases hid : id = execution.run.id
    · rw [if_pos hid, hid, hrun]
      simp [completions, Run.complete, hrunning]
    · rw [if_neg hid]
      simp [Ne.symm hid]
  constructor
  · show (p.commit evidence s.db).localResults id = completions (p.runs.get? id)
    rw [hlocal', hcompletions, hlocal]
  · show ((execution.run.id, slot) :: s.commits).countP (fun c => c.1 = id) =
      completions (p.runs.get? id)
    rw [hadvance', hcompletions, hadvance]

theorem effectsMatch_step (hs : s.EffectsMatch) (h : Cluster.Step cfg worker Clock s a s') :
    s'.EffectsMatch := by
  have same := effectsMatch_of_same hs h
  cases h with
  | completed hslot hstart hcommit => exact effectsMatch_completeRun hs hcommit
  | tick | deliver | crash => exact hs
  | other hother => exact same rfl hother.results rfl
  | scheduleDue hclock hcall =>
    exact same rfl (congrArg _ (scheduleDue_extended hcall).results) rfl
  | createManualRun hclock hcall =>
    exact same rfl (congrArg _ (createManualRun_extended hcall).results) rfl
  | claimed _ _ _ _ hclaim | notClaimed _ _ _ _ hclaim =>
    exact same rfl (congrArg _ (claimExecution_tables hclaim).2) rfl

theorem effectsMatch_init (hs : s.IsInitial) : s.EffectsMatch := by
  obtain ⟨hruns, hresults, -, -, hcommits⟩ := hs
  intro id
  rw [hruns, KeyedTable.get?_empty, DB.localResults, hresults, Cluster.advanceSteps, hcommits]
  exact ⟨rfl, rfl⟩

/-- **Exactly-once effect**: in every reachable state a run has at most one
    local result and at most one `Advance` step; a completed run has exactly one
    of each and stays completed whatever happens next; any other run has none. -/
theorem run_effect_exactly_once (h : (workers cfg worker Clock).Reachable s) (id : UUID) :
    s.db.localResults id ≤ 1 ∧ s.advanceSteps id ≤ 1 ∧
    (∀ run, s.db.runs.get? id = some run → run.status = .completed →
      s.db.localResults id = 1 ∧ s.advanceSteps id = 1 ∧
      ∀ ls s', (workers cfg worker Clock).Steps s ls s' →
        ∃ run', s'.db.runs.get? id = some run' ∧ run'.status = .completed) ∧
    ((∀ run, s.db.runs.get? id = some run → run.status ≠ .completed) →
      s.db.localResults id = 0 ∧ s.advanceSteps id = 0) := by
  have hmatch : s.EffectsMatch := LTS.System.invariant (P := Cluster.EffectsMatch)
    (fun _ => effectsMatch_init) (fun _ _ _ hs hstep => effectsMatch_step hs hstep) h
  obtain ⟨hlocal, hadvance⟩ := hmatch id
  rw [hlocal, hadvance]
  have hle : completions (s.db.runs.get? id) ≤ 1 := Bool.toNat_le _
  refine ⟨hle, hle, ?_, ?_⟩
  · intro run hrun hcompleted
    have hone : completions (s.db.runs.get? id) = 1 := by
      simp [completions, hrun, hcompleted]
    refine ⟨hone, hone, ?_⟩
    intro ls s' hsteps
    have hsettled : run.isSettled = true := by simp [Run.isSettled, hcompleted]
    exact ⟨run, settled_steps hsteps hrun hsettled, hcompleted⟩
  · intro hnot
    have hzero : completions (s.db.runs.get? id) = 0 := by
      cases hrun : s.db.runs.get? id with
      | none => rfl
      | some run => simp [completions, hnot run hrun]
    exact ⟨hzero, hzero⟩

end

/-- The run is claimed, delivered again while it is busy, completed, and
    delivered once more. -/
def sampleRedelivery : List Action :=
  sampleClaim ++
    [.deliver 1 7, .claim 1 0 0 true,
      .complete 0 { startedAt := 0, goNow := 0, resultID := 1, incidentID := 1 }
        (inconclusiveEvidence 0),
      .deliver 1 7, .claim 1 0 0 true]

theorem run_effect_exactly_once_redelivered :
    ∃ s run, (workers defaultConfig id AnyClock).Reachable s ∧
      s.db.runs.get? 7 = some run ∧ run.status = .completed ∧
      s.db.localResults 7 = 1 ∧ s.advanceSteps 7 = 1 := by
  obtain ⟨s, hreach, hs⟩ := sampleCluster_reaches defaultConfig id sampleRedelivery
    (fun s => s.db.runs.get? 7 |>.any (fun run => run.status = .completed))
    (by decide)
  obtain ⟨run, hrun, hcompleted⟩ := (Option.any_eq_true _ _).mp hs
  have hcompleted := of_decide_eq_true hcompleted
  obtain ⟨-, -, honce, -⟩ := run_effect_exactly_once hreach 7
  obtain ⟨hlocal, hadvance, -⟩ := honce run hrun hcompleted
  exact ⟨s, run, hreach, hrun, hcompleted, hlocal, hadvance⟩

end DomainMonitor.Monitor
