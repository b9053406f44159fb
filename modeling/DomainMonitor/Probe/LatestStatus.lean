import Mathlib
import DomainMonitor.Probe.BlockEvidence
import DomainMonitor.Probe.StatusHistory

/-! # The last result wins

    Every accepted result writes the ISP status of its domain, whichever run it
    belongs to. The jobs of different runs are independent: both may be leased,
    and a lease that ran out is queued again, so the results of two runs arrive in
    any order.

    The system of `StatusHistory` is extended by a log of what was accepted. The
    status of a domain is the classification of the last entry, and that of the
    newest run when the entries come in the order of the local observations.
-/

namespace DomainMonitor.Probe

open Monitor RowLock

/-! ### The log -/

/-- A committed result: the run it is about, when this run was observed locally,
    and how it was classified. -/
structure Acceptance where
  domainID : UUID
  runID : UUID
  observedAt : WithBot Int
  status : ISPStatus
  deriving DecidableEq

def Observation.acceptance (o : Observation) (results : List ResultRow) : Acceptance where
  domainID := o.job.domainId
  runID := o.job.runId
  observedAt := (localObservation results o.job.runId).map (fun r => r.row.columns.checkedAt)
  status := o.isp.status

/-- What a statement accepts. -/
def acceptance (s : Sessions DB Txn) : Statement → Option Acceptance
  | .commit i =>
    match s.txns i with
    | some (.domainLocked _ o _) => some (o.acceptance s.db.monitor.results)
    | _ => none
  | _ => none

structure Tracked where
  sessions : Sessions DB Txn
  accepted : List Acceptance

/-- The system with the log. -/
def trackedSystem (lib : Library) (cfg : Config) (settings : Settings) :
    LTS.System Tracked Statement where
  init := fun s => IsInitial s.sessions ∧ s.accepted = []
  step := fun s l s' => Step lib cfg settings s.sessions l s'.sessions ∧
    s'.accepted = s.accepted ++ (acceptance s.sessions l).toList

/-- The entries of one domain. -/
def Tracked.of (s : Tracked) (d : UUID) : List Acceptance :=
  s.accepted.filter (fun a => a.domainID = d)

/-- No run of the domain with an accepted result was observed later. -/
def Newest (s : Tracked) (d : UUID) (a : Acceptance) : Prop :=
  a ∈ s.of d ∧ ∀ b ∈ s.of d, b.observedAt ≤ a.observedAt

/-- The status of every domain is the classification made for its newest run. -/
def ReflectsNewest (s : Tracked) : Prop :=
  ∀ d row, s.sessions.db.monitor.domains.get? d = some row → s.of d ≠ [] →
    ∃ a, Newest s d a ∧ row.current.isp = a.status

/-- A result is only accepted for a run that was not observed before one whose
    result is already accepted. -/
def InOrder (s : Tracked) (l : Statement) : Prop :=
  ∀ a ∈ acceptance s.sessions l, ∀ b ∈ s.of a.domainID, b.observedAt ≤ a.observedAt

section

variable {lib : Library} {cfg : Config} {settings : Settings} {s s' : Tracked}

/-! ### What a statement does to the ISP statuses -/

/-- What becomes of the ISP status of a domain: it is that of the result accepted
    for the domain, it stays, or the domain is new. -/
inductive ISPEffect (sessions : Sessions DB Txn) (l : Statement) (d : UUID) (status : ISPStatus) :
    Prop where
  | accepted {a : Acceptance} (ha : acceptance sessions l = some a) (hd : a.domainID = d)
      (hstatus : status = a.status)
  | kept {row : Domain} (hnot : ∀ a, acceptance sessions l = some a → a.domainID ≠ d)
      (hrow : sessions.db.monitor.domains.get? d = some row) (hstatus : status = row.current.isp)
  | created (hnot : acceptance sessions l = none)
      (hrow : sessions.db.monitor.domains.get? d = none) (hstatus : status = .unknown)

variable {t t' : Sessions DB Txn}

theorem acceptance_commit {i : Nat} {call : SubmitCall} {o : Observation} {domain : Domain}
    (ht : t.txns i = some (.domainLocked call o domain)) :
    acceptance t (.commit i) = some (o.acceptance t.db.monitor.results) := by
  simp only [acceptance, ht]

variable {d : UUID} {l : Statement} {a : Acceptance}

/-- The rows a completion leaves have the ISP statuses they had. -/
theorem commitRun_isp {i : Nat} {call : CompleteCall} {execution : Execution} {evidence : Evidence}
    {domain : Domain} (hs : domainLocks.Consistent t)
    (ht : t.txns i = some (.completing call execution evidence domain))
    (h : Step lib cfg settings t (.commit i) t') {row' : Domain}
    (hrow' : t'.db.monitor.domains.get? d = some row') :
    ∃ row, t.db.monitor.domains.get? d = some row ∧ row'.current.isp = row.current.isp := by
  cases hrow : t.db.monitor.domains.get? d with
  | some row =>
    obtain ⟨row'', hrow'', hisp⟩ := commitRun_keeps_isp hs ht h hrow
    rw [hrow'] at hrow''
    cases hrow''
    exact ⟨row, rfl, hisp⟩
  | none =>
    -- A completion creates no domain.
    cases h with
    | commitRun ht' hclassified h =>
      rw [ht] at ht'
      cases ht'
      have hread := hs.read (held_completing ht)
      obtain ⟨-, -, -, hothers, -⟩ := completeRun_writes (completeRun_of_locked hread h)
      by_cases hd : d = execution.run.domainId
      · rw [hd, show t.db.monitor.domains.get? execution.run.domainId = some domain from hread] at hrow
        cases hrow
      · cases hrow'.symm.trans ((hothers d hd).trans hrow)
    | commitResult ht' h =>
      rw [ht] at ht'
      cases ht'

theorem isp_step (hs : domainLocks.Consistent t) (h : Step lib cfg settings t l t') {row' : Domain}
    (hrow' : t'.db.monitor.domains.get? d = some row') : ISPEffect t l d row'.current.isp := by
  have hstep := h
  cases h with
  | lockForRun => exact .kept nofun hrow' rfl
  | commitRun ht hclassified h =>
    obtain ⟨row, hrow, hisp⟩ := commitRun_isp hs ht hstep hrow'
    exact .kept (by simp [acceptance, ht]) hrow hisp
  | lockJob => exact .kept nofun hrow' rfl
  | observe => exact .kept nofun hrow' rfl
  | lockForResult => exact .kept nofun hrow' rfl
  | @commitResult i call o domain db' ht h =>
    have hread := hs.read (held_domainLocked ht)
    obtain ⟨hself, hothers, -⟩ := commitResult_writes hread h
    by_cases hd : d = o.job.domainId
    · subst hd
      refine .accepted (acceptance_commit ht) rfl ?_
      rw [show db'.monitor.domains.get? o.job.domainId = some row' from hrow',
        Option.map_some, Option.some.injEq] at hself
      exact congrArg Classification.Statuses.isp hself
    · refine .kept ?_ ((hothers d hd).symm.trans hrow') rfl
      intro a ha
      rw [acceptance_commit ht, Option.some.injEq] at ha
      rw [← ha]
      exact Ne.symm hd
  | rollback => exact .kept nofun hrow' rfl
  | elsewhere h =>
    cases hrow : t.db.monitor.domains.get? d with
    | none =>
      refine .created rfl hrow ?_
      rw [h.created hrow' hrow]
      rfl
    | some row =>
      obtain ⟨row'', hrow'', hcurrent⟩ := h.kept hrow
      rw [show _ = some row' from hrow'] at hrow''
      cases hrow''
      exact .kept nofun hrow (by rw [hcurrent])

/-- Domains are not deleted. -/
theorem domain_kept (hs : domainLocks.Consistent t) (h : Step lib cfg settings t l t')
    (hd : (t.db.monitor.domains.get? d).isSome) : (t'.db.monitor.domains.get? d).isSome := by
  have hstep := h
  cases h with
  | lockForRun | lockJob | observe | lockForResult | rollback => exact hd
  | commitRun ht hclassified h =>
    obtain ⟨row, hrow⟩ := Option.isSome_iff_exists.mp hd
    obtain ⟨row', hrow', -⟩ := commitRun_keeps_isp hs ht hstep hrow
    rw [hrow']
    rfl
  | @commitResult i call o domain db' ht h =>
    obtain ⟨hself, hothers, -⟩ := commitResult_writes (hs.read (held_domainLocked ht)) h
    by_cases hd' : d = o.job.domainId
    · obtain ⟨row', hrow', -⟩ := Option.map_eq_some_iff.mp hself
      rw [hd']
      exact Option.isSome_iff_exists.mpr ⟨row', hrow'⟩
    · show (db'.monitor.domains.get? d).isSome
      rw [hothers d hd']
      exact hd
  | elsewhere h =>
    obtain ⟨row, hrow⟩ := Option.isSome_iff_exists.mp hd
    obtain ⟨row', hrow', -⟩ := h.kept hrow
    exact Option.isSome_iff_exists.mpr ⟨row', hrow'⟩

/-- A result is accepted for a domain that exists. -/
theorem acceptance_domain (hs : domainLocks.Consistent t) (ha : acceptance t l = some a) :
    (t.db.monitor.domains.get? a.domainID).isSome := by
  unfold acceptance at ha
  split at ha
  · split at ha
    · rename_i ht
      cases ha
      exact Option.isSome_iff_exists.mpr ⟨_, hs.read (held_domainLocked ht)⟩
    · cases ha
  · cases ha

/-! ### The last entry -/

/-- The status the log gives a domain. -/
def Tracked.status (s : Tracked) (d : UUID) : ISPStatus :=
  ((s.of d).getLast?.map Acceptance.status).getD .unknown

structure LastWins (s : Tracked) : Prop where
  status : ∀ d row, s.sessions.db.monitor.domains.get? d = some row →
    row.current.isp = s.status d
  reference : ∀ a ∈ s.accepted, (s.sessions.db.monitor.domains.get? a.domainID).isSome

theorem tracked_sessions (h : (trackedSystem lib cfg settings).Reachable s) :
    (system lib cfg settings).Reachable s.sessions := by
  induction h with
  | init hs => exact .init hs.1
  | step l _ hl ih => exact .step l ih hl.1

theorem of_append {a? : Option Acceptance} (h : s'.accepted = s.accepted ++ a?.toList) :
    s'.of d = s.of d ++ (a?.filter (fun a => a.domainID = d)).toList := by
  unfold Tracked.of
  rw [h, List.filter_append]
  cases a? with
  | none => rfl
  | some a => by_cases hd : a.domainID = d <;> simp [Option.filter, hd]

/-- Nothing was accepted for the domain. -/
theorem of_kept {a? : Option Acceptance} (h : s'.accepted = s.accepted ++ a?.toList)
    (hnot : ∀ a, a? = some a → a.domainID ≠ d) : s'.of d = s.of d := by
  rw [of_append h]
  cases a? with
  | none => simp
  | some a => simp [Option.filter, hnot a rfl]

theorem of_accepted (h : s'.accepted = s.accepted ++ (some a).toList) :
    s'.of a.domainID = s.of a.domainID ++ [a] := by
  rw [of_append h]
  simp [Option.filter]

/-- **Step lemma**. -/
theorem LastWins.step (hs : domainLocks.Consistent s.sessions) (h : LastWins s)
    (hstep : (trackedSystem lib cfg settings).step s l s') : LastWins s' := by
  obtain ⟨hstep, hlog⟩ := hstep
  constructor
  · intro d row' hrow'
    unfold Tracked.status
    cases isp_step hs hstep hrow' with
    | accepted ha hd hstatus =>
      subst hd
      rw [ha] at hlog
      rw [of_accepted hlog, List.getLast?_concat]
      exact hstatus
    | kept hnot hrow hstatus =>
      rw [of_kept hlog hnot]
      exact hstatus.trans (h.status d _ hrow)
    | created hnot hrow hstatus =>
      rw [of_kept hlog (fun a ha => by rw [hnot] at ha; cases ha)]
      -- There is no entry about a domain that did not exist.
      have hempty : s.of d = [] := by
        refine List.filter_eq_nil_iff.mpr ?_
        intro a ha hd
        have hsome := h.reference a ha
        rw [of_decide_eq_true hd, hrow] at hsome
        cases hsome
      rw [hempty]
      exact hstatus
  · intro a ha
    rw [hlog] at ha
    obtain ha | ha := List.mem_append.mp ha
    · exact domain_kept hs hstep (h.reference a ha)
    · exact domain_kept hs hstep (acceptance_domain hs (Option.mem_toList.mp ha))

/-- **Run lemma**. -/
theorem lastWins_reachable (h : (trackedSystem lib cfg settings).Reachable s) : LastWins s := by
  refine LTS.System.invariant_under (Q := fun s => domainLocks.Consistent s.sessions) (P := LastWins)
    (fun _ hr => consistent_reachable (tracked_sessions hr)) ?_
    (fun _ _ _ hs hp hl => hp.step hs hl) h
  intro s ⟨⟨_, _, hunknown⟩, hempty⟩
  constructor
  · intro d row hrow
    rw [hunknown d row hrow]
    simp [Tracked.status, Tracked.of, hempty, Statuses.unknown]
  · intro a ha
    rw [hempty] at ha
    cases ha

/-! ### Entries in order -/

/-- The entries of a domain come in the order of the local observations. -/
def Ordered (s : Tracked) : Prop :=
  ∀ d, (s.of d).Pairwise (fun a b => a.observedAt ≤ b.observedAt)

theorem Ordered.step (h : Ordered s) (hl : InOrder s l)
    (hstep : (trackedSystem lib cfg settings).step s l s') : Ordered s' := by
  intro d
  have hlog := hstep.2
  cases ha : acceptance s.sessions l with
  | none =>
    rw [ha] at hlog
    rw [of_kept hlog nofun]
    exact h d
  | some a =>
    rw [ha] at hlog
    by_cases hd : a.domainID = d
    · subst hd
      rw [of_accepted hlog, List.pairwise_append]
      refine ⟨h a.domainID, List.pairwise_singleton .., ?_⟩
      intro b hb c hc
      rw [List.mem_singleton.mp hc]
      exact hl a ha b hb
    · rw [of_kept hlog (fun b hb => by cases hb; exact hd)]
      exact h d

theorem ordered_reachable (h : ((trackedSystem lib cfg settings).restrict InOrder).Reachable s) :
    Ordered s := by
  refine LTS.System.invariant (P := Ordered) ?_ ?_ h
  · intro s ⟨_, hempty⟩ d
    simp [Tracked.of, hempty]
  · intro s l s' hs hstep
    exact hs.step hstep.1 hstep.2

/-- The last of ordered entries is a newest one. -/
theorem Ordered.newest_getLast (h : Ordered s) (ha : (s.of d).getLast? = some a) :
    Newest s d a := by
  obtain ⟨front, hfront⟩ := List.getLast?_eq_some_iff.mp ha
  have hd := h d
  unfold Newest
  rw [hfront] at hd ⊢
  refine ⟨List.mem_append_right _ (List.mem_singleton_self a), ?_⟩
  intro b hb
  obtain hb | hb := List.mem_append.mp hb
  · exact (List.pairwise_append.mp hd).2.2 b hb a (List.mem_singleton_self a)
  · rw [List.mem_singleton.mp hb]

end

/-- **The newest run**. Every accepted result replaces the ISP status of its domain.
    When no result is accepted after that of a run that was observed later, the
    status is always the classification made for the newest run; a late result with
    another classification than the newest runs makes it a different one. -/
theorem isp_status_newest_iff (lib : Library) (cfg : Config) (settings : Settings) :
    (∀ s, ((trackedSystem lib cfg settings).restrict InOrder).Reachable s → ReflectsNewest s) ∧
    ∀ s, (trackedSystem lib cfg settings).Reachable s → ∀ l s' a,
      (trackedSystem lib cfg settings).step s l s' → acceptance s.sessions l = some a →
        (∃ row, s'.sessions.db.monitor.domains.get? a.domainID = some row ∧
          row.current.isp = a.status) ∧
        (ReflectsNewest s' → ∃ b, Newest s' a.domainID b ∧ b.status = a.status) := by
  constructor
  · intro s hs d row hrow hsome
    have hlast := (lastWins_reachable hs.of_restrict).status d row hrow
    obtain ⟨a, ha⟩ := List.getLast?_isSome.mpr hsome |> Option.isSome_iff_exists.mp
    refine ⟨a, (ordered_reachable hs).newest_getLast ha, ?_⟩
    rw [hlast, Tracked.status, ha]
    rfl
  · intro s hs l s' a hstep ha
    have hlog := hstep.2
    rw [ha] at hlog
    have hconsistent := consistent_reachable (tracked_sessions hs)
    obtain ⟨row, hrow⟩ := Option.isSome_iff_exists.mp
      (domain_kept hconsistent hstep.1 (acceptance_domain hconsistent ha))
    have hstatus : row.current.isp = a.status := by
      rw [(lastWins_reachable (.step l hs hstep)).status _ row hrow, Tracked.status,
        of_accepted hlog, List.getLast?_concat]
      rfl
    refine ⟨⟨row, hrow, hstatus⟩, ?_⟩
    intro hreflects
    obtain ⟨b, hb, hisp⟩ := hreflects a.domainID row hrow (by rw [of_accepted hlog]; simp)
    exact ⟨b, hb, hisp.symm.trans hstatus⟩

/-! ### One result after another -/

/-- No transaction is open. -/
def idle (db : DB) : Sessions DB Txn := ⟨db, fun _ => none⟩

/-- The entry of a result that is accepted for a job. -/
def entryOf (job : Job) (db : DB) (status : ISPStatus) : Acceptance where
  domainID := job.domainId
  runID := job.runId
  observedAt := (localObservation db.monitor.results job.runId).map (fun r => r.row.columns.checkedAt)
  status := status

/-- A call of `SubmitResult` that runs alone is a run of the system. -/
theorem submitResult_steps {lib : Library} (cfg : Config) {settings : Settings} {call : SubmitCall}
    {db db' : DB} {decision : Ispclass.Decision} (log : List Acceptance)
    (h : submitResult lib settings call db = .ok (db', decision)) :
    ∃ job s₁ s₂ s₃, db.jobs.get? call.jobID = some job ∧
      (trackedSystem lib cfg settings).step ⟨idle db, log⟩ (.lockJob 0) s₁ ∧
      (trackedSystem lib cfg settings).step s₁ (.observe 0) s₂ ∧
      (trackedSystem lib cfg settings).step s₂ (.lockDomain 0) s₃ ∧
      (trackedSystem lib cfg settings).step s₃ (.commit 0)
        ⟨idle db', log ++ [entryOf job db decision.status]⟩ ∧
      s₃.accepted = log ∧
      acceptance s₃.sessions (.commit 0) = some (entryOf job db decision.status) := by
  simp only [submitResult, except_bind_ok] at h
  obtain ⟨⟨payload, payloadHash⟩, henvelope, job, hlock, o, hobserve, domain, hdomain, db'', hcommit, h⟩ := h
  cases h
  have hjob := observe_job hobserve
  have hrow := orFail_ok.mp hdomain
  let t₁ := (idle db).setTxn 0 (some (.jobLocked call payload payloadHash job))
  let t₂ := t₁.setTxn 0 (some (.observed call o))
  let t₃ := t₂.setTxn 0 (some (.domainLocked call o domain))
  have hentry : o.acceptance db.monitor.results = entryOf job db o.isp.status := by
    unfold Observation.acceptance entryOf
    rw [hjob]
  have haccepted : acceptance t₃ (.commit 0) = some (entryOf job db o.isp.status) := by
    rw [← hentry]
    exact acceptance_commit rfl
  have hfree : ¬ domainLocks.Locked t₂ o.job.domainId := by
    rintro ⟨i, r, hheld⟩
    by_cases hi : i = 0
    · subst hi
      cases hheld
    · rw [Discipline.held_of_idle (by simp [t₂, t₁, idle, hi])] at hheld
      cases hheld
  have hidle : (⟨idle db', log ++ [entryOf job db o.isp.status]⟩ : Tracked) =
      ⟨{ (t₃.setTxn 0 none) with db := db' }, log ++ [entryOf job db o.isp.status]⟩ := by
    congr 1
    unfold idle
    congr 1
    funext j
    by_cases hj : j = 0 <;> simp [t₃, t₂, t₁, idle, hj]
  refine ⟨job, ⟨t₁, log⟩, ⟨t₂, log⟩, ⟨t₃, log⟩, (lockJob_ok hlock).1,
    ⟨.lockJob rfl henvelope hlock, by simp [acceptance]⟩, ⟨.observe rfl hobserve, by simp [acceptance]⟩,
    ⟨.lockForResult rfl hfree (by rw [hjob]; exact hrow), by simp [acceptance]⟩, ?_, rfl, haccepted⟩
  rw [hidle]
  exact ⟨.commitResult rfl hcommit, by rw [haccepted]; rfl⟩

/-- The same for runs that keep a condition. -/
theorem submitResult_reaches {A : Tracked → Statement → Prop} {lib : Library} {cfg : Config}
    {settings : Settings} {call : SubmitCall} {db db' : DB} {decision : Ispclass.Decision}
    {log : List Acceptance} {job : Job}
    (h : submitResult lib settings call db = .ok (db', decision))
    (hjob : db.jobs.get? call.jobID = some job)
    (hA : ∀ s l, s.accepted = log →
      (∀ a ∈ acceptance s.sessions l, a = entryOf job db decision.status) → A s l)
    (hr : ((trackedSystem lib cfg settings).restrict A).Reachable ⟨idle db, log⟩) :
    ((trackedSystem lib cfg settings).restrict A).Reachable
      ⟨idle db', log ++ [entryOf job db decision.status]⟩ := by
  obtain ⟨job', s₁, s₂, s₃, hjob', h₁, h₂, h₃, h₄, hlog₃, haccepted⟩ := submitResult_steps cfg log h
  rw [hjob, Option.some.injEq] at hjob'
  subst hjob'
  have hlog₁ : s₁.accepted = log := by simpa [acceptance] using h₁.2
  have hlog₂ : s₂.accepted = log := by simpa [acceptance, hlog₁] using h₂.2
  refine .step (.commit 0) (.step (.lockDomain 0) (.step (.observe 0) (.step (.lockJob 0) hr
    ⟨hA _ _ rfl nofun, h₁⟩) ⟨hA _ _ hlog₁ nofun, h₂⟩) ⟨hA _ _ hlog₂ nofun, h₃⟩)
    ⟨hA _ _ hlog₃ ?_, h₄⟩
  intro a ha
  rw [haccepted] at ha
  exact (Option.some.inj ha).symm

/-! ### Two runs, two orders

    The domain was down in run 7 and is up again in run 8. -/

def upColumns : ResultColumns :=
  { failureColumns 12 8 (2 * second) with
    observed := { Statuses.unknown with availability := .active }
    failureStage := none, errorCode := none }

def secondJob : Job := { sampleJob with id := 10, runId := 8, nonce := lit "m" }

def twoRunsDB : DB where
  monitor := { sampleDB with
    runs := { rows := [sampleRun, { sampleRun with id := 8 }], nodup := by decide }
    results :=
      [⟨localFailure, [], [], []⟩,
       ⟨⟨upColumns, by decide +kernel, by decide +kernel⟩, [], [], []⟩] }
  nodes := sampleTables.nodes
  jobs := { rows := [sampleJob, secondJob], nodup := by decide }
  remoteResults := []

/-- The two payloads are told apart by their texts. -/
def twoRunsLibrary : Library :=
  { sampleLibrary with
    crypto := { sampleLibrary.crypto with
      unmarshal := fun payload =>
        if payload = lit "[]" then
          some { samplePayload with jobID := 10, runID := 8, nonce := lit "m" }
        else some samplePayload } }

def secondSubmit : SubmitCall :=
  { sampleSubmit with
    jobID := 10, resultID := 22, envelope := { sampleSubmit.envelope with payload := lit "[]" } }

theorem twoRunsDB_isInitial : IsInitial (idle twoRunsDB) := by
  refine ⟨fun _ => rfl, rfl, ?_⟩
  intro d row hrow
  have hmem : row ∈ [sampleDomain] := (KeyedTable.get?_some hrow).1
  rw [List.mem_singleton.mp hmem]
  rfl

/-- Two results, accepted one after the other. -/
def submitBoth (first later : SubmitCall) : Except SubmitError
    ((DB × Ispclass.Decision) × (DB × Ispclass.Decision)) := do
  let r₁ ← submitResult twoRunsLibrary defaultSettings first twoRunsDB
  let r₂ ← submitResult twoRunsLibrary defaultSettings later r₁.1
  return (r₁, r₂)

/-- What is accepted for the two runs, in whichever order. -/
def olderEntry : Acceptance := ⟨1, 7, ((second : Int) : WithBot Int), .suspected⟩

def newerEntry : Acceptance := ⟨1, 8, ((2 * second : Int) : WithBot Int), .notDetected⟩

/-- The run of two accepted results, with the entries they leave in the log. -/
theorem submitBoth_reaches (A : Tracked → Statement → Prop) (first later : SubmitCall)
    (job₁ job₂ : Job) (entry₁ entry₂ : Acceptance) (status : ISPStatus)
    (h : (submitBoth first later).toOption.any (fun r =>
      twoRunsDB.jobs.get? first.jobID = some job₁ && r.1.1.jobs.get? later.jobID = some job₂ &&
      entryOf job₁ twoRunsDB r.1.2.status = entry₁ && entryOf job₂ r.1.1 r.2.2.status = entry₂ &&
      ispStatus r.2.1 1 = some status) = true)
    (hA₁ : ∀ s l, s.accepted = [] → (∀ a ∈ acceptance s.sessions l, a = entry₁) → A s l)
    (hA₂ : ∀ s l, s.accepted = [entry₁] → (∀ a ∈ acceptance s.sessions l, a = entry₂) → A s l) :
    ∃ s, ((trackedSystem twoRunsLibrary defaultConfig defaultSettings).restrict A).Reachable s ∧
      s.accepted = [entry₁, entry₂] ∧ ispStatus s.sessions.db 1 = some status := by
  obtain ⟨⟨⟨db₁, d₁⟩, ⟨db₂, d₂⟩⟩, hboth, hfacts⟩ := exists_ok_of_any h
  simp only [submitBoth, except_bind_ok] at hboth
  obtain ⟨_, hfirst, _, hlater, hboth⟩ := hboth
  cases hboth
  simp only [Bool.and_eq_true, decide_eq_true_eq] at hfacts
  obtain ⟨⟨⟨⟨hjob₁, hjob₂⟩, hentry₁⟩, hentry₂⟩, hstatus⟩ := hfacts
  have hinit : ((trackedSystem twoRunsLibrary defaultConfig defaultSettings).restrict A).Reachable
      ⟨idle twoRunsDB, []⟩ := .init ⟨twoRunsDB_isInitial, rfl⟩
  have hone := submitResult_reaches hfirst hjob₁ (by rw [hentry₁]; exact hA₁) hinit
  have htwo := submitResult_reaches hlater hjob₂
    (by rw [hentry₁, hentry₂]; exact hA₂) hone
  exact ⟨_, htwo, by rw [hentry₁, hentry₂]; rfl, hstatus⟩

/-- The results arrive in the order of the runs: the domain is not blocked. -/
theorem isp_status_newest_in_order :
    ∃ s, ((trackedSystem twoRunsLibrary defaultConfig defaultSettings).restrict InOrder).Reachable s ∧
      s.accepted = [olderEntry, newerEntry] ∧ ispStatus s.sessions.db 1 = some .notDetected ∧
      ReflectsNewest s := by
  obtain ⟨s, hs, hlog, hstatus⟩ := submitBoth_reaches InOrder sampleSubmit secondSubmit
    sampleJob secondJob olderEntry newerEntry .notDetected (by decide +kernel)
    (by
      intro s l hlog ha a haccepted b hb
      simp [Tracked.of, hlog] at hb)
    (by
      intro s l hlog ha a haccepted b hb
      have hmem := (List.mem_filter.mp hb).1
      rw [hlog, List.mem_singleton] at hmem
      rw [hmem, ha a haccepted]
      decide +kernel)
  exact ⟨s, hs, hlog, hstatus,
    (isp_status_newest_iff twoRunsLibrary defaultConfig defaultSettings).1 s hs⟩

/-- The result of the older run arrives last, and the domain is suspected to be
    blocked although it was up when it was last observed. -/
theorem late_result_replaces_status :
    ∃ s, (trackedSystem twoRunsLibrary defaultConfig defaultSettings).Reachable s ∧
      s.accepted = [newerEntry, olderEntry] ∧ ispStatus s.sessions.db 1 = some .suspected ∧
      ¬ ReflectsNewest s := by
  obtain ⟨s, hs, hlog, hstatus⟩ := submitBoth_reaches (fun _ _ => True) secondSubmit
    sampleSubmit secondJob sampleJob newerEntry olderEntry .suspected (by decide +kernel)
    (fun _ _ _ _ => trivial) (fun _ _ _ _ => trivial)
  refine ⟨s, hs.of_restrict, hlog, hstatus, ?_⟩
  intro hreflects
  obtain ⟨row, hrow, hisp⟩ := Option.map_eq_some_iff.mp hstatus
  have hof : s.of 1 = [newerEntry, olderEntry] := by
    unfold Tracked.of
    rw [hlog]
    decide +kernel
  obtain ⟨a, ⟨hmem, hnewest⟩, hsame⟩ := hreflects 1 row hrow (by rw [hof]; exact nofun)
  rw [hof] at hmem hnewest
  have hlater := hnewest newerEntry List.mem_cons_self
  obtain rfl | hmem := List.mem_cons.mp hmem
  · rw [hisp] at hsame
    cases hsame
  · rw [List.mem_singleton.mp hmem] at hlater
    exact absurd hlater (by decide +kernel)

end DomainMonitor.Probe
