import DomainMonitor.Lib.RowLock
import DomainMonitor.Monitor.StatusHistory
import DomainMonitor.Probe.Results

/-! # Two writers of one history

    `CompleteRun` and `SubmitResult` both write the statuses of a domain and
    append to its history. Here any number of their transactions interleave, cut
    at the statements that take a lock or read what others may change. Each
    computes its history rows from the domain row it read under the row lock, so
    the log of every dimension stays a chain.
-/

namespace DomainMonitor.Probe

open Monitor Classification RowLock

/-! ### The system -/

/-- How far a transaction has got, with what it has read. -/
inductive Txn where
  /-- `CompleteRun` holds the lock of the domain. -/
  | completing (call : CompleteCall) (execution : Execution) (evidence : Evidence) (domain : Domain)
  /-- `SubmitResult` holds the lock of the job. -/
  | jobLocked (call : SubmitCall) (payload : Probeprotocol.ResultPayload) (payloadHash : List UInt8)
      (job : Job)
  /-- It has inserted its rows and classified. -/
  | observed (call : SubmitCall) (o : Observation)
  /-- It holds the lock of the domain, too. -/
  | domainLocked (call : SubmitCall) (o : Observation) (domain : Domain)

/-- The rows of `domains`, locked with what was read from them. -/
def domainLocks : Discipline DB Txn UUID Domain where
  row db d := db.monitor.domains.get? d
  holds
    | .completing _ execution _ domain => [(execution.run.domainId, domain)]
    | .domainLocked _ o domain => [(o.job.domainId, domain)]
    | .jobLocked .. | .observed .. => []

/-- The worker classified the evidence it completes a run with. -/
def Classified (tables : Strings.Tables) (evidence : Evidence) : Prop :=
  evidence.decision =
    classify tables evidence.localDNS evidence.alternateDNS evidence.http

/-- The transactions of the rest of the system. They create domains and write other
    columns, but no statuses and no history, and they wait for locked domains. -/
structure Elsewhere (locked : UUID → Prop) (db db' : DB) : Prop where
  history : db'.monitor.history = db.monitor.history
  kept : ∀ {d row}, db.monitor.domains.get? d = some row →
    ∃ row', db'.monitor.domains.get? d = some row' ∧ row'.current = row.current
  created : ∀ {d row'}, db'.monitor.domains.get? d = some row' →
    db.monitor.domains.get? d = none → row'.current = Statuses.unknown
  locked : ∀ {d}, locked d → db'.monitor.domains.get? d = db.monitor.domains.get? d

inductive Statement where
  | lockDomain (i : Nat)
  | lockJob (i : Nat)
  | observe (i : Nat)
  | commit (i : Nat)
  | rollback (i : Nat)
  | elsewhere

variable (lib : Library) (cfg : Config) (settings : Settings)

inductive Step : Sessions DB Txn → Statement → Sessions DB Txn → Prop where
  | lockForRun {s : Sessions DB Txn} {i : Nat} {call : CompleteCall} {execution : Execution}
      {evidence : Evidence} {domain : Domain} (hidle : s.txns i = none)
      (hclassified : Classified lib.tables evidence)
      (hfree : ¬ domainLocks.Locked s execution.run.domainId)
      (hrow : s.db.monitor.domains.get? execution.run.domainId = some domain) :
      Step s (.lockDomain i) (s.setTxn i (some (.completing call execution evidence domain)))
  | commitRun {s : Sessions DB Txn} {i : Nat} {call : CompleteCall} {execution : Execution}
      {evidence : Evidence} {domain : Domain} {db' : Monitor.DB}
      (ht : s.txns i = some (.completing call execution evidence domain))
      (hclassified : Classified lib.tables evidence)
      (h : completeLocked cfg call execution evidence domain s.db.monitor = .ok db') :
      Step s (.commit i) { (s.setTxn i none) with db := { s.db with monitor := db' } }
  | lockJob {s : Sessions DB Txn} {i : Nat} {call : SubmitCall}
      {payload : Probeprotocol.ResultPayload} {payloadHash : List UInt8} {job : Job}
      (hidle : s.txns i = none) (henvelope : checkEnvelope lib settings call = .ok (payload, payloadHash))
      (h : lockJob call payload s.db = .ok job) :
      Step s (.lockJob i) (s.setTxn i (some (.jobLocked call payload payloadHash job)))
  | observe {s : Sessions DB Txn} {i : Nat} {call : SubmitCall}
      {payload : Probeprotocol.ResultPayload} {payloadHash : List UInt8} {job : Job}
      {o : Observation} (ht : s.txns i = some (.jobLocked call payload payloadHash job))
      (h : observe lib settings call job payload payloadHash s.db = .ok o) :
      Step s (.observe i) (s.setTxn i (some (.observed call o)))
  | lockForResult {s : Sessions DB Txn} {i : Nat} {call : SubmitCall} {o : Observation}
      {domain : Domain} (ht : s.txns i = some (.observed call o))
      (hfree : ¬ domainLocks.Locked s o.job.domainId)
      (hrow : s.db.monitor.domains.get? o.job.domainId = some domain) :
      Step s (.lockDomain i) (s.setTxn i (some (.domainLocked call o domain)))
  | commitResult {s : Sessions DB Txn} {i : Nat} {call : SubmitCall} {o : Observation}
      {domain : Domain} {db' : DB} (ht : s.txns i = some (.domainLocked call o domain))
      (h : commitResult call o domain.current.isp s.db = .ok db') :
      Step s (.commit i) { (s.setTxn i none) with db := db' }
  -- An error return, a deadlock, a lost connection or a crash at any point.
  | rollback {s : Sessions DB Txn} {i : Nat} : Step s (.rollback i) (s.setTxn i none)
  | elsewhere {s : Sessions DB Txn} {db' : DB} (h : Elsewhere (domainLocks.Locked s) s.db db') :
      Step s .elsewhere { s with db := db' }

/-- Nothing was monitored yet. -/
def IsInitial (s : Sessions DB Txn) : Prop :=
  (∀ i, s.txns i = none) ∧ s.db.monitor.history = [] ∧
    ∀ d row, s.db.monitor.domains.get? d = some row → row.current = Statuses.unknown

def system : LTS.System (Sessions DB Txn) Statement where
  init := IsInitial
  step := Step lib cfg settings

variable {lib cfg settings} {s s' : Sessions DB Txn}

/-! ### What a commit does -/

/-- A committed result writes the ISP status of its domain and records it. -/
theorem commitResult_writes {call : SubmitCall} {o : Observation} {row : Domain} {db db' : DB}
    (hrow : db.monitor.domains.get? o.job.domainId = some row)
    (h : commitResult call o row.current.isp db = .ok db') :
    (db'.monitor.domains.get? o.job.domainId).map Domain.current =
        some { row.current with isp := o.isp.status } ∧
      (∀ d, d ≠ o.job.domainId → db'.monitor.domains.get? d = db.monitor.domains.get? d) ∧
      ∃ changes, db'.monitor.history = db.monitor.history ++ changes ∧
        Records o.job.domainId row.current { row.current with isp := o.isp.status } changes := by
  simp only [commitResult, except_bind_ok] at h
  obtain ⟨-, -, changes, hchanges, jobs, -, hdb⟩ := h
  cases hdb
  refine ⟨?_, ?_, changes, rfl, ?_⟩
  · rw [KeyedTable.get?_modify_self, hrow]
    rfl
  · intro d hd
    exact KeyedTable.get?_modify_ne _ _ (Domain.withISP_id _) hd
  · -- Only the ISP dimension can differ between the two.
    have hother : ∀ dim, dim ≠ .isp → statusValue row.current dim =
        statusValue { row.current with isp := o.isp.status } dim := by
      intro dim hdim
      cases dim <;> first | rfl | exact absurd rfl hdim
    unfold ispHistory at hchanges
    by_cases hne : row.current.isp ≠ o.isp.status
    · rw [if_pos hne] at hchanges
      dsimp only at hchanges
      split at hchanges
      · cases hchanges
        constructor
        · intro r hr
          rw [List.mem_singleton.mp hr]
          rfl
        · intro dim hsame
          have hdim : dim ≠ .isp := by
            rintro rfl
            exact hne (StatusValue.isp.inj hsame)
          simp [rowsOf, ispHistoryRow, Ne.symm hdim]
        · intro dim hdiffer
          have hdim : dim = .isp := by
            by_contra hdim
            exact hdiffer (hother dim hdim)
          subst hdim
          exact ⟨ispHistoryRow call o row.current.isp, by simp [rowsOf, ispHistoryRow], rfl, rfl⟩
      · cases hchanges
    · rw [if_neg hne] at hchanges
      cases hchanges
      have hsame : ∀ dim, statusValue row.current dim =
          statusValue { row.current with isp := o.isp.status } dim := by
        intro dim
        by_cases hdim : dim = .isp
        · subst hdim
          exact congrArg StatusValue.isp (not_not.mp hne)
        · exact hother dim hdim
      exact ⟨fun r hr => absurd hr List.not_mem_nil, fun _ _ => rfl,
        fun dim hdiffer => absurd (hsame dim) hdiffer⟩

variable {call : CompleteCall} {domain : Domain} {execution : Execution} {evidence : Evidence}
  {i : Nat}

/-- What a completion computes from the row it read under the lock is what it
    would compute from the committed row. -/
theorem completeRun_of_locked {db db' : Monitor.DB}
    (hrow : db.domains.get? execution.run.domainId = some domain)
    (h : completeLocked cfg call execution evidence domain db = .ok db') :
    completeRun cfg call execution evidence db = .ok db' := by
  rw [completeRun, except_bind_ok]
  exact ⟨domain, by rw [hrow]; rfl, h⟩

theorem held_completing (ht : s.txns i = some (.completing call execution evidence domain)) :
    (execution.run.domainId, domain) ∈ domainLocks.held s i := by
  rw [Discipline.held_of_txn ht]
  exact List.mem_singleton_self _

theorem held_domainLocked {call : SubmitCall} {o : Observation}
    (ht : s.txns i = some (.domainLocked call o domain)) :
    (o.job.domainId, domain) ∈ domainLocks.held s i := by
  rw [Discipline.held_of_txn ht]
  exact List.mem_singleton_self _

/-- Every step respects the row locks. -/
theorem Step.move {l : Statement} (hs : domainLocks.Consistent s)
    (h : Step lib cfg settings s l s') : domainLocks.Move s s' := by
  cases h with
  | lockForRun hidle hclassified hfree hrow =>
    exact .lockFirst (Discipline.held_of_idle hidle) hfree hrow rfl
  | commitRun ht hclassified h =>
    have hheld := held_completing ht
    obtain ⟨row, -, -, hothers, -⟩ := completeRun_writes (completeRun_of_locked (hs.read hheld) h)
    refine .commit (fun d hd => hothers d ?_)
    rintro rfl
    exact hd _ hheld
  | lockJob hidle henvelope h => exact .proceed (Discipline.held_of_idle hidle).symm
  | observe ht h => exact .proceed (by rw [Discipline.held_of_txn ht]; rfl)
  | lockForResult ht hfree hrow => exact .lockFirst (Discipline.held_of_txn ht) hfree hrow rfl
  | commitResult ht h =>
    have hheld := held_domainLocked ht
    obtain ⟨-, hothers, -⟩ := commitResult_writes (hs.read hheld) h
    refine .commit (fun d hd => hothers d ?_)
    rintro rfl
    exact hd _ hheld
  | rollback => exact .rollback
  | elsewhere h => exact .background (fun d hd => h.locked hd)

theorem consistent_reachable (h : (system lib cfg settings).Reachable s) :
    domainLocks.Consistent s :=
  Discipline.consistent_reachable (fun _ (hs : IsInitial _) => hs.1)
    (fun _ _ _ _ hs hl => Step.move hs hl) h

/-! ### The history -/

theorem HistoryReplays.elsewhere {locked : UUID → Prop} {db db' : DB}
    (hdb : HistoryReplays db.monitor) (h : Elsewhere locked db db') :
    HistoryReplays db'.monitor := by
  constructor
  · intro d row' hrow' dim
    rw [h.history]
    cases hrow : db.monitor.domains.get? d with
    | none =>
      -- A new domain: no row of the history is about it.
      have hrows : rowsOf db.monitor.history d dim = [] := by
        refine rowsOf_eq_nil (fun r hr hd => ?_) dim
        have hsome := hdb.reference r hr
        rw [hd, hrow] at hsome
        cases hsome
      unfold ReplaysTo
      rw [hrows, h.created hrow' hrow]
      exact ChangeLog.Replays.nil _
    | some row =>
      obtain ⟨row'', hget, hcurrent⟩ := h.kept hrow
      rw [hrow', Option.some.injEq] at hget
      subst hget
      rw [hcurrent]
      exact hdb.chain hrow dim
  · intro r hr
    rw [h.history] at hr
    obtain ⟨row, hrow⟩ := Option.isSome_iff_exists.mp (hdb.reference r hr)
    obtain ⟨row', hrow', -⟩ := h.kept hrow
    rw [hrow']
    rfl

/-- **Step lemma**: every statement keeps the history replayable. -/
theorem historyReplays_step {l : Statement} (hs : domainLocks.Consistent s)
    (hdb : HistoryReplays s.db.monitor) (h : Step lib cfg settings s l s') :
    HistoryReplays s'.db.monitor := by
  cases h with
  | lockForRun => exact hdb
  | commitRun ht hclassified h =>
    exact hdb.completeRun (completeRun_of_locked (hs.read (held_completing ht)) h)
  | lockJob => exact hdb
  | observe => exact hdb
  | lockForResult => exact hdb
  | commitResult ht h =>
    have hrow := hs.read (held_domainLocked ht)
    obtain ⟨hself, hothers, changes, hhistory, hrecords⟩ := commitResult_writes hrow h
    exact hdb.write hrow hrecords hhistory hself hothers
  | rollback => exact hdb
  | elsewhere h => exact HistoryReplays.elsewhere hdb h

theorem historyReplays_init (h : IsInitial s) : HistoryReplays s.db.monitor := by
  obtain ⟨-, hhistory, hunknown⟩ := h
  constructor
  · intro d row hrow dim
    unfold ReplaysTo
    rw [hhistory, hunknown d row hrow]
    exact ChangeLog.Replays.nil _
  · intro r hr
    rw [hhistory] at hr
    cases hr

/-- **Run lemma.** -/
theorem historyReplays_reachable (h : (system lib cfg settings).Reachable s) :
    HistoryReplays s.db.monitor :=
  LTS.System.invariant_under (fun _ => consistent_reachable) (fun _ => historyReplays_init)
    (fun _ _ _ hs hdb hl => historyReplays_step hs hdb hl) h

/-- A completion in progress commits without touching any ISP status, whatever was
    committed since it began. -/
theorem commitRun_keeps_isp (hs : domainLocks.Consistent s)
    (ht : s.txns i = some (.completing call execution evidence domain))
    (h : Step lib cfg settings s (.commit i) s') {d : UUID} {row : Domain}
    (hrow : s.db.monitor.domains.get? d = some row) :
    ∃ row', s'.db.monitor.domains.get? d = some row' ∧ row'.current.isp = row.current.isp := by
  cases h with
  | commitRun ht' hclassified h =>
    rw [ht] at ht'
    cases ht'
    have hread := hs.read (held_completing ht)
    obtain ⟨read, hread', hself, hothers, -⟩ := completeRun_writes (completeRun_of_locked hread h)
    by_cases hd : d = execution.run.domainId
    · subst hd
      have hisp : (effectiveState cfg read execution.run evidence.decision).statuses.isp =
          read.current.isp := by
        refine advance_isp ?_
        show evidence.decision.isp = .unknown
        rw [hclassified]
        exact classify_isp _ _ _ _
      rw [hrow, Option.some.injEq] at hread'
      subst hread'
      obtain ⟨row', hrow', hcurrent⟩ := Option.map_eq_some_iff.mp hself
      exact ⟨row', hrow', by rw [hcurrent]; exact hisp⟩
    · exact ⟨row, (hothers d hd).trans hrow, rfl⟩
  | commitResult ht' h =>
    rw [ht] at ht'
    cases ht'

/-! ### A run with both writers -/

def sampleObservation : Except SubmitError Observation :=
  observe sampleLibrary defaultSettings sampleSubmit sampleJob samplePayload
    (List.replicate 32 0) sampleCompleted

/-- The state both transactions start from. -/
def sampleSessions : Sessions DB Txn where
  db := sampleTables
  txns := fun _ => none

theorem sampleSessions_isInitial : IsInitial sampleSessions := by
  refine ⟨fun _ => rfl, rfl, ?_⟩
  intro d row hrow
  have hmem : row ∈ [sampleDomain] := (KeyedTable.get?_some hrow).1
  rw [List.mem_singleton.mp hmem]
  rfl

/-- The lock of the job is taken while the completion is open; the result commits
    after it. -/
theorem sampleSessions_reaches :
    ∃ s, (system sampleLibrary defaultConfig defaultSettings).Reachable s ∧
      s.db.monitor.history.length = 5 := by
  have hcomplete := eq_ok_okOr sampleDB (by decide +kernel :
    (completeLocked defaultConfig sampleComplete sampleExecution sampleEvidence sampleDomain
      sampleDB).isOk = true)
  have hcommits : (sampleObservation >>= fun o =>
      commitResult sampleSubmit o .unknown sampleCompleted).isOk = true := by decide +kernel
  have hlength : (okOr sampleCompleted (sampleObservation >>= fun o =>
      commitResult sampleSubmit o .unknown sampleCompleted)).monitor.history.length = 5 := by
    decide +kernel
  have hisp : (sampleCompleted.monitor.domains.get? 1).map (fun row => row.current.isp) =
      some .unknown := by decide +kernel
  obtain ⟨row, hrow, hisp⟩ := Option.map_eq_some_iff.mp hisp
  have hcommit := eq_ok_okOr sampleCompleted hcommits
  obtain ⟨o, hobserve, hresult⟩ := except_bind_ok.mp hcommit
  rw [← hisp] at hresult hlength
  have hjob : o.job = sampleJob := observe_job hobserve
  -- Nobody holds the lock of a domain when it is taken.
  have hfree : ∀ {s : Sessions DB Txn} {d : UUID}, (∀ i, domainLocks.held s i = []) →
      ¬ domainLocks.Locked s d := by
    rintro s d hidle ⟨i, r, h⟩
    rw [hidle i] at h
    cases h
  let s₁ := sampleSessions.setTxn 0
    (some (.completing sampleComplete sampleExecution sampleEvidence sampleDomain))
  let s₂ := s₁.setTxn 1
    (some (.jobLocked sampleSubmit samplePayload (List.replicate 32 0) sampleJob))
  let s₃ : Sessions DB Txn := { (s₂.setTxn 0 none) with db := sampleCompleted }
  let s₄ := s₃.setTxn 1 (some (.observed sampleSubmit o))
  let s₅ := s₄.setTxn 1 (some (.domainLocked sampleSubmit o row))
  have h₁ : Step sampleLibrary defaultConfig defaultSettings sampleSessions (.lockDomain 0) s₁ :=
    .lockForRun rfl rfl (hfree fun _ => rfl) rfl
  have h₂ : Step sampleLibrary defaultConfig defaultSettings s₁ (.lockJob 1) s₂ :=
    .lockJob rfl (by decide +kernel) (by decide +kernel)
  have h₃ : Step sampleLibrary defaultConfig defaultSettings s₂ (.commit 0) s₃ :=
    .commitRun rfl rfl hcomplete
  have h₄ : Step sampleLibrary defaultConfig defaultSettings s₃ (.observe 1) s₄ :=
    .observe rfl hobserve
  have hidle : ∀ i, domainLocks.held s₄ i = [] := by
    intro i
    by_cases h1 : i = 1
    · subst h1
      rfl
    · by_cases h0 : i = 0 <;>
        simp [Discipline.held, RowLock.Sessions.setTxn, s₄, s₃, s₂, s₁, sampleSessions, h0, h1]
  have h₅ : Step sampleLibrary defaultConfig defaultSettings s₄ (.lockDomain 1) s₅ :=
    .lockForResult rfl (hfree hidle) (by rw [hjob]; exact hrow)
  have h₆ : Step sampleLibrary defaultConfig defaultSettings s₅ (.commit 1) _ :=
    .commitResult rfl hresult
  exact ⟨_, .step _ (.step _ (.step _ (.step _ (.step _ (.step _
    (.init sampleSessions_isInitial) h₁) h₂) h₃) h₄) h₅) h₆, hlength⟩

/-- **Replay**: in every state reached by interleaving completions and remote
    results, the history of each domain and dimension leads from `UNKNOWN` to the
    value in the domain's row, and no completion replaces an ISP status. -/
theorem history_replays_to_current (h : (system lib cfg settings).Reachable s) :
    (∀ d row dim, s.db.monitor.domains.get? d = some row →
      ChangeLog.Replays HistoryRow.previousValue HistoryRow.currentValue
        (statusValue Statuses.unknown dim)
        (s.db.monitor.history.filter (fun r => r.domainId = d && r.dimension = dim))
        (statusValue row.current dim)) ∧
    ∀ i call execution evidence domain s',
      s.txns i = some (.completing call execution evidence domain) →
      (system lib cfg settings).step s (.commit i) s' →
      ∀ d row, s.db.monitor.domains.get? d = some row →
        ∃ row', s'.db.monitor.domains.get? d = some row' ∧ row'.current.isp = row.current.isp := by
  constructor
  · intro d row dim hrow
    exact (historyReplays_reachable h).chain hrow dim
  · intro i call execution evidence domain s' ht hstep d row hrow
    exact commitRun_keeps_isp (consistent_reachable h) ht hstep hrow


/-- A completion and a remote result of one domain, overlapping: four changes of
    the completion and one of the result replay to the row. -/
theorem history_replays_both_writers :
    ∃ s, (system sampleLibrary defaultConfig defaultSettings).Reachable s ∧
      s.db.monitor.history.length = 5 ∧
      ∀ d row dim, s.db.monitor.domains.get? d = some row →
        ChangeLog.Replays HistoryRow.previousValue HistoryRow.currentValue
          (statusValue Statuses.unknown dim)
          (s.db.monitor.history.filter (fun r => r.domainId = d && r.dimension = dim))
          (statusValue row.current dim) := by
  obtain ⟨s, h, hlength⟩ := sampleSessions_reaches
  exact ⟨s, h, hlength, (history_replays_to_current h).1⟩

end DomainMonitor.Probe
