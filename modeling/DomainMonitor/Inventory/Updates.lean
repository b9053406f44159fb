import DomainMonitor.Lib.RowLock
import DomainMonitor.Inventory.Lifecycle
import DomainMonitor.Monitor.Complete
import DomainMonitor.Sheets.Apply

/-! # Concurrent updates of one domain

    `Patch`, `Archive` and `Restore` read the row without a lock, check its
    version in Go, and leave the decision to an `UPDATE ... WHERE version = $n`,
    which waits for the row and looks at the version again. Imports and
    `CompleteRun` take the row lock first. This module interleaves all of them on
    one row, statement by statement.

    The versions do their work: at most one request for each version commits, and
    what it commits was computed from the row it replaces. But a `Patch` whose
    `UPDATE` finds another version answers `ErrNotFound`: `scanDomain` has turned
    `pgx.ErrNoRows` into `ErrNotFound` before `UpdateTx` looks for it.
-/

namespace DomainMonitor.Updates

open Inventory RowLock
open Monitor (Text)
open Sheets (NormalizedRow RowColumns modifiedBy missingFrom seenAgain)

/-! ### The row -/

/-- The columns of `domains` that monitoring writes. -/
structure Effective where
  current : Classification.Statuses
  confidence : Int
  failureStreak : Int
  successStreak : Int
  failureStage : Option Text
  errorCode : Option Text
  lastCheckedAt : Option Int
  deriving DecidableEq

/-- The row of a domain. -/
structure Row where
  inventory : Domain
  effective : Effective
  deriving DecidableEq

def Row.version (r : Row) : Int := r.inventory.version

/-! ### Requests -/

inductive Request where
  | patch (input : PatchInput)
  | archive (version : Int) (reason : GoString) (now : Int)
  | restore (version : Int) (reason : GoString)

/-- The version a request carries. -/
def Request.version : Request → Int
  | .patch input => input.version
  | .archive version _ _ => version
  | .restore version _ => version

def Request.isPatch : Request → Bool
  | .patch _ => true
  | _ => false

/-- The guarded `UPDATE` of a request. -/
inductive Write where
  | update (version : Int) (after : Domain)
  | archive (version : Int) (now : Int)
  | restore (version : Int)

/-- The condition of the statement. -/
def Write.guard : Write → Domain → Bool
  | .update version _, d => d.version = version
  | .archive version _, d => d.version = version && d.lifecycleStatus ≠ .archived
  | .restore version, d => d.version = version && d.lifecycleStatus = .archived

/-- The columns `UpdateTx` sets. -/
def updateColumns (after d : Domain) : Domain :=
  { d with
    originalInput := after.originalInput
    domainASCII := after.domainASCII
    domainUnicode := after.domainUnicode
    registrableDomain := after.registrableDomain
    registrarID := after.registrarID
    businessPriority := after.businessPriority
    monitoringEnabled := after.monitoringEnabled
    expectedContentMode := after.expectedContentMode
    expirationAt := after.expirationAt
    notes := after.notes
    version := d.version + 1 }

def Write.change : Write → Domain → Domain
  | .update _ after, d => updateColumns after d
  | .archive _ now, d => d.archive now
  | .restore _, d => d.restore

/-- What the call returns when the statement has changed no row. `UpdateTx` looks
    for `pgx.ErrNoRows`, which `scanDomain` has already replaced. -/
def Write.missed : Write → ServiceError
  | .update _ _ => .notFound
  | .archive _ _ => .conflict
  | .restore _ => .conflict

/-- The checks before the transaction begins. -/
def Request.refusal : Request → Option ServiceError
  | .patch input => if input.version < 1 then some (.validation versionRequired) else none
  | .archive version reason _ | .restore version reason =>
    if Utf8.trimSpace reason = [] then some (.validation reasonRequired)
    else if version < 1 then some (.validation versionRequired)
    else none

variable (answers : List Answer) (lib : Library)

/-- What the call does with the row it has read, up to its `UPDATE`. -/
def Request.plan (request : Request) (before : Domain) : Except ServiceError Write :=
  if before.version ≠ request.version then .error .conflict
  else
    match request with
    | .patch input => (input.after lib before).map (.update input.version)
    | .archive version _ now => .ok (.archive version now)
    | .restore version _ => .ok (.restore version)

/-! ### Imports and monitoring -/

/-- The statements of an import that write the row. -/
inductive SheetWrite where
  | modify (value : NormalizedRow) (columns : RowColumns) (source : SourceType)
      (keepExpiration keepPriority : Bool)
  | missing (source : SourceType)
  | unchanged

def SheetWrite.apply : SheetWrite → Domain → Domain
  | .modify value columns source keepExpiration keepPriority, d =>
    modifiedBy value columns source keepExpiration keepPriority d
  | .missing source, d => missingFrom source d
  | .unchanged, d => seenAgain d

/-- What `CompleteRun` has observed. -/
structure Completion where
  cfg : Config
  run : Monitor.Run
  decision : Classification.Decision
  checkedAt : Int

/-- The `UPDATE` of `CompleteRun`, computed from the columns it has locked. -/
def Completion.write (c : Completion) (e : Effective) : Option Effective :=
  let state := Classification.advance
    { current := e.current
      confidence := e.confidence
      failureStreak := e.failureStreak
      successStreak := e.successStreak
      observed := c.decision
      qualifying := c.run.triggerType ≠ .manual
      openFailures := c.cfg.incidentOpenFailures
      closeSuccesses := c.cfg.incidentCloseSuccess }
  (Text.ofNullable? (Monitor.nullableString (lit state.failureStage))).bind (fun failureStage =>
    (Text.ofNullable? (Monitor.nullableCode state.errorCode)).map (fun errorCode =>
      { current := state.statuses
        confidence := state.confidence
        failureStreak := state.failureStreak
        successStreak := state.successStreak
        failureStage
        errorCode
        lastCheckedAt := some c.checkedAt }))

/-! ### The statements are those of the sequential model -/

/-- The effective columns of a row of `Monitor`. -/
def effectiveOf (d : Monitor.Domain) : Effective where
  current := d.current
  confidence := d.confidence
  failureStreak := d.failureStreak
  successStreak := d.successStreak
  failureStage := d.failureStage
  errorCode := d.errorCode
  lastCheckedAt := d.lastCheckedAt

/-- What `completeRun` does to the row of its domain is the write of a
    `Completion`, and the other columns stay. -/
theorem completeRun_write {cfg : Config} {call : Monitor.CompleteCall}
    {execution : Monitor.Execution} {evidence : Monitor.Evidence} {db db' : Monitor.DB}
    {d : Monitor.Domain} (hd : db.domains.get? execution.run.domainId = some d)
    (h : Monitor.completeRun cfg call execution evidence db = .ok db') :
    ∃ d', db'.domains.get? execution.run.domainId = some d' ∧
      (Completion.write ⟨cfg, execution.run, evidence.decision, call.checkedAt evidence⟩
        (effectiveOf d)) = some (effectiveOf d') ∧
      d'.lifecycleStatus = d.lifecycleStatus ∧ d'.monitoringEnabled = d.monitoringEnabled ∧
      d'.domainASCII = d.domainASCII ∧ d'.expectedContentMode = d.expectedContentMode := by
  obtain ⟨p, hp, rfl⟩ := Monitor.completeRun_ok_iff.mp h
  obtain ⟨stage, code, hstage, hcode, -, hdomains⟩ := Monitor.updateDomain?_some hp.domain hp.domains
  have hsame := hp.domain
  rw [hd] at hsame
  cases hsame
  refine ⟨p.domain.withEffective (Monitor.effectiveState cfg p.domain execution.run evidence.decision)
    stage code (call.checkedAt evidence), ?_, ?_, rfl, rfl, rfl, rfl⟩
  · show p.domains.get? execution.run.domainId = _
    rw [hdomains, KeyedTable.get?_modify, if_pos rfl, hd]
    rfl
  · simp only [Monitor.effectiveState, Monitor.effectiveInput] at hstage hcode
    simp only [Completion.write, effectiveOf, hstage, hcode, Option.bind_some, Option.map_some]
    rfl

/-! ### Transactions -/

/-- An open transaction. All but the first kind have locked the row: `locked` is
    the row they found, and `pending` what they will commit. -/
inductive Txn where
  /-- A request that has read the row and not yet written it. -/
  | ready (request : Request) (before : Domain) (write : Write)
  | written (request : Request) (locked pending : Row)
  | importing (locked pending : Row)
  | completing (locked pending : Row)

inductive Outcome where
  | committed
  | refused (e : ServiceError)
  /-- Cut off by a failure outside the model. -/
  | failed
  deriving DecidableEq

inductive Stage where
  | read | update
  deriving DecidableEq

/-- An answered request: the statement that decided it, and the version this
    statement found. -/
structure Answer where
  request : Request
  stage : Stage
  found : Option Int
  outcome : Outcome

/-- The request was decided on another version than its own. -/
def Answer.Stale (a : Answer) : Prop := ∃ v, a.found = some v ∧ v ≠ a.request.version

/-- The committed row, and the answers so far. -/
structure Store where
  row : Row
  answers : List Answer

abbrev State : Type := Sessions Store Txn

/-- The lock on the row. -/
def rowLock : Discipline Store Txn Unit Row where
  row := fun store _ => some store.row
  holds := fun
    | .ready _ _ _ => []
    | .written _ locked _ | .importing locked _ | .completing locked _ => [((), locked)]

def answering (s : State) (a : Answer) : State :=
  { s with db := { s.db with answers := s.db.answers ++ [a] } }

inductive Label where
  /-- A request begins and reads the row. -/
  | read (i : Nat) (request : Request)
  /-- The `UPDATE` of a request; `error` if a constraint refuses it. -/
  | update (i : Nat) (error : Option ServiceError)
  | sheetWrite (i : Nat) (write : SheetWrite)
  | complete (i : Nat) (completion : Completion)
  | commit (i : Nat)
  | rollback (i : Nat)

inductive Step : State → Label → State → Prop where
  | invalid {s : State} {i : Nat} {request : Request} {e : ServiceError} (hidle : s.txns i = none)
      (h : request.refusal = some e) :
      Step s (.read i request) (answering s ⟨request, .read, none, .refused e⟩)
  | refused {s : State} {i : Nat} {request : Request} {e : ServiceError} (hidle : s.txns i = none)
      (hvalid : request.refusal = none) (h : request.plan lib s.db.row.inventory = .error e) :
      Step s (.read i request)
        (answering s ⟨request, .read, some s.db.row.version, .refused e⟩)
  | read {s : State} {i : Nat} {request : Request} {write : Write} (hidle : s.txns i = none)
      (hvalid : request.refusal = none) (h : request.plan lib s.db.row.inventory = .ok write) :
      Step s (.read i request) (s.setTxn i (some (.ready request s.db.row.inventory write)))
  /-- The row is free, and it satisfies the condition. -/
  | updated {s : State} {i : Nat} {request : Request} {before : Domain} {write : Write}
      (ht : s.txns i = some (.ready request before write)) (hfree : ¬ rowLock.Locked s ())
      (h : write.guard s.db.row.inventory = true) :
      Step s (.update i none)
        (s.setTxn i (some (.written request s.db.row
          { s.db.row with inventory := write.change s.db.row.inventory })))
  /-- A unique name or a check is violated. -/
  | violated {s : State} {i : Nat} {request : Request} {before : Domain} {write : Write}
      {e : ServiceError} (ht : s.txns i = some (.ready request before write))
      (hfree : ¬ rowLock.Locked s ()) (h : write.guard s.db.row.inventory = true)
      (he : e = .duplicate ∨ e = .database) :
      Step s (.update i (some e))
        (answering (s.setTxn i none) ⟨request, .update, some s.db.row.version, .refused e⟩)
  /-- The statement changes no row. -/
  | missed {s : State} {i : Nat} {request : Request} {before : Domain} {write : Write}
      (ht : s.txns i = some (.ready request before write)) (hfree : ¬ rowLock.Locked s ())
      (h : write.guard s.db.row.inventory = false) :
      Step s (.update i none)
        (answering (s.setTxn i none) ⟨request, .update, some s.db.row.version, .refused write.missed⟩)
  | sheetFirst {s : State} {i : Nat} {write : SheetWrite} (hidle : s.txns i = none)
      (hfree : ¬ rowLock.Locked s ()) :
      Step s (.sheetWrite i write)
        (s.setTxn i (some (.importing s.db.row
          { s.db.row with inventory := write.apply s.db.row.inventory })))
  | sheetNext {s : State} {i : Nat} {locked pending : Row} {write : SheetWrite}
      (ht : s.txns i = some (.importing locked pending)) :
      Step s (.sheetWrite i write)
        (s.setTxn i (some (.importing locked
          { pending with inventory := write.apply pending.inventory })))
  | complete {s : State} {i : Nat} {completion : Completion} {effective : Effective}
      (hidle : s.txns i = none) (hfree : ¬ rowLock.Locked s ())
      (h : completion.write s.db.row.effective = some effective) :
      Step s (.complete i completion)
        (s.setTxn i (some (.completing s.db.row { s.db.row with effective := effective })))
  | committed {s : State} {i : Nat} {request : Request} {locked pending : Row}
      (ht : s.txns i = some (.written request locked pending)) :
      Step s (.commit i)
        { (s.setTxn i none) with
          db := ⟨pending, s.db.answers ++ [⟨request, .update, some locked.version, .committed⟩]⟩ }
  | imported {s : State} {i : Nat} {locked pending : Row}
      (ht : s.txns i = some (.importing locked pending)) :
      Step s (.commit i) { (s.setTxn i none) with db := { s.db with row := pending } }
  | completed {s : State} {i : Nat} {locked pending : Row}
      (ht : s.txns i = some (.completing locked pending)) :
      Step s (.commit i) { (s.setTxn i none) with db := { s.db with row := pending } }
  /-- Any transaction may be rolled back; a request then ends with a failure. -/
  | failedReady {s : State} {i : Nat} {request : Request} {before : Domain} {write : Write}
      (ht : s.txns i = some (.ready request before write)) :
      Step s (.rollback i) (answering (s.setTxn i none) ⟨request, .update, none, .failed⟩)
  | failedWritten {s : State} {i : Nat} {request : Request} {locked pending : Row}
      (ht : s.txns i = some (.written request locked pending)) :
      Step s (.rollback i) (answering (s.setTxn i none) ⟨request, .update, none, .failed⟩)
  | rolledBack {s : State} {i : Nat} {t : Txn} (ht : s.txns i = some t)
      (h : ∀ request before write, t ≠ .ready request before write)
      (h' : ∀ request locked pending, t ≠ .written request locked pending) :
      Step s (.rollback i) (s.setTxn i none)

/-- Any row, and no open transaction. -/
def updateSystem : LTS.System State Label where
  init := fun s => (∀ i, s.txns i = none) ∧ s.db.answers = []
  step := Step lib

/-! ### What a request computes -/

/-- What the request makes of a row, if nothing happens in between. -/
def Request.result (request : Request) (d : Domain) : Except ServiceError Domain :=
  match request with
  | .patch input => input.after lib d
  | .archive _ _ now => .ok (d.archive now)
  | .restore _ _ => .ok d.restore

variable {lib : Library} {before : Domain} {request : Request} {row : Row} {store : Store}

/-- A patch leaves the columns alone that `UpdateTx` does not set. -/
theorem updateColumns_after {input : PatchInput} {after : Domain}
    (h : input.after lib before = .ok after) : updateColumns after before = after := by
  simp only [PatchInput.after, except_bind_ok] at h
  obtain ⟨renamed, hrename, priority, -, mode, -, -, -, hafter⟩ := h
  have hrenamed : ∃ a b c d, renamed = { before with
      originalInput := a, domainASCII := b, domainUnicode := c, registrableDomain := d } := by
    unfold PatchInput.rename at hrename
    split at hrename
    · cases hrename
      exact ⟨_, _, _, _, rfl⟩
    · split at hrename
      · cases hrename
      · cases hrename
        exact ⟨_, _, _, _, rfl⟩
  obtain ⟨a, b, c, d, rfl⟩ := hrenamed
  cases hafter
  rfl

/-- The statement a request plans. -/
structure Planned (lib : Library) (request : Request) (before : Domain) (write : Write) : Prop where
  version : before.version = request.version
  guard : ∀ d, write.guard d = true → d.version = request.version
  change : ∀ d, (write.change d).version = d.version + 1
  missed : write.missed = if request.isPatch then .notFound else .conflict
  result : request.result lib before = .ok (write.change before)

variable {write : Write} {a : Answer}

theorem plan_ok (h : request.plan lib before = .ok write) : Planned lib request before write := by
  unfold Request.plan at h
  split_ifs at h with hversion
  rw [not_not] at hversion
  cases request with
  | patch input =>
    simp only at h
    cases hafter : input.after lib before with
    | error e =>
      rw [hafter] at h
      cases h
    | ok after =>
      rw [hafter] at h
      cases h
      refine ⟨hversion, ?_, fun d => rfl, rfl, ?_⟩
      · intro d hd
        exact of_decide_eq_true hd
      · exact hafter.trans (congrArg Except.ok (updateColumns_after hafter).symm)
  | _ =>
    cases h
    refine ⟨hversion, ?_, fun d => rfl, rfl, rfl⟩
    intro d hd
    simp only [Write.guard, Bool.and_eq_true, decide_eq_true_eq] at hd
    exact hd.1

theorem plan_stale {e : ServiceError} (h : request.plan lib before = .error e)
    (hversion : before.version ≠ request.version) : e = .conflict := by
  unfold Request.plan at h
  rw [if_pos hversion] at h
  exact (Except.error.inj h).symm

/-- An import leaves the row as it is, or it raises the version. -/
theorem SheetWrite.version_lt (write : SheetWrite) (d : Domain) :
    write.apply d = d ∨ d.version < (write.apply d).version := by
  cases write with
  | modify value columns source keepExpiration keepPriority =>
    right
    show d.version < d.version + 1
    omega
  | missing source =>
    by_cases hsource : d.sourceType = source
    · right
      simp only [SheetWrite.apply, missingFrom, if_pos hsource]
      omega
    · left
      simp only [SheetWrite.apply, missingFrom, if_neg hsource]
  | unchanged =>
    by_cases hpresent : d.sourceStatus ≠ .present
    · right
      simp only [SheetWrite.apply, seenAgain, if_pos hpresent]
      omega
    · left
      simp only [SheetWrite.apply, seenAgain, if_neg hpresent]

/-! ### The invariant -/

/-- The inventory columns are the same, or the version has grown. -/
def Advances (r r' : Row) : Prop := r'.inventory = r.inventory ∨ r.version < r'.version

theorem Advances.refl (r : Row) : Advances r r := .inl rfl

/-- What holds of an open transaction. -/
def TxnInv (lib : Library) (row : Row) : Txn → Prop
  | .ready request before write =>
    request.plan lib before = .ok write ∧
      (before = row.inventory ∨ before.version < row.version)
  | .written request locked pending =>
    ∃ write, request.plan lib locked.inventory = .ok write ∧
      pending = { locked with inventory := write.change locked.inventory }
  | .importing locked pending =>
    pending.effective = locked.effective ∧ Advances locked pending
  | .completing locked pending => pending.inventory = locked.inventory

/-- A transaction that has only read the row sees it advance. -/
theorem TxnInv.advance {row' : Row} {t : Txn} (h : TxnInv lib row t) (hrow : Advances row row') :
    TxnInv lib row' t := by
  cases t with
  | ready request before write =>
    obtain ⟨hplan, hbefore⟩ := h
    refine ⟨hplan, ?_⟩
    obtain hsame | hlt := hrow
    · obtain rfl | hbefore := hbefore
      · exact .inl hsame.symm
      · right
        show before.version < row'.inventory.version
        rw [hsame]
        exact hbefore
    · right
      obtain rfl | hbefore := hbefore
      · exact hlt
      · exact Int.lt_trans hbefore hlt
  | _ => exact h

/-- The versions of the requests that have committed, in this order. -/
def committedVersions : List Int :=
  (answers.filter (fun a => a.outcome = .committed)).map (fun a => a.request.version)

/-- What a request that found another version is answered. -/
def Answer.expected (a : Answer) : ServiceError :=
  if a.request.isPatch ∧ a.stage = .update then .notFound else .conflict

structure Logged (store : Store) : Prop where
  below : ∀ v ∈ committedVersions store.answers, v < store.row.version
  increasing : (committedVersions store.answers).Pairwise (· < ·)
  stale : ∀ a ∈ store.answers, a.Stale → a.outcome = .refused a.expected

structure Inv (lib : Library) (s : State) : Prop where
  consistent : rowLock.Consistent s
  txns : ∀ i t, s.txns i = some t → TxnInv lib s.db.row t
  logged : Logged s.db

theorem Logged.append (h : Logged store) (houtcome : a.outcome ≠ .committed)
    (hstale : a.Stale → a.outcome = .refused a.expected) :
    Logged { store with answers := store.answers ++ [a] } := by
  have hversions : committedVersions (store.answers ++ [a]) = committedVersions store.answers := by
    simp [committedVersions, houtcome]
  refine ⟨?_, ?_, ?_⟩
  · rw [hversions]
    exact h.below
  · rw [hversions]
    exact h.increasing
  · intro b hb
    obtain hb | hb := List.mem_append.mp hb
    · exact h.stale b hb
    · rw [List.mem_singleton.mp hb]
      exact hstale

theorem Logged.commit (h : Logged store) (hversion : request.version = store.row.version)
    (hrow : store.row.version < row.version) :
    Logged ⟨row, store.answers ++ [⟨request, .update, some store.row.version, .committed⟩]⟩ := by
  have hversions : committedVersions
      (store.answers ++ [⟨request, .update, some store.row.version, .committed⟩]) =
      committedVersions store.answers ++ [request.version] := by
    simp [committedVersions]
  refine ⟨?_, ?_, ?_⟩
  · intro v hv
    have hv : v ∈ committedVersions
      (store.answers ++ [⟨request, .update, some store.row.version, .committed⟩]) := hv
    rw [hversions, List.mem_append, List.mem_singleton] at hv
    obtain hv | rfl := hv
    · exact Int.lt_trans (h.below v hv) hrow
    · rw [hversion]
      exact hrow
  · show (committedVersions _).Pairwise _
    rw [hversions, List.pairwise_append]
    refine ⟨h.increasing, List.pairwise_singleton .., ?_⟩
    intro v hv w hw
    rw [List.mem_singleton.mp hw, hversion]
    exact h.below v hv
  · intro b hb
    obtain hb | hb := List.mem_append.mp hb
    · exact h.stale b hb
    · rw [List.mem_singleton.mp hb]
      intro ⟨v, hfound, hne⟩
      cases hfound
      exact absurd hversion.symm hne

/-- The row may move on without an answer. -/
theorem Logged.advance (h : Logged store) (hrow : Advances store.row row) :
    Logged { store with row := row } := by
  refine ⟨?_, h.increasing, h.stale⟩
  intro v hv
  have hbelow := h.below v hv
  obtain hsame | hlt := hrow
  · show v < row.inventory.version
    rw [hsame]
    exact hbelow
  · exact Int.lt_trans hbelow hlt

section

variable {lib : Library} {s s' : State} {i : Nat}

variable {t : Txn} {row : Row} {l : Label}

/-- The row a transaction has locked is the committed one. -/
theorem Inv.locked (h : Inv lib s) (ht : s.txns i = some t) (hholds : rowLock.holds t = [((), row)]) :
    row = s.db.row := by
  have hread : rowLock.row s.db () = some row := by
    refine h.consistent.read (i := i) ?_
    rw [Discipline.held_of_txn ht, hholds]
    exact List.mem_singleton_self _
  exact (Option.some.inj hread).symm

/-- One session moves on, and the row advances. -/
theorem Inv.next (h : Inv lib s) (hmove : rowLock.Move s s')
    (htxns : ∀ j t, s'.txns j = some t → s.txns j = some t ∨ TxnInv lib s'.db.row t)
    (hrow : Advances s.db.row s'.db.row) (hlogged : Logged s'.db) : Inv lib s' where
  consistent := hmove.consistent h.consistent
  txns j t hj := by
    obtain hj | hinv := htxns j t hj
    · exact (h.txns j t hj).advance hrow
    · exact hinv
  logged := hlogged

/-- A session opens or goes on, and nothing is committed. -/
theorem Inv.proceed (h : Inv lib s) (hmove : rowLock.Move s (s.setTxn i (some t)))
    (hinv : TxnInv lib s.db.row t) : Inv lib (s.setTxn i (some t)) := by
  refine h.next hmove ?_ (.refl _) h.logged
  intro j u hu
  obtain ⟨-, hu⟩ | ⟨-, hu⟩ := Sessions.setTxn_cases hu
  · exact .inl hu
  · cases hu
    exact .inr hinv

/-- A session ends with an answer other than a commit. -/
theorem Inv.answer (h : Inv lib s) (houtcome : a.outcome ≠ .committed)
    (hstale : a.Stale → a.outcome = .refused a.expected) :
    Inv lib (answering (s.setTxn i none) a) := by
  refine h.next (.commit (fun _ _ => rfl)) ?_ (.refl _) (h.logged.append houtcome hstale)
  intro j u hu
  exact .inl (Sessions.of_setTxn_none hu).2

theorem Inv.commit (h : Inv lib s) {answers : List Answer} (ht : s.txns i = some t) {locked : Row}
    (hholds : rowLock.holds t = [((), locked)]) (hrow : Advances s.db.row row)
    (hlogged : Logged ⟨row, answers⟩) :
    Inv lib { (s.setTxn i none) with db := ⟨row, answers⟩ } := by
  refine h.next (.commit ?_) ?_ hrow hlogged
  · intro k hnot
    refine absurd ?_ (hnot locked)
    rw [Discipline.held_of_txn ht, hholds]
    exact List.mem_singleton_self _
  · intro j u hu
    exact .inl (Sessions.of_setTxn_none hu).2

/-- The statement of a request whose row it has locked. -/
theorem Inv.written (h : Inv lib s) {request : Request} {locked pending : Row}
    (ht : s.txns i = some (.written request locked pending)) :
    ∃ write, Planned lib request s.db.row.inventory write ∧ locked = s.db.row ∧
      pending = { s.db.row with inventory := write.change s.db.row.inventory } := by
  obtain ⟨write, hplan, hpending⟩ := h.txns i _ ht
  have hlocked : locked = s.db.row := h.locked ht rfl
  subst hlocked
  exact ⟨write, plan_ok hplan, rfl, hpending⟩

theorem Planned.advances {request : Request} (h : Planned lib request row.inventory write) :
    row.version < ({ row with inventory := write.change row.inventory } : Row).version := by
  show row.inventory.version < (write.change row.inventory).version
  rw [h.change]
  omega

/-- **Step lemma**. -/
theorem Inv.step (h : Inv lib s) (hstep : Step lib s l s') : Inv lib s' := by
  have hopen : ∀ {i t}, s.txns i = none → ¬ rowLock.Locked s () →
      rowLock.holds t = [((), s.db.row)] → rowLock.Move s (s.setTxn i (some t)) :=
    fun hidle hfree hholds => .lockFirst (Discipline.held_of_idle hidle) hfree rfl hholds
  cases hstep with
  | invalid hidle hrefusal =>
    refine h.next (.background (fun _ _ => rfl)) (fun _ _ => .inl) (.refl _)
      (h.logged.append (by simp) ?_)
    intro ⟨v, hfound, _⟩
    cases hfound
  | refused hidle hvalid hplan =>
    refine h.next (.background (fun _ _ => rfl)) (fun _ _ => .inl) (.refl _)
      (h.logged.append (by simp) ?_)
    intro ⟨v, hfound, hne⟩
    cases hfound
    rw [plan_stale hplan hne]
    simp [Answer.expected]
  | read hidle hvalid hplan =>
    refine h.proceed (.proceed ?_) ⟨hplan, .inl rfl⟩
    rw [Discipline.held_of_idle hidle]
    rfl
  | @updated i request before write ht hfree hguard =>
    -- The version is that of the request, so the row is the one that was read.
    obtain ⟨hplan, hbefore⟩ := h.txns i _ ht
    have hplanned := plan_ok hplan
    have hsame : before = s.db.row.inventory := by
      refine hbefore.resolve_right ?_
      have hversion : s.db.row.version = request.version := hplanned.guard _ hguard
      rw [hplanned.version, hversion]
      exact Int.lt_irrefl _
    refine h.proceed (.lockFirst ?_ hfree rfl rfl) ⟨write, hsame ▸ hplan, rfl⟩
    rw [Discipline.held_of_txn ht]
    rfl
  | @violated i request before write e ht hfree hguard he =>
    refine h.answer (by simp) ?_
    intro ⟨v, hfound, hne⟩
    cases hfound
    exact absurd ((plan_ok (h.txns i _ ht).1).guard _ hguard) hne
  | @missed i request before write ht hfree hguard =>
    refine h.answer (by simp) ?_
    intro hstale
    rw [(plan_ok (h.txns i _ ht).1).missed]
    simp [Answer.expected]
  | @sheetFirst i write hidle hfree =>
    exact h.proceed (hopen hidle hfree rfl) ⟨rfl, write.version_lt _⟩
  | @sheetNext i locked pending write ht =>
    obtain ⟨heffective, hadvances⟩ := h.txns i _ ht
    refine h.proceed (.proceed (by rw [Discipline.held_of_txn ht]; rfl)) ⟨heffective, ?_⟩
    -- The version only grows, whichever of the statements change the row.
    unfold Advances Row.version at hadvances ⊢
    obtain hsame | hlt := write.version_lt pending.inventory
    · rw [hsame]
      exact hadvances
    · right
      obtain hkept | hgrown := hadvances
      · rw [hkept] at hlt ⊢
        exact hlt
      · exact Int.lt_trans hgrown hlt
  | complete hidle hfree hwrite => exact h.proceed (hopen hidle hfree rfl) rfl
  | @committed i request locked pending ht =>
    obtain ⟨write, hplanned, rfl, rfl⟩ := h.written ht
    exact h.commit ht rfl (.inr hplanned.advances)
      (h.logged.commit hplanned.version.symm hplanned.advances)
  | @imported i locked pending ht =>
    obtain ⟨-, hadvances⟩ := h.txns i _ ht
    rw [h.locked ht rfl] at hadvances
    exact h.commit ht rfl hadvances (h.logged.advance hadvances)
  | @completed i locked pending ht =>
    have hkept : pending.inventory = locked.inventory := h.txns i _ ht
    rw [h.locked ht rfl] at hkept
    exact h.commit ht rfl (.inl hkept) (h.logged.advance (.inl hkept))
  | failedReady ht =>
    refine h.answer (by simp) ?_
    intro ⟨v, hfound, _⟩
    cases hfound
  | failedWritten ht =>
    refine h.answer (by simp) ?_
    intro ⟨v, hfound, _⟩
    cases hfound
  | rolledBack ht hready hwritten =>
    refine h.next .rollback ?_ (.refl _) h.logged
    intro j u hu
    exact .inl (Sessions.of_setTxn_none hu).2

theorem inv_reachable (h : (updateSystem lib).Reachable s) : Inv lib s := by
  refine LTS.System.invariant (P := Inv lib) ?_ (fun _ _ _ hinv hstep => hinv.step hstep) h
  intro s ⟨hidle, hanswers⟩
  refine ⟨Discipline.consistent_of_idle hidle, ?_, ?_⟩
  · intro i t ht
    rw [hidle i] at ht
    cases ht
  · have hnone : committedVersions s.db.answers = [] := by
      rw [hanswers]
      rfl
    exact ⟨by simp [hnone], by simp [hnone], by simp [hanswers]⟩

/-! ### What a step does to the row -/

/-- What the commit of a transaction does: a request leaves the effective columns,
    raises the version and writes what it computes from the row it replaces; an import
    leaves the effective columns and raises the version if it writes at all; monitoring leaves the inventory columns, the version among them. -/
def CommitEffect (lib : Library) (row row' : Row) : Txn → Prop
  | .ready _ _ _ => row' = row
  | .written request _ _ => row'.effective = row.effective ∧ row.version < row'.version ∧
      request.result lib row.inventory = .ok row'.inventory
  | .importing _ _ => row'.effective = row.effective ∧ Advances row row'
  | .completing _ _ => row'.inventory = row.inventory

/-- Only commits write the row, and an answer other than a commit has no effect. -/
structure Effect (lib : Library) (s : State) (l : Label) (s' : State) : Prop where
  others : (∀ i, l ≠ .commit i) → s'.db.row = s.db.row
  refusals : ∀ a, s'.db.answers = s.db.answers ++ [a] → a.outcome ≠ .committed →
    s'.db.row = s.db.row
  commits : ∀ i t, l = .commit i → s.txns i = some t → CommitEffect lib s.db.row s'.db.row t

/-- A step that keeps the row and is no commit. -/
theorem Effect.of_keep (hl : ∀ i, l ≠ .commit i) (hrow : s'.db.row = s.db.row) :
    Effect lib s l s' where
  others _ := hrow
  refusals _ _ _ := hrow
  commits i _ h := absurd h (hl i)

theorem Effect.of_commit (ht : s.txns i = some t)
    (hrefusals : ∀ a, s'.db.answers = s.db.answers ++ [a] → a.outcome = .committed)
    (hcommit : CommitEffect lib s.db.row s'.db.row t) : Effect lib s (.commit i) s' where
  others hl := absurd rfl (hl i)
  refusals a ha houtcome := absurd (hrefusals a ha) houtcome
  commits j u hj hu := by
    cases hj
    rw [ht] at hu
    cases hu
    exact hcommit

theorem Inv.effect (h : Inv lib s) (hstep : Step lib s l s') : Effect lib s l s' := by
  cases hstep with
  | @committed i request locked pending ht =>
    obtain ⟨write, hplanned, rfl, rfl⟩ := h.written ht
    refine .of_commit ht ?_ ⟨rfl, hplanned.advances, hplanned.result⟩
    intro a ha
    have hlast := List.append_cancel_left ha
    cases hlast
    rfl
  | @imported i locked pending ht =>
    obtain ⟨heffective, hadvances⟩ := h.txns i _ ht
    rw [h.locked ht rfl] at heffective hadvances
    exact .of_commit ht (fun a ha => absurd ha (by simp)) ⟨heffective, hadvances⟩
  | @completed i locked pending ht =>
    have hkept : pending.inventory = locked.inventory := h.txns i _ ht
    rw [h.locked ht rfl] at hkept
    exact .of_commit ht (fun a ha => absurd ha (by simp)) hkept
  | _ => exact .of_keep (by simp) rfl

end

/-! ### Versions decide -/

/-- Every request that found another version than its own was answered
    `ErrConflict`. -/
def LosersConflict : Prop :=
  ∀ a ∈ answers, a.Stale → a.outcome = .refused .conflict

/-- No `Patch` executed its `UPDATE` after the version had moved on. -/
def NoStalePatch : Prop :=
  ∀ a ∈ answers, a.request.isPatch = true → a.stage = .update → ¬ a.Stale

theorem Logged.losersConflict_iff {store : Store} (h : Logged store) :
    LosersConflict store.answers ↔ NoStalePatch store.answers := by
  constructor
  · intro hlosers a ha hpatch hstage hstale
    have hexpected := h.stale a ha hstale
    rw [hlosers a ha hstale, Answer.expected, if_pos ⟨hpatch, hstage⟩] at hexpected
    cases hexpected
  · intro hnone a ha hstale
    rw [h.stale a ha hstale, Answer.expected, if_neg]
    intro ⟨hpatch, hstage⟩
    exact hnone a ha hpatch hstage hstale

def sampleRow : Row where
  inventory := sampleDomain .active true
  effective :=
    { current := ⟨.unknown, .unknown, .unknown, .unknown, .unknown, .unknown, .unknown⟩
      confidence := 0
      failureStreak := 0
      successStreak := 0
      failureStage := none
      errorCode := none
      lastCheckedAt := none }

/-- A patch of version 1 that changes the notes. -/
def notesPatch (notes : String) : Request := .patch
  { version := 1, domain := none, registrarID := none, clearRegistrar := false
    businessPriority := none, monitoringEnabled := none, expectedContentMode := none
    expirationAt := none, clearExpiration := false, notes := some (lit notes)
    renewalDecision := none }

def firstWrite : Write :=
  .update 1 { sampleDomain .active true with notes := lit "first", version := 2 }

/-- The row after the first patch. -/
def patchedRow : Row :=
  { sampleRow with inventory := firstWrite.change sampleRow.inventory }

/-- Both requests have read the row at version 1. -/
def bothRead (request : Request) (write : Write) : State :=
  Sessions.setTxn (Sessions.setTxn ⟨⟨sampleRow, []⟩, fun _ => none⟩ 1
    (some (.ready (notesPatch "first") sampleRow.inventory firstWrite))) 2
    (some (.ready request sampleRow.inventory write))

/-- The first one has committed. -/
def firstCommitted (request : Request) (write : Write) : State :=
  { ((bothRead request write).setTxn 1
      (some (.written (notesPatch "first") sampleRow patchedRow))).setTxn 1 none with
    db := ⟨patchedRow, [⟨notesPatch "first", .update, some 1, .committed⟩]⟩ }

/-- The second one executes its `UPDATE`. -/
def secondLate (request : Request) (write : Write) : State :=
  answering ((firstCommitted request write).setTxn 2 none)
    ⟨request, .update, some 2, .refused write.missed⟩

theorem not_locked {s : State} (h : ∀ i t, s.txns i = some t → rowLock.holds t = []) :
    ¬ rowLock.Locked s () := by
  intro ⟨i, r, hheld⟩
  cases ht : s.txns i with
  | none =>
    rw [Discipline.held_of_idle ht] at hheld
    cases hheld
  | some t =>
    rw [Discipline.held_of_txn ht, h i t ht] at hheld
    cases hheld

theorem bothRead_holds {request : Request} :
    ∀ i t, (bothRead request write).txns i = some t → rowLock.holds t = [] := by
  intro i t ht
  obtain ⟨-, ht⟩ | ⟨-, ht⟩ := Sessions.setTxn_cases ht
  · obtain ⟨-, ht⟩ | ⟨-, ht⟩ := Sessions.setTxn_cases ht
    · cases ht
    · cases ht
      rfl
  · cases ht
    rfl

theorem secondLate_reachable {request : Request} (hvalid : request.refusal = none)
    (hplan : request.plan Sheets.sampleLibrary.toLibrary sampleRow.inventory = .ok write)
    (hmiss : write.guard patchedRow.inventory = false) :
    (updateSystem Sheets.sampleLibrary.toLibrary).Reachable (secondLate request write) := by
  have hinit : (updateSystem Sheets.sampleLibrary.toLibrary).Reachable
      ⟨⟨sampleRow, []⟩, fun _ => none⟩ := .init ⟨fun _ => rfl, rfl⟩
  have hfirst : (notesPatch "first").plan Sheets.sampleLibrary.toLibrary sampleRow.inventory =
      .ok firstWrite := rfl
  -- No session holds the row before the first `UPDATE` and after the first commit.
  have hfree : ¬ rowLock.Locked (bothRead request write) () := not_locked bothRead_holds
  have hfree' : ¬ rowLock.Locked (firstCommitted request write) () := by
    refine not_locked (fun i t ht => ?_)
    by_cases hi : i = 1
    · rw [hi] at ht
      cases ht
    · have hread : (bothRead request write).txns i = some t := by
        rw [← Sessions.setTxn_ne (bothRead request write)
          (some (.written (notesPatch "first") sampleRow patchedRow)) hi,
          ← Sessions.setTxn_ne _ none hi]
        exact ht
      exact bothRead_holds i t hread
  have hread : (updateSystem Sheets.sampleLibrary.toLibrary).Reachable (bothRead request write) :=
    .step (.read 2 request) (.step (.read 1 (notesPatch "first")) hinit (.read rfl rfl hfirst))
      (.read rfl hvalid hplan)
  have hcommitted : (updateSystem Sheets.sampleLibrary.toLibrary).Reachable
      (firstCommitted request write) :=
    .step (.commit 1) (.step (.update 1 none) hread (.updated rfl hfree rfl))
      (@Step.committed _ _ 1 (notesPatch "first") sampleRow patchedRow rfl)
  exact .step (.update 2 none) hcommitted (.missed rfl hfree' hmiss)

end DomainMonitor.Updates
