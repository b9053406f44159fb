import DomainMonitor.Lib.Transition
import DomainMonitor.Audit.Store

/-! # The audit chain (`internal/audit/store.go`)

    Transactions of any number of processes that append to the audit log. The
    advisory lock is taken by the first `AppendTx` of a transaction and held to its
    end, so one transaction at a time has rows that are not committed, and rows are
    committed in the order in which they were inserted.

    The order of insertion and the order of the clocks are two things: the log is
    one linear chain exactly when they agree.
-/

namespace DomainMonitor.Audit

open HashChain

/-! ### The system -/

structure State where
  /-- The committed rows, in the order of their insertion. -/
  log : List Row
  /-- The transaction that holds the lock, with the rows it has inserted. -/
  holder : Option (Nat × List Row)

inductive Action where
  | append (i : Nat)
  | commit (i : Nat)
  | rollback (i : Nat)

inductive Step (lib : Library) : State → Action → State → Prop where
  -- The query of `AppendTx` sees what is committed and what its transaction did.
  | lock {s : State} {i : Nat} {call : AppendCall} {row : Row} (hfree : s.holder = none)
      (h : appendTx lib call s.log = some row) :
      Step lib s (.append i) { s with holder := some (i, [row]) }
  | append {s : State} {i : Nat} {rows : List Row} {call : AppendCall} {row : Row}
      (hheld : s.holder = some (i, rows)) (h : appendTx lib call (s.log ++ rows) = some row) :
      Step lib s (.append i) { s with holder := some (i, rows ++ [row]) }
  | commit {s : State} {i : Nat} {rows : List Row} (hheld : s.holder = some (i, rows)) :
      Step lib s (.commit i) { log := s.log ++ rows, holder := none }
  -- Also after an `INSERT` that was refused, or a crash.
  | rollback {s : State} {i : Nat} {rows : List Row} (hheld : s.holder = some (i, rows)) :
      Step lib s (.rollback i) { s with holder := none }

def system (lib : Library) : LTS.System State Action where
  init s := s.log = [] ∧ s.holder = none
  step := Step lib

/-! ### What every log satisfies -/

/-- Every entry names the greatest of the rows before it, and ids and hashes are
    unique. -/
structure Wellformed (log : List Row) : Prop where
  chained : Chained Row.prevHash previousHash log
  ids : (log.map Row.id).Nodup
  hashes : (log.map Row.entryHash).Nodup
  nonempty : ∀ row ∈ log, row.entryHash ≠ []

theorem Wellformed.nil : Wellformed [] :=
  ⟨chained_nil _, List.nodup_nil, List.nodup_nil, fun _ h => absurd h List.not_mem_nil⟩

variable {lib : Library} {log : List Row}

theorem Wellformed.append {call : AppendCall} {row : Row} (hlog : Wellformed log)
    (h : appendTx lib call log = some row) : Wellformed (log ++ [row]) := by
  obtain ⟨hprev, hhash, -, hid, hfresh⟩ := appendTx_spec h
  have hconcat : ∀ {β : Type} {f : Row → β}, (log.map f).Nodup → f row ∉ log.map f →
      ((log ++ [row]).map f).Nodup := by
    intro β f hnodup hnew
    rw [List.map_append, List.map_singleton, List.nodup_append]
    refine ⟨hnodup, List.nodup_singleton _, ?_⟩
    intro a ha b hb
    rw [List.mem_singleton.mp hb]
    exact fun heq => hnew (heq ▸ ha)
  refine ⟨chained_concat.mpr ⟨hlog.chained, hprev⟩, hconcat hlog.ids hid,
    hconcat hlog.hashes hfresh, ?_⟩
  intro r hr
  rcases List.mem_append.mp hr with hr | hr
  · exact hlog.nonempty r hr
  · rw [List.mem_singleton.mp hr, hhash]
    intro hempty
    have hlength := lib.sha256_length (canonical (call.fields log))
    rw [show lib.sha256 (canonical (call.fields log)) = [] from hempty] at hlength
    cases hlength

/-- The invariant: the committed rows, and those rows with what the open transaction
    has added to them. -/
def Inv (s : State) : Prop :=
  Wellformed s.log ∧ ∀ i rows, s.holder = some (i, rows) → Wellformed (s.log ++ rows)

theorem inv_step {s s' : State} {a : Action} (hs : Inv s) (h : Step lib s a s') : Inv s' := by
  cases h with
  | lock hfree h =>
    refine ⟨hs.1, ?_⟩
    intro i rows hheld
    cases hheld
    exact hs.1.append h
  | append hheld h =>
    refine ⟨hs.1, ?_⟩
    intro i rows hheld'
    cases hheld'
    rw [← List.append_assoc]
    exact (hs.2 _ _ hheld).append h
  | commit hheld => exact ⟨hs.2 _ _ hheld, fun i rows hnone => by cases hnone⟩
  | rollback hheld => exact ⟨hs.1, fun i rows hnone => by cases hnone⟩

theorem inv_reachable {s : State} (h : (system lib).Reachable s) : Inv s := by
  refine LTS.System.invariant (P := Inv) ?_ (fun _ _ _ hs hl => inv_step hs hl) h
  rintro s ⟨hlog, hholder⟩
  refine ⟨hlog ▸ Wellformed.nil, ?_⟩
  intro i rows hheld
  rw [hholder] at hheld
  cases hheld

/-! ### Linear chains -/

/-- One linear chain: every entry names the one inserted right before it, no two name
    the same one, and all are reached from the last. -/
structure Linear (log : List Row) : Prop where
  linked : Chained Row.prevHash (tip Row.entryHash []) log
  unique : ((log.map Row.prevHash).filter (· ≠ [])).Nodup
  reached : ∀ last, log.getLast? = some last →
    ∀ row ∈ log, Relation.ReflTransGen (Names Row.entryHash Row.prevHash log) last row

theorem Wellformed.linear (h : Wellformed log)
    (hlinked : Chained Row.prevHash (tip Row.entryHash []) log) : Linear log where
  linked := hlinked
  unique := (hlinked.nodup_prev h.hashes h.nonempty).filter _
  reached _ hlast := hlinked.reaches hlast

/-- Rows with different ids have different places in the order. -/
theorem Wellformed.distinguishes (h : Wellformed log) : OrderBy.Distinguishes Row.order log := by
  intro a ha b hb hab
  have hid : a.id = b.id := congrArg (fun k => (ofLex k).2) hab
  exact List.inj_on_of_nodup_map h.ids ha hb hid

/-- **The chain is linear exactly when the clocks ascend**: in every reachable state
    the committed log is one linear chain if and only if its rows, the last one apart,
    were inserted in the order of `created_at` and, within a microsecond, of their
    ids. -/
theorem audit_chain_linear_iff {lib : Library} {s : State} (h : (system lib).Reachable s) :
    Linear s.log ↔ s.log.dropLast.Pairwise (fun a b => a.order ≤ b.order) := by
  have hlog := (inv_reachable h).1
  rw [← linear_iff_ascending hlog.chained hlog.hashes hlog.distinguishes]
  exact ⟨Linear.linked, hlog.linear⟩

/-! ### Runs -/

/-- The log after three transactions with one entry each, at these times. -/
def sampleLog (t₁ t₂ t₃ : Int) : Option (List Row) := do
  let first ← appendTx sampleLibrary (sampleCall 1 t₁) []
  let second ← appendTx sampleLibrary (sampleCall 2 t₂) [first]
  let third ← appendTx sampleLibrary (sampleCall 3 t₃) [first, second]
  return [first, second, third]

theorem sampleLog_reachable {t₁ t₂ t₃ : Int} (h : sampleLog t₁ t₂ t₃ = some log) :
    (system sampleLibrary).Reachable ⟨log, none⟩ := by
  simp only [sampleLog, Option.bind_eq_bind, Option.bind_eq_some_iff] at h
  obtain ⟨first, h₁, second, h₂, third, h₃, hlog⟩ := h
  cases hlog
  have hone : ∀ {log : List Row} {call : AppendCall} {row : Row},
      (system sampleLibrary).Reachable ⟨log, none⟩ → appendTx sampleLibrary call log = some row →
      (system sampleLibrary).Reachable ⟨log ++ [row], none⟩ := by
    intro log call row hr h
    exact .step (.commit 0) (.step (.append 0) hr (.lock rfl h)) (.commit rfl)
  exact hone (hone (hone (.init ⟨rfl, rfl⟩) h₁) h₂) h₃

/-- Three entries, a microsecond apart. -/
theorem audit_chain_linear_ascending :
    ∃ log, (system sampleLibrary).Reachable ⟨log, none⟩ ∧ log.length = 3 ∧ Linear log := by
  have hsome : ((sampleLog 1000 2000 3000).filter (fun log => log.length = 3 ∧
      log.dropLast.Pairwise (fun a b => a.order ≤ b.order))).isSome = true := by decide +kernel
  obtain ⟨log, hlog⟩ := Option.isSome_iff_exists.mp hsome
  obtain ⟨hlog, hprops⟩ := Option.filter_eq_some_iff.mp hlog
  have hprops := of_decide_eq_true hprops
  have hr := sampleLog_reachable hlog
  exact ⟨log, hr, hprops.1, (audit_chain_linear_iff hr).mpr hprops.2⟩

/-- The clock steps back by a microsecond after the first entry: the third entry names
    the first one again. -/
theorem clock_step_forks_chain :
    ∃ log, (system sampleLibrary).Reachable ⟨log, none⟩ ∧ ¬ Linear log := by
  have hsome : ((sampleLog 2000 1000 3000).filter (fun log =>
      ¬ ((log.map Row.prevHash).filter (· ≠ [])).Nodup)).isSome = true := by decide +kernel
  obtain ⟨log, hlog⟩ := Option.isSome_iff_exists.mp hsome
  obtain ⟨hlog, hforked⟩ := Option.filter_eq_some_iff.mp hlog
  exact ⟨log, sampleLog_reachable hlog, fun hlinear => of_decide_eq_true hforked hlinear.unique⟩

end DomainMonitor.Audit
