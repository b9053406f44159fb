import DomainMonitor.Lib.Transition

/-! # Row locks

    Transactions that read rows under `SELECT ... FOR UPDATE`, compute from what
    they read, and write when they commit. A lock is held until its transaction
    ends, a lock that is taken makes others wait (or skip the row), and a commit
    writes only rows its transaction has locked.

    The module has

    - `Discipline`: which rows an open transaction has locked, and what it read;
    - `Move`: what a step may do under that discipline;
    - `Consistent`: a row that was read under a lock is still what is committed,
      which every move preserves (`Move.consistent`).

    So a system whose steps are moves may be reasoned about as if each transaction
    read its rows at the moment it commits.
-/

namespace RowLock

variable {DB Txn Key Row Label : Type}

/-! ### Sessions -/

/-- The committed database and the open transactions. -/
structure Sessions (DB Txn : Type) where
  db : DB
  txns : Nat → Option Txn

variable (s : Sessions DB Txn) (i : Nat) (t : Option Txn)

def Sessions.setTxn : Sessions DB Txn :=
  { s with txns := fun j => if j = i then t else s.txns j }

@[simp] theorem Sessions.setTxn_self :
    (s.setTxn i t).txns i = t := if_pos rfl

@[simp] theorem Sessions.setTxn_ne {i j : Nat} (h : j ≠ i) :
    (s.setTxn i t).txns j = s.txns j := if_neg h

@[simp] theorem Sessions.setTxn_db :
    (s.setTxn i t).db = s.db := rfl

/-- The transactions after one session moves on: those of the others, and its own. -/
theorem Sessions.setTxn_cases {s : Sessions DB Txn} {i j : Nat} {t : Option Txn} {u : Txn}
    (h : (s.setTxn i t).txns j = some u) : (j ≠ i ∧ s.txns j = some u) ∨ (j = i ∧ t = some u) := by
  by_cases hj : j = i
  · rw [hj, Sessions.setTxn_self] at h
    exact .inr ⟨hj, h⟩
  · rw [Sessions.setTxn_ne s t hj] at h
    exact .inl ⟨hj, h⟩

theorem Sessions.of_setTxn_none {s : Sessions DB Txn} {i j : Nat} {u : Txn}
    (h : (s.setTxn i none).txns j = some u) : j ≠ i ∧ s.txns j = some u :=
  (Sessions.setTxn_cases h).resolve_right (fun ⟨_, hnone⟩ => nomatch hnone)

/-! ### The discipline -/

/-- The rows of a database, and the rows a transaction has locked with the values
    it read there. -/
structure Discipline (DB Txn Key Row : Type) where
  row : DB → Key → Option Row
  holds : Txn → List (Key × Row)

namespace Discipline

variable (L : Discipline DB Txn Key Row)

/-- What transaction `i` has locked. -/
def held (s : Sessions DB Txn) (i : Nat) : List (Key × Row) := (s.txns i).elim [] L.holds

/-- Some transaction has locked the row. -/
def Locked (s : Sessions DB Txn) (k : Key) : Prop := ∃ i r, (k, r) ∈ L.held s i

/-- What a step may do. -/
inductive Move : Sessions DB Txn → Sessions DB Txn → Prop where
  /-- `SELECT ... FOR UPDATE`: reads rows that are free and adds them to what the
      transaction has locked. A statement that locks nothing adds no rows. -/
  | lock {s : Sessions DB Txn} {i : Nat} {t : Txn} (rows : List (Key × Row))
      (hfree : ∀ p ∈ rows, ¬ L.Locked s p.1) (hrow : ∀ p ∈ rows, L.row s.db p.1 = some p.2)
      (hholds : L.holds t = L.held s i ++ rows) : Move s (s.setTxn i (some t))
  | rollback {s : Sessions DB Txn} {i : Nat} : Move s (s.setTxn i none)
  | commit {s : Sessions DB Txn} {i : Nat} {db' : DB}
      (h : ∀ k, (∀ r, (k, r) ∉ L.held s i) → L.row db' k = L.row s.db k) :
      Move s { (s.setTxn i none) with db := db' }
  /-- Transactions outside the model: they wait for the locks, too. -/
  | background {s : Sessions DB Txn} {db' : DB}
      (h : ∀ k, L.Locked s k → L.row db' k = L.row s.db k) :
      Move s { s with db := db' }

/-- Locks are exclusive, and what was read under a lock is still committed. -/
structure Consistent (s : Sessions DB Txn) : Prop where
  exclusive : ∀ {i j k r r'}, (k, r) ∈ L.held s i → (k, r') ∈ L.held s j → i = j
  read : ∀ {i k r}, (k, r) ∈ L.held s i → L.row s.db k = some r

variable {L} {s s' : Sessions DB Txn}

variable {i : Nat} {t : Txn}

theorem held_of_txn (h : s.txns i = some t) : L.held s i = L.holds t := by
  rw [held, h]
  rfl

theorem held_of_idle (h : s.txns i = none) : L.held s i = [] := by
  rw [held, h]
  rfl

/-- A statement that locks nothing. -/
theorem Move.proceed (h : L.holds t = L.held s i) :
    L.Move s (s.setTxn i (some t)) :=
  .lock [] (fun _ hp => absurd hp List.not_mem_nil) (fun _ hp => absurd hp List.not_mem_nil)
    (by rw [h, List.append_nil])

/-- One row is locked, by a transaction that has locked nothing yet. -/
theorem Move.lockFirst {k : Key} {r : Row} (hnone : L.held s i = []) (hfree : ¬ L.Locked s k)
    (hrow : L.row s.db k = some r) (hholds : L.holds t = [(k, r)]) :
    L.Move s (s.setTxn i (some t)) := by
  refine .lock [(k, r)] ?_ ?_ (by rw [hnone, hholds]; rfl)
  · intro p hp
    rw [List.mem_singleton.mp hp]
    exact hfree
  · intro p hp
    rw [List.mem_singleton.mp hp]
    exact hrow

theorem consistent_of_idle (h : ∀ i, s.txns i = none) : L.Consistent s where
  exclusive := by
    intro i j k r r' hi
    rw [held_of_idle (h i)] at hi
    cases hi
  read := by
    intro i k r hi
    rw [held_of_idle (h i)] at hi
    cases hi

theorem held_setTxn (j : Nat) (t : Option Txn) :
    L.held (s.setTxn i t) j = if j = i then t.elim [] L.holds else L.held s j := by
  by_cases hj : j = i
  · rw [if_pos hj, hj, held, Sessions.setTxn_self]
  · rw [if_neg hj, held, Sessions.setTxn_ne s t hj, held]

/-- A transaction that ends gives its locks back; the others keep theirs. -/
theorem mem_held_release {j : Nat} {p : Key × Row} (h : p ∈ L.held (s.setTxn i none) j) :
    j ≠ i ∧ p ∈ L.held s j := by
  rw [held_setTxn] at h
  split at h
  · cases h
  · exact ⟨‹_›, h⟩

theorem Consistent.release (hs : L.Consistent s) (i : Nat) : L.Consistent (s.setTxn i none) where
  exclusive ha hb := hs.exclusive (mem_held_release ha).2 (mem_held_release hb).2
  read ha := hs.read (mem_held_release ha).2

/-- **Step lemma**: every move keeps the discipline consistent. -/
theorem Move.consistent (hs : L.Consistent s) (h : L.Move s s') : L.Consistent s' := by
  cases h with
  | @lock i t rows hfree hrow hholds =>
    -- A row that is held now was held before, or it is one of the new rows.
    have hheld : ∀ {j p}, p ∈ L.held (s.setTxn i (some t)) j →
        p ∈ L.held s j ∨ (j = i ∧ p ∈ rows) := by
      intro j p hp
      rw [held_setTxn] at hp
      by_cases hji : j = i
      · rw [if_pos hji, Option.elim_some, hholds, List.mem_append] at hp
        rcases hp with hp | hp
        · exact .inl (hji ▸ hp)
        · exact .inr ⟨hji, hp⟩
      · rw [if_neg hji] at hp
        exact .inl hp
    constructor
    · intro a b k r r' ha hb
      rcases hheld ha with ha' | ⟨ha', hka⟩ <;> rcases hheld hb with hb' | ⟨hb', hkb⟩
      · exact hs.exclusive ha' hb'
      · exact absurd ⟨a, r, ha'⟩ (hfree _ hkb)
      · exact absurd ⟨b, r', hb'⟩ (hfree _ hka)
      · exact ha'.trans hb'.symm
    · intro a k r ha
      rcases hheld ha with ha' | ⟨-, hka⟩
      · exact hs.read ha'
      · exact hrow _ hka
  | @rollback i => exact hs.release i
  | @commit i db' h =>
    refine ⟨(hs.release i).exclusive, ?_⟩
    intro j k r hj
    have hj' : (k, r) ∈ L.held (s.setTxn i none) j := hj
    obtain ⟨hji, hj'⟩ := mem_held_release hj'
    -- Another transaction's row is not among those the committing one has locked.
    show L.row db' k = some r
    rw [h k (fun r' hi => hji (hs.exclusive hj' hi))]
    exact hs.read hj'
  | background h =>
    refine ⟨hs.exclusive, ?_⟩
    intro j k r hj
    show L.row _ k = some r
    rw [h k ⟨j, r, hj⟩]
    exact hs.read hj

/-- **Run lemma**: a system whose steps are moves is consistent in every reachable
    state. -/
theorem consistent_reachable {sys : LTS.System (Sessions DB Txn) Label}
    (hinit : ∀ s, sys.init s → ∀ i, s.txns i = none)
    (hstep : ∀ s l s', sys.Reachable s → L.Consistent s → sys.step s l s' → L.Move s s')
    (h : sys.Reachable s) : L.Consistent s :=
  LTS.System.invariant_under (fun _ hr => hr) (fun s hs => consistent_of_idle (hinit s hs))
    (fun s l s' hr hs hl => (hstep s l s' hr hs hl).consistent hs) h

end Discipline

end RowLock
