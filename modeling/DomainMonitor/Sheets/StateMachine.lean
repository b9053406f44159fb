import DomainMonitor.Lib.RowLock
import DomainMonitor.Sheets.Fixpoint

/-! # The life of an import

    `Apply` and `Reject` as transactions that run side by side. Each locks the row
    of its import (`SELECT ... FOR UPDATE`), answers at once when the import is
    decided already, and otherwise decides it: `Apply` enters its key into the
    unique index over `apply_idempotency_key`, which waits for a transaction that
    entered the same key and refuses a key that is committed, and then commits the
    rows together with the new status.

    The rows take effect with the commit; what other transactions do to the
    inventory in the meantime is not restricted.
-/

namespace DomainMonitor.Sheets

open Utf8 Inventory RowLock

/-! ### Calls -/

inductive ImportCall where
  | apply (call : ApplyCall)
  | reject (importID : UUID) (reason : GoString) (now : Int)

variable (pg : Postgres)

namespace ImportCall

def importID : ImportCall → UUID
  | .apply call => call.importID
  | .reject id _ _ => id

/-- Arguments that are refused before a transaction begins. -/
def refusal : ImportCall → Option Error
  | .apply call =>
    if applyKeyInvalid call then
      some (.validation (lit "idempotency key and reason are required"))
    else none
  | .reject _ reason _ => if trimSpace reason = [] then some (.validation (lit "reason")) else none

/-- The answer to a call that found its import decided. -/
def reply (item : Import) : ImportCall → Option (Except Error Import)
  | .apply call =>
    if item.status = .applied then
      if item.applyIdempotencyKey = some (trimSpace call.key) then some (.ok item)
      else some (.error .conflict)
    else if item.status ≠ .preview then some (.error .conflict)
    else none
  | .reject _ _ _ => if item.status ≠ .preview then some (.error .conflict) else none

/-- What a call that decides its import commits. -/
def outcome (item : Import) (db : DB) : ImportCall → Except Error (DB × Import)
  | .apply call => do
    let (inventory, applied) ← applyRows pg call item db.inventory
    .ok
      ({ inventory := inventory
         imports := db.imports.modify item.id
           (Import.apply (trimSpace call.key) call.goNow applied) (call.apply_id applied) },
        item.apply (trimSpace call.key) call.goNow applied)
  | .reject _ _ now =>
    .ok
      ({ db with imports := db.imports.modify item.id (Import.reject now) (Import.reject_id _) },
        item.reject now)

end ImportCall

/-- Alone, a call of `Apply` is its refusal, its reply or its outcome. -/
theorem apply_eq (call : ApplyCall) (db : DB) :
    apply pg call db =
      match (ImportCall.apply call).refusal with
      | some e => .error e
      | none =>
        match db.imports.get? call.importID with
        | none => .error .notFound
        | some item =>
          match (ImportCall.apply call).reply item with
          | some answer => answer.map (fun found => (db, found))
          | none =>
            ((ImportCall.apply call).outcome pg item db).bind (fun result =>
              if keyTaken db.imports item.id (trimSpace call.key) then .error .database
              else .ok result) := by
  simp only [apply, ImportCall.refusal, ImportCall.reply, ImportCall.outcome]
  by_cases hinvalid : applyKeyInvalid call = true
  · simp [hinvalid]
  · simp only [hinvalid, if_false, Bool.false_eq_true]
    cases hitem : db.imports.get? call.importID with
    | none => rfl
    | some item =>
      by_cases happlied : item.status = .applied
      · by_cases hkey : item.applyIdempotencyKey = some (trimSpace call.key) <;>
          simp [happlied, hkey, Except.map]
      · by_cases hpreview : item.status = .preview
        · simp only [hpreview, reduceCtorEq, if_false, ne_eq, not_true_eq_false]
          cases applyRows pg call item db.inventory <;> rfl
        · simp [happlied, hpreview, Except.map]

theorem reject_eq (importID : UUID) (reason : GoString) (now : Int) (db : DB) :
    reject importID reason now db =
      match (ImportCall.reject importID reason now).refusal with
      | some e => .error e
      | none =>
        match db.imports.get? importID with
        | none => .error .notFound
        | some item =>
          match (ImportCall.reject importID reason now).reply item with
          | some answer => answer.map (fun found => (db, found))
          | none => (ImportCall.reject importID reason now).outcome pg item db := by
  simp only [reject, ImportCall.refusal, ImportCall.reply, ImportCall.outcome]
  by_cases hreason : trimSpace reason = []
  · simp [hreason]
  · simp only [hreason, if_false]
    cases hitem : db.imports.get? importID with
    | none => rfl
    | some item =>
      by_cases hstatus : item.status = .preview <;> simp [hstatus, Except.map]

/-! ### Transactions -/

/-- A transaction that has locked its import: the row as it read it, and the key
    it has entered into the index. -/
structure Txn where
  call : ImportCall
  item : Import
  key : Option GoString

/-- The tables, and the imports whose rows were committed, in this order. -/
structure Store where
  db : DB
  log : List UUID

abbrev State : Type := Sessions Store Txn

/-- The lock on the row of the import. -/
def importLocks : Discipline Store Txn UUID Import where
  row := fun store k => store.db.imports.get? k
  holds := fun t => [(t.item.id, t.item)]

/-- What other transactions may do: previews add imports, and the inventory may
    change in any way. -/
structure Elsewhere (db db' : DB) : Prop where
  kept : ∀ k item, db.imports.get? k = some item → db'.imports.get? k = some item
  new : ∀ k item, db'.imports.get? k = some item → db.imports.get? k = none →
    item.status = .preview ∧ item.applyIdempotencyKey = none

inductive Label where
  /-- A call begins; it ends at once when it has an answer. -/
  | call (i : Nat) (c : ImportCall) (answer : Option (Except Error Import))
  /-- The guarded `UPDATE` of `Apply`. -/
  | update (i : Nat)
  /-- A transaction ends, and its call is answered. -/
  | done (i : Nat) (answer : Except Error Import)
  | background

inductive Step : State → Label → State → Prop where
  | refused {s : State} {i : Nat} {c : ImportCall} {e : Error} (hidle : s.txns i = none)
      (h : c.refusal = some e) : Step s (.call i c (some (.error e))) s
  | notFound {s : State} {i : Nat} {c : ImportCall} (hidle : s.txns i = none)
      (hvalid : c.refusal = none) (hnone : s.db.db.imports.get? c.importID = none) :
      Step s (.call i c (some (.error .notFound))) s
  | answered {s : State} {i : Nat} {c : ImportCall} {item : Import} {answer : Except Error Import}
      (hidle : s.txns i = none) (hvalid : c.refusal = none)
      (hitem : s.db.db.imports.get? c.importID = some item)
      (hfree : ¬ importLocks.Locked s c.importID) (h : c.reply item = some answer) :
      Step s (.call i c (some answer)) s
  | opened {s : State} {i : Nat} {c : ImportCall} {item : Import} (hidle : s.txns i = none)
      (hvalid : c.refusal = none) (hitem : s.db.db.imports.get? c.importID = some item)
      (hfree : ¬ importLocks.Locked s c.importID) (h : c.reply item = none) :
      Step s (.call i c none) (s.setTxn i (some ⟨c, item, none⟩))
  /-- The `UPDATE` changes one row, and its key is neither committed nor entered by
      another transaction, which it would wait for. -/
  | update {s : State} {i : Nat} {call : ApplyCall} {item row : Import}
      (ht : s.txns i = some ⟨.apply call, item, none⟩)
      (hrow : s.db.db.imports.get? item.id = some row) (hstatus : row.status = .preview)
      (hcommitted : keyTaken s.db.db.imports item.id (trimSpace call.key) = false)
      (hentered : ∀ j t, s.txns j = some t → t.key ≠ some (trimSpace call.key)) :
      Step s (.update i) (s.setTxn i (some ⟨.apply call, item, some (trimSpace call.key)⟩))
  | applied {s : State} {i : Nat} {call : ApplyCall} {item item' : Import} {db' : DB}
      (ht : s.txns i = some ⟨.apply call, item, some (trimSpace call.key)⟩)
      (h : (ImportCall.apply call).outcome pg item s.db.db = .ok (db', item')) :
      Step s (.done i (.ok item'))
        { (s.setTxn i none) with db := ⟨db', s.db.log ++ [item.id]⟩ }
  | rejected {s : State} {i : Nat} {id : UUID} {reason : GoString} {now : Int} {item row item' : Import}
      {db' : DB} (ht : s.txns i = some ⟨.reject id reason now, item, none⟩)
      (hrow : s.db.db.imports.get? item.id = some row) (hstatus : row.status = .preview)
      (h : (ImportCall.reject id reason now).outcome pg item s.db.db = .ok (db', item')) :
      Step s (.done i (.ok item')) { (s.setTxn i none) with db := ⟨db', s.db.log⟩ }
  /-- Any statement may fail, and the transaction is rolled back. -/
  | failed {s : State} {i : Nat} {t : Txn} (e : Error) (ht : s.txns i = some t) :
      Step s (.done i (.error e)) (s.setTxn i none)
  | background {s : State} {db' : DB} (h : Elsewhere s.db.db db') :
      Step s .background { s with db := ⟨db', s.db.log⟩ }

/-- Any set of imports that are not decided. -/
def importSystem : LTS.System State Label where
  init := fun s => (∀ i, s.txns i = none) ∧ s.db.log = [] ∧
    ∀ k item, s.db.db.imports.get? k = some item →
      item.status = .preview ∧ item.applyIdempotencyKey = none
  step := Step pg

/-! ### The rows that an apply counts -/

variable {item : Import}

theorem count_applyNext {pg : Postgres} {call : ApplyCall} {rows : List ImportRow}
    {state state' : Inventory.Tables × Nat}
    (h : rows.foldlM (applyNext pg call item) state = .ok state') :
    state'.2 = state.2 + rows.countP (fun row => !row.skipped) := by
  induction rows generalizing state with
  | nil =>
    cases h
    rfl
  | cons row rows ih =>
    rw [List.foldlM_cons, except_bind_ok] at h
    obtain ⟨next, hnext, hrest⟩ := h
    rw [ih hrest, List.countP_cons]
    unfold applyNext at hnext
    split at hnext
    · rename_i hskipped
      cases hnext
      simp [hskipped]
    · rename_i hskipped
      obtain ⟨db, -, hdone⟩ := except_bind_ok.mp hnext
      cases hdone
      simp only [hskipped, Bool.not_false, if_true]
      omega

/-- The valid rows whose action is not `INVALID`. -/
def Import.applicable (item : Import) : Nat :=
  item.rows.countP (fun row => row.valid && row.action ≠ .invalid)

theorem count_applyRows {pg : Postgres} {call : ApplyCall} {db inventory : Inventory.Tables}
    {applied : Nat} (h : applyRows pg call item db = .ok (inventory, applied)) :
    applied = item.applicable := by
  have hcount : applied = 0 + _ := count_applyNext h
  rw [Nat.zero_add] at hcount
  rw [hcount, (OrderBy.perm_orderBy _ item.rows).countP_eq]
  unfold Import.applicable
  congr 1
  funext row
  simp [ImportRow.skipped]

/-! ### The invariant -/

theorem keyTaken_eq_false {imports : Imports} {id : UUID} {key : GoString} :
    keyTaken imports id key = false ↔
      ∀ k item, imports.get? k = some item → k ≠ id → item.applyIdempotencyKey ≠ some key := by
  unfold keyTaken KeyedTable.any
  rw [List.any_eq_false]
  constructor
  · intro h k item hitem hk hkey
    obtain ⟨hmem, rfl⟩ := KeyedTable.get?_some hitem
    exact h item hmem (by simp [hk, hkey])
  · intro h item hmem htaken
    simp only [Bool.and_eq_true, decide_eq_true_eq] at htaken
    exact h item.id item (KeyedTable.get?_of_mem hmem) htaken.1 htaken.2

theorem reply_none {c : ImportCall} (h : c.reply item = none) : item.status = .preview := by
  by_contra hstatus
  cases c with
  | apply call =>
    simp only [ImportCall.reply, ne_eq, hstatus, not_false_eq_true, if_true] at h
    split at h
    · split at h <;> cases h
    · cases h
  | reject id reason now => simp [ImportCall.reply, hstatus] at h

/-- What is committed about each import. -/
structure Sound (store : Store) : Prop where
  /-- A key decides one import only. -/
  keys : ∀ k k' item item' key, store.db.imports.get? k = some item →
    store.db.imports.get? k' = some item' → item.applyIdempotencyKey = some key →
    item'.applyIdempotencyKey = some key → k = k'
  undecided : ∀ k item, store.db.imports.get? k = some item → item.status = .preview →
    item.applyIdempotencyKey = none
  logged : ∀ k item, store.db.imports.get? k = some item → (k ∈ store.log ↔ item.status = .applied)
  known : ∀ k ∈ store.log, (store.db.imports.get? k).isSome
  nodup : store.log.Nodup
  counted : ∀ k item, store.db.imports.get? k = some item → item.status = .applied →
    item.validRowsApplied = item.applicable

/-- What holds of the open transactions as well. -/
structure Inv (s : State) : Prop where
  consistent : importLocks.Consistent s
  preview : ∀ i t, s.txns i = some t → t.item.status = .preview
  entered : ∀ i t key, s.txns i = some t → t.key = some key →
    keyTaken s.db.db.imports t.item.id key = false
  exclusive : ∀ i j t t' key, s.txns i = some t → s.txns j = some t' → t.key = some key →
    t'.key = some key → i = j
  sound : Sound s.db

section

variable {pg : Postgres} {s s' : State} {i : Nat} {t : Txn}

/-- The row an open transaction has locked is still as it was read. -/
theorem Inv.read (h : Inv s) (ht : s.txns i = some t) :
    s.db.db.imports.get? t.item.id = some t.item := by
  refine h.consistent.read (i := i) ?_
  rw [Discipline.held_of_txn ht]
  exact List.mem_singleton_self _

/-- The commit of a decision, which changes the row of one import. -/
theorem Inv.decide (h : Inv s) (ht : s.txns i = some t) {f : Import → Import}
    {hf : ∀ item, (f item).id = item.id} {inventory : Inventory.Tables} {log : List UUID}
    (hsound : Sound ⟨⟨inventory, s.db.db.imports.modify t.item.id f hf⟩, log⟩)
    (hkey : ∀ j t' key, j ≠ i → s.txns j = some t' → t'.key = some key →
      (f t.item).applyIdempotencyKey ≠ some key) :
    Inv { (s.setTxn i none) with db := ⟨⟨inventory, s.db.db.imports.modify t.item.id f hf⟩, log⟩ } := by
  refine ⟨?_, ?_, ?_, ?_, hsound⟩
  · refine (Discipline.Move.commit ?_).consistent h.consistent
    intro k hnot
    show (s.db.db.imports.modify t.item.id f hf).get? k = s.db.db.imports.get? k
    rw [KeyedTable.get?_modify, if_neg]
    intro hk
    refine hnot t.item ?_
    rw [Discipline.held_of_txn ht, hk]
    exact List.mem_singleton_self _
  · intro j t' hj
    exact h.preview j t' (Sessions.of_setTxn_none hj).2
  · intro j t' key hj hentered
    obtain ⟨hji, hj⟩ := Sessions.of_setTxn_none hj
    rw [keyTaken_eq_false]
    intro k item hitem hk
    have hitem : (s.db.db.imports.modify t.item.id f hf).get? k = some item := hitem
    rcases KeyedTable.get?_modify_cases (h.read ht) hitem with ⟨-, rfl⟩ | ⟨-, hitem⟩
    · exact hkey j t' key hji hj hentered
    · exact keyTaken_eq_false.mp (h.entered j t' key hj hentered) k item hitem hk
  · intro j j' t₁ t₂ key hj hj'
    exact h.exclusive j j' t₁ t₂ key (Sessions.of_setTxn_none hj).2 (Sessions.of_setTxn_none hj').2

variable {item : Import} {l : Label} {k : UUID} {c : ImportCall}

/-- The import after it was applied. -/
theorem apply_preview (key : GoString) (now : Int) (applied : Nat) (h : item.status = .preview) :
    (item.apply key now applied).status = .applied ∧
      (item.apply key now applied).applyIdempotencyKey = some key ∧
      (item.apply key now applied).validRowsApplied = applied ∧
      (item.apply key now applied).rows = item.rows := by
  simp [Import.apply, h]

theorem reject_preview (now : Int) (h : item.status = .preview) :
    (item.reject now).status = .rejected ∧
      (item.reject now).applyIdempotencyKey = item.applyIdempotencyKey ∧
      (item.reject now).rows = item.rows := by
  simp [Import.reject, h]

/-- **Applying**: the rows are counted, and the import enters the log. -/
theorem sound_applied (h : Inv s) {call : ApplyCall} {key : GoString}
    (ht : s.txns i = some ⟨.apply call, item, some key⟩) {inventory : Inventory.Tables}
    {applied : Nat} (hrows : applyRows pg call item s.db.db.inventory = .ok (inventory, applied)) :
    Sound ⟨⟨inventory, s.db.db.imports.modify item.id (Import.apply key call.goNow applied)
      (Import.apply_id _ _ _)⟩, s.db.log ++ [item.id]⟩ := by
  have hread : s.db.db.imports.get? item.id = some item := h.read ht
  have hpreview : item.status = .preview := h.preview i _ ht
  obtain ⟨hstatus, hkey, hcount, hsame⟩ :=
    apply_preview key call.goNow applied hpreview
  have hfree := keyTaken_eq_false.mp (h.entered i _ key ht rfl)
  have hnotlogged : item.id ∉ s.db.log := by
    intro hlogged
    rw [(h.sound.logged item.id item hread).mp hlogged] at hpreview
    cases hpreview
  -- A row of the new table is the applied import, or it was there before.
  have hget : ∀ k item', (s.db.db.imports.modify item.id (Import.apply key call.goNow applied)
      (Import.apply_id _ _ _)).get? k = some item' → _ :=
    fun k item' => KeyedTable.get?_modify_cases hread
  refine ⟨?_, ?_, ?_, ?_, ?_, ?_⟩
  · intro k k' item₁ item₂ key' h₁ h₂ hkey₁ hkey₂
    rcases hget k item₁ h₁ with ⟨rfl, rfl⟩ | ⟨hk, h₁⟩ <;> rcases hget k' item₂ h₂ with ⟨rfl, rfl⟩ | ⟨hk', h₂⟩
    · rfl
    · rw [hkey] at hkey₁
      exact absurd (hkey₁ ▸ hkey₂) (hfree k' item₂ h₂ hk')
    · rw [hkey] at hkey₂
      exact absurd (hkey₂ ▸ hkey₁) (hfree k item₁ h₁ hk)
    · exact h.sound.keys k k' item₁ item₂ key' h₁ h₂ hkey₁ hkey₂
  · intro k item' hitem hundecided
    rcases hget k item' hitem with ⟨-, rfl⟩ | ⟨-, hitem⟩
    · rw [hstatus] at hundecided
      cases hundecided
    · exact h.sound.undecided k item' hitem hundecided
  · intro k item' hitem
    rcases hget k item' hitem with ⟨rfl, rfl⟩ | ⟨hk, hitem⟩
    · simp [hstatus]
    · simp [hk, h.sound.logged k item' hitem]
  · intro k hk
    rw [KeyedTable.isSome_get?_modify]
    rcases List.mem_append.mp hk with hk | hk
    · exact h.sound.known k hk
    · rw [List.mem_singleton.mp hk, hread]
      rfl
  · rw [List.nodup_append]
    refine ⟨h.sound.nodup, List.nodup_singleton _, ?_⟩
    intro a ha b hb hab
    rw [List.mem_singleton.mp hb] at hab
    exact hnotlogged (hab ▸ ha)
  · intro k item' hitem happlied
    rcases hget k item' hitem with ⟨-, rfl⟩ | ⟨-, hitem⟩
    · unfold Import.applicable
      rw [hcount, hsame, count_applyRows hrows]
      rfl
    · exact h.sound.counted k item' hitem happlied

/-- **Rejecting** changes one status. -/
theorem sound_rejected (h : Inv s) (ht : s.txns i = some t) (now : Int) :
    Sound ⟨⟨s.db.db.inventory, s.db.db.imports.modify t.item.id (Import.reject now)
      (Import.reject_id _)⟩, s.db.log⟩ := by
  have hread := h.read ht
  have hpreview := h.preview i t ht
  obtain ⟨hstatus, hkey, -⟩ := reject_preview now hpreview
  have hnokey := h.sound.undecided t.item.id t.item hread hpreview
  have hget : ∀ k item', (s.db.db.imports.modify t.item.id (Import.reject now)
      (Import.reject_id _)).get? k = some item' → _ :=
    fun k item' => KeyedTable.get?_modify_cases hread
  refine ⟨?_, ?_, ?_, ?_, h.sound.nodup, ?_⟩
  · intro k k' item₁ item₂ key' h₁ h₂ hkey₁ hkey₂
    rcases hget k item₁ h₁ with ⟨-, rfl⟩ | ⟨-, h₁⟩
    · rw [hkey, hnokey] at hkey₁
      cases hkey₁
    · rcases hget k' item₂ h₂ with ⟨-, rfl⟩ | ⟨-, h₂⟩
      · rw [hkey, hnokey] at hkey₂
        cases hkey₂
      · exact h.sound.keys k k' item₁ item₂ key' h₁ h₂ hkey₁ hkey₂
  · intro k item' hitem hundecided
    rcases hget k item' hitem with ⟨-, rfl⟩ | ⟨-, hitem⟩
    · rw [hstatus] at hundecided
      cases hundecided
    · exact h.sound.undecided k item' hitem hundecided
  · intro k item' hitem
    rcases hget k item' hitem with ⟨rfl, rfl⟩ | ⟨-, hitem⟩
    · have hnot := (h.sound.logged _ _ hread).not.mpr (by rw [hpreview]; decide)
      simp [hstatus, hnot]
    · exact h.sound.logged k item' hitem
  · intro k hk
    rw [KeyedTable.isSome_get?_modify]
    exact h.sound.known k hk
  · intro k item' hitem happlied
    rcases hget k item' hitem with ⟨-, rfl⟩ | ⟨-, hitem⟩
    · rw [hstatus] at happlied
      cases happlied
    · exact h.sound.counted k item' hitem happlied

theorem sound_elsewhere {db db' : DB} {log : List UUID} (h : Sound ⟨db, log⟩) (helse : Elsewhere db db') :
    Sound ⟨db', log⟩ := by
  -- An import was there before, or it is a preview without a key.
  have hget : ∀ k item, db'.imports.get? k = some item →
      db.imports.get? k = some item ∨ (item.status = .preview ∧ item.applyIdempotencyKey = none ∧ k ∉ log) := by
    intro k item hitem
    cases hold : db.imports.get? k with
    | none =>
      obtain ⟨hstatus, hkey⟩ := helse.new k item hitem hold
      refine .inr ⟨hstatus, hkey, fun hk => ?_⟩
      have hknown := h.known k hk
      rw [hold] at hknown
      cases hknown
    | some item' =>
      left
      rw [← hitem, helse.kept k item' hold]
  refine ⟨?_, ?_, ?_, ?_, h.nodup, ?_⟩
  · intro k k' item item' key h₁ h₂ hkey hkey'
    rcases hget k item h₁ with h₁ | ⟨-, hnone, -⟩
    · rcases hget k' item' h₂ with h₂ | ⟨-, hnone, -⟩
      · exact h.keys k k' item item' key h₁ h₂ hkey hkey'
      · rw [hnone] at hkey'
        cases hkey'
    · rw [hnone] at hkey
      cases hkey
  · intro k item hitem hstatus
    rcases hget k item hitem with hitem | ⟨-, hnone, -⟩
    · exact h.undecided k item hitem hstatus
    · exact hnone
  · intro k item hitem
    rcases hget k item hitem with hitem | ⟨hstatus, -, hnot⟩
    · exact h.logged k item hitem
    · simp [hnot, hstatus]
  · intro k hk
    obtain ⟨item, hitem⟩ := Option.isSome_iff_exists.mp (h.known k hk)
    show (db'.imports.get? k).isSome
    rw [helse.kept k item hitem]
    rfl
  · intro k item hitem happlied
    rcases hget k item hitem with hitem | ⟨hstatus, -, -⟩
    · exact h.counted k item hitem happlied
    · rw [hstatus] at happlied
      cases happlied

/-- A transaction that opens or goes on: the tables stay as they are. -/
theorem Inv.proceed (h : Inv s) (hmove : importLocks.Move s (s.setTxn i (some t)))
    (hpreview : t.item.status = .preview)
    (hentered : ∀ key, t.key = some key → keyTaken s.db.db.imports t.item.id key = false ∧
      ∀ j t', s.txns j = some t' → t'.key ≠ some key) :
    Inv (s.setTxn i (some t)) := by
  refine ⟨hmove.consistent h.consistent, ?_, ?_, ?_, h.sound⟩
  · intro j t' hj
    rcases Sessions.setTxn_cases hj with ⟨-, hj⟩ | ⟨-, ht⟩
    · exact h.preview j t' hj
    · cases ht
      exact hpreview
  · intro j t' key hj hkey
    rcases Sessions.setTxn_cases hj with ⟨-, hj⟩ | ⟨-, ht⟩
    · exact h.entered j t' key hj hkey
    · cases ht
      exact (hentered key hkey).1
  · intro j j' t₁ t₂ key hj hj' hkey hkey'
    rcases Sessions.setTxn_cases hj with ⟨-, hj⟩ | ⟨hji, ht⟩ <;>
      rcases Sessions.setTxn_cases hj' with ⟨-, hj'⟩ | ⟨hji', ht'⟩
    · exact h.exclusive j j' t₁ t₂ key hj hj' hkey hkey'
    · cases ht'
      exact absurd hkey ((hentered key hkey').2 j t₁ hj)
    · cases ht
      exact absurd hkey' ((hentered key hkey).2 j' t₂ hj')
    · rw [hji, hji']

theorem Inv.rollback (h : Inv s) : Inv (s.setTxn i none) := by
  have hold : ∀ {j t'}, (s.setTxn i none).txns j = some t' → s.txns j = some t' :=
    fun hj => (Sessions.of_setTxn_none hj).2
  refine ⟨Discipline.Move.rollback.consistent h.consistent, ?_, ?_, ?_, h.sound⟩
  · intro j t' hj
    exact h.preview j t' (hold hj)
  · intro j t' key hj
    exact h.entered j t' key (hold hj)
  · intro j j' t₁ t₂ key hj hj'
    exact h.exclusive j j' t₁ t₂ key (hold hj) (hold hj')

theorem outcome_apply {call : ApplyCall} {item' : Import} {db db' : DB}
    (h : (ImportCall.apply call).outcome pg item db = .ok (db', item')) :
    ∃ inventory applied, applyRows pg call item db.inventory = .ok (inventory, applied) ∧
      db' = ⟨inventory, db.imports.modify item.id
        (Import.apply (trimSpace call.key) call.goNow applied) (Import.apply_id _ _ _)⟩ := by
  obtain ⟨⟨inventory, applied⟩, hrows, hdone⟩ := except_bind_ok.mp h
  cases hdone
  exact ⟨inventory, applied, hrows, rfl⟩

/-- **Step lemma**. -/
theorem Inv.step (h : Inv s) (hstep : Step pg s l s') : Inv s' := by
  cases hstep with
  | refused | notFound | answered => exact h
  | @opened i c item hidle _ hitem hfree hreply =>
    have hid : item.id = c.importID := KeyedTable.key_of_get? hitem
    refine h.proceed (Discipline.Move.lockFirst (Discipline.held_of_idle hidle) hfree hitem ?_)
      (reply_none hreply) ?_
    · simp [importLocks, hid]
    · intro key hkey
      cases hkey
  | @update i call item row ht hrow hstatus hcommitted hentered =>
    have hpreview : item.status = .preview := h.preview i _ ht
    refine h.proceed (Discipline.Move.proceed ?_) hpreview ?_
    · rw [Discipline.held_of_txn ht]
      rfl
    · intro key hkey
      cases hkey
      exact ⟨hcommitted, hentered⟩
  | @applied i call item item' db' ht hout =>
    obtain ⟨inventory, applied, hrows, rfl⟩ := outcome_apply hout
    refine h.decide ht (sound_applied h ht hrows) ?_
    intro j t' key hji hj hkey hsame
    -- No other transaction has entered the key that is committed now.
    rw [(apply_preview _ _ _ (h.preview i _ ht)).2.1] at hsame
    exact hji (h.exclusive j i t' _ key hj ht hkey hsame)
  | @rejected i id reason now item row item' db' ht hrow hstatus hout =>
    cases hout
    refine h.decide ht (sound_rejected h ht now) ?_
    intro j t' key hji hj hkey hsame
    have hpreview := h.preview i _ ht
    rw [(reject_preview _ hpreview).2.1, h.sound.undecided _ _ (h.read ht) hpreview] at hsame
    cases hsame
  | failed e ht => exact h.rollback
  | @background db' helse =>
    refine ⟨(Discipline.Move.background ?_).consistent h.consistent, h.preview, ?_, h.exclusive,
      sound_elsewhere h.sound helse⟩
    · rintro k ⟨j, item, hheld⟩
      have hread : s.db.db.imports.get? k = some item := h.consistent.read hheld
      show db'.imports.get? k = s.db.db.imports.get? k
      rw [hread, helse.kept k item hread]
    · intro j t key hj hkey
      show keyTaken db'.imports t.item.id key = false
      rw [keyTaken_eq_false]
      intro k item hitem hk
      cases hold : s.db.db.imports.get? k with
      | none =>
        rw [(helse.new k item hitem hold).2]
        exact Option.some_ne_none _ ∘ Eq.symm
      | some item' =>
        rw [helse.kept k item' hold] at hitem
        cases hitem
        exact keyTaken_eq_false.mp (h.entered j t key hj hkey) k item hold hk

/-- **Run lemma**. -/
theorem inv_of_reachable (h : (importSystem pg).Reachable s) : Inv s := by
  refine LTS.System.invariant (P := Inv) ?_ (fun _ _ _ hs hl => hs.step hl) h
  intro s ⟨hidle, hlog, hpreview⟩
  have hnone : ∀ {i t}, ¬ s.txns i = some t := by
    intro i t ht
    rw [hidle i] at ht
    cases ht
  refine ⟨Discipline.consistent_of_idle hidle, fun i t ht => absurd ht hnone,
    fun i t key ht => absurd ht hnone, fun i j t t' key ht => absurd ht hnone, ?_⟩
  refine ⟨?_, fun k item hitem _ => (hpreview k item hitem).2, ?_, ?_, ?_, ?_⟩
  · intro k k' item item' key hitem _ hkey
    rw [(hpreview k item hitem).2] at hkey
    cases hkey
  · intro k item hitem
    simp [hlog, (hpreview k item hitem).1]
  · simp [hlog]
  · simp [hlog]
  · intro k item hitem happlied
    rw [(hpreview k item hitem).1] at happlied
    cases happlied

/-! ### Calls on a decided import -/

/-- The call repeats the one that applied the import. -/
def ImportCall.Repeats (item : Import) : ImportCall → Prop
  | .apply call => item.status = .applied ∧ item.applyIdempotencyKey = some (trimSpace call.key) ∧
    (ImportCall.apply call).refusal = none
  | .reject _ _ _ => False

/-- A decided import is not locked. -/
theorem Inv.unlocked (h : Inv s) (hitem : s.db.db.imports.get? k = some item)
    (hdecided : item.status ≠ .preview) : ¬ importLocks.Locked s k := by
  intro ⟨i, item', hheld⟩
  cases ht : s.txns i with
  | none =>
    rw [Discipline.held_of_idle ht] at hheld
    cases hheld
  | some t =>
    rw [Discipline.held_of_txn ht] at hheld
    cases List.mem_singleton.mp hheld
    rw [h.read ht] at hitem
    cases hitem
    exact hdecided (h.preview i t ht)

theorem reply_of_repeats (h : c.Repeats item) :
    c.refusal = none ∧ c.reply item = some (.ok item) := by
  cases c with
  | apply call => exact ⟨h.2.2, by simp [ImportCall.reply, h.1, h.2.1]⟩
  | reject id reason now => exact h.elim

theorem reply_of_not_repeats (hdecided : item.status ≠ .preview) (h : ¬ c.Repeats item)
    (hvalid : c.refusal = none) : c.reply item = some (.error .conflict) := by
  cases c with
  | apply call =>
    by_cases happlied : item.status = .applied
    · have hkey : item.applyIdempotencyKey ≠ some (trimSpace call.key) :=
        fun hkey => h ⟨happlied, hkey, hvalid⟩
      simp [ImportCall.reply, happlied, hkey]
    · simp [ImportCall.reply, happlied, hdecided]
  | reject id reason now => simp [ImportCall.reply, hdecided]

/-- The call is answered at once. -/
theorem Inv.answered (h : Inv s) (hidle : s.txns i = none)
    (hitem : s.db.db.imports.get? c.importID = some item) (hdecided : item.status ≠ .preview) :
    ∃ answer, Step pg s (.call i c (some answer)) s := by
  have hfree := h.unlocked hitem hdecided
  cases hvalid : c.refusal with
  | some e => exact ⟨_, .refused hidle hvalid⟩
  | none =>
    cases hreply : c.reply item with
    | none => exact absurd (reply_none hreply) hdecided
    | some answer => exact ⟨_, .answered hidle hvalid hitem hfree hreply⟩

/-- And there is one answer, which leaves everything as it is. -/
theorem answer_of_decided {answer : Option (Except Error Import)}
    (hitem : s.db.db.imports.get? c.importID = some item) (hdecided : item.status ≠ .preview)
    (hstep : Step pg s (.call i c answer) s') :
    s' = s ∧ (c.Repeats item → answer = some (.ok item)) ∧
      (¬ c.Repeats item → ∃ e, answer = some (.error e)) := by
  cases hstep with
  | refused hidle hrefused =>
    refine ⟨rfl, fun hrepeats => ?_, fun _ => ⟨_, rfl⟩⟩
    rw [(reply_of_repeats hrepeats).1] at hrefused
    cases hrefused
  | notFound hidle hvalid hnone =>
    rw [hnone] at hitem
    cases hitem
  | @answered _ _ item' a hidle hvalid hitem' hfree hreply =>
    rw [hitem'] at hitem
    cases hitem
    refine ⟨rfl, fun hrepeats => ?_, fun hnot => ⟨.conflict, ?_⟩⟩
    · rw [← hreply, (reply_of_repeats hrepeats).2]
    · rw [← hreply, reply_of_not_repeats hdecided hnot hvalid]
  | @opened _ _ item' hidle hvalid hitem' hfree hreply =>
    rw [hitem'] at hitem
    cases hitem
    exact absurd (reply_none hreply) hdecided

/-! ### What a step does -/

/-- The status of an import moves from `preview` only. -/
def Moves (item item' : Import) : Prop :=
  item'.rows = item.rows ∧
    (item' = item ∨ (item.status = .preview ∧ (item'.status = .applied ∨ item'.status = .rejected)))

/-- All the rows of one import, which is a preview and not in the log, take effect
    and nothing else does. -/
def TakesEffect (pg : Postgres) (s s' : State) : Prop :=
  ∃ call item applied, s.db.db.imports.get? item.id = some item ∧ item.status = .preview ∧
    item.id ∉ s.db.log ∧ s'.db.log = s.db.log ++ [item.id] ∧
    applyRows pg call item s.db.db.inventory = .ok (s'.db.db.inventory, applied)

theorem moves_modify {imports : Imports} (hread : imports.get? item.id = some item)
    (f : Import → Import) (hf : ∀ item, (f item).id = item.id) (hmoves : Moves item (f item))
    {old : Import} (hold : imports.get? k = some old) :
    ∃ new, (imports.modify item.id f hf).get? k = some new ∧ Moves old new := by
  rw [KeyedTable.get?_modify]
  split
  · rename_i hk
    rw [hk, hread] at hold
    cases hold
    rw [hk, hread]
    exact ⟨_, rfl, hmoves⟩
  · exact ⟨old, hold, rfl, .inl rfl⟩

theorem Inv.moves (h : Inv s) (hstep : Step pg s l s') (hitem : s.db.db.imports.get? k = some item) :
    ∃ item', s'.db.db.imports.get? k = some item' ∧ Moves item item' := by
  cases hstep with
  | refused | notFound | answered | opened | update | failed => exact ⟨item, hitem, rfl, .inl rfl⟩
  | @applied i call row row' db' ht hout =>
    obtain ⟨inventory, applied, hrows, rfl⟩ := outcome_apply hout
    have hpreview : row.status = .preview := h.preview i _ ht
    obtain ⟨hstatus, -, -, hsame⟩ := apply_preview (trimSpace call.key) call.goNow
      applied hpreview
    exact moves_modify (h.read ht) (Import.apply (trimSpace call.key) call.goNow applied)
      (Import.apply_id _ _ _) ⟨hsame, .inr ⟨hpreview, .inl hstatus⟩⟩ hitem
  | @rejected i id reason now row _ row' db' ht hrow _ hout =>
    cases hout
    have hpreview : row.status = .preview := h.preview i _ ht
    obtain ⟨hstatus, -, hsame⟩ := reject_preview now hpreview
    exact moves_modify (h.read ht) (Import.reject now) (Import.reject_id _)
      ⟨hsame, .inr ⟨hpreview, .inr hstatus⟩⟩ hitem
  | background helse => exact ⟨item, helse.kept k item hitem, rfl, .inl rfl⟩

theorem Inv.effect (h : Inv s) (hstep : Step pg s l s') :
    (s'.db.log = s.db.log ∧ (l ≠ .background → s'.db.db.inventory = s.db.db.inventory)) ∨
      TakesEffect pg s s' := by
  cases hstep with
  | refused | notFound | answered | opened | update | failed => exact .inl ⟨rfl, fun _ => rfl⟩
  | @applied i call item item' db' ht hout =>
    obtain ⟨inventory, applied, hrows, rfl⟩ := outcome_apply hout
    have hread := h.read ht
    have hpreview : item.status = .preview := h.preview i _ ht
    refine .inr ⟨call, item, applied, hread, hpreview, ?_, rfl, hrows⟩
    rw [h.sound.logged item.id item hread, hpreview]
    nofun
  | rejected ht hrow hstatus hout =>
    cases hout
    exact .inl ⟨rfl, fun _ => rfl⟩
  | background helse => exact .inl ⟨rfl, fun hl => absurd rfl hl⟩

theorem done_error {e : Error} (hstep : Step pg s (.done i (.error e)) s') : s'.db = s.db := by
  cases hstep
  rfl

end

/-- **The life of an import.** In every reachable state, the rows of an import have
    taken effect at most once, and exactly those of the applied imports have; an
    applied import counts its valid rows; a step takes the rows of an import all
    together and moves a status from `preview` only; and a call on a decided import
    is answered at once, with the import itself when it repeats the call that applied
    it and with an error otherwise, and changes nothing. -/
theorem import_stateMachine {pg : Postgres} {s : State} (h : (importSystem pg).Reachable s) :
    s.db.log.Nodup ∧
    (∀ k item, s.db.db.imports.get? k = some item →
      (k ∈ s.db.log ↔ item.status = .applied) ∧
      (item.status = .applied → item.validRowsApplied = item.applicable)) ∧
    (∀ l s', Step pg s l s' →
      (∀ k item, s.db.db.imports.get? k = some item →
        ∃ item', s'.db.db.imports.get? k = some item' ∧ Moves item item') ∧
      ((s'.db.log = s.db.log ∧ (l ≠ .background → s'.db.db.inventory = s.db.db.inventory)) ∨
        TakesEffect pg s s') ∧
      (∀ i e, l = .done i (.error e) → s'.db = s.db)) ∧
    (∀ i c item, s.db.db.imports.get? c.importID = some item → item.status ≠ .preview →
      (s.txns i = none → ∃ answer, Step pg s (.call i c (some answer)) s) ∧
      ∀ answer s', Step pg s (.call i c answer) s' →
        s' = s ∧ (c.Repeats item → answer = some (.ok item)) ∧
        (¬ c.Repeats item → ∃ e, answer = some (.error e))) := by
  have hinv := inv_of_reachable h
  refine ⟨hinv.sound.nodup, ?_, ?_, ?_⟩
  · intro k item hitem
    exact ⟨hinv.sound.logged k item hitem, hinv.sound.counted k item hitem⟩
  · intro l s' hstep
    refine ⟨fun k item hitem => hinv.moves hstep hitem, hinv.effect hstep, ?_⟩
    intro i e hl
    subst hl
    exact done_error hstep
  · intro i c item hitem hdecided
    exact ⟨fun hidle => hinv.answered hidle hitem hdecided,
      fun answer s' hstep => answer_of_decided hitem hdecided hstep⟩

/-- A call of `Apply` that runs alone, as three steps. -/
theorem reachable_apply {pg : Postgres} {s : State} {call : ApplyCall} {db' : DB} {item item' : Import}
    (h : (importSystem pg).Reachable s) (hidle : ∀ i, s.txns i = none)
    (hitem : s.db.db.imports.get? call.importID = some item) (hpreview : item.status = .preview)
    (happly : apply pg call s.db.db = .ok (db', item')) :
    ∃ s', (importSystem pg).Reachable s' ∧ s'.db = ⟨db', s.db.log ++ [item.id]⟩ ∧
      ∀ i, s'.txns i = none := by
  obtain ⟨hkey, row, hrow, hcase⟩ := apply_eq_ok happly
  rw [hitem] at hrow
  cases hrow
  rcases hcase with ⟨happlied, -⟩ | ⟨-, inventory, applied, hrows, hfree, hdb, hresult⟩
  · rw [hpreview] at happlied
    cases happlied
  have hid : item.id = call.importID := KeyedTable.key_of_get? hitem
  have hopen : Step pg s (.call 0 (.apply call) none) (s.setTxn 0 (some ⟨.apply call, item, none⟩)) := by
    refine .opened (hidle 0) ?_ hitem ?_ ?_
    · simp [ImportCall.refusal, hkey]
    · intro ⟨i, r, hheld⟩
      rw [Discipline.held_of_idle (hidle i)] at hheld
      cases hheld
    · simp [ImportCall.reply, hpreview]
  have hupdate : Step pg (s.setTxn 0 (some ⟨.apply call, item, none⟩)) (.update 0)
      ((s.setTxn 0 (some ⟨.apply call, item, none⟩)).setTxn 0 (some ⟨.apply call, item, some (trimSpace call.key)⟩)) := by
    refine .update (Sessions.setTxn_self _ _ _) (hid ▸ hitem) hpreview hfree ?_
    intro j t hj
    rcases Sessions.setTxn_cases hj with ⟨-, hj⟩ | ⟨-, ht⟩
    · rw [hidle j] at hj
      cases hj
    · cases ht
      nofun
  have hout : (ImportCall.apply call).outcome pg item s.db.db = .ok (db', item') := by
    simp only at hdb hresult
    simp only [ImportCall.outcome, hrows, bind, Except.bind, hdb, hresult]
  have hdone := Step.applied
    (s := (s.setTxn 0 (some ⟨.apply call, item, none⟩)).setTxn 0
      (some ⟨.apply call, item, some (trimSpace call.key)⟩)) (Sessions.setTxn_self _ _ _) hout
  refine ⟨_, .step _ (.step _ (.step _ h hopen) hupdate) hdone, rfl, ?_⟩
  intro j
  by_cases hj : j = 0
  · simp [hj]
  · simp [Sessions.setTxn_ne, hj, hidle]

/-- A sheet with one domain is previewed and applied: its import is in the log once,
    and its one row is counted. -/
theorem import_stateMachine_sample :
    ∃ s item, (importSystem samplePostgres).Reachable s ∧ s.db.db.imports.get? 1 = some item ∧
      s.db.log = [1] ∧ item.status = .applied ∧ item.validRowsApplied = 1 := by
  have hsome : ((previewSnapshot sampleLibrary notedDomain emptyDB).toOption.any (fun first =>
      first.1.imports.rows.all (fun item => item.status = .preview && item.applyIdempotencyKey = none) &&
        (first.1.imports.get? 1).isSome &&
        (apply samplePostgres (sampleApply 1 "apply-01") first.1).toOption.any (fun second =>
          (second.1.imports.get? 1).any (fun item => item.applicable = 1)))) = true := by
    decide +kernel
  obtain ⟨first, -, hsome⟩ := exists_ok_of_any hsome
  simp only [Bool.and_eq_true] at hsome
  obtain ⟨⟨hall, hitem⟩, hsecond⟩ := hsome
  obtain ⟨item, hitem⟩ := Option.isSome_iff_exists.mp hitem
  obtain ⟨second, happly, happlied⟩ := exists_ok_of_any hsecond
  obtain ⟨item', hitem', hcount⟩ := (Option.any_eq_true _ _).mp happlied
  have hrows : ∀ k row, first.1.imports.get? k = some row →
      row.status = .preview ∧ row.applyIdempotencyKey = none := by
    intro k row hrow
    have hrow := List.all_eq_true.mp hall row (KeyedTable.get?_some hrow).1
    simpa using hrow
  have hid : item.id = 1 := KeyedTable.key_of_get? hitem
  have hstart : (importSystem samplePostgres).Reachable ⟨⟨first.1, []⟩, fun _ => none⟩ :=
    .init ⟨fun _ => rfl, rfl, hrows⟩
  obtain ⟨s', hs', hdb, -⟩ := reachable_apply hstart (fun _ => rfl) hitem (hrows 1 item hitem).1 happly
  obtain ⟨-, hlogged, -⟩ := import_stateMachine hs'
  have hfound : s'.db.db.imports.get? 1 = some item' := by
    rw [hdb]
    exact hitem'
  have hlog : s'.db.log = [1] := by
    rw [hdb, hid]
    rfl
  obtain ⟨hiff, hcounted⟩ := hlogged 1 item' hfound
  have hstatus : item'.status = .applied := hiff.mp (by rw [hlog]; exact List.mem_singleton_self 1)
  refine ⟨s', item', hs', hfound, hlog, hstatus, ?_⟩
  rw [hcounted hstatus, decide_eq_true_eq.mp hcount]

end DomainMonitor.Sheets
