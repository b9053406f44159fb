import Mathlib.Data.List.Find
import Mathlib.Data.List.Pairwise
import DomainMonitor.Lib.KeyedTable

/-! # Tables with a unique index

    A table with a primary key and one more unique index, which may be partial: a
    row whose index is `none` is not in it. A statement changes the keyed table,
    and `check` refuses the result when two rows share an index.
-/

/-- A keyed table whose rows have pairwise distinct indexes. -/
structure IndexedTable {κ ι ρ : Type} (key : ρ → κ) (index : ρ → Option ι) where
  table : KeyedTable key
  unique : (table.rows.filterMap index).Nodup

namespace IndexedTable

variable {κ ι ρ : Type} [DecidableEq κ] [DecidableEq ι] {key : ρ → κ} {index : ρ → Option ι}

def empty : IndexedTable key index where
  table := KeyedTable.empty
  unique := List.nodup_nil

omit [DecidableEq κ] [DecidableEq ι] in
theorem nodup_filterMap_singleton (index : ρ → Option ι) (r : ρ) : ([r].filterMap index).Nodup := by
  cases h : index r <;> simp [h]

/-- The table of one row. -/
def single (r : ρ) : IndexedTable key index where
  table := KeyedTable.single r
  unique := nodup_filterMap_singleton index r

variable (t : IndexedTable key index)

def rows : List ρ := t.table.rows

def get? (k : κ) : Option ρ := t.table.get? k

/-- The row under an index. -/
def find? (i : ι) : Option ρ :=
  t.rows.find? (fun r => index r = some i)

/-- The end of a statement: `none` when it left two rows under one index. -/
def check (t : KeyedTable key) : Option (IndexedTable key index) :=
  if h : (t.rows.filterMap index).Nodup then some ⟨t, h⟩ else none

/-- `INSERT`. -/
def insert (r : ρ) : Option (IndexedTable key index) :=
  (t.table.insert r).bind check

/-- `UPDATE ... WHERE key = k`. -/
def modify (k : κ) (f : ρ → ρ) (hf : ∀ r, key (f r) = key r) : Option (IndexedTable key index) :=
  check (t.table.modify k f hf)

/-! ### Lookup -/

omit [DecidableEq κ] in
theorem check_eq_some {t : KeyedTable key} {t' : IndexedTable key index} (h : check t = some t') :
    t'.table = t := by
  unfold check at h
  split at h
  · cases h
    rfl
  · cases h

omit [DecidableEq κ] [DecidableEq ι] in
/-- Two rows of one table under the same index are the same row. -/
theorem eq_of_index {t : IndexedTable key index} {i : ι} {r r' : ρ} (hr : r ∈ t.rows)
    (hr' : r' ∈ t.rows) (hi : index r = some i) (hi' : index r' = some i) : r = r' := by
  have hpair : t.rows.Pairwise (fun a b => index a = some i → index b = some i → a = b) := by
    have hnodup := t.unique
    rw [List.Nodup, List.pairwise_filterMap] at hnodup
    exact hnodup.imp (fun hab ha hb => absurd rfl (hab i ha i hb))
  have : Std.Symm (fun a b => index a = some i → index b = some i → a = b) :=
    ⟨fun _ _ hab hb ha => (hab ha hb).symm⟩
  exact List.Pairwise.forall_of_forall (fun _ _ _ _ => rfl) hpair hr hr' hi hi'

omit [DecidableEq κ] in
theorem find?_some {t : IndexedTable key index} {i : ι} {r : ρ} (h : t.find? i = some r) :
    r ∈ t.rows ∧ index r = some i :=
  ⟨List.mem_of_find?_eq_some h, by simpa using List.find?_some h⟩

omit [DecidableEq κ] in
theorem find?_of_mem {t : IndexedTable key index} {i : ι} {r : ρ} (hr : r ∈ t.rows)
    (hi : index r = some i) : t.find? i = some r := by
  cases hfind : t.find? i with
  | none =>
    have hnot := List.find?_eq_none.mp hfind r hr
    simp [hi] at hnot
  | some r' =>
    obtain ⟨hmem, hi'⟩ := find?_some hfind
    rw [eq_of_index hmem hr hi' hi]

omit [DecidableEq κ] in
theorem find?_none {t : IndexedTable key index} {i : ι} (h : t.find? i = none) {r : ρ}
    (hr : r ∈ t.rows) : index r ≠ some i := by
  simpa using List.find?_eq_none.mp h r hr

omit [DecidableEq ι] in
theorem get?_some {t : IndexedTable key index} {k : κ} {r : ρ} (h : t.get? k = some r) :
    r ∈ t.rows ∧ key r = k := KeyedTable.get?_some h

omit [DecidableEq ι] in
theorem get?_of_mem {t : IndexedTable key index} {r : ρ} (h : r ∈ t.rows) :
    t.get? (key r) = some r := KeyedTable.get?_of_mem h

/-! ### Statements -/

theorem get?_modify {t t' : IndexedTable key index} {k : κ} {f : ρ → ρ}
    {hf : ∀ r, key (f r) = key r} (h : t.modify k f hf = some t') (j : κ) :
    t'.get? j = if j = k then (t.get? j).map f else t.get? j := by
  rw [get?, check_eq_some h, KeyedTable.get?_modify]
  rfl

theorem get?_insert {t t' : IndexedTable key index} {r : ρ} (h : t.insert r = some t') (j : κ) :
    t'.get? j = if j = key r then some r else t.get? j := by
  obtain ⟨u, hu, hcheck⟩ := Option.bind_eq_some_iff.mp h
  rw [get?, check_eq_some hcheck, KeyedTable.get?_insert hu]
  rfl

theorem rows_insert {t t' : IndexedTable key index} {r : ρ} (h : t.insert r = some t') :
    t'.rows = t.rows ++ [r] := by
  obtain ⟨u, hu, hcheck⟩ := Option.bind_eq_some_iff.mp h
  rw [rows, check_eq_some hcheck, (KeyedTable.insert_eq_some hu).2]
  rfl

end IndexedTable
