import Mathlib.Data.List.Nodup

/-! # Tables with a primary key

    A table is a list of rows in insertion order whose keys are pairwise
    distinct; the distinctness is a field, so a table with two rows under one
    key cannot be built. The operations are those of a relational store:
    lookup by key, `UPDATE ... WHERE key = k`, and `INSERT`, which is refused
    when the key is taken.
-/

/-- A list of rows with pairwise distinct keys. -/
structure KeyedTable {κ ρ : Type} (key : ρ → κ) where
  /-- The rows, in the order they were inserted. -/
  rows : List ρ
  /-- The primary key. -/
  nodup : (rows.map key).Nodup

namespace KeyedTable

variable {κ ρ : Type} [DecidableEq κ] {key : ρ → κ}

variable {r : ρ} {t t' : KeyedTable key} {k : κ} {p : ρ → Bool}

/-- Under distinct keys a key selects one row. -/
theorem filter_key {rows : List ρ} (h : (rows.map key).Nodup) (hr : r ∈ rows) :
    rows.filter (fun x => key x = key r) = [r] := by
  induction rows with
  | nil => cases hr
  | cons x rows ih =>
    obtain ⟨hx, hrows⟩ := List.nodup_cons.mp h
    rcases List.mem_cons.mp hr with rfl | hr
    · -- No later row has the key of the first.
      have hnone : rows.filter (fun x => decide (key x = key r)) = [] := by
        rw [List.filter_eq_nil_iff]
        intro y hy
        simp only [decide_eq_true_eq]
        intro hsame
        exact hx (hsame ▸ List.mem_map_of_mem hy)
      rw [List.filter_cons_of_pos (by simp), hnone]
    · have hne : key x ≠ key r := fun hsame => hx (hsame ▸ List.mem_map_of_mem hr)
      rw [List.filter_cons_of_neg (by simpa using hne), ih hrows hr]

/-! ### Operations -/

/-- The table without rows. -/
def empty : KeyedTable key where
  rows := []
  nodup := List.nodup_nil

/-- The table of one row. -/
def single (r : ρ) : KeyedTable key where
  rows := [r]
  nodup := List.nodup_singleton (key r)

/-- The row under a key. -/
def get? (t : KeyedTable key) (k : κ) : Option ρ :=
  t.rows.find? (fun r => key r = k)

theorem map_key_update (rows : List ρ) (k : κ) (f : ρ → ρ) (hf : ∀ r, key (f r) = key r) :
    (rows.map (fun r => if key r = k then f r else r)).map key = rows.map key := by
  rw [List.map_map]
  apply List.map_congr_left
  intro r _
  show key (if key r = k then f r else r) = key r
  split
  · exact hf r
  · rfl

/-- `UPDATE ... WHERE key = k`: rewrites the row under `k`, if there is one. -/
def modify (t : KeyedTable key) (k : κ) (f : ρ → ρ) (hf : ∀ r, key (f r) = key r) :
    KeyedTable key where
  rows := t.rows.map (fun r => if key r = k then f r else r)
  nodup := by rw [map_key_update t.rows k f hf]; exact t.nodup

/-- `UPDATE ... WHERE key = k` on a table with constraints: `none` when the new
    row violates them. -/
def update? (Checks : ρ → Prop) [DecidablePred Checks] (t : KeyedTable key) (k : κ) (f : ρ → ρ)
    (hf : ∀ r, key (f r) = key r) : Option (KeyedTable key) :=
  match t.get? k with
  | none => some t
  | some r => if Checks (f r) then some (t.modify k f hf) else none

/-- `UPDATE ... WHERE p`. -/
def updateWhere (t : KeyedTable key) (p : ρ → Bool) (f : ρ → ρ) (hf : ∀ r, key (f r) = key r) :
    KeyedTable key where
  rows := t.rows.map (fun r => if p r then f r else r)
  nodup := by
    have hkeys : (t.rows.map (fun r => if p r then f r else r)).map key = t.rows.map key := by
      rw [List.map_map]
      apply List.map_congr_left
      intro r _
      show key (if p r then f r else r) = key r
      split
      · exact hf r
      · rfl
    rw [hkeys]
    exact t.nodup

/-- `INSERT`: `none` when the key is already taken. -/
def insert (t : KeyedTable key) (r : ρ) : Option (KeyedTable key) :=
  if h : key r ∈ t.rows.map key then none
  else some
    { rows := t.rows ++ [r]
      nodup := by
        rw [List.map_append]
        refine List.nodup_append.mpr ⟨t.nodup, List.nodup_singleton _, ?_⟩
        intro a ha b hb hab
        have hb' : b = key r := by simpa using hb
        exact h (hb' ▸ hab ▸ ha) }

/-! ### Lookup -/

theorem get?_some (h : t.get? k = some r) : r ∈ t.rows ∧ key r = k := by
  have hp := List.find?_some h
  exact ⟨List.mem_of_find?_eq_some h, by simpa using hp⟩

theorem key_of_get? (h : t.get? k = some r) :
    key r = k := (get?_some h).2

omit [DecidableEq κ] in
/-- Two rows of one table under the same key are the same row. -/
theorem eq_of_key_eq (t : KeyedTable key) {r' : ρ} (hr : r ∈ t.rows) (hr' : r' ∈ t.rows)
    (h : key r = key r') : r = r' :=
  List.inj_on_of_nodup_map t.nodup hr hr' h

theorem get?_of_mem (h : r ∈ t.rows) : t.get? (key r) = some r := by
  have hsome : (t.get? (key r)).isSome := by
    rw [get?, List.find?_isSome]
    exact ⟨r, h, by simp⟩
  obtain ⟨r', hr'⟩ := Option.isSome_iff_exists.mp hsome
  obtain ⟨hmem, hkey⟩ := get?_some hr'
  rw [hr', t.eq_of_key_eq hmem h hkey]

theorem get?_eq_none_iff : t.get? k = none ↔ k ∉ t.rows.map key := by
  constructor
  · intro h hmem
    obtain ⟨r, hr, hk⟩ := List.mem_map.mp hmem
    rw [← hk, get?_of_mem hr] at h
    cases h
  · intro h
    cases hg : t.get? k with
    | none => rfl
    | some r =>
      obtain ⟨hmem, hk⟩ := get?_some hg
      exact absurd (List.mem_map.mpr ⟨r, hmem, hk⟩) h

@[simp] theorem get?_empty (k : κ) : (empty : KeyedTable key).get? k = none := rfl

/-! ### Update -/

theorem find?_update (rows : List ρ) (k j : κ) (f : ρ → ρ) (hf : ∀ r, key (f r) = key r) :
    (rows.map (fun r => if key r = k then f r else r)).find? (fun r => key r = j) =
      if j = k then (rows.find? (fun r => key r = j)).map f
      else rows.find? (fun r => key r = j) := by
  induction rows with
  | nil => simp
  | cons r rows ih =>
    rw [List.map_cons, List.find?_cons, List.find?_cons, ih]
    by_cases hr : key r = k
    · rw [if_pos hr, hf r]
      by_cases hj : key r = j
      · have hjk : j = k := hj.symm.trans hr
        simp [hj, hjk]
      · simp [hj]
    · rw [if_neg hr]
      by_cases hj : key r = j
      · have hjk : j ≠ k := fun h => hr (hj.trans h)
        simp [hj, hjk]
      · simp [hj]

theorem get?_modify (t : KeyedTable key) (k j : κ) (f : ρ → ρ) (hf : ∀ r, key (f r) = key r) :
    (t.modify k f hf).get? j = if j = k then (t.get? j).map f else t.get? j :=
  find?_update t.rows k j f hf

@[simp] theorem get?_modify_self (t : KeyedTable key) (k : κ) (f : ρ → ρ)
    (hf : ∀ r, key (f r) = key r) : (t.modify k f hf).get? k = (t.get? k).map f := by
  rw [get?_modify, if_pos rfl]

@[simp] theorem get?_modify_ne (t : KeyedTable key) {j : κ} (f : ρ → ρ)
    (hf : ∀ r, key (f r) = key r) (h : j ≠ k) : (t.modify k f hf).get? j = t.get? j := by
  rw [get?_modify, if_neg h]

/-- A row after an update is the one that was updated, or it was there before. -/
theorem get?_modify_cases {f : ρ → ρ} {hf : ∀ r, key (f r) = key r} {j : κ} {r' : ρ}
    (hr : t.get? k = some r) (h : (t.modify k f hf).get? j = some r') :
    (j = k ∧ r' = f r) ∨ (j ≠ k ∧ t.get? j = some r') := by
  rw [get?_modify] at h
  split at h
  · rename_i hj
    rw [hj, hr] at h
    exact .inl ⟨hj, (Option.some.inj h).symm⟩
  · exact .inr ⟨‹_›, h⟩

@[simp] theorem isSome_get?_modify (t : KeyedTable key) (k j : κ) (f : ρ → ρ)
    (hf : ∀ r, key (f r) = key r) : ((t.modify k f hf).get? j).isSome = (t.get? j).isSome := by
  rw [get?_modify]
  split
  · rw [Option.isSome_map]
  · rfl

theorem get?_updateWhere (t : KeyedTable key) (p : ρ → Bool) (f : ρ → ρ)
    (hf : ∀ r, key (f r) = key r) (k : κ) :
    (t.updateWhere p f hf).get? k = (t.get? k).map (fun r => if p r then f r else r) := by
  show (t.rows.map _).find? _ = (t.rows.find? _).map _
  induction t.rows with
  | nil => rfl
  | cons r rows ih =>
    have hkey : key (if p r then f r else r) = key r := by
      split
      · exact hf r
      · rfl
    rw [List.map_cons, List.find?_cons, List.find?_cons, hkey, ih]
    by_cases hk : key r = k <;> simp [hk]

theorem update?_of_get? {Checks : ρ → Prop} [DecidablePred Checks] (h : t.get? k = some r)
    (f : ρ → ρ) (hf : ∀ r, key (f r) = key r) :
    t.update? Checks k f hf = if Checks (f r) then some (t.modify k f hf) else none := by
  unfold update?
  rw [h]

omit [DecidableEq κ] in
theorem ext_rows (h : t.rows = t'.rows) : t = t' := by
  cases t
  cases t'
  congr

/-- Two updates of one row are one update. -/
theorem modify_modify (t : KeyedTable key) (k : κ) (f g : ρ → ρ) (hf : ∀ r, key (f r) = key r)
    (hg : ∀ r, key (g r) = key r) :
    (t.modify k f hf).modify k g hg =
      t.modify k (fun r => g (f r)) (fun r => (hg (f r)).trans (hf r)) := by
  apply ext_rows
  show (t.rows.map _).map _ = t.rows.map _
  rw [List.map_map]
  apply List.map_congr_left
  intro r _
  by_cases hr : key r = k
  · simp [hr, hf r]
  · simp [hr]

/-! ### Insertion -/

theorem insert_eq_some (h : t.insert r = some t') :
    t.get? (key r) = none ∧ t'.rows = t.rows ++ [r] := by
  unfold insert at h
  split at h
  · cases h
  · rename_i hk
    cases h
    exact ⟨get?_eq_none_iff.mpr hk, rfl⟩

theorem get?_insert (h : t.insert r = some t') (j : κ) :
    t'.get? j = if j = key r then some r else t.get? j := by
  obtain ⟨hnone, hrows⟩ := insert_eq_some h
  have hfind : t'.get? j = (t.get? j).or (if key r = j then some r else none) := by
    rw [get?, hrows, List.find?_append]
    congr 1
    by_cases hj : key r = j <;> simp [hj]
  rw [hfind]
  by_cases hj : j = key r
  · subst hj; simp [hnone]
  · simp [hj, Ne.symm hj]

/-! ### Queries over all rows -/

/-- `EXISTS (SELECT 1 FROM t WHERE p)`. -/
def any (t : KeyedTable key) (p : ρ → Bool) : Bool := t.rows.any p

theorem any_eq_false (h : t.any p = false) (hr : t.get? k = some r) : p r = false := by
  have hmem := (get?_some hr).1
  unfold any at h
  rw [List.any_eq_false] at h
  simpa using h r hmem

theorem any_eq_true (h : t.any p = true) : ∃ k r, t.get? k = some r ∧ p r = true := by
  unfold any at h
  rw [List.any_eq_true] at h
  obtain ⟨r, hmem, hp⟩ := h
  exact ⟨key r, r, get?_of_mem hmem, hp⟩

/-! ### Rows and counts after an operation -/

/-- A row of an updated table is the rewritten row or one that was not touched. -/
theorem mem_rows_modify {f : ρ → ρ} {hf : ∀ r, key (f r) = key r} {r' : ρ}
    (h : r' ∈ (t.modify k f hf).rows) :
    (∃ r, t.get? k = some r ∧ r' = f r) ∨ (r' ∈ t.rows ∧ key r' ≠ k) := by
  obtain ⟨r, hr, hr'⟩ := List.mem_map.mp h
  by_cases hk : key r = k
  · rw [if_pos hk] at hr'
    exact .inl ⟨r, hk ▸ get?_of_mem hr, hr'.symm⟩
  · rw [if_neg hk] at hr'
    subst hr'
    exact .inr ⟨hr, hk⟩

omit [DecidableEq κ] in
/-- An update does not show in a selection that contains neither the rows it
    rewrites nor what it makes of them. -/
theorem filter_update {q : ρ → Bool} {f : ρ → ρ}
    (h : ∀ r, q r = true → p r = false ∧ p (f r) = false) (rows : List ρ) :
    (rows.map (fun r => if q r then f r else r)).filter p = rows.filter p := by
  induction rows with
  | nil => rfl
  | cons r rows ih =>
    rw [List.map_cons, List.filter_cons, List.filter_cons, ih]
    by_cases hq : q r = true
    · simp [hq, h r hq]
    · rw [if_neg hq]

/-- The number of rows that satisfy `p`. -/
def count (t : KeyedTable key) (p : ρ → Bool) : Nat := t.rows.countP p

theorem countP_update (rows : List ρ) (hnd : (rows.map key).Nodup) (hr : r ∈ rows) (f : ρ → ρ)
    (p : ρ → Bool) :
    (rows.map (fun r' => if key r' = key r then f r' else r')).countP p + (p r).toNat =
      rows.countP p + (p (f r)).toNat := by
  induction rows with
  | nil => cases hr
  | cons x rows ih =>
    obtain ⟨hx, hnd⟩ := List.nodup_cons.mp hnd
    rw [List.map_cons, List.countP_cons, List.countP_cons]
    by_cases hkey : key x = key r
    · -- The row is here, so nothing in the tail has its key.
      have htail : rows.map (fun r' => if key r' = key r then f r' else r') = rows := by
        apply (List.map_congr_left _).trans (List.map_id _)
        intro y hy
        have hne : key y ≠ key r := fun h => hx (hkey.trans h.symm ▸ List.mem_map_of_mem hy)
        rw [if_neg hne, id]
      have hxr : r = x := by
        rcases List.mem_cons.mp hr with h | h
        · exact h
        · exact absurd (hkey ▸ List.mem_map_of_mem h) hx
      subst hxr
      rw [htail, if_pos rfl]
      cases p r <;> cases p (f r) <;> simp
    · have hr' : r ∈ rows := by
        rcases List.mem_cons.mp hr with h | h
        · exact absurd (congrArg key h.symm) hkey
        · exact h
      have := ih hnd hr'
      rw [if_neg hkey]
      omega

/-- Updating one row moves the count by that row only. -/
theorem count_modify (h : t.get? k = some r) (f : ρ → ρ) (hf : ∀ r, key (f r) = key r)
    (p : ρ → Bool) : (t.modify k f hf).count p + (p r).toNat = t.count p + (p (f r)).toNat := by
  obtain ⟨hmem, rfl⟩ := get?_some h
  exact countP_update t.rows t.nodup hmem f p

theorem count_insert (h : t.insert r = some t') (p : ρ → Bool) :
    t'.count p = t.count p + (p r).toNat := by
  unfold count
  rw [(insert_eq_some h).2, List.countP_append, List.countP_singleton]
  cases p r <;> rfl

end KeyedTable
