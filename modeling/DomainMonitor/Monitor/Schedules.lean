import Mathlib.Data.List.Find
import DomainMonitor.Monitor.Scheduler

/-! # Schedules (`internal/domain/store.go`, `internal/sheets/apply.go`)

    The constraints of `monitor_schedules` and the statement that creates, enables
    and disables a schedule: `EnsureScheduleTx` of the domain store, which the
    imports repeat as `ensureSchedule`.
-/

namespace DomainMonitor.Monitor

/-! ### Constraints -/

/-- `CHECK` constraints of `monitor_schedules`. -/
def Schedule.Checks (s : Schedule) : Prop :=
  s.intervalSeconds ∈ ([300, 900, 1800, 3600, 21600, 86400] : List Int) ∧
  0 ≤ s.jitterSeconds ∧ s.jitterSeconds ≤ 3600 ∧ 0 < s.version

instance : DecidablePred Schedule.Checks :=
  fun _ => inferInstanceAs (Decidable (_ ∧ _))

variable {s : Schedule} {t t' : Schedules} {d : UUID} {call : EnsureCall} {enabled : Bool}

theorem Schedule.Checks.interval_pos (h : s.Checks) : 300 ≤ s.intervalSeconds := by
  have hmem := h.1
  simp only [List.mem_cons, List.not_mem_nil, or_false] at hmem
  omega

abbrev Schedules : Type := KeyedTable Schedule.id

/-- The rows satisfy their constraints, and `domain_id` is unique. -/
structure Schedules.Valid (t : Schedules) : Prop where
  checks : ∀ row ∈ t.rows, row.Checks
  unique : (t.rows.map Schedule.domainId).Nodup

theorem Schedules.Valid.eq_of_domain (h : t.Valid) {a b : Schedule} (ha : a ∈ t.rows)
    (hb : b ∈ t.rows) (hdomain : a.domainId = b.domainId) : a = b :=
  List.inj_on_of_nodup_map h.unique ha hb hdomain

theorem Schedules.map_domainId_modify (k : UUID) {f : Schedule → Schedule}
    (hf : ∀ s, (f s).id = s.id) (hdomain : ∀ s, (f s).domainId = s.domainId) :
    (t.modify k f hf).rows.map Schedule.domainId = t.rows.map Schedule.domainId := by
  show (t.rows.map _).map _ = _
  rw [List.map_map]
  apply List.map_congr_left
  intro s _
  simp only [Function.comp_apply]
  split
  · exact hdomain s
  · rfl

/-- An update of one row that keeps its domain and its constraints. -/
theorem Schedules.Valid.modify (h : t.Valid) (k : UUID) {f : Schedule → Schedule}
    (hf : ∀ s, (f s).id = s.id) (hdomain : ∀ s, (f s).domainId = s.domainId)
    (hchecks : ∀ s, s.Checks → (f s).Checks) : Schedules.Valid (t.modify k f hf) where
  checks row hrow := by
    rcases KeyedTable.mem_rows_modify hrow with ⟨r, hr, rfl⟩ | ⟨hr, -⟩
    · exact hchecks r (h.checks r (KeyedTable.get?_some hr).1)
    · exact h.checks row hr
  unique := by
    rw [Schedules.map_domainId_modify k hf hdomain]
    exact h.unique

/-! ### EnsureScheduleTx -/

/-- The row of a domain. -/
def Schedules.ofDomain (t : Schedules) (d : UUID) : Option Schedule :=
  t.rows.find? (fun s => s.domainId = d)

/-- The row that is inserted; interval and priority are the defaults of their
    columns. -/
def newSchedule (id domainID : UUID) (jitter now : Int) (enabled : Bool) : Schedule where
  id := id
  domainId := domainID
  intervalSeconds := 3600
  priority := .normal
  enabled := enabled
  jitterSeconds := jitter
  nextDueAt := now
  lastDueAt := none
  lastRunId := none
  version := 1

/-- `ON CONFLICT (domain_id) DO UPDATE SET ...`. -/
def Schedule.ensure (now : Int) (enabled : Bool) (s : Schedule) : Schedule :=
  { s with
    enabled := enabled
    -- A schedule that comes back is due at once.
    nextDueAt := if enabled && !s.enabled then now else s.nextDueAt
    version := s.version + 1 }

@[simp] theorem Schedule.ensure_id (now : Int) (enabled : Bool) (s : Schedule) :
    (s.ensure now enabled).id = s.id := rfl

/-- One call: the id the database draws for a new row, the jitter of that row, and
    the database clock. The domain store takes a jitter between 0 and 59 from a hash
    of the domain's id; the imports leave the column at its default, 0. -/
structure EnsureCall where
  newID : UUID
  jitter : Int
  now : Int
  deriving DecidableEq, Repr

/-- `EnsureScheduleTx`, and `ensureSchedule` of the imports. -/
def ensureSchedule (call : EnsureCall) (domainID : UUID) (enabled : Bool) (t : Schedules) :
    Option Schedules :=
  match t.ofDomain domainID with
  | some row => some (t.modify row.id (Schedule.ensure call.now enabled) (Schedule.ensure_id _ _))
  | none => t.insert (newSchedule call.newID domainID call.jitter call.now enabled)

/-- The call turns a disabled schedule on. -/
def reenables (domainID : UUID) (enabled : Bool) (t : Schedules) : Bool :=
  (t.ofDomain domainID).any (fun s => enabled && !s.enabled)

theorem Schedules.ofDomain_some (h : t.ofDomain d = some s) : s ∈ t.rows ∧ s.domainId = d :=
  ⟨List.mem_of_find?_eq_some h, by simpa using List.find?_some h⟩

theorem Schedules.ofDomain_none (h : t.ofDomain d = none) (hs : s ∈ t.rows) : s.domainId ≠ d := by
  simpa using List.find?_eq_none.mp h s hs

theorem Schedules.Valid.ofDomain_eq (h : t.Valid) (hs : s ∈ t.rows) :
    t.ofDomain s.domainId = some s := by
  cases hfind : t.ofDomain s.domainId with
  | none => exact absurd rfl (Schedules.ofDomain_none hfind hs)
  | some row =>
    obtain ⟨hrow, hdomain⟩ := Schedules.ofDomain_some hfind
    rw [h.eq_of_domain hrow hs hdomain]

/-- `domain_id` stays unique. -/
theorem ensureSchedule_unique (ht : (t.rows.map Schedule.domainId).Nodup)
    (h : ensureSchedule call d enabled t = some t') : (t'.rows.map Schedule.domainId).Nodup := by
  unfold ensureSchedule at h
  cases hfind : t.ofDomain d with
  | some row =>
    rw [hfind] at h
    cases h
    rw [Schedules.map_domainId_modify row.id (Schedule.ensure_id _ _) (fun _ => rfl)]
    exact ht
  | none =>
    rw [hfind] at h
    rw [(KeyedTable.insert_eq_some h).2, List.map_append, List.nodup_append]
    refine ⟨ht, List.nodup_singleton _, ?_⟩
    intro a ha b hb
    obtain ⟨s, hs, rfl⟩ := List.mem_map.mp ha
    rw [List.map_singleton, List.mem_singleton] at hb
    rw [hb]
    exact Schedules.ofDomain_none hfind hs

/-- After a call the domain has a schedule with that flag, and the schedules of
    other domains are the same. -/
theorem ensureSchedule_ofDomain (h : ensureSchedule call d enabled t = some t') :
    (∃ s, t'.ofDomain d = some s ∧ s.enabled = enabled) ∧
      ∀ k, k ≠ d → t'.ofDomain k = t.ofDomain k := by
  unfold ensureSchedule at h
  cases hfind : t.ofDomain d with
  | some row =>
    rw [hfind] at h
    cases h
    obtain ⟨hrow, hdomain⟩ := Schedules.ofDomain_some hfind
    have hmodify : ∀ k, Schedules.ofDomain (t.modify row.id (Schedule.ensure call.now enabled)
        (Schedule.ensure_id _ _)) k =
        (t.ofDomain k).map (fun s => if s.id = row.id then s.ensure call.now enabled else s) := by
      intro k
      show (t.rows.map _).find? _ = _
      rw [List.find?_map]
      congr 1
      apply List.find?_congr
      intro s _
      simp only [Function.comp_apply]
      split <;> rfl
    constructor
    · refine ⟨row.ensure call.now enabled, ?_, rfl⟩
      rw [hmodify, hfind, Option.map_some, if_pos rfl]
    · intro k hk
      rw [hmodify]
      cases hother : t.ofDomain k with
      | none => rfl
      | some s =>
        obtain ⟨hs, hsk⟩ := Schedules.ofDomain_some hother
        have hne : s.id ≠ row.id := by
          intro hid
          rw [t.eq_of_key_eq hs hrow hid] at hsk
          exact hk (hsk.symm.trans hdomain)
        rw [Option.map_some, if_neg hne]
  | none =>
    rw [hfind] at h
    have hinsert : ∀ k, t'.ofDomain k = (t.ofDomain k).or (if d = k then
        some (newSchedule call.newID d call.jitter call.now enabled) else none) := by
      intro k
      rw [Schedules.ofDomain, (KeyedTable.insert_eq_some h).2, List.find?_append]
      congr 1
      by_cases hk : d = k <;> simp [newSchedule, hk]
    constructor
    · exact ⟨_, by rw [hinsert, hfind, if_pos rfl]; rfl, rfl⟩
    · intro k hk
      rw [hinsert, if_neg (Ne.symm hk), Option.or_none]

theorem ensureSchedule_valid (hjitter : 0 ≤ call.jitter ∧ call.jitter < 60) (ht : t.Valid)
    (h : ensureSchedule call d enabled t = some t') : t'.Valid := by
  refine ⟨?_, ensureSchedule_unique ht.unique h⟩
  unfold ensureSchedule at h
  cases hfind : t.ofDomain d with
  | some row =>
    rw [hfind] at h
    cases h
    refine (ht.modify row.id (Schedule.ensure_id _ _) (fun _ => rfl) ?_).checks
    intro s hs
    obtain ⟨hinterval, hlow, hhigh, hversion⟩ := hs
    exact ⟨hinterval, hlow, hhigh, Int.add_pos hversion Int.one_pos⟩
  | none =>
    rw [hfind] at h
    intro row hrow
    rw [(KeyedTable.insert_eq_some h).2, List.mem_append, List.mem_singleton] at hrow
    rcases hrow with hrow | hrow
    · exact ht.checks row hrow
    · rw [hrow]
      have hdefault : (3600 : Int) ∈ ([300, 900, 1800, 3600, 21600, 86400] : List Int) := by decide
      exact ⟨hdefault, hjitter.1, by show call.jitter ≤ 3600; omega, Int.one_pos⟩

/-- A schedule after a call for any domain: it keeps its domain and interval, and
    also its due time unless the call turned it back on. -/
theorem ensureSchedule_get? (ht : t.Valid) (h : ensureSchedule call d enabled t = some t')
    {k : UUID} {row : Schedule} (hrow : t.get? k = some row) :
    t'.get? k = some (if row.domainId = d then row.ensure call.now enabled else row) := by
  obtain ⟨hmem, hkey⟩ := KeyedTable.get?_some hrow
  unfold ensureSchedule at h
  cases hfind : t.ofDomain d with
  | some found =>
    rw [hfind] at h
    cases h
    obtain ⟨hfound, hdomain⟩ := Schedules.ofDomain_some hfind
    rw [KeyedTable.get?_modify, hrow]
    by_cases hd : row.domainId = d
    · -- The domain has one schedule only.
      have hsame : found = row := ht.eq_of_domain hfound hmem (hdomain.trans hd.symm)
      rw [hsame, if_pos hkey.symm, if_pos hd, Option.map_some]
    · rw [if_neg hd, if_neg]
      intro hk
      have hsame : found = row := t.eq_of_key_eq hfound hmem (hk.symm.trans hkey.symm)
      exact hd (hsame ▸ hdomain)
  | none =>
    rw [hfind] at h
    rw [KeyedTable.get?_insert h, if_neg (Schedules.ofDomain_none hfind hmem), if_neg, hrow]
    intro hk
    rw [hk, (KeyedTable.insert_eq_some h).1] at hrow
    cases hrow

end DomainMonitor.Monitor
