import DomainMonitor.Lib.ChangeLog
import DomainMonitor.Monitor.Complete

/-! # The status history of a domain

    The rows of `domain_status_history` about one domain and dimension form a log
    of changes. A transaction that writes a domain and records what it changed
    (`Records`) keeps every such log replayable, and `CompleteRun` is one.
-/

namespace DomainMonitor.Monitor

open Classification ChangeLog

/-! ### Logs -/

/-- The rows about one domain and dimension, in commit order. -/
def rowsOf (history : List HistoryRow) (d : UUID) (dim : Dimension) : List HistoryRow :=
  history.filter (fun r => r.domainId = d && r.dimension = dim)

theorem rowsOf_append (h h' : List HistoryRow) (d : UUID) (dim : Dimension) :
    rowsOf (h ++ h') d dim = rowsOf h d dim ++ rowsOf h' d dim :=
  List.filter_append ..

variable {d : UUID} {db db' : DB}

variable {input : EffectiveInput} {rows changes history : List HistoryRow} {reasons : List String}
  {execution : Execution} {call : CompleteCall} {evidence : Evidence} {dim : Dimension}
  {effectiveAt : Int}

theorem rowsOf_eq_nil (h : ∀ r ∈ history, r.domainId ≠ d) (dim : Dimension) :
    rowsOf history d dim = [] := by
  rw [rowsOf, List.filter_eq_nil_iff]
  intro r hr
  simp [h r hr]

/-- The history leads from `UNKNOWN` to the value in the domain's row. -/
def ReplaysTo (history : List HistoryRow) (d : UUID) (dim : Dimension) (current : Statuses) : Prop :=
  Replays HistoryRow.previousValue HistoryRow.currentValue (statusValue Statuses.unknown dim)
    (rowsOf history d dim) (statusValue current dim)

/-- Every log can be replayed, and every row is about a domain. -/
structure HistoryReplays (db : DB) : Prop where
  chain : ∀ {d row}, db.domains.get? d = some row → ∀ dim, ReplaysTo db.history d dim row.current
  reference : ∀ r ∈ db.history, (db.domains.get? r.domainId).isSome = true

/-- The new rows record the change of one domain from `before` to `after`: one
    row for each dimension that changed. -/
structure Records (d : UUID) (before after : Statuses) (changes : List HistoryRow) : Prop where
  own : ∀ r ∈ changes, r.domainId = d
  same : ∀ dim, statusValue before dim = statusValue after dim → rowsOf changes d dim = []
  changed : ∀ dim, statusValue before dim ≠ statusValue after dim →
    ∃ r, rowsOf changes d dim = [r] ∧ r.previousValue = some (statusValue before dim) ∧
      r.currentValue = statusValue after dim

/-- The log of the written domain is extended by what changed. -/
theorem ReplaysTo.extend {before after : Statuses} (h : ReplaysTo history d dim before)
    (hrecords : Records d before after changes) : ReplaysTo (history ++ changes) d dim after := by
  unfold ReplaysTo at h ⊢
  rw [rowsOf_append]
  by_cases hchange : statusValue before dim = statusValue after dim
  · rw [hrecords.same dim hchange, List.append_nil, ← hchange]
    exact h
  · obtain ⟨r, hrows, hbefore, hafter⟩ := hrecords.changed dim hchange
    rw [hrows, ← hafter]
    exact h.record hbefore (by rw [hafter]; exact Ne.symm hchange)

/-- **Step lemma**: writing one domain and recording the change keeps the history
    replayable. -/
theorem HistoryReplays.write {row : Domain} {after : Statuses} (h : HistoryReplays db)
    (hrow : db.domains.get? d = some row) (hrecords : Records d row.current after changes)
    (hhistory : db'.history = db.history ++ changes)
    (hself : (db'.domains.get? d).map Domain.current = some after)
    (hothers : ∀ d', d' ≠ d → db'.domains.get? d' = db.domains.get? d') : HistoryReplays db' := by
  constructor
  · intro d' row' hrow' dim
    rw [hhistory]
    by_cases hd : d' = d
    · subst hd
      rw [hrow', Option.map_some, Option.some.injEq] at hself
      rw [hself]
      exact (h.chain hrow dim).extend hrecords
    · rw [hothers d' hd] at hrow'
      unfold ReplaysTo
      rw [rowsOf_append, rowsOf_eq_nil (fun r hr hr' => hd (hr'.symm.trans (hrecords.own r hr))),
        List.append_nil]
      exact h.chain hrow' dim
  · have hkept : ∀ d', (db.domains.get? d').isSome = true → (db'.domains.get? d').isSome = true := by
      intro d' hsome
      by_cases hd : d' = d
      · subst hd
        cases hget : db'.domains.get? d' with
        | none => rw [hget] at hself; cases hself
        | some row' => rfl
      · rw [hothers d' hd]
        exact hsome
    intro r hr
    rw [hhistory] at hr
    rcases List.mem_append.mp hr with hr | hr
    · exact hkept _ (h.reference r hr)
    · rw [hrecords.own r hr]
      exact hkept d (by rw [hrow]; rfl)

/-! ### What `Advance` changes -/

theorem statusValue_ne_iff {a b : Statuses} :
    dim ∈ changedDimensions a b ↔ statusValue a dim ≠ statusValue b dim := by
  cases dim <;> simp [changedDimensions, statusValue]

theorem changedDimensions_nodup (a b : Statuses) : (changedDimensions a b).Nodup := by
  -- Each dimension is listed at most once, in a fixed order.
  have hpart : ∀ (c : Prop) [Decidable c] (d : Dimension),
      (if c then [d] else []).Sublist [d] := by
    intro c _ d
    by_cases hc : c <;> simp [hc]
  have hall : (changedDimensions a b).Sublist
      [.availability, .dns, .http, .redirect, .isp, .tls, .content] :=
    ((((((hpart _ _).append (hpart _ _)).append (hpart _ _)).append (hpart _ _)).append
      (hpart _ _)).append (hpart _ _)).append (hpart _ _)
  exact hall.nodup (by decide)

/-- `ChangedDimensions` lists exactly what changed, also for a run that changes
    nothing. -/
theorem advance_changedDimensions (input : EffectiveInput) :
    (advance input).changedDimensions = changedDimensions input.current (advance input).statuses := by
  have hcarried : input.carried.changedDimensions =
      changedDimensions input.current input.carried.statuses := by
    simp [EffectiveInput.carried, changedDimensions]
  unfold advance
  split
  · exact hcarried
  · dsimp only
    split
    · rfl
    · rfl
    · rfl
    · exact hcarried

/-- `advance` leaves the ISP status alone when the run did not observe one. -/
theorem advance_isp (h : input.observed.isp = .unknown) :
    (advance input).statuses.isp = input.current.isp := by
  unfold advance
  split
  · rfl
  · dsimp only
    split
    · simp [finishAdvance, mergeStatuses, observedOrCurrent, h]
    · simp [finishAdvance, mergeStatuses, observedOrCurrent, h]
    · simp [finishAdvance, mergeStatuses, observedOrCurrent, h]
    · rfl

/-! ### CompleteRun -/

/-- The history a completion inserts: one row per changed dimension. -/
theorem persistHistory_ok {run : Run} {before : EffectiveInput} {after : EffectiveState}
    (h : persistHistory run before after reasons effectiveAt = .ok rows) :
    rows = after.changedDimensions.map (historyRow run before after reasons effectiveAt) := by
  unfold persistHistory at h
  generalize after.changedDimensions = dims at h ⊢
  induction dims generalizing rows with
  | nil =>
    cases h
    rfl
  | cons dim dims ih =>
    rw [List.mapM_cons, except_bind_ok] at h
    obtain ⟨row, hrow, h⟩ := h
    rw [except_bind_ok] at h
    obtain ⟨rest, hrest, h⟩ := h
    cases h
    rw [ih hrest, List.map_cons]
    dsimp only at hrow
    split at hrow
    · cases hrow
      rfl
    · cases hrow

/-- Of distinct dimensions, one keeps the row of its own. -/
theorem rowsOf_map_historyRow (run : Run) (before : EffectiveInput) (after : EffectiveState)
    (reasons : List String) (effectiveAt : Int) (dims : List Dimension) (hnodup : dims.Nodup)
    (dim : Dimension) :
    rowsOf (dims.map (historyRow run before after reasons effectiveAt)) run.domainId dim =
      if dim ∈ dims then [historyRow run before after reasons effectiveAt dim] else [] := by
  induction dims with
  | nil => rfl
  | cons x dims ih =>
    obtain ⟨hx, hnodup⟩ := List.nodup_cons.mp hnodup
    have ih := ih hnodup
    unfold rowsOf at ih ⊢
    rw [List.map_cons, List.filter_cons, ih]
    by_cases hdim : x = dim
    · subst hdim
      simp [historyRow, hx]
    · simp [historyRow, hdim, Ne.symm hdim]

theorem persistHistory_records {run : Run}
    (h : persistHistory run input (advance input) reasons effectiveAt = .ok rows) :
    Records run.domainId input.current (advance input).statuses rows := by
  have hrows := persistHistory_ok h
  rw [advance_changedDimensions] at hrows
  have hof := rowsOf_map_historyRow run input (advance input) reasons effectiveAt
    (changedDimensions input.current (advance input).statuses) (changedDimensions_nodup _ _)
  subst hrows
  constructor
  · intro r hr
    obtain ⟨dim, -, rfl⟩ := List.mem_map.mp hr
    rfl
  · intro dim hsame
    rw [hof, if_neg (fun hmem => statusValue_ne_iff.mp hmem hsame)]
  · intro dim hne
    rw [hof, if_pos (statusValue_ne_iff.mpr hne)]
    exact ⟨_, rfl, rfl, rfl⟩

/-- What a completion does to the domains: only the run's domain is written, with
    the effective state. -/
theorem completeRun_writes {cfg : Config} (h : completeRun cfg call execution evidence db = .ok db') :
    ∃ row, db.domains.get? execution.run.domainId = some row ∧
      (db'.domains.get? execution.run.domainId).map Domain.current =
        some (effectiveState cfg row execution.run evidence.decision).statuses ∧
      (∀ d, d ≠ execution.run.domainId → db'.domains.get? d = db.domains.get? d) ∧
      ∃ changes, db'.history = db.history ++ changes ∧
        Records execution.run.domainId row.current
          (effectiveState cfg row execution.run evidence.decision).statuses changes := by
  obtain ⟨p, hp, rfl⟩ := completeRun_ok_iff.mp h
  obtain ⟨stage, code, -, -, -, hdomains⟩ := updateDomain?_some hp.domain hp.domains
  refine ⟨p.domain, hp.domain, ?_, ?_, p.history, rfl, persistHistory_records hp.history⟩
  · show (p.domains.get? _).map _ = _
    rw [hdomains, KeyedTable.get?_modify_self, hp.domain]
    rfl
  · intro d hd
    show p.domains.get? d = _
    rw [hdomains, KeyedTable.get?_modify_ne _ _ _ hd]

/-- A completion keeps the history replayable. -/
theorem HistoryReplays.completeRun {cfg : Config} (hdb : HistoryReplays db)
    (h : completeRun cfg call execution evidence db = .ok db') : HistoryReplays db' := by
  obtain ⟨row, hrow, hself, hothers, changes, hhistory, hrecords⟩ := completeRun_writes h
  exact hdb.write hrow hrecords hhistory hself hothers

end DomainMonitor.Monitor
