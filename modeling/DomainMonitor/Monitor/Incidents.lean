import DomainMonitor.Lib.Transition
import DomainMonitor.Monitor.Complete

/-! # Incidents follow the effective availability

    `Advance` computes the effective availability and `applyIncident`, in code of
    its own, opens and closes incidents. This file shows that the two agree in
    every state that any sequence of `CompleteRun` commits can reach, whatever
    was observed and however the thresholds change in between.

    `applyIncident` is first reduced to what it does to the number of active
    incidents of the domain (`nextActive`) and to the event log of one incident
    (`LogWellFormed`); the agreement is then a statement about those two.
-/

namespace DomainMonitor.Monitor

open Classification

/-! ### Event logs -/

/-- `failure_observed` or `success_observed`. -/
def EventType.isObservation (e : EventType) : Bool :=
  e = .failureObserved || e = .successObserved

/-- An event log: `opened`, then observations; a closed incident's log ends in
    `success_observed`, `closed`. -/
def LogWellFormed (closed : Prop) (log : List EventType) : Prop :=
  ∃ mid : List EventType, (∀ e ∈ mid, e.isObservation = true) ∧
    (¬ closed ∧ log = .opened :: mid ∨
      closed ∧ (∃ pre, mid = pre ++ [.successObserved]) ∧ log = .opened :: mid ++ [.closed])

/-- The types of an incident's events, oldest first. -/
def Incident.log (i : Incident) : List EventType := i.events.map IncidentEvent.type

/-- The event log fits the status, and nobody acknowledged the incident. -/
def Incident.LogOk (i : Incident) : Prop :=
  i.status ≠ .acknowledged ∧ LogWellFormed (i.status = .closed) i.log

variable {log : List EventType} {incidents incidents' : Incidents} {d : UUID} {i : Incident}
  {run : Run} {state : EffectiveState} {checkedAt : Int} {decision : Decision}

variable {availability : Availability} {call : CompleteCall} {evidence : Evidence}
  {closeSuccesses : Int} {closed : Prop} {id : UUID}

theorem logWellFormed_of_not (hc : ¬ closed) :
    LogWellFormed closed log ↔
      ∃ mid, (∀ e ∈ mid, EventType.isObservation e = true) ∧ log = .opened :: mid := by
  simp only [LogWellFormed, hc, not_false_eq_true, true_and, false_and, or_false]

theorem logWellFormed_of (hc : closed) :
    LogWellFormed closed log ↔
      ∃ mid, (∀ e ∈ mid, EventType.isObservation e = true) ∧
        (∃ pre, mid = pre ++ [.successObserved]) ∧ log = .opened :: mid ++ [.closed] := by
  simp only [LogWellFormed, hc, not_true_eq_false, true_and, false_and, false_or]

/-- The log of an open incident may be extended by an observation. -/
theorem logWellFormed_observe {c c' : Prop} (hc : ¬ c) (hc' : ¬ c') {e : EventType}
    (h : LogWellFormed c log) (he : e.isObservation = true) : LogWellFormed c' (log ++ [e]) := by
  rw [logWellFormed_of_not hc] at h
  rw [logWellFormed_of_not hc']
  obtain ⟨mid, hmid, rfl⟩ := h
  exact ⟨mid ++ [e], List.forall_mem_append.mpr ⟨hmid, List.forall_mem_singleton.mpr he⟩, rfl⟩

/-- The log of an open incident may be extended by `success_observed`, `closed`. -/
theorem logWellFormed_close {c c' : Prop} (hc : ¬ c) (hc' : c') (h : LogWellFormed c log) :
    LogWellFormed c' (log ++ [.successObserved] ++ [.closed]) := by
  rw [logWellFormed_of_not hc] at h
  rw [logWellFormed_of hc']
  obtain ⟨mid, hmid, rfl⟩ := h
  exact ⟨mid ++ [.successObserved], List.forall_mem_append.mpr ⟨hmid, List.forall_mem_singleton.mpr rfl⟩,
    ⟨mid, rfl⟩, rfl⟩

/-! ### What `applyIncident` can do -/

/-- The row after a success that does not close the incident. -/
def Incident.recovered (run : Run) (streak : Int) (i : Incident) : Incident :=
  (i.recover streak).addEvent .successObserved run (.success streak)

/-- The row after the success that closes the incident. -/
def Incident.resolved (run : Run) (streak checkedAt : Int) (i : Incident) : Incident :=
  ((i.recovered run streak).close run checkedAt).addEvent .closed run (.success streak)

/-- The row after another failure. -/
def Incident.failedAgain (run : Run) (streak : Int) (stage code : Option Text)
    (error : Option Code) (i : Incident) : Incident :=
  (i.observeFailure streak stage code).addEvent .failureObserved run (.failure streak error)

@[simp] theorem Incident.recovered_id (run : Run) (streak : Int) (i : Incident) :
    (i.recovered run streak).id = i.id := rfl

@[simp] theorem Incident.resolved_id (run : Run) (streak checkedAt : Int) (i : Incident) :
    (i.resolved run streak checkedAt).id = i.id := rfl

@[simp] theorem Incident.failedAgain_id (run : Run) (streak : Int) (stage code : Option Text)
    (error : Option Code) (i : Incident) : (i.failedAgain run streak stage code error).id = i.id :=
  rfl

/-- A run observed a failure. -/
def Failing (decision : Decision) : Prop :=
  decision.availability = .unavailable ∨ decision.availability = .degraded

section

variable (run : Run) (decision : Decision) (state : EffectiveState)
  (openFailures closeSuccesses checkedAt : Int) (incidents : Incidents)

/-- Every outcome of `applyIncident`. -/
inductive IncidentOutcome : Incidents → Prop where
  | inconclusive (hdec : decision.availability = .unknown) :
      IncidentOutcome incidents
  | healthy (hnone : incidents.active? run.domainId = none)
      (hdec : decision.availability = .active) :
      IncidentOutcome incidents
  | tolerated (hnone : incidents.active? run.domainId = none) (hdec : Failing decision)
      (hstate : state.statuses.availability ≠ .unavailable ∨ state.failureStreak < openFailures) :
      IncidentOutcome incidents
  | recovering (i : Incident) (hsome : incidents.active? run.domainId = some i)
      (hdec : decision.availability = .active)
      (hstate : ¬ (state.statuses.availability = .active ∧ state.successStreak ≥ closeSuccesses)) :
      IncidentOutcome (incidents.modify i.id (Incident.recovered run state.successStreak)
          (Incident.recovered_id _ _))
  | resolved (i : Incident) (hsome : incidents.active? run.domainId = some i)
      (hdec : decision.availability = .active)
      (hstate : state.statuses.availability = .active ∧ state.successStreak ≥ closeSuccesses) :
      IncidentOutcome (incidents.modify i.id (Incident.resolved run state.successStreak checkedAt)
          (Incident.resolved_id _ _ _))
  | failedAgain (i : Incident) (stage code : Option Text)
      (hsome : incidents.active? run.domainId = some i) (hdec : Failing decision) :
      IncidentOutcome (incidents.modify i.id
          (Incident.failedAgain run state.failureStreak stage code decision.errorCode)
          (Incident.failedAgain_id _ _ _ _ _))
  | opened (id : UUID) (stage code : Option Text) (incidents' : Incidents)
      (hnone : incidents.active? run.domainId = none) (hdec : Failing decision)
      (hstate : state.statuses.availability = .unavailable ∧ openFailures ≤ state.failureStreak)
      (hinsert : incidents.insert (newIncident id run decision state checkedAt stage code) =
        some incidents') :
      IncidentOutcome incidents'

end

theorem active?_some (h : incidents.active? d = some i) :
    incidents.get? i.id = some i ∧ i.domainId = d ∧ i.isActive = true := by
  have hp := List.find?_some h
  simp only [Bool.and_eq_true, decide_eq_true_eq] at hp
  exact ⟨KeyedTable.get?_of_mem (List.mem_of_find?_eq_some h), hp.1, hp.2⟩

theorem observeSuccess_ok (hi : incidents.get? i.id = some i)
    (h : observeSuccess run state closeSuccesses checkedAt i incidents = .ok incidents') :
    incidents' =
      if state.statuses.availability = .active ∧ state.successStreak ≥ closeSuccesses then
        incidents.modify i.id (Incident.resolved run state.successStreak checkedAt)
          (Incident.resolved_id _ _ _)
      else
        incidents.modify i.id (Incident.recovered run state.successStreak)
          (Incident.recovered_id _ _) := by
  simp only [observeSuccess, except_bind_ok, orError_ok] at h
  obtain ⟨incidents₁, h₁, h⟩ := h
  rw [KeyedTable.update?_of_get? hi] at h₁
  by_cases hc₁ : (i.recover state.successStreak).Checks
  case neg => rw [if_neg hc₁] at h₁; cases h₁
  rw [if_pos hc₁] at h₁
  obtain rfl := Option.some.inj h₁
  rw [KeyedTable.modify_modify] at h
  by_cases hclose :
      state.statuses.availability = .active ∧ state.successStreak ≥ closeSuccesses
  · rw [if_pos hclose] at h ⊢
    simp only [except_bind_ok, orError_ok] at h
    obtain ⟨incidents₂, h₂, h⟩ := h
    have hi₂ := KeyedTable.get?_modify_self incidents i.id
      (Incident.recovered run state.successStreak)
          (Incident.recovered_id _ _)
    rw [hi, Option.map_some] at hi₂
    change KeyedTable.update? Incident.Checks (incidents.modify i.id
      (Incident.recovered run state.successStreak)
          (Incident.recovered_id _ _)) i.id _ _ = _ at h₂
    rw [KeyedTable.update?_of_get? hi₂] at h₂
    split at h₂
    · obtain rfl := Option.some.inj h₂
      rw [KeyedTable.modify_modify, KeyedTable.modify_modify] at h
      exact (Except.ok.inj h).symm
    · cases h₂
  · rw [if_neg hclose] at h ⊢
    exact (Except.ok.inj h).symm

theorem observeFailure_ok (hi : incidents.get? i.id = some i)
    (h : observeFailure run decision state i incidents = .ok incidents') :
    ∃ stage code, incidents' = incidents.modify i.id
      (Incident.failedAgain run state.failureStreak stage code decision.errorCode)
      (Incident.failedAgain_id _ _ _ _ _) := by
  simp only [observeFailure, except_bind_ok, orError_ok] at h
  obtain ⟨stage, -, code, -, incidents₁, h₁, h⟩ := h
  rw [KeyedTable.update?_of_get? hi] at h₁
  split at h₁
  · obtain rfl := Option.some.inj h₁
    rw [KeyedTable.modify_modify] at h
    exact ⟨stage, code, (Except.ok.inj h).symm⟩
  · cases h₁

theorem openIncident_ok
    (h : openIncident id run decision state checkedAt incidents = .ok incidents') :
    ∃ stage code, incidents.insert (newIncident id run decision state checkedAt stage code) =
      some incidents' := by
  simp only [openIncident, except_bind_ok, orError_ok] at h
  obtain ⟨stage, -, code, -, h⟩ := h
  split at h
  · exact ⟨stage, code, orError_ok.mp h⟩
  · cases h

theorem applyIncident_outcome {openFailures : Int}
    (h : applyIncident id run decision state openFailures closeSuccesses checkedAt incidents = .ok incidents') :
    IncidentOutcome run decision state openFailures closeSuccesses checkedAt incidents
      incidents' := by
  have failing : Failing decision →
      IncidentOutcome run decision state openFailures closeSuccesses checkedAt incidents
        incidents' := by
    intro hdec
    cases hactive : incidents.active? run.domainId with
    | some i =>
      have hrun : observeFailure run decision state i incidents = .ok incidents' := by
        rcases hdec with hdec | hdec <;> simpa only [applyIncident, hactive, hdec] using h
      obtain ⟨stage, code, rfl⟩ := observeFailure_ok (active?_some hactive).1 hrun
      exact .failedAgain i stage code hactive hdec
    | none =>
      have hrun : (if state.statuses.availability ≠ .unavailable ∨
          state.failureStreak < openFailures then .ok incidents
          else openIncident id run decision state checkedAt incidents) = .ok incidents' := by
        rcases hdec with hdec | hdec <;> simpa only [applyIncident, hactive, hdec] using h
      by_cases hstate :
          state.statuses.availability ≠ .unavailable ∨ state.failureStreak < openFailures
      · rw [if_pos hstate] at hrun
        obtain rfl := Except.ok.inj hrun
        exact .tolerated hactive hdec hstate
      · rw [if_neg hstate] at hrun
        obtain ⟨stage, code, hinsert⟩ := openIncident_ok hrun
        rw [not_or, not_not] at hstate
        exact .opened id stage code incidents' hactive hdec ⟨hstate.1, by omega⟩ hinsert
  cases hdec : decision.availability with
  | unavailable => exact failing (.inl hdec)
  | degraded => exact failing (.inr hdec)
  | unknown =>
    have : incidents' = incidents := by
      cases hactive : incidents.active? run.domainId <;>
        simpa [applyIncident, hactive, hdec, eq_comm] using h
    subst this
    exact .inconclusive hdec
  | active =>
    cases hactive : incidents.active? run.domainId with
    | none =>
      have : incidents' = incidents := by
        simpa [applyIncident, hactive, hdec, eq_comm] using h
      subst this
      exact .healthy hactive hdec
    | some i =>
      simp only [applyIncident, hactive, hdec] at h
      obtain rfl := observeSuccess_ok (active?_some hactive).1 h
      by_cases hclose :
          state.statuses.availability = .active ∧ state.successStreak ≥ closeSuccesses
      · rw [if_pos hclose]
        exact .resolved i hactive hdec hclose
      · rw [if_neg hclose]
        exact .recovering i hactive hdec hclose

/-! ### Counting active incidents -/

/-- The number of open or acknowledged incidents of a domain. -/
def Incidents.activeCount (incidents : Incidents) (d : UUID) : Nat :=
  incidents.count (fun i => i.domainId = d && i.isActive)

theorem active?_eq_none_iff : incidents.active? d = none ↔ incidents.activeCount d = 0 := by
  unfold Incidents.active? Incidents.activeCount KeyedTable.count
  rw [List.find?_eq_none, List.countP_eq_zero]

theorem activeCount_pos (h : incidents.active? d = some i) : 0 < incidents.activeCount d := by
  rcases Nat.eq_zero_or_pos (incidents.activeCount d) with h0 | hpos
  · rw [active?_eq_none_iff.mpr h0] at h
    cases h
  · exact hpos

/-- An update of a row that keeps its domain and whether it is active keeps
    every count. -/
theorem activeCount_modify_same {f : Incident → Incident} {hf : ∀ i, (f i).id = i.id}
    (hi : incidents.get? i.id = some i) (hdomain : (f i).domainId = i.domainId)
    (hactive : (f i).isActive = i.isActive) (d : UUID) :
    Incidents.activeCount (incidents.modify i.id f hf) d = incidents.activeCount d := by
  have h := KeyedTable.count_modify hi f hf (fun i => i.domainId = d && i.isActive)
  rw [hdomain, hactive] at h
  exact Nat.add_right_cancel h

/-- What a success makes of `n` active incidents. -/
def activeAfterSuccess (availability : Availability) (streak closeSuccesses : Int) (n : Nat) :
    Nat :=
  if availability = .active ∧ streak ≥ closeSuccesses then n - 1 else n

/-- What a failure makes of `n` active incidents. -/
def activeAfterFailure (availability : Availability) (streak openFailures : Int) (n : Nat) :
    Nat :=
  if n = 0 ∧ availability = .unavailable ∧ openFailures ≤ streak then 1 else n

/-- What `applyIncident` makes of `n` active incidents of its domain. -/
def nextActive (observed : Availability) (state : EffectiveState)
    (openFailures closeSuccesses : Int) (n : Nat) : Nat :=
  match observed with
  | .unknown => n
  | .active =>
    activeAfterSuccess state.statuses.availability state.successStreak closeSuccesses n
  | .unavailable | .degraded =>
    activeAfterFailure state.statuses.availability state.failureStreak openFailures n

theorem nextActive_failing (h : Failing decision) (state : EffectiveState)
    (openFailures closeSuccesses : Int) (n : Nat) :
    nextActive decision.availability state openFailures closeSuccesses n =
      activeAfterFailure state.statuses.availability state.failureStreak openFailures n := by
  rcases h with h | h <;> rw [h] <;> rfl

section Outcome

variable {run : Run} {decision : Decision} {state : EffectiveState}
  {openFailures closeSuccesses checkedAt : Int} {incidents incidents' : Incidents}
  (h : IncidentOutcome run decision state openFailures closeSuccesses checkedAt incidents incidents')

include h

theorem IncidentOutcome.activeCount :
    incidents'.activeCount run.domainId =
      nextActive decision.availability state openFailures closeSuccesses
        (incidents.activeCount run.domainId) := by
  cases h with
  | inconclusive hdec => rw [hdec]; rfl
  | healthy hnone hdec =>
    rw [hdec, active?_eq_none_iff.mp hnone]
    show 0 = if _ then 0 - 1 else 0
    split <;> rfl
  | tolerated hnone hdec hstate =>
    rw [nextActive_failing hdec, activeAfterFailure, if_neg]
    rintro ⟨-, havail, hstreak⟩
    rcases hstate with h | h
    · exact h havail
    · omega
  | recovering i hsome hdec hstate =>
    obtain ⟨hi, -, -⟩ := active?_some hsome
    rw [activeCount_modify_same hi rfl rfl, hdec]
    show _ = if _ then _ else _
    rw [if_neg hstate]
  | resolved i hsome hdec hstate =>
    obtain ⟨hi, hdomain, hactive⟩ := active?_some hsome
    have hcount := KeyedTable.count_modify hi (Incident.resolved run state.successStreak checkedAt)
      (Incident.resolved_id _ _ _) (fun i => i.domainId = run.domainId && i.isActive)
    have hold : (decide (i.domainId = run.domainId) && i.isActive) = true := by
      rw [hactive, decide_eq_true hdomain]; rfl
    have hnew : (decide ((i.resolved run state.successStreak checkedAt).domainId = run.domainId) &&
        (i.resolved run state.successStreak checkedAt).isActive) = false := by
      rw [Bool.and_eq_false_iff]
      exact .inr rfl
    rw [hold, hnew] at hcount
    have hpos := activeCount_pos hsome
    rw [hdec]
    show _ = if _ then _ else _
    rw [if_pos hstate]
    unfold Incidents.activeCount at hpos ⊢
    simp only [Bool.toNat_true, Bool.toNat_false] at hcount
    omega
  | failedAgain i stage code hsome hdec =>
    obtain ⟨hi, -, -⟩ := active?_some hsome
    have hpos := activeCount_pos hsome
    rw [activeCount_modify_same hi rfl rfl, nextActive_failing hdec, activeAfterFailure, if_neg]
    rintro ⟨hzero, -⟩
    omega
  | opened id stage code _ hnone hdec hstate hinsert =>
    have hzero := active?_eq_none_iff.mp hnone
    rw [nextActive_failing hdec, activeAfterFailure, if_pos ⟨hzero, hstate⟩]
    have hcount := KeyedTable.count_insert hinsert
      (fun i => i.domainId = run.domainId && i.isActive)
    have hnew : (decide ((newIncident id run decision state checkedAt stage code).domainId =
        run.domainId) && (newIncident id run decision state checkedAt stage code).isActive) =
          true := by
      simp [newIncident, Incident.isActive]
    rw [hnew] at hcount
    unfold Incidents.activeCount at hzero ⊢
    rw [hcount, hzero]
    rfl

/-- Incidents of other domains are not touched. -/
theorem IncidentOutcome.activeCount_ne {d : UUID} (hd : d ≠ run.domainId) :
    incidents'.activeCount d = incidents.activeCount d := by
  cases h with
  | inconclusive => rfl
  | healthy => rfl
  | tolerated => rfl
  | recovering i hsome => exact activeCount_modify_same (active?_some hsome).1 rfl rfl d
  | failedAgain i _ _ hsome => exact activeCount_modify_same (active?_some hsome).1 rfl rfl d
  | resolved i hsome =>
    obtain ⟨hi, hdomain, -⟩ := active?_some hsome
    have hne : i.domainId ≠ d := fun h => hd (h.symm.trans hdomain)
    have hcount := KeyedTable.count_modify hi (Incident.resolved run state.successStreak checkedAt)
      (Incident.resolved_id _ _ _) (fun i => i.domainId = d && i.isActive)
    have hnew : (i.resolved run state.successStreak checkedAt).domainId ≠ d := hne
    rw [decide_eq_false hne, decide_eq_false hnew] at hcount
    exact hcount
  | opened id stage code _ _ _ _ hinsert =>
    have hcount := KeyedTable.count_insert hinsert (fun i => i.domainId = d && i.isActive)
    have hnew : (newIncident id run decision state checkedAt stage code).domainId ≠ d := hd.symm
    rw [decide_eq_false hnew] at hcount
    exact hcount

/-- Every event log stays well formed. -/
theorem IncidentOutcome.logOk {d : UUID} (hlogs : ∀ i ∈ incidents.rows, i.domainId = d → i.LogOk) :
    ∀ i ∈ incidents'.rows, i.domainId = d → i.LogOk := by
  -- An update is checked on the one row it rewrites, which was active before.
  have update : ∀ (i : Incident) (f : Incident → Incident) (hf : ∀ i, (f i).id = i.id),
      incidents.active? run.domainId = some i → (f i).domainId = i.domainId →
      (i.LogOk → i.status ≠ .closed → (f i).LogOk) →
      ∀ j ∈ (incidents.modify i.id f hf).rows, j.domainId = d → j.LogOk := by
    intro i f hf hsome hdomain hstep j hj hjd
    obtain ⟨hi, -, hactive⟩ := active?_some hsome
    rcases KeyedTable.mem_rows_modify hj with ⟨i', hi', rfl⟩ | ⟨hmem, -⟩
    · obtain rfl : i = i' := Option.some.inj (hi.symm.trans hi')
      rw [hdomain] at hjd
      have hopen : i.status ≠ .closed := by
        intro hclosed
        rw [Incident.isActive, hclosed] at hactive
        cases hactive
      exact hstep (hlogs i (KeyedTable.get?_some hi).1 hjd) hopen
    · exact hlogs j hmem hjd
  cases h with
  | inconclusive => exact hlogs
  | healthy => exact hlogs
  | tolerated => exact hlogs
  | recovering i hsome =>
    apply update i _ _ hsome rfl
    intro hok hopen
    refine ⟨hok.1, ?_⟩
    have hlog : (i.recovered run state.successStreak).log = i.log ++ [.successObserved] :=
      List.map_append
    rw [hlog]
    exact logWellFormed_observe hopen hopen hok.2 rfl
  | failedAgain i stage code hsome =>
    apply update i _ _ hsome rfl
    intro hok hopen
    refine ⟨hok.1, ?_⟩
    have hlog : (i.failedAgain run state.failureStreak stage code decision.errorCode).log =
        i.log ++ [.failureObserved] := List.map_append
    rw [hlog]
    exact logWellFormed_observe hopen hopen hok.2 rfl
  | resolved i hsome =>
    apply update i _ _ hsome rfl
    intro hok hopen
    have hlog : (i.resolved run state.successStreak checkedAt).log =
        i.log ++ [.successObserved] ++ [.closed] := by
      simp [Incident.log, Incident.resolved, Incident.recovered, Incident.addEvent,
        Incident.recover, Incident.close]
    refine ⟨by simp [Incident.resolved, Incident.close, Incident.addEvent], ?_⟩
    rw [hlog]
    exact logWellFormed_close hopen rfl hok.2
  | opened id stage code _ _ _ _ hinsert =>
    intro i hi hid
    rw [(KeyedTable.insert_eq_some hinsert).2] at hi
    rcases List.mem_append.mp hi with hi | hi
    · exact hlogs i hi hid
    · rw [List.mem_singleton.mp hi]
      refine ⟨by simp [newIncident], ?_⟩
      rw [logWellFormed_of_not (by simp [newIncident])]
      exact ⟨[], by simp, rfl⟩

end Outcome

/-! ### Agreement -/

/-- The number of active incidents fits the effective availability. A degraded
    domain may have one, left over from an outage it is recovering from. -/
structure Agrees (availability : Availability) (active : Nat) : Prop where
  atMostOne : active ≤ 1
  unavailable : availability = .unavailable → active = 1
  healthy : availability = .active ∨ availability = .unknown → active = 0

variable {n : Nat} {cfg : Config} {db : DB} {d : UUID}

theorem Agrees.success (h : Agrees availability n) (streak closeSuccesses : Int) :
    Agrees (availabilityAfterSuccess availability streak closeSuccesses)
      (activeAfterSuccess (availabilityAfterSuccess availability streak closeSuccesses) streak
        closeSuccesses n) := by
  have healthy : ∀ m : Nat, m = 0 →
      Agrees .active (if Availability.active = .active ∧ streak ≥ closeSuccesses then m - 1
        else m) := by
    rintro m rfl
    rw [ite_self]
    exact ⟨Nat.zero_le 1, fun hc => (by cases hc), fun _ => rfl⟩
  -- A domain that is not yet healthy becomes active exactly when the incident closes.
  have recovering : n ≤ 1 →
      Agrees (if streak ≥ closeSuccesses then .active else .degraded)
        (activeAfterSuccess (if streak ≥ closeSuccesses then .active else .degraded) streak
          closeSuccesses n) := by
    intro hle
    unfold activeAfterSuccess
    by_cases hstreak : streak ≥ closeSuccesses
    · rw [if_pos hstreak, if_pos ⟨rfl, hstreak⟩]
      exact ⟨by omega, fun hc => (by cases hc), fun _ => by omega⟩
    · rw [if_neg hstreak, if_neg (fun hc => hstreak hc.2)]
      exact ⟨hle, fun hc => (by cases hc), fun hc => by rcases hc with hc | hc <;> cases hc⟩
  cases availability with
  | unknown => exact healthy n (h.healthy (.inr rfl))
  | active => exact healthy n (h.healthy (.inl rfl))
  | degraded => exact recovering h.atMostOne
  | unavailable => exact recovering h.atMostOne

theorem Agrees.failure (h : Agrees availability n) (streak openFailures : Int) :
    Agrees (availabilityAfterFailure streak openFailures)
      (activeAfterFailure (availabilityAfterFailure streak openFailures) streak openFailures
        n) := by
  have hle := h.atMostOne
  unfold activeAfterFailure availabilityAfterFailure
  -- The same comparison decides the availability and whether an incident opens.
  by_cases hstreak : streak ≥ openFailures
  · have hone : (if n = 0 ∧ Availability.unavailable = .unavailable ∧ openFailures ≤ streak
        then 1 else n) = 1 := by
      by_cases hzero : n = 0
      · exact if_pos ⟨hzero, rfl, hstreak⟩
      · rw [if_neg (fun hc => hzero hc.1)]
        omega
    rw [if_pos hstreak, hone]
    exact ⟨Nat.le_refl 1, fun _ => rfl, fun hc => by rcases hc with hc | hc <;> cases hc⟩
  · rw [if_neg hstreak, if_neg (by rintro ⟨-, hc, -⟩; cases hc)]
    exact ⟨hle, fun hc => (by cases hc), fun hc => by rcases hc with hc | hc <;> cases hc⟩

/-- One qualifying run: `Advance` and `applyIncident`, reduced to what they do
    to the availability and to the count, keep the agreement. -/
theorem agrees_advance (hopen : 1 ≤ cfg.incidentOpenFailures)
    (hclose : 1 ≤ cfg.incidentCloseSuccess) {domain : Domain} {run : Run} {decision : Decision}
    (hq : run.triggerType ≠ .manual) (h : Agrees domain.current.availability n) :
    Agrees (effectiveState cfg domain run decision).statuses.availability
      (nextActive decision.availability (effectiveState cfg domain run decision)
        cfg.incidentOpenFailures cfg.incidentCloseSuccess n) := by
  have hqual : (effectiveInput cfg domain run decision).qualifying = true := decide_eq_true hq
  have failing : Failing decision →
      Agrees (effectiveState cfg domain run decision).statuses.availability
        (nextActive decision.availability (effectiveState cfg domain run decision)
          cfg.incidentOpenFailures cfg.incidentCloseSuccess n) := by
    intro hdec
    rw [nextActive_failing hdec, effectiveState, advance_failure hqual hopen (Or.symm hdec)]
    exact h.failure (domain.failureStreak + 1) cfg.incidentOpenFailures
  cases hdec : decision.availability with
  | unavailable => exact hdec ▸ failing (.inl hdec)
  | degraded => exact hdec ▸ failing (.inr hdec)
  | unknown =>
    rw [effectiveState, advance_carried (.inr hdec)]
    exact h
  | active =>
    rw [effectiveState, advance_success hqual hclose hdec]
    exact h.success (domain.successStreak + 1) cfg.incidentCloseSuccess

/-! ### Every sequence of commits -/

/-- A transaction on the database: a commit of `CompleteRun`, or any other one. -/
inductive Transaction where
  | completeRun (cfg : Config) (call : CompleteCall) (execution : Execution) (evidence : Evidence)
  | other

/-- Nothing has been observed of the domain yet. -/
def DB.IsNewDomain (db : DB) (d : UUID) : Prop :=
  ∃ domain, db.domains.get? d = some domain ∧ domain.current.availability = .unknown ∧
    domain.failureStreak = 0 ∧ domain.successStreak = 0 ∧ ∀ i ∈ db.incidents.rows, i.domainId ≠ d

/-- The history of domain `d` from its creation on. Executions, evidence and
    configurations are arbitrary, except that the thresholds are at least one.
    Other transactions (scheduling, claiming, inventory changes) write neither
    incidents nor the effective availability and the streaks. -/
def commitsFrom (d : UUID) : LTS.System DB Transaction where
  init db := db.IsNewDomain d
  step db transaction db' :=
    match transaction with
    | .completeRun cfg call execution evidence =>
      1 ≤ cfg.incidentOpenFailures ∧ 1 ≤ cfg.incidentCloseSuccess ∧
        completeRun cfg call execution evidence db = .ok db'
    | .other =>
      db'.incidents = db.incidents ∧
        ∀ e domain, db.domains.get? e = some domain →
          ∃ domain', db'.domains.get? e = some domain' ∧
            domain'.current.availability = domain.current.availability ∧
            domain'.failureStreak = domain.failureStreak ∧
            domain'.successStreak = domain.successStreak

/-- The invariant: agreement, and well-formed event logs. -/
def DB.IncidentsAgree (db : DB) (d : UUID) : Prop :=
  ∃ domain, db.domains.get? d = some domain ∧
    Agrees domain.current.availability (db.incidents.activeCount d) ∧
    ∀ i ∈ db.incidents.rows, i.domainId = d → i.LogOk

theorem incidentsAgree_init (h : db.IsNewDomain d) : db.IncidentsAgree d := by
  obtain ⟨domain, hdomain, havail, -, -, hnone⟩ := h
  have hzero : db.incidents.activeCount d = 0 := by
    unfold Incidents.activeCount KeyedTable.count
    rw [List.countP_eq_zero]
    intro i hi
    simp [hnone i hi]
  refine ⟨domain, hdomain, ?_, fun i hi hid => absurd hid (hnone i hi)⟩
  rw [hzero, havail]
  exact ⟨Nat.zero_le 1, fun hc => (by cases hc), fun _ => rfl⟩

/-- What a commit does to the incidents: nothing for a manual run. -/
theorem stepIncidents_ok {run : Run} {effective : EffectiveState} {incidents incidents' : Incidents}
    (h : stepIncidents cfg call run evidence effective incidents = .ok incidents') :
    run.triggerType = .manual ∧ incidents' = incidents ∨
      run.triggerType ≠ .manual ∧
        IncidentOutcome run evidence.decision effective cfg.incidentOpenFailures
          cfg.incidentCloseSuccess (call.checkedAt evidence) incidents incidents' := by
  unfold stepIncidents at h
  by_cases hq : run.triggerType = .manual
  · rw [if_neg (not_not_intro hq)] at h
    exact .inl ⟨hq, (Except.ok.inj h).symm⟩
  · rw [if_pos hq] at h
    exact .inr ⟨hq, applyIncident_outcome h⟩

theorem incidentsAgree_completeRun {execution : Execution} {db' : DB}
    (hopen : 1 ≤ cfg.incidentOpenFailures) (hclose : 1 ≤ cfg.incidentCloseSuccess)
    (hdb : db.IncidentsAgree d) (h : completeRun cfg call execution evidence db = .ok db') :
    db'.IncidentsAgree d := by
  obtain ⟨p, hp, rfl⟩ := completeRun_ok_iff.mp h
  obtain ⟨stage, code, -, -, -, hdomains⟩ := updateDomain?_some hp.domain hp.domains
  obtain ⟨domain, hdomain, hagrees, hlogs⟩ := hdb
  show ∃ domain', p.domains.get? d = some domain' ∧
    Agrees domain'.current.availability (p.incidents.activeCount d) ∧
    ∀ i ∈ p.incidents.rows, i.domainId = d → i.LogOk
  rw [hdomains]
  by_cases hd : d = execution.run.domainId
  · -- The run is about this domain: `Advance` and `applyIncident` move together.
    subst hd
    obtain rfl : p.domain = domain := Option.some.inj (hp.domain.symm.trans hdomain)
    refine ⟨_, by rw [KeyedTable.get?_modify_self, hp.domain]; rfl, ?_⟩
    rcases stepIncidents_ok hp.incidents with ⟨hq, hsame⟩ | ⟨hq, hout⟩
    · rw [hsame]
      refine ⟨?_, hlogs⟩
      have hcarried : advance (effectiveInput cfg p.domain execution.run evidence.decision) = _ :=
        advance_carried (.inl (decide_eq_false (not_not_intro hq)))
      show Agrees (advance _).statuses.availability _
      rw [hcarried]
      exact hagrees
    · refine ⟨?_, hout.logOk hlogs⟩
      rw [hout.activeCount]
      exact agrees_advance hopen hclose hq hagrees
  · refine ⟨domain, by rw [KeyedTable.get?_modify_ne _ _ _ hd, hdomain], ?_⟩
    rcases stepIncidents_ok hp.incidents with ⟨-, hsame⟩ | ⟨-, hout⟩
    · rw [hsame]
      exact ⟨hagrees, hlogs⟩
    · rw [hout.activeCount_ne hd]
      exact ⟨hagrees, hout.logOk hlogs⟩

theorem incidentsAgree_step (db : DB) (l : Transaction) (db' : DB) (hdb : db.IncidentsAgree d)
    (h : (commitsFrom d).step db l db') : db'.IncidentsAgree d := by
  cases l with
  | completeRun cfg call execution evidence =>
    obtain ⟨hopen, hclose, h⟩ := h
    exact incidentsAgree_completeRun hopen hclose hdb h
  | other =>
    obtain ⟨hincidents, hdomains⟩ := h
    obtain ⟨domain, hdomain, hagrees, hlogs⟩ := hdb
    obtain ⟨domain', hdomain', havail, -, -⟩ := hdomains d domain hdomain
    refine ⟨domain', hdomain', ?_, ?_⟩
    · rw [havail, hincidents]
      exact hagrees
    · rw [hincidents]
      exact hlogs

/-- The number of incidents of a domain with status `open`. -/
def DB.openIncidents (db : DB) (d : UUID) : Nat :=
  db.incidents.count (fun i => i.domainId = d && i.status = .open)

/-- Without acknowledged incidents, active and open are the same. -/
theorem openIncidents_eq_activeCount (hlogs : ∀ i ∈ db.incidents.rows, i.domainId = d → i.LogOk) :
    db.openIncidents d = db.incidents.activeCount d := by
  apply List.countP_congr
  intro i hi
  by_cases hd : i.domainId = d
  · have hack := (hlogs i hi hd).1
    simp [hd, Incident.isActive, hack]
  · simp [hd]

/-- **Hysteresis and incidents agree**: in every state reachable from a new
    domain, an unavailable domain has exactly one open incident, an active or
    unknown one has none, no domain has two, and every event log is `opened`,
    observations, and at the end possibly `success_observed`, `closed`. -/
theorem incidents_follow_availability (d : UUID) {db : DB}
    (h : (commitsFrom d).Reachable db) :
    ∃ domain, db.domains.get? d = some domain ∧
      (domain.current.availability = .unavailable → db.openIncidents d = 1) ∧
      (domain.current.availability = .active ∨ domain.current.availability = .unknown →
        db.openIncidents d = 0) ∧
      db.openIncidents d ≤ 1 ∧
      ∀ i ∈ db.incidents.rows, i.domainId = d →
        (i.status = .open ∨ i.status = .closed) ∧
          LogWellFormed (i.status = .closed) i.log := by
  obtain ⟨domain, hdomain, hagrees, hlogs⟩ := LTS.System.invariant
    (P := fun db => db.IncidentsAgree d) (fun _ => incidentsAgree_init) incidentsAgree_step h
  rw [openIncidents_eq_activeCount hlogs]
  refine ⟨domain, hdomain, hagrees.unavailable, hagrees.healthy, hagrees.atMostOne, ?_⟩
  intro i hi hd
  obtain ⟨hack, hlog⟩ := hlogs i hi hd
  refine ⟨?_, hlog⟩
  cases hstatus : i.status with
  | «open» => exact .inl rfl
  | acknowledged => exact absurd hstatus hack
  | closed => exact .inr rfl

/-- A refused connection, observed by a scheduled run. -/
def sampleOutage : Evidence where
  localDNS := []
  alternateDNS := []
  http := { https := [] }
  pinnedHTTP := none
  decision :=
    { availability := .unavailable, failureStage := "tcp", errorCode := some .tcpRefused
      confidence := 35 }
  checkedAt := 5 * second

/-- With a threshold of one, a single failure of a new domain is an outage. -/
def sampleOutageCommit : Except CompleteError DB :=
  completeRun { defaultConfig with incidentOpenFailures := 1 }
    { startedAt := 6 * second, goNow := 6 * second, resultID := 1, incidentID := 1 }
    sampleExecution sampleOutage sampleDB

theorem incidents_follow_availability_outage :
    ∃ db domain, (commitsFrom 1).Reachable db ∧ db.domains.get? 1 = some domain ∧
      domain.current.availability = .unavailable ∧ db.openIncidents 1 = 1 := by
  have havail : (match sampleOutageCommit with
      | .ok db => (db.domains.get? 1).map (fun domain => domain.current.availability)
      | .error _ => none) = some .unavailable := by decide
  cases hcommit : sampleOutageCommit with
  | error e => rw [hcommit] at havail; cases havail
  | ok db =>
    rw [hcommit] at havail
    have hnew : sampleDB.IsNewDomain 1 := ⟨sampleDomain, rfl, rfl, rfl, rfl, by decide⟩
    have hreach : (commitsFrom 1).Reachable db :=
      .step (.completeRun _ _ _ _) (.init hnew) ⟨by decide, by decide, hcommit⟩
    obtain ⟨domain, hdomain, hunavailable, -⟩ := incidents_follow_availability 1 hreach
    simp only [hdomain, Option.map_some, Option.some.injEq] at havail
    exact ⟨db, domain, hreach, hdomain, havail, hunavailable havail⟩

end DomainMonitor.Monitor
