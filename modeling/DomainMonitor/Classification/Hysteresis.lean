import Mathlib.Data.List.DropRight
import DomainMonitor.Classification.State

/-! # Hysteresis in closed form

    `Advance` sees one observation at a time and keeps two streaks. Here the fold
    over a whole sequence of qualifying observations is compared with what can be
    read off the sequence: the run of failures and the run of successes at its end.
-/

namespace DomainMonitor.Classification

/-! ### The fold -/

/-- A domain that was never observed. -/
def EffectiveState.fresh (statuses : Statuses) (confidence : Int) : EffectiveState where
  statuses := { statuses with availability := .unknown }
  confidence := confidence
  failureStreak := 0
  successStreak := 0

variable (openFailures closeSuccesses : Int) (seq : List Availability) (state : EffectiveState)

/-- One qualifying observation on top of what is stored. -/
def EffectiveState.observe (observed : Decision) : EffectiveState :=
  advance {
    current := state.statuses
    confidence := state.confidence
    failureStreak := state.failureStreak
    successStreak := state.successStreak
    observed := observed
    qualifying := true
    openFailures := openFailures
    closeSuccesses := closeSuccesses }

def observeAll (observations : List Decision) : EffectiveState :=
  observations.foldl (EffectiveState.observe openFailures closeSuccesses) state

/-! ### What the sequence says -/

def isFailure (a : Availability) : Bool := a = .degraded || a = .unavailable

def isSuccess (a : Availability) : Bool := a = .active

/-- The observations without those that saw nothing. -/
def observedSequence (observations : List Decision) : List Availability :=
  (observations.map Decision.availability).filter (· ≠ .unknown)

/-- How many failures the sequence ends with. -/
def failureRun : Nat := (seq.rtakeWhile isFailure).length

/-- How many successes the sequence ends with. -/
def successRun : Nat := (seq.rtakeWhile isSuccess).length

/-- The availability of a domain, from all that was observed. -/
def specifiedAvailability : Availability :=
  if seq = [] then .unknown
  else if openFailures ≤ failureRun seq then .unavailable
  else if 0 < failureRun seq then .degraded
  else if seq.any isFailure ∧ 0 < successRun seq ∧ successRun seq < closeSuccesses then .degraded
  else .active

/-! ### The two runs -/

@[simp] theorem failureRun_success : failureRun (seq ++ [.active]) = 0 := by
  rw [failureRun, List.rtakeWhile_concat_neg _ _ _ (by decide)]
  rfl

@[simp] theorem successRun_success : successRun (seq ++ [.active]) = successRun seq + 1 := by
  rw [successRun, List.rtakeWhile_concat_pos _ _ _ (by decide), List.length_append]
  rfl

theorem failureRun_failure {a : Availability} (h : isFailure a = true) :
    failureRun (seq ++ [a]) = failureRun seq + 1 := by
  rw [failureRun, List.rtakeWhile_concat_pos _ _ _ h, List.length_append]
  rfl

theorem successRun_failure {a : Availability} (h : isFailure a = true) :
    successRun (seq ++ [a]) = 0 := by
  have hsuccess : ¬ isSuccess a = true := by
    cases a <;> revert h <;> decide
  rw [successRun, List.rtakeWhile_concat_neg _ _ _ hsuccess]
  rfl

/-- A failure at the end is a failure. -/
theorem any_of_failureRun_pos {seq : List Availability} (h : 0 < failureRun seq) :
    seq.any isFailure = true := by
  obtain ⟨a, ha⟩ := List.exists_mem_of_length_pos h
  exact List.any_eq_true.mpr
    ⟨a, (List.rtakeWhile_suffix isFailure seq).subset ha, List.mem_rtakeWhile_imp ha⟩

/-- A sequence of failures and successes ends with one or the other. -/
theorem run_pos {seq : List Availability} (hne : seq ≠ []) (hseq : .unknown ∉ seq) :
    0 < failureRun seq ∨ 0 < successRun seq := by
  obtain ⟨front, a, rfl⟩ := (List.eq_nil_or_concat' seq).resolve_left hne
  cases a with
  | active => exact .inr (by simp)
  | degraded | unavailable => exact .inl (by rw [failureRun_failure _ rfl]; omega)
  | unknown => simp at hseq

theorem run_exclusive : failureRun seq = 0 ∨ successRun seq = 0 := by
  rcases List.eq_nil_or_concat' seq with rfl | ⟨front, a, rfl⟩
  · exact .inl rfl
  · cases a with
    | active => exact .inl (by simp)
    | degraded | unavailable => exact .inr (successRun_failure _ rfl)
    | unknown => exact .inl (by simp [failureRun, isFailure])

/-! ### One observation -/

/-- The stored state is what the sequence says. -/
structure Follows : Prop where
  failures : state.failureStreak = failureRun seq
  successes : state.successStreak = successRun seq
  availability : state.statuses.availability = specifiedAvailability openFailures closeSuccesses seq

section Step

variable {openFailures closeSuccesses : Int} {seq : List Availability} {state : EffectiveState}
  {observed : Decision}

theorem specified_success (hopen : 1 ≤ openFailures) (hseq : .unknown ∉ seq) :
    specifiedAvailability openFailures closeSuccesses (seq ++ [.active]) =
      availabilityAfterSuccess (specifiedAvailability openFailures closeSuccesses seq)
        (successRun seq + 1) closeSuccesses := by
  have hafter : specifiedAvailability openFailures closeSuccesses (seq ++ [.active]) =
      if seq.any isFailure ∧ (successRun seq : Int) + 1 < closeSuccesses then .degraded else .active := by
    have hopen' : ¬ openFailures ≤ 0 := by omega
    simp [specifiedAvailability, hopen', isFailure]
  rw [hafter]
  by_cases hany : seq.any isFailure = true
  · -- After a failure the domain is active again once enough successes followed.
    have hne : seq ≠ [] := by
      rintro rfl
      cases hany
    have hpos := run_pos hne hseq
    simp only [specifiedAvailability, hne, hany, true_and, if_false]
    split_ifs <;> simp [availabilityAfterSuccess] <;> omega
  · have hrun : failureRun seq = 0 := by
      by_contra hrun
      exact hany (any_of_failureRun_pos (by omega))
    have hopen' : ¬ openFailures ≤ 0 := by omega
    have hbefore : specifiedAvailability openFailures closeSuccesses seq =
        if seq = [] then .unknown else .active := by
      simp [specifiedAvailability, hany, hrun, hopen']
    rw [hbefore, if_neg (fun h => hany h.1)]
    split_ifs <;> rfl

theorem specified_failure {a : Availability} (h : isFailure a = true) :
    specifiedAvailability openFailures closeSuccesses (seq ++ [a]) =
      availabilityAfterFailure (failureRun seq + 1) openFailures := by
  simp [specifiedAvailability, availabilityAfterFailure, failureRun_failure _ h]

/-- **Step lemma**. -/
theorem Follows.observe (hopen : 1 ≤ openFailures) (hclose : 1 ≤ closeSuccesses)
    (hseq : .unknown ∉ seq) (h : Follows openFailures closeSuccesses seq state) :
    Follows openFailures closeSuccesses (seq ++ observedSequence [observed])
      (state.observe openFailures closeSuccesses observed) := by
  obtain ⟨hfailures, hsuccesses, havailability⟩ := h
  cases hobserved : observed.availability with
  | unknown =>
    have hsame : observedSequence [observed] = [] := by simp [observedSequence, hobserved]
    rw [EffectiveState.observe, advance_carried (.inr hobserved), hsame, List.append_nil]
    exact ⟨hfailures, hsuccesses, havailability⟩
  | active =>
    have hone : observedSequence [observed] = [.active] := by simp [observedSequence, hobserved]
    rw [EffectiveState.observe, advance_success rfl hclose hobserved, hone]
    refine ⟨by simp, ?_, ?_⟩
    · simp [hsuccesses]
    · rw [specified_success hopen hseq, finishAdvance_availability, havailability, hsuccesses]
  | degraded | unavailable =>
    have hone : observedSequence [observed] = [observed.availability] := by
      simp [observedSequence, hobserved]
    have hfailure : isFailure observed.availability = true := by rw [hobserved]; rfl
    rw [EffectiveState.observe, advance_failure rfl hopen (by simp [hobserved]), hone]
    refine ⟨?_, ?_, ?_⟩
    · simp [hfailures, failureRun_failure _ hfailure]
    · simp [successRun_failure _ hfailure]
    · rw [specified_failure hfailure, finishAdvance_availability, hfailures]

end Step

/-! ### All observations -/

/-- **Run lemma**: from a state that follows `seq`, the fold follows `seq` and what
    was observed since. -/
theorem Follows.observeAll {openFailures closeSuccesses : Int} (hopen : 1 ≤ openFailures)
    (hclose : 1 ≤ closeSuccesses) (observations : List Decision) :
    ∀ {seq : List Availability} {state : EffectiveState}, .unknown ∉ seq →
      Follows openFailures closeSuccesses seq state →
      Follows openFailures closeSuccesses (seq ++ observedSequence observations)
        (Classification.observeAll openFailures closeSuccesses state observations) := by
  induction observations with
  | nil =>
    intro seq state _ h
    rw [show observedSequence [] = [] from rfl, List.append_nil]
    exact h
  | cons observed rest ih =>
    intro seq state hseq h
    have hsplit : observedSequence (observed :: rest) =
        observedSequence [observed] ++ observedSequence rest := by
      rw [observedSequence, ← List.singleton_append, List.map_append, List.filter_append]
      rfl
    rw [hsplit, ← List.append_assoc]
    exact ih (by simp [hseq, observedSequence]) (h.observe hopen hclose hseq)

/-- **Closed form**: the streaks and the availability after any sequence of qualifying
    observations. -/
theorem hysteresis_closed_form (openFailures closeSuccesses : Int) (hopen : 1 ≤ openFailures)
    (hclose : 1 ≤ closeSuccesses) (statuses : Statuses) (confidence : Int)
    (observations : List Decision) :
    let seq := observedSequence observations
    let final := observeAll openFailures closeSuccesses (.fresh statuses confidence) observations
    final.failureStreak = failureRun seq ∧ final.successStreak = successRun seq ∧
      (failureRun seq = 0 ∨ successRun seq = 0) ∧
      final.statuses.availability = specifiedAvailability openFailures closeSuccesses seq := by
  have hfresh : Follows openFailures closeSuccesses [] (.fresh statuses confidence) :=
    ⟨rfl, rfl, rfl⟩
  have hfinal := hfresh.observeAll hopen hclose observations List.not_mem_nil
  rw [List.nil_append] at hfinal
  exact ⟨hfinal.failures, hfinal.successes, run_exclusive _, hfinal.availability⟩

/-- Three failures open an incident, one success does not close it. -/
theorem hysteresis_closed_form_recovering :
    (observeAll 3 2 (.fresh ⟨.active, .ok, .ok, .none, .unknown, .valid, .validHTML⟩ 85)
      [{ availability := .unavailable }, { availability := .degraded }, { availability := .unknown },
        { availability := .unavailable }, { availability := .active }]).statuses.availability =
      .degraded :=
  (hysteresis_closed_form 3 2 (by decide) (by decide) _ 85 _).2.2.2

end DomainMonitor.Classification
