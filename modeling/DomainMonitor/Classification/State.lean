import DomainMonitor.Basic

/-! # Decisions and hysteresis (`internal/classification/state.go`)

    A `Decision` is what one run observed. `advance` folds it into the
    effective state of the domain: streak counters, the seven effective
    statuses, and the confidence.
-/

namespace DomainMonitor.Classification

/-! ### Decisions -/

/-- The classification of one run's evidence. The empty strings of the source
    (`FinalTarget`, `ErrorCode`) are `none`; a status code of `0` means absent. -/
structure Decision where
  availability : Availability
  dns : DNSStatus := .unknown
  http : HTTPStatus := .unknown
  redirect : RedirectStatus := .none
  isp : ISPStatus := .unknown
  tls : TLSStatus := .unknown
  content : ContentStatus := .unknown
  initialHTTP : Nat := 0
  finalHTTP : Nat := 0
  finalTarget : Option Availability := none
  failureStage : String := ""
  errorCode : Option Code := none
  errorMessage : GoString := []
  confidence : Int := 0
  confidenceLevel : ConfidenceLevel := .low
  reasons : List String := []
  deriving DecidableEq, Repr

/-- The seven dimensions a domain is classified in. -/
inductive Dimension where
  | availability | dns | http | redirect | isp | tls | content
  deriving DecidableEq, Repr

/-- The seven statuses of a domain. -/
structure Statuses where
  availability : Availability
  dns : DNSStatus
  http : HTTPStatus
  redirect : RedirectStatus
  isp : ISPStatus
  tls : TLSStatus
  content : ContentStatus
  deriving DecidableEq, Repr

/-- `EffectiveInput`: the stored effective state, the observation, and the
    hysteresis thresholds. -/
structure EffectiveInput where
  current : Statuses
  confidence : Int
  failureStreak : Int
  successStreak : Int
  observed : Decision
  qualifying : Bool
  openFailures : Int
  closeSuccesses : Int
  deriving DecidableEq, Repr

/-- `EffectiveState`: what is written back to the domain. -/
structure EffectiveState where
  statuses : Statuses
  confidence : Int
  failureStage : String := ""
  errorCode : Option Code := none
  failureStreak : Int
  successStreak : Int
  openedIncident : Bool := false
  closedIncident : Bool := false
  changedDimensions : List Dimension := []
  deriving DecidableEq, Repr

/-! ### Advance -/

/-- `observedOrCurrent`: an `UNKNOWN` observation keeps the current value. -/
def observedOrCurrent {α : Type} [DecidableEq α] (unknown observed current : α) : α :=
  if observed = unknown then current else observed

def changedDimensions (before after : Statuses) : List Dimension :=
  (if before.availability ≠ after.availability then [Dimension.availability] else []) ++
  (if before.dns ≠ after.dns then [Dimension.dns] else []) ++
  (if before.http ≠ after.http then [Dimension.http] else []) ++
  (if before.redirect ≠ after.redirect then [Dimension.redirect] else []) ++
  (if before.isp ≠ after.isp then [Dimension.isp] else []) ++
  (if before.tls ≠ after.tls then [Dimension.tls] else []) ++
  (if before.content ≠ after.content then [Dimension.content] else [])

/-- The effective availability after a qualifying success that brings the
    success streak to `streak`. -/
def availabilityAfterSuccess (current : Availability) (streak closeSuccesses : Int) :
    Availability :=
  match current with
  | .unknown | .active => .active
  | .degraded | .unavailable => if streak ≥ closeSuccesses then .active else .degraded

/-- The effective availability after a qualifying failure that brings the
    failure streak to `streak`. -/
def availabilityAfterFailure (streak openFailures : Int) : Availability :=
  if streak ≥ openFailures then .unavailable else .degraded

/-- The state `Advance` starts from, which it returns unchanged for a run that
    does not qualify. Failure stage and error code are not among its inputs:
    they start out empty. -/
def EffectiveInput.carried (input : EffectiveInput) : EffectiveState where
  statuses := input.current
  confidence := input.confidence
  failureStreak := input.failureStreak
  successStreak := input.successStreak

/-- The six statuses other than availability, each replaced by the observation
    unless that is `UNKNOWN`. -/
def mergeStatuses (availability : Availability) (observed : Decision) (current : Statuses) :
    Statuses where
  availability := availability
  dns := observedOrCurrent .unknown observed.dns current.dns
  http := observedOrCurrent .unknown observed.http current.http
  redirect := observedOrCurrent .unknown observed.redirect current.redirect
  isp := observedOrCurrent .unknown observed.isp current.isp
  tls := observedOrCurrent .unknown observed.tls current.tls
  content := observedOrCurrent .unknown observed.content current.content

/-- The common tail of `Advance`: merge the statuses, take the observed
    confidence, and record which incidents and dimensions changed. -/
def finishAdvance (input : EffectiveInput) (availability : Availability)
    (failureStage : String) (errorCode : Option Code) (failureStreak successStreak : Int) :
    EffectiveState :=
  let statuses := mergeStatuses availability input.observed input.current
  { statuses
    confidence := input.observed.confidence
    failureStage
    errorCode
    failureStreak
    successStreak
    openedIncident := input.current.availability ≠ .unavailable && availability = .unavailable
    closedIncident := input.current.availability = .unavailable && availability = .active
    changedDimensions := changedDimensions input.current statuses }

/-- `Advance`. -/
def advance (input : EffectiveInput) : EffectiveState :=
  if !input.qualifying || input.observed.availability = .unknown then input.carried
  else
    -- Thresholds below one fall back to the defaults.
    let openFailures := if input.openFailures < 1 then 3 else input.openFailures
    let closeSuccesses := if input.closeSuccesses < 1 then 2 else input.closeSuccesses
    match input.observed.availability with
    | .active =>
      let successStreak := input.successStreak + 1
      finishAdvance input
        (availabilityAfterSuccess input.current.availability successStreak closeSuccesses)
        "" none 0 successStreak
    | .degraded | .unavailable =>
      let failureStreak := input.failureStreak + 1
      finishAdvance input (availabilityAfterFailure failureStreak openFailures)
        input.observed.failureStage input.observed.errorCode failureStreak 0
    | .unknown => input.carried

/-! ### The three ways `Advance` can go -/

section FinishAdvance

variable (input : EffectiveInput) (availability : Availability) (stage : String)
  (code : Option Code) (failures successes : Int)

@[simp] theorem finishAdvance_availability :
    (finishAdvance input availability stage code failures successes).statuses.availability =
      availability := rfl

@[simp] theorem finishAdvance_failureStreak :
    (finishAdvance input availability stage code failures successes).failureStreak = failures :=
  rfl

@[simp] theorem finishAdvance_successStreak :
    (finishAdvance input availability stage code failures successes).successStreak = successes :=
  rfl

end FinishAdvance

variable {input : EffectiveInput}

/-- A run that does not qualify carries the stored state over. -/
theorem advance_carried (h : input.qualifying = false ∨ input.observed.availability = .unknown) :
    advance input = input.carried := by
  unfold advance
  rcases h with h | h <;> simp [h]

/-- A qualifying success. -/
theorem advance_success (hq : input.qualifying = true) (hclose : 1 ≤ input.closeSuccesses)
    (h : input.observed.availability = .active) :
    advance input = finishAdvance input
      (availabilityAfterSuccess input.current.availability (input.successStreak + 1)
        input.closeSuccesses) "" none 0 (input.successStreak + 1) := by
  have hlt : ¬ input.closeSuccesses < 1 := by omega
  simp [advance, hq, h, hlt]

/-- A qualifying failure. -/
theorem advance_failure (hq : input.qualifying = true) (hopen : 1 ≤ input.openFailures)
    (h : input.observed.availability = .degraded ∨ input.observed.availability = .unavailable) :
    advance input = finishAdvance input
      (availabilityAfterFailure (input.failureStreak + 1) input.openFailures)
      input.observed.failureStage input.observed.errorCode (input.failureStreak + 1) 0 := by
  have hlt : ¬ input.openFailures < 1 := by omega
  rcases h with h | h <;> simp [advance, hq, h, hlt]

end DomainMonitor.Classification
