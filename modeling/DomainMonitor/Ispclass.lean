import DomainMonitor.Basic

/-! # Classifying network blocks (`internal/ispclass/classifier.go`)

    `Classify` compares what the local worker and the remote probe saw of one
    domain. The empty strings of the source (`PinnedAvailability`) are `none`.
-/

namespace DomainMonitor.Ispclass

structure Input where
  localAvailability : Availability
  localFailureCount : Nat := 0
  localFailureBuckets : Nat := 0
  localDNSDiscrepancy : Bool := false
  dohStable : Bool := false
  pinnedAvailability : Option Availability := none
  pinnedFailureStage : String := ""
  remoteAvailability : Availability
  remoteSuccessCount : Nat := 0
  remoteBodyHashStable : Bool := false
  remoteFresh : Bool
  probeHealthy : Bool
  clockHealthy : Bool
  possibleGeoPolicy : Bool := false
  possibleWAF : Bool := false
  maintenanceWindow : Bool := false
  deriving DecidableEq, Repr

structure Decision where
  status : ISPStatus
  confidence : Int
  reasons : List String
  deriving DecidableEq, Repr

/-- `slices.Compact`: runs of equal elements become one. -/
def compact : List String → List String
  | a :: b :: rest => if a = b then compact (b :: rest) else a :: compact (b :: rest)
  | short => short

def decision (status : ISPStatus) (confidence : Int) (reasons : List String) : Decision where
  status := status
  confidence := if confidence > 99 then 99 else confidence
  reasons := compact reasons

/-- The reasons that stand whenever the remote content is valid. -/
def remoteReasons (input : Input) : List String :=
  ["REMOTE_SG_CONTENT_VALID"]
    ++ (if input.localFailureCount > 0 then ["LOCAL_SYSTEM_HTTP_FAILED"] else [])
    ++ (if input.localDNSDiscrepancy then ["LOCAL_DNS_ANSWER_SET_DIFFERS"] else [])
    ++ (if input.dohStable then ["DOH_ORIGIN_IP_STABLE"] else [])

/-- `Classify`. -/
def classify (input : Input) : Decision :=
  if input.localAvailability = .active then decision .notDetected 90 ["LOCAL_CONTENT_VALID"]
  else if !input.remoteFresh then decision .unknown 20 ["REMOTE_EVIDENCE_STALE"]
  else if !input.probeHealthy || !input.clockHealthy then
    decision .unknown 20 ["REMOTE_PROBE_UNHEALTHY"]
  else if input.remoteAvailability ≠ .active then
    if input.localAvailability = .unavailable ∨ input.localAvailability = .degraded then
      decision .unknown 55 ["ORIGIN_GLOBAL_FAILURE"]
    else decision .unknown 25 ["REMOTE_EVIDENCE_INCONCLUSIVE"]
  else
    let reasons := remoteReasons input
    if input.pinnedAvailability = some .active ∧ input.localDNSDiscrepancy then
      decision .suspected 75
        (reasons ++ ["LOCAL_DOH_PINNED_HTTP_SUCCEEDED", "DNS_INTERFERENCE_SUSPECTED"])
    else
      let reasons := if input.pinnedAvailability ≠ some .active then
        reasons ++ ["LOCAL_DOH_PINNED_HTTP_FAILED"] else reasons
      if input.possibleGeoPolicy then decision .unknown 45 (reasons ++ ["POSSIBLE_GEO_POLICY"])
      else if input.possibleWAF then decision .unknown 45 (reasons ++ ["POSSIBLE_WAF_BLOCK"])
      else if input.maintenanceWindow then
        decision .unknown 30 (reasons ++ ["MAINTENANCE_WINDOW_ACTIVE"])
      else if input.localFailureCount < 3 ∨ input.localFailureBuckets < 2 then
        decision .suspected 55 (reasons ++ ["LOCAL_FAILURE_NOT_YET_REPEATED"])
      else if input.remoteSuccessCount < 2 ∨ !input.remoteBodyHashStable then
        decision .suspected 65 (reasons ++ ["REMOTE_SUCCESS_NOT_YET_REPEATED"])
      else if !input.dohStable then
        decision .unknown 40 (reasons ++ ["DOH_EVIDENCE_UNSTABLE"])
      else if input.pinnedFailureStage = "" then
        decision .suspected 60 (reasons ++ ["LOCAL_FAILURE_STAGE_INCONSISTENT"])
      else
        decision .highConfidenceBlock 95
          (reasons ++ ["LOCAL_FAILURE_REPEATED", "REMOTE_SG_BODY_HASH_STABLE",
            "NETWORK_SCOPED_HIGH_CONFIDENCE_BLOCK"])

/-- What the verdict of a block rests on: every earlier branch is passed. -/
structure Conclusive (input : Input) : Prop where
  notActive : input.localAvailability ≠ .active
  fresh : input.remoteFresh = true
  healthy : input.probeHealthy = true ∧ input.clockHealthy = true
  remote : input.remoteAvailability = .active
  notDNSOnly : ¬ (input.pinnedAvailability = some .active ∧ input.localDNSDiscrepancy = true)
  explained : input.possibleGeoPolicy = false ∧ input.possibleWAF = false ∧
    input.maintenanceWindow = false
  failures : 3 ≤ input.localFailureCount ∧ 2 ≤ input.localFailureBuckets
  successes : 2 ≤ input.remoteSuccessCount ∧ input.remoteBodyHashStable = true
  dohStable : input.dohStable = true
  pinnedStage : input.pinnedFailureStage ≠ ""

theorem classify_status (input : Input) :
    (classify input).status =
      if input.localAvailability = .active then .notDetected
      else if !input.remoteFresh then .unknown
      else if !input.probeHealthy || !input.clockHealthy then .unknown
      else if input.remoteAvailability ≠ .active then .unknown
      else if input.pinnedAvailability = some .active ∧ input.localDNSDiscrepancy then .suspected
      else if input.possibleGeoPolicy then .unknown
      else if input.possibleWAF then .unknown
      else if input.maintenanceWindow then .unknown
      else if input.localFailureCount < 3 ∨ input.localFailureBuckets < 2 then .suspected
      else if input.remoteSuccessCount < 2 ∨ !input.remoteBodyHashStable then .suspected
      else if !input.dohStable then .unknown
      else if input.pinnedFailureStage = "" then .suspected
      else .highConfidenceBlock := by
  simp only [classify, decision, apply_ite Decision.status, ite_self]

/-- A branch with another result is not the one taken. -/
theorem ite_eq_iff_of_ne {c : Prop} [Decidable c] {a b x : ISPStatus} (h : a ≠ x) :
    (if c then a else b) = x ↔ ¬ c ∧ b = x := by
  by_cases hc : c
  · simp [hc, h]
  · simp [hc]

theorem classify_high_iff (input : Input) :
    (classify input).status = .highConfidenceBlock ↔ Conclusive input := by
  have hunknown : ISPStatus.unknown ≠ .highConfidenceBlock := by decide
  have hsuspected : ISPStatus.suspected ≠ .highConfidenceBlock := by decide
  have hnotDetected : ISPStatus.notDetected ≠ .highConfidenceBlock := by decide
  rw [classify_status, ite_eq_iff_of_ne hnotDetected]
  simp only [ite_eq_iff_of_ne hunknown, ite_eq_iff_of_ne hsuspected]
  simp only [Bool.not_eq_true', Bool.not_eq_true, Bool.not_eq_false, Bool.or_eq_true, not_or,
    Nat.not_lt, not_not, and_true]
  constructor
  · intro ⟨hactive, hfresh, hhealthy, hremote, hdns, hgeo, hwaf, hmaintenance, hfailures,
      hsuccesses, hdoh, hstage⟩
    exact ⟨hactive, hfresh, hhealthy, hremote, hdns, ⟨hgeo, hwaf, hmaintenance⟩, hfailures,
      hsuccesses, hdoh, hstage⟩
  · intro h
    exact ⟨h.notActive, h.fresh, h.healthy, h.remote, h.notDNSOnly, h.explained.1, h.explained.2.1,
      h.explained.2.2, h.failures, h.successes, h.dohStable, h.pinnedStage⟩

end DomainMonitor.Ispclass
