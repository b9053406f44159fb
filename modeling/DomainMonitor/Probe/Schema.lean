import DomainMonitor.Lib.Jsonb
import DomainMonitor.Probeprotocol
import DomainMonitor.Monitor.Schema

/-! # The probe tables (`migrations/00002`, `00004`)

    Remote probes, the jobs they are given and the signed results they return,
    next to the monitoring tables they refer to.
-/

namespace DomainMonitor.Probe

open Monitor

inductive ProbeStatus where
  | online | degraded | offline | revoked | upgradeRequired
  deriving DecidableEq, Repr

/-- `probe_nodes`. -/
structure Node where
  id : UUID
  regionCode : GoString
  status : ProbeStatus
  publicKey : List UInt8
  lastSeenAt : Option Int
  revokedAt : Option Int
  deriving DecidableEq, Repr

inductive JobStatus where
  | queued | leased | completed | failed | expired | cancelled
  deriving DecidableEq, Repr

/-- `remote_probe_jobs`. -/
structure Job where
  id : UUID
  runId : UUID
  domainId : UUID
  probeId : UUID
  status : JobStatus
  policyVersion : String
  nonce : GoString
  issuedAt : Int
  expiresAt : Int
  claimedAt : Option Int
  leaseUntil : Option Int
  attempts : Int
  completedAt : Option Int
  lastErrorCode : Option String
  deriving DecidableEq, Repr

/-- `CHECK` constraints of `remote_probe_jobs`. -/
def Job.Checks (j : Job) : Prop :=
  0 ≤ j.attempts ∧ j.attempts ≤ 20 ∧ j.issuedAt < j.expiresAt ∧
  (j.leaseUntil = none ∨ j.claimedAt ≠ none) ∧ (j.status = .completed ↔ j.completedAt ≠ none)

instance : DecidablePred Job.Checks :=
  fun _ => inferInstanceAs (Decidable (_ ∧ _))

structure RemoteResultColumns where
  monitoringResultId : UUID
  probeId : UUID
  jobId : UUID
  protocolVersion : GoString
  nonce : GoString
  payloadHash : List UInt8
  signature : List UInt8
  probeStartedAt : Int
  probeFinishedAt : Int
  serverReceivedAt : Int
  clockSkewMS : Int
  /-- A `jsonb` column. -/
  rawEnvelope : Json.Value

/-- Column ranges and `CHECK` constraints of `remote_probe_results`. -/
def RemoteResultColumns.Checks (c : RemoteResultColumns) : Prop :=
  c.payloadHash.length = 32 ∧ FitsInt4 c.clockSkewMS ∧ c.probeStartedAt ≤ c.probeFinishedAt

instance : DecidablePred RemoteResultColumns.Checks :=
  fun _ => inferInstanceAs (Decidable (_ ∧ _))

def RemoteResultColumns.texts (c : RemoteResultColumns) : List (Option GoString) :=
  [some c.protocolVersion, some c.nonce]

abbrev RemoteResultRow : Type := Row RemoteResultColumns.Checks RemoteResultColumns.texts

/-- The monitoring tables and the probe tables. -/
structure DB where
  monitor : Monitor.DB
  nodes : KeyedTable Node.id
  jobs : KeyedTable Job.id
  remoteResults : List RemoteResultRow

/-- The settings of `config.Config` the probe service reads. -/
structure Settings where
  jobTTL : Int
  jobLease : Int
  maxClockSkew : Int
  evidenceFresh : Int
  requiredRegion : GoString
  maxPayloadBytes : Int
  deriving DecidableEq, Repr

/-- Their defaults. -/
def defaultSettings : Settings where
  jobTTL := 2 * minute
  jobLease := 90 * second
  maxClockSkew := 2 * minute
  evidenceFresh := 24 * hour
  requiredRegion := lit "SG"
  maxPayloadBytes := 1048576

/-- An authenticated probe, as `Authenticate` read it. -/
structure Principal where
  probeID : UUID
  regionCode : GoString
  countryCode : GoString
  networkName : GoString
  agentVersion : GoString
  status : ProbeStatus
  publicKey : List UInt8
  deriving DecidableEq, Repr

end DomainMonitor.Probe
