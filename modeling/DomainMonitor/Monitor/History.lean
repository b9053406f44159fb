import Mathlib.Algebra.Order.Floor.Ring
import Mathlib.Data.Prod.Lex
import Mathlib.Data.Rat.Floor
import DomainMonitor.Lib.OrderBy
import DomainMonitor.Lib.StepFunction
import DomainMonitor.Monitor.Schema

/-! # The history of a domain (`internal/monitor/read.go`)

    `GetHistory` reads the status history of one domain in a window and adds up
    how long each effective availability held. Seconds are exact rationals here;
    the source uses `float64`.
-/

namespace DomainMonitor.Monitor

open Classification OrderBy

/-! ### Stored entries -/

/-- A row of `domain_status_history` with its primary key. -/
structure HistoryEntry extends HistoryRow where
  id : UUID
  deriving DecidableEq

/-- `effective_at, id`. -/
def HistoryEntry.key (e : HistoryEntry) : Int ×ₗ Nat := toLex (e.effectiveAt, e.id)

variable (db : DB) (entries : List HistoryEntry) (since : Int)

/-- The history of a database, with the ids that `gen_random_uuid()` gave its rows. -/
structure StoredHistory where
  entries : KeyedTable HistoryEntry.id
  stored : entries.rows.map HistoryEntry.toHistoryRow = db.history
  /-- `effective_at` is a `timestamptz`. -/
  precision : ∀ e ∈ entries.rows, timestamptz e.effectiveAt = e.effectiveAt

/-- `WHERE domain_id = $1`. -/
def StoredHistory.ofDomain {db : DB} (stored : StoredHistory db) (d : UUID) : List HistoryEntry :=
  stored.entries.rows.filter (fun e => e.domainId = d)

/-! ### Aggregates -/

def seconds (d : Int) : ℚ := d / 1000000000

/-- `round`: `math.Round` rounds half away from zero. -/
def roundTo (value : ℚ) (digits : Nat) : ℚ :=
  let scaled := value * 10 ^ digits
  (if 0 ≤ scaled then ⌊scaled + 1 / 2⌋ else ⌈scaled - 1 / 2⌉) / 10 ^ digits

structure HistoryAggregate where
  windowStart : Int
  windowEnd : Int
  uptimePercentage : Option ℚ := none
  monitoringCoverage : ℚ := 0
  knownSeconds : ℚ := 0
  activeSeconds : ℚ := 0
  degradedSeconds : ℚ := 0
  unavailableSeconds : ℚ := 0
  statusChangeCount : Nat := 0
  incidentCount : Nat := 0
  averageResponseMS : Option ℚ := none
  deriving DecidableEq

structure History where
  domainId : UUID
  timeline : List HistoryEntry
  aggregate : HistoryAggregate
  deriving DecidableEq

inductive HistoryError where
  /-- `history window end must be after start` -/
  | windowEnd
  | domainNotFound
  deriving DecidableEq, Repr

def accumulateState (aggregate : HistoryAggregate) (state : StatusValue) (secs : ℚ) :
    HistoryAggregate :=
  if secs ≤ 0 then aggregate
  else
    match state with
    | .availability .active =>
      { aggregate with activeSeconds := aggregate.activeSeconds + secs }
    | .availability .degraded =>
      { aggregate with degradedSeconds := aggregate.degradedSeconds + secs }
    | .availability .unavailable =>
      { aggregate with unavailableSeconds := aggregate.unavailableSeconds + secs }
    | _ => aggregate

/-! ### Queries -/

/-- `effective_at >= $2 AND effective_at <= $3`. -/
def inWindow (until_ : Int) (e : HistoryEntry) : Bool :=
  timestamptz since ≤ e.effectiveAt && e.effectiveAt ≤ timestamptz until_

/-- `ORDER BY effective_at, id LIMIT 5000`. -/
def selectTimeline (until_ : Int) : List HistoryEntry :=
  (orderBy HistoryEntry.key (entries.filter (inWindow since until_))).take 5000

/-- `dimension = 'availability' AND effective_at < $2`. -/
def beforeWindow (e : HistoryEntry) : Bool :=
  e.dimension = .availability && e.effectiveAt < timestamptz since

/-- The value of the newest entry, `UNKNOWN` without one. -/
def valueOf (entry : Option HistoryEntry) : StatusValue :=
  (entry.map (·.currentValue)).getD (.availability .unknown)

/-- `ORDER BY effective_at DESC, id DESC LIMIT 1`. -/
def initialState : StatusValue :=
  valueOf (lastBy HistoryEntry.key (entries.filter (beforeWindow since)))

def countIncidents (d : UUID) (since until_ : Int) : Nat :=
  db.incidents.count (fun i =>
    i.domainId = d && timestamptz since ≤ i.openedAt && i.openedAt ≤ timestamptz until_)

/-- The durations of the HTTP checks with a final status. -/
def responseTimes (d : UUID) (since until_ : Int) : List Int :=
  (db.results.filter (fun result => result.row.columns.domainId = d)).flatMap (fun result =>
    (result.httpChecks.filter (fun check =>
      timestamptz since ≤ check.row.columns.checkedAt &&
      check.row.columns.checkedAt ≤ timestamptz until_ &&
      check.row.columns.finalStatusCode.isSome)).map (·.row.columns.totalDurationUs))

/-- `avg(http.total_duration_us)::float8 / 1000.0`, `NULL` without rows. -/
def averageMS (times : List Int) : Option ℚ :=
  if times = [] then none else some (times.sum / times.length / 1000)

/-! ### `calculateHistoryAggregate` -/

/-- The variables of the loop over the timeline. -/
structure Walk where
  aggregate : HistoryAggregate
  cursor : Int
  state : StatusValue
  changes : Nat

def Walk.visit (w : Walk) (entry : HistoryEntry) : Walk :=
  if entry.dimension ≠ .availability then w
  else
    { aggregate :=
        accumulateState w.aggregate w.state (seconds (timeSub entry.effectiveAt w.cursor))
      cursor := entry.effectiveAt
      state := entry.currentValue
      changes := w.changes + 1 }

/-- The loop and the interval after it. -/
def walkTimeline (initial : StatusValue) (timeline : List HistoryEntry) (since until_ : Int) :
    HistoryAggregate :=
  let w := timeline.foldl Walk.visit
    { aggregate := { windowStart := since, windowEnd := until_ }
      cursor := since
      state := initial
      changes := 0 }
  { accumulateState w.aggregate w.state (seconds (timeSub until_ w.cursor)) with
    statusChangeCount := w.changes }

def calculateHistoryAggregate (timeline : List HistoryEntry) (d : UUID) (since until_ : Int) :
    HistoryAggregate :=
  let aggregate := walkTimeline (initialState entries since) timeline since until_
  let known := aggregate.activeSeconds + aggregate.degradedSeconds + aggregate.unavailableSeconds
  let windowSeconds := seconds (timeSub until_ since)
  { aggregate with
    knownSeconds := known
    monitoringCoverage :=
      if windowSeconds > 0 then roundTo (known / windowSeconds * 100) 4 else 0
    uptimePercentage :=
      if known > 0 then some (roundTo (aggregate.activeSeconds / known * 100) 4) else none
    incidentCount := countIncidents db d since until_
    averageResponseMS :=
      (averageMS (responseTimes db d since until_)).map (fun average => roundTo average 3) }

def getHistory (stored : StoredHistory db) (d : UUID) (since until_ : Int) :
    Except HistoryError History :=
  if until_ ≤ since then .error .windowEnd
  else if (db.domains.get? d).isNone then .error .domainNotFound
  else
    let entries := stored.ofDomain d
    let timeline := selectTimeline entries since until_
    .ok { domainId := d
          timeline
          aggregate := calculateHistoryAggregate db entries timeline d since until_ }

end DomainMonitor.Monitor
