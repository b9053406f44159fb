import DomainMonitor.Inventory.Service

/-! # Archiving and restoring

    `Archive` keeps `monitoring_enabled` in a column of its own, but not the
    lifecycle status, and `Restore` makes every domain active. So a restored
    domain is as it was before exactly if it was active then, with a schedule
    that followed its `monitoring_enabled`; an inactive domain comes back active.
-/

namespace DomainMonitor.Inventory

open Monitor (EnsureCall Schedule Schedules)

/-- `monitor_schedules.enabled` of a domain, if it has a schedule. -/
def Tables.scheduleEnabled (db : Tables) (id : UUID) : Option Bool :=
  (Schedules.ofDomain db.schedules id).map Schedule.enabled

/-- The domain has the same lifecycle status, `monitoring_enabled` and schedule
    flag in both states. -/
def SameLifecycle (id : UUID) (db db' : Tables) : Prop :=
  (db'.domains.get? id).map (fun d => (d.lifecycleStatus, d.monitoringEnabled)) =
    (db.domains.get? id).map (fun d => (d.lifecycleStatus, d.monitoringEnabled)) ∧
  db'.scheduleEnabled id = db.scheduleEnabled id

instance (id : UUID) (db db' : Tables) : Decidable (SameLifecycle id db db') :=
  inferInstanceAs (Decidable (_ ∧ _))

variable {d : Domain} {call : EnsureCall} {reason : GoString} {version : Int} {id : UUID}

theorem archive_result {db db' : Tables} (hd : db.domains.get? id = some d)
    (h : archive call id version reason db = .ok db') :
    d.lifecycleStatus ≠ .archived ∧ db'.domains.get? id = some (d.archive call.now) := by
  unfold archive at h
  split_ifs at h
  obtain ⟨hguard, hget, -⟩ := changeLifecycle_result hd h
  exact ⟨by simpa using hguard, hget⟩

theorem restore_result {db db' : Tables} (hd : db.domains.get? id = some d)
    (h : restore call id version reason db = .ok db') :
    db'.domains.get? id = some d.restore ∧ db'.scheduleEnabled id = some d.restore.monitored := by
  unfold restore at h
  split_ifs at h
  obtain ⟨-, hget, hflag⟩ := changeLifecycle_result hd h
  exact ⟨hget, hflag⟩

/-- **Archive and Restore**: a domain that is archived and then restored is as
    before if and only if it was active and its schedule had the flag
    `monitoring_enabled`. -/
theorem archive_restore_iff {db db₁ db₂ : Tables} {id : UUID} {d : Domain}
    {call call' : EnsureCall} {version version' : Int} {reason reason' : GoString}
    (hd : db.domains.get? id = some d)
    (harchive : archive call id version reason db = .ok db₁)
    (hrestore : restore call' id version' reason' db₁ = .ok db₂) :
    SameLifecycle id db db₂ ↔
      d.lifecycleStatus = .active ∧ db.scheduleEnabled id = some d.monitoringEnabled := by
  obtain ⟨-, hd₁⟩ := archive_result hd harchive
  obtain ⟨hd₂, hflag⟩ := restore_result hd₁ hrestore
  -- What was saved is what the archive found.
  have hmonitoring : (d.archive call.now).restore.monitoringEnabled = d.monitoringEnabled := rfl
  have hmonitored : (d.archive call.now).restore.monitored = d.monitoringEnabled := by
    simp [Domain.monitored, Domain.restore, Domain.archive]
  unfold SameLifecycle
  rw [hd, hd₂, hflag, hmonitored]
  simp only [Option.map_some, Option.some.injEq, Prod.mk.injEq, hmonitoring, and_true]
  rw [show (d.archive call.now).restore.lifecycleStatus = .active from rfl, eq_comm]
  constructor
  · intro ⟨hactive, hsame⟩
    exact ⟨hactive, hsame.symm⟩
  · intro ⟨hactive, hsame⟩
    exact ⟨hactive, hsame.symm⟩

/-! ### Two domains -/

def sampleDomain (lifecycle : LifecycleStatus) (monitoring : Bool) : Domain where
  id := 7
  originalInput := lit "example.com"
  domainASCII := lit "example.com"
  domainUnicode := lit "example.com"
  registrableDomain := lit "example.com"
  registrarID := none
  lifecycleStatus := lifecycle
  sourceStatus := .present
  sourceType := .manual
  businessPriority := .medium
  monitoringEnabled := monitoring
  monitoringEnabledBeforeArchive := true
  expectedContentMode := .html
  purchaseDate := none
  expirationAt := none
  notes := []
  archivedAt := none
  version := 1

/-- A database with this domain and its schedule. -/
def sampleTables (d : Domain) : Option Tables := do
  let domains ← Tables.empty.domains.insert d
  let schedules ← Monitor.ensureSchedule ⟨9, 0, 0⟩ d.id d.monitored Tables.empty.schedules
  some { Tables.empty with domains, schedules }

/-- The domain is archived at version 1 and restored at version 2, and both calls
    succeed; `p` holds of the states before and after. -/
def archiveRestore (d : Domain) (p : Tables → Tables → Bool) : Bool :=
  (sampleTables d).any (fun db =>
    (archive ⟨10, 0, second⟩ 7 1 (lit "sold") db).toOption.any (fun db₁ =>
      (restore ⟨11, 0, 2 * second⟩ 7 2 (lit "bought back") db₁).toOption.any (p db)))

theorem archiveRestore_spec {p : Tables → Tables → Bool} (h : archiveRestore d p = true) :
    ∃ db db₁ db₂, sampleTables d = some db ∧
      archive ⟨10, 0, second⟩ 7 1 (lit "sold") db = .ok db₁ ∧
      restore ⟨11, 0, 2 * second⟩ 7 2 (lit "bought back") db₁ = .ok db₂ ∧ p db db₂ = true := by
  unfold archiveRestore at h
  cases hdb : sampleTables d with
  | none =>
    rw [hdb] at h
    cases h
  | some db =>
    rw [hdb] at h
    obtain ⟨db₁, harchive, h⟩ := exists_ok_of_any h
    obtain ⟨db₂, hrestore, h⟩ := exists_ok_of_any h
    exact ⟨db, db₁, db₂, rfl, harchive, hrestore, h⟩

/-- An active domain, archived and restored. -/
theorem archive_restore_active :
    ∃ db db₁ db₂, db.domains.get? 7 = some (sampleDomain .active true) ∧
      archive ⟨10, 0, second⟩ 7 1 (lit "sold") db = .ok db₁ ∧
      restore ⟨11, 0, 2 * second⟩ 7 2 (lit "bought back") db₁ = .ok db₂ ∧
      SameLifecycle 7 db db₂ := by
  obtain ⟨db, db₁, db₂, -, harchive, hrestore, h⟩ := archiveRestore_spec
    (d := sampleDomain .active true)
    (p := fun db _ => decide (db.domains.get? 7 = some (sampleDomain .active true) ∧
      db.scheduleEnabled 7 = some true)) (by decide +kernel)
  obtain ⟨hget, hflag⟩ := of_decide_eq_true h
  exact ⟨db, db₁, db₂, hget, harchive, hrestore,
    (archive_restore_iff hget harchive hrestore).mpr ⟨rfl, hflag⟩⟩

/-- A domain that an import has set to inactive is active after it was archived
    and restored. -/
theorem inactive_restored_active :
    ∃ db db₁ db₂, sampleTables (sampleDomain .inactive false) = some db ∧
      archive ⟨10, 0, second⟩ 7 1 (lit "sold") db = .ok db₁ ∧
      restore ⟨11, 0, 2 * second⟩ 7 2 (lit "bought back") db₁ = .ok db₂ ∧
      (db.domains.get? 7).map Domain.lifecycleStatus = some .inactive ∧
      (db₂.domains.get? 7).map Domain.lifecycleStatus = some .active := by
  obtain ⟨db, db₁, db₂, hdb, harchive, hrestore, h⟩ := archiveRestore_spec
    (d := sampleDomain .inactive false)
    (p := fun db db₂ => decide ((db.domains.get? 7).map Domain.lifecycleStatus = some .inactive ∧
      (db₂.domains.get? 7).map Domain.lifecycleStatus = some .active)) (by decide +kernel)
  obtain ⟨hbefore, hafter⟩ := of_decide_eq_true h
  exact ⟨db, db₁, db₂, hdb, harchive, hrestore, hbefore, hafter⟩

end DomainMonitor.Inventory
