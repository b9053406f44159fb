import DomainMonitor.Lib.Loop
import DomainMonitor.Lib.Transition
import DomainMonitor.Sheets.Apply

/-! # Domains and their schedules

    Five writers keep `domains` and `monitor_schedules` in step: `Create`, `Patch`,
    `Archive`, `Restore` and the rows of an applied import. Each domain has one
    schedule, and it is enabled exactly when the domain is monitored
    (`schedules_consistent`), as long as no import reports a domain as missing that
    meanwhile belongs to another source. `applyMissing` then leaves the domain
    alone but disables its schedule (`taken_over_domain_unscheduled`).
-/

namespace DomainMonitor.Sheets

open Utf8 Inventory
open Monitor (EnsureCall Schedule Schedules ensureSchedule ensureSchedule_unique ensureSchedule_ofDomain)

/-! ### The system -/

/-- The calls that change domains, schedules and imports. -/
inductive Call where
  | create (id : UUID) (call : EnsureCall) (input : CreateInput)
  | patch (id : UUID) (call : EnsureCall) (input : PatchInput)
  | archive (id : UUID) (call : EnsureCall) (version : Int) (reason : GoString)
  | restore (id : UUID) (call : EnsureCall) (version : Int) (reason : GoString)
  | preview (call : PreviewCall)
  | apply (call : ApplyCall)
  | reject (importID : UUID) (reason : GoString) (now : Int)

variable (lib : Library) (pg : Postgres) (db : DB)

/-- The state after a call: a call that fails is rolled back. -/
def committed {ε : Type} (db : DB) (e : Except ε DB) : DB :=
  match e with
  | .ok db' => db'
  | .error _ => db

def withInventory (inventory : Inventory.Tables) : DB := { db with inventory := inventory }

def Call.run : Call → DB
  | .create id call input =>
    committed db ((Inventory.create lib.toLibrary id call input db.inventory).map (withInventory db))
  | .patch id call input =>
    committed db ((Inventory.patch lib.toLibrary call id input db.inventory).map (withInventory db))
  | .archive id call version reason =>
    committed db ((Inventory.archive call id version reason db.inventory).map (withInventory db))
  | .restore id call version reason =>
    committed db ((Inventory.restore call id version reason db.inventory).map (withInventory db))
  | .preview call => committed db ((previewSnapshot lib call db).map Prod.fst)
  | .apply call => committed db ((Sheets.apply pg call db).map Prod.fst)
  | .reject importID reason now => committed db ((Sheets.reject importID reason now db).map Prod.fst)

/-- Any sequence of calls, from a database without domains. -/
def inventorySystem : LTS.System DB Call where
  init := fun db => db.inventory.domains.rows = [] ∧ db.inventory.schedules.rows = [] ∧
    db.imports.rows = []
  step := fun db call db' => db' = call.run lib pg db

/-! ### The invariant -/

/-- Each domain has exactly one schedule, and it is enabled if and only if the
    domain has `monitoring_enabled` and is active. -/
def ScheduleConsistent (db : Inventory.Tables) : Prop :=
  ∀ d ∈ db.domains.rows, ∃ s, db.schedules.rows.filter (fun s => s.domainId = d.id) = [s] ∧
    (s.enabled = true ↔ d.monitoringEnabled = true ∧ d.lifecycleStatus = .active)

/-- The same, with the schedule of a domain as a lookup. -/
structure Scheduled (db : Inventory.Tables) : Prop where
  unique : (db.schedules.rows.map Schedule.domainId).Nodup
  schedule : ∀ k d, db.domains.get? k = some d →
    ∃ s, Schedules.ofDomain db.schedules k = some s ∧ s.enabled = d.monitored

section

variable {db db' : Inventory.Tables} {k : UUID}

theorem Scheduled.consistent (h : Scheduled db) : ScheduleConsistent db := by
  intro d hd
  obtain ⟨s, hs, henabled⟩ := h.schedule d.id d (IndexedTable.get?_of_mem hd)
  obtain ⟨hmem, hdomain⟩ := Schedules.ofDomain_some hs
  refine ⟨s, hdomain ▸ KeyedTable.filter_key h.unique hmem, ?_⟩
  rw [henabled, Domain.monitored, Bool.and_eq_true, decide_eq_true_eq]

/-- A write to one domain together with its schedule. -/
theorem Scheduled.write (h : Scheduled db) {call : EnsureCall} {enabled : Bool}
    (hensure : ensureSchedule call k enabled db.schedules = some db'.schedules)
    (hother : ∀ j, j ≠ k → db'.domains.get? j = db.domains.get? j)
    (hself : ∀ d, db'.domains.get? k = some d → d.monitored = enabled) : Scheduled db' where
  unique := ensureSchedule_unique h.unique hensure
  schedule := by
    intro j d hd
    obtain ⟨⟨s, hs, henabled⟩, hrest⟩ := ensureSchedule_ofDomain hensure
    by_cases hj : j = k
    · subst hj
      exact ⟨s, hs, henabled.trans (hself d hd).symm⟩
    · rw [hrest j hj]
      exact h.schedule j d (hother j hj ▸ hd)

/-- A write that leaves the schedules alone, and which domains are monitored. -/
theorem Scheduled.keep (h : Scheduled db) (hschedules : db'.schedules = db.schedules)
    (hdomains : ∀ j d', db'.domains.get? j = some d' →
      ∃ d, db.domains.get? j = some d ∧ d.monitored = d'.monitored) : Scheduled db' where
  unique := by
    rw [hschedules]
    exact h.unique
  schedule := by
    intro j d' hd'
    obtain ⟨d, hd, hsame⟩ := hdomains j d' hd'
    obtain ⟨s, hs, henabled⟩ := h.schedule j d hd
    exact ⟨s, hschedules ▸ hs, henabled.trans hsame⟩

/-- Tables other than domains and schedules do not matter. -/
theorem Scheduled.of_eq (h : Scheduled db) (hdomains : db'.domains = db.domains)
    (hschedules : db'.schedules = db.schedules) : Scheduled db' :=
  h.keep hschedules (fun _ d' hd' => ⟨d', hdomains ▸ hd', rfl⟩)

/-- `UPDATE domains ... WHERE id = k`, and then the schedule of the updated row. -/
theorem Scheduled.update (h : Scheduled db) {f : Domain → Domain} {hf : ∀ d, (f d).id = d.id}
    {domains : Domains} {schedules : Schedules} {call : EnsureCall} {enabled : Bool}
    (hmodify : db.domains.modify k f hf = some domains)
    (hensure : ensureSchedule call k enabled db.schedules = some schedules)
    (hself : ∀ d, db.domains.get? k = some d → (f d).monitored = enabled) :
    Scheduled { db with domains := domains, schedules := schedules } := by
  refine h.write (k := k) hensure ?_ ?_
  · intro j hj
    show domains.get? j = _
    rw [IndexedTable.get?_modify hmodify, if_neg hj]
  · intro d' hd'
    have hd' : domains.get? k = some d' := hd'
    rw [IndexedTable.get?_modify hmodify, if_pos rfl] at hd'
    obtain ⟨d, hd, rfl⟩ := Option.map_eq_some_iff.mp hd'
    exact hself d hd

end

/-! ### The domain service -/

section

variable {lib : Inventory.Library} {call : EnsureCall} {db db' : Inventory.Tables} {id : UUID}

theorem create_scheduled {input : CreateInput} (hs : Scheduled db)
    (h : Inventory.create lib id call input db = .ok db') : Scheduled db' := by
  simp only [Inventory.create, except_bind_ok] at h
  obtain ⟨normalized, -, priority, -, mode, -, db₁, hinsert, hensure⟩ := h
  obtain ⟨-, domains, hinserted, rfl⟩ := Tables.insertDomain_eq_ok hinsert
  obtain ⟨schedules, hschedules, rfl⟩ := Tables.ensureSchedule_eq_ok hensure
  refine hs.write (k := id) hschedules ?_ ?_
  · intro j hj
    show domains.get? j = _
    rw [IndexedTable.get?_insert hinserted, if_neg hj]
  · intro d hd
    have hd : domains.get? id = some d := hd
    rw [IndexedTable.get?_insert hinserted, if_pos rfl] at hd
    cases hd
    simp [Domain.monitored]

theorem patch_scheduled {input : PatchInput} (hs : Scheduled db)
    (h : Inventory.patch lib call id input db = .ok db') : Scheduled db' := by
  obtain ⟨before, after, domains, schedules, -, -, -, hmodify, hschedules, rfl⟩ := patch_eq_ok h
  exact hs.update hmodify hschedules (fun _ _ => rfl)

theorem changeLifecycle_scheduled {version : Int} {guard : Domain → Bool} {change : Domain → Domain}
    {hchange : ∀ d, (change d).id = d.id} (hs : Scheduled db)
    (h : changeLifecycle call id version guard change hchange db = .ok db') : Scheduled db' := by
  obtain ⟨before, domains, schedules, hbefore, -, -, hmodify, hschedules, rfl⟩ :=
    changeLifecycle_eq_ok h
  refine hs.update hmodify hschedules ?_
  intro d hd
  rw [hbefore] at hd
  rw [Option.some.inj hd]

end

/-! ### Imports -/

section

variable {pg : Postgres} {call : ApplyCall} {item : Import} {row : ImportRow} {k : UUID}
  {value : NormalizedRow} {db db' : Inventory.Tables}

theorem applySheetFields_scheduled (hs : Scheduled db)
    (h : applySheetFields pg call item row k value db = .ok db') : Scheduled db' := by
  obtain ⟨_, _, -, -, rfl⟩ := applySheetFields_eq_ok h
  exact hs.of_eq rfl rfl

theorem applyModify_scheduled (hs : Scheduled db)
    (h : applyModify pg call item row k value db = .ok db') : Scheduled db' := by
  obtain ⟨before, columns, registrars, domains, schedules, hbefore, -, hmodify, hensure, hfields⟩ :=
    applyModify_eq_ok h
  refine applySheetFields_scheduled ?_ hfields
  have hregistered : Scheduled { db with registrars := registrars } := hs.of_eq rfl rfl
  refine hregistered.update hmodify hensure ?_
  intro d hd
  have hd : db.domains.get? k = some d := hd
  rw [hbefore] at hd
  rw [Option.some.inj hd]

theorem applyAdd_scheduled (hs : Scheduled db) (hnew : db.domains.find? value.domain = none)
    (h : applyAdd pg call item row value db = .ok db') : Scheduled db' := by
  obtain ⟨columns, registrars, domains, schedules, -, hinsert, hensure, hfields⟩ :=
    applyAdd_eq_ok hnew h
  refine applySheetFields_scheduled ?_ hfields
  refine hs.write (k := (call.draws row.rowNumber).domainID) hensure ?_ ?_
  · intro j hj
    show domains.get? j = _
    rw [IndexedTable.get?_insert hinsert]
    exact if_neg hj
  · intro d hd
    have hd : domains.get? (call.draws row.rowNumber).domainID = some d := hd
    rw [IndexedTable.get?_insert hinsert] at hd
    cases (if_pos rfl).symm.trans hd
    cases hactive : value.active <;> simp [Domain.monitored, addedDomain, hactive]

/-- The domain of a missing row still has the import's source type, or it is not
    monitored anyway. -/
def StillListed (item : Import) (rows : List ImportRow) (db : Inventory.Tables) : Prop :=
  ∀ row ∈ rows, row.skipped = false → row.action = .missing →
    ∀ k, row.matchedDomainID = some k → ∀ d, db.domains.get? k = some d →
      d.sourceType = inventorySourceType item.source.kind ∨ d.monitored = false

theorem monitored_missingFrom {source : SourceType} {d : Domain}
    (h : d.sourceType = source ∨ d.monitored = false) : (missingFrom source d).monitored = false := by
  unfold missingFrom
  split
  · simp [Domain.monitored]
  · exact h.resolve_left ‹_›

theorem applyMissing_scheduled (hs : Scheduled db)
    (hlisted : ∀ d, db.domains.get? k = some d →
      d.sourceType = inventorySourceType item.source.kind ∨ d.monitored = false)
    (h : applyMissing call item row k db = .ok db') : Scheduled db' := by
  obtain ⟨domains, schedules, hmodify, hensure, rfl⟩ := applyMissing_eq_ok h
  exact hs.update hmodify hensure (fun d hd => monitored_missingFrom (hlisted d hd))

theorem monitored_seenAgain (d : Domain) : (seenAgain d).monitored = d.monitored := by
  unfold seenAgain
  split <;> rfl

/-- **Step lemma** for the rows of an import. -/
theorem applyRow_scheduled {rows : List ImportRow} (hrow : row ∈ rows) (hskip : row.skipped = false)
    (hs : Scheduled db) (hlisted : StillListed item rows db)
    (h : applyRow pg call item row db = .ok db') : Scheduled db' := by
  cases rowRun_of_ok h with
  | modify k value _ h => exact applyModify_scheduled hs h
  | add value _ _ hnew h => exact applyAdd_scheduled hs hnew h
  | missing k haction hmatched h =>
    exact applyMissing_scheduled hs (hlisted row hrow hskip haction k hmatched) h
  | unchanged k _ _ h =>
    obtain ⟨domains, hmodify, rfl⟩ := Tables.updateDomain_eq_ok (statement_eq_ok.mp h)
    refine hs.keep rfl ?_
    intro j d' hd'
    have hd' : domains.get? j = some d' := hd'
    rw [IndexedTable.get?_modify hmodify] at hd'
    split at hd'
    · obtain ⟨d, hd, rfl⟩ := Option.map_eq_some_iff.mp hd'
      exact ⟨d, hd, (monitored_seenAgain d).symm⟩
    · exact ⟨d', hd', rfl⟩
  | nothing _ h => exact h ▸ hs

/-- A row gives the domains it writes the import's source type. -/
theorem applyRow_stillListed {rows : List ImportRow} (hlisted : StillListed item rows db)
    (h : applyRow pg call item row db = .ok db') : StillListed item rows db' := by
  -- A domain that was there before stays covered if the row keeps it so.
  have hkeep : (∀ j d', db'.domains.get? j = some d' →
      d'.sourceType = inventorySourceType item.source.kind ∨
        ∃ d, db.domains.get? j = some d ∧ d'.sourceType = d.sourceType ∧ d'.monitored = d.monitored) →
      StillListed item rows db' := by
    intro hstep missing hmem hskip haction j hmatched d' hd'
    rcases hstep j d' hd' with hsource | ⟨d, hd, hsource, hmonitored⟩
    · exact .inl hsource
    · rw [hsource, hmonitored]
      exact hlisted missing hmem hskip haction j hmatched d hd
  apply hkeep
  intro j d' hd'
  cases rowRun_of_ok h with
  | modify k value _ h =>
    obtain ⟨before, columns, registrars, domains, schedules, -, -, hmodify, -, hfields⟩ :=
      applyModify_eq_ok h
    obtain ⟨_, _, -, -, rfl⟩ := applySheetFields_eq_ok hfields
    have hd' : domains.get? j = some d' := hd'
    rw [IndexedTable.get?_modify hmodify] at hd'
    split at hd'
    · obtain ⟨d, -, rfl⟩ := Option.map_eq_some_iff.mp hd'
      exact .inl rfl
    · exact .inr ⟨d', hd', rfl, rfl⟩
  | add value _ _ hnew h =>
    obtain ⟨columns, registrars, domains, schedules, -, hinsert, -, hfields⟩ := applyAdd_eq_ok hnew h
    obtain ⟨_, _, -, -, rfl⟩ := applySheetFields_eq_ok hfields
    have hd' : domains.get? j = some d' := hd'
    rw [IndexedTable.get?_insert hinsert] at hd'
    split at hd'
    · cases hd'
      exact .inl rfl
    · exact .inr ⟨d', hd', rfl, rfl⟩
  | missing k _ _ h =>
    obtain ⟨domains, schedules, hmodify, -, rfl⟩ := applyMissing_eq_ok h
    have hd' : domains.get? j = some d' := hd'
    rw [IndexedTable.get?_modify hmodify] at hd'
    split at hd'
    · obtain ⟨d, hd, rfl⟩ := Option.map_eq_some_iff.mp hd'
      unfold missingFrom
      split
      · exact .inl ‹_›
      · exact .inr ⟨d, hd, rfl, rfl⟩
    · exact .inr ⟨d', hd', rfl, rfl⟩
  | unchanged k _ _ h =>
    obtain ⟨domains, hmodify, rfl⟩ := Tables.updateDomain_eq_ok (statement_eq_ok.mp h)
    have hd' : domains.get? j = some d' := hd'
    rw [IndexedTable.get?_modify hmodify] at hd'
    split at hd'
    · obtain ⟨d, hd, rfl⟩ := Option.map_eq_some_iff.mp hd'
      refine .inr ⟨d, hd, ?_, monitored_seenAgain d⟩
      unfold seenAgain
      split <;> rfl
    · exact .inr ⟨d', hd', rfl, rfl⟩
  | nothing _ h => exact .inr ⟨d', h ▸ hd', rfl, rfl⟩

/-- **Run lemma** for the rows of an import. -/
theorem applyRows_scheduled {applied : Nat} (hs : Scheduled db) (hlisted : StillListed item item.rows db)
    (h : applyRows pg call item db = .ok (db', applied)) : Scheduled db' := by
  have hrun := Loop.foldlM_ok_invariant
    (P := fun state => Scheduled state.1 ∧ StillListed item item.rows state.1) ?_ ⟨hs, hlisted⟩ h
  · exact hrun.1
  · intro state row state' hrow hstate hnext
    unfold applyNext at hnext
    split at hnext
    · cases hnext
      exact hstate
    · rename_i hskip
      obtain ⟨db₁, hone, hdone⟩ := except_bind_ok.mp hnext
      cases hdone
      have hmem := OrderBy.mem_orderBy.mp hrow
      exact ⟨applyRow_scheduled hmem (by simpa using hskip) hstate.1 hstate.2 hone,
        applyRow_stillListed hstate.2 hone⟩

end

/-! ### Runs -/

/-- A call that applies an import finds the domains of its missing rows in the
    import's source, or not monitored. -/
def Call.FindsMissing : Call → Prop
  | .apply call => ∀ item, db.imports.get? call.importID = some item → item.status = .preview →
      StillListed item item.rows db.inventory
  | _ => True

theorem committed_inventory {ε : Type} {db : DB} {e : Except ε Inventory.Tables}
    (hs : Scheduled db.inventory) (h : ∀ db', e = .ok db' → Scheduled db') :
    Scheduled (committed db (e.map (withInventory db))).inventory := by
  cases e with
  | error => exact hs
  | ok db' => exact h db' rfl

/-- **Step lemma**: every call keeps domains and schedules in step. -/
theorem Call.run_scheduled {db : DB} (c : Call) (hfinds : c.FindsMissing db)
    (hs : Scheduled db.inventory) : Scheduled (c.run lib pg db).inventory := by
  cases c with
  | create id call input => exact committed_inventory hs (fun _ h => create_scheduled hs h)
  | patch id call input => exact committed_inventory hs (fun _ h => patch_scheduled hs h)
  | archive id call version reason =>
    refine committed_inventory hs (fun db' h => ?_)
    unfold Inventory.archive at h
    split at h
    · cases h
    · exact changeLifecycle_scheduled hs h
  | restore id call version reason =>
    refine committed_inventory hs (fun db' h => ?_)
    unfold Inventory.restore at h
    split at h
    · cases h
    · exact changeLifecycle_scheduled hs h
  | preview call =>
    show Scheduled (committed db _).inventory
    cases hpreview : previewSnapshot lib call db with
    | error => exact hs
    | ok result =>
      show Scheduled result.1.inventory
      obtain ⟨hsame, -⟩ | ⟨rows, imports, -, -, hsame, -⟩ := previewSnapshot_eq_ok hpreview
      · rw [hsame]
        exact hs
      · rw [hsame]
        exact hs
  | apply call =>
    show Scheduled (committed db _).inventory
    cases happly : Sheets.apply pg call db with
    | error => exact hs
    | ok result =>
      show Scheduled result.1.inventory
      obtain ⟨-, item, hitem, ⟨-, -, hsame, -⟩ | ⟨hstatus, inventory, applied, hrows, -, hdone, -⟩⟩ :=
        apply_eq_ok happly
      · rw [hsame]
        exact hs
      · rw [hdone]
        exact applyRows_scheduled hs (hfinds item hitem hstatus) hrows
  | reject importID reason now =>
    show Scheduled (committed db _).inventory
    cases hreject : Sheets.reject importID reason now db with
    | error => exact hs
    | ok result =>
      show Scheduled result.1.inventory
      obtain ⟨-, item, -, -, hdone, -⟩ := reject_eq_ok hreject
      rw [hdone]
      exact hs

/-- **Schedule consistency**, for every sequence of calls in which no import
    reports a domain as missing that another source has taken over. -/
theorem schedules_consistent (lib : Library) (pg : Postgres) (db : DB)
    (h : ((inventorySystem lib pg).restrict (fun db c => c.FindsMissing db)).Reachable db) :
    ScheduleConsistent db.inventory := by
  have hs := LTS.System.invariant (P := fun db : DB => Scheduled db.inventory) ?_ ?_ h
  · exact hs.consistent
  · intro db hinit
    obtain ⟨hdomains, hschedules, -⟩ := hinit
    refine ⟨by rw [hschedules]; exact List.nodup_nil, ?_⟩
    intro k d hd
    have hmem := (IndexedTable.get?_some hd).1
    rw [hdomains] at hmem
    cases hmem
  · intro db c db' hs hstep
    obtain ⟨hfinds, rfl⟩ := hstep
    exact c.run_scheduled lib pg hfinds hs

/-! ### Two sources, one domain -/

def sheetSource : Source := ⟨.googleSheets, lit "spreadsheet", lit "Sheet1"⟩

/-- The domain is added from a sheet and then removed there; before the preview
    that reports it missing is applied, a workbook takes the domain over. -/
def takeOver : List Call :=
  [.preview (samplePreview 1 "sheet-01" sheetSource [["Domain"], ["example.com"]]),
    .apply (sampleApply 1 "apply-01"),
    .preview (samplePreview 2 "sheet-02" sheetSource [["Domain"]]),
    .preview (samplePreview 3 "book-001" sampleSource [["Domain", "Notes"], ["example.com", "moved"]]),
    .apply (sampleApply 3 "apply-03"),
    .apply (sampleApply 2 "apply-02")]

def Call.runAll (calls : List Call) : DB :=
  calls.foldl (fun db c => c.run lib pg db) emptyDB

theorem reachable_runAll (calls : List Call) :
    (inventorySystem lib pg).Reachable (Call.runAll lib pg calls) := by
  induction calls using List.reverseRecOn with
  | nil => exact .init ⟨rfl, rfl, rfl⟩
  | append_singleton calls c ih =>
    rw [Call.runAll, List.foldl_concat]
    exact .step c ih rfl

/-- The workbook's domain is monitored, and its schedule is disabled. -/
theorem taken_over_domain_unscheduled :
    ∃ db, (inventorySystem sampleLibrary samplePostgres).Reachable db ∧
      ¬ ScheduleConsistent db.inventory := by
  refine ⟨Call.runAll sampleLibrary samplePostgres takeOver, reachable_runAll _ _ _, ?_⟩
  have hany : ((Call.runAll sampleLibrary samplePostgres takeOver).inventory.domains.rows.any
      (fun d => (d.monitoringEnabled && d.lifecycleStatus = .active) &&
        (Call.runAll sampleLibrary samplePostgres takeOver).inventory.schedules.rows.all
          (fun s => s.domainId ≠ d.id || !s.enabled))) = true := by
    decide +kernel
  obtain ⟨d, hd, hstate⟩ := List.any_eq_true.mp hany
  rw [Bool.and_eq_true, Bool.and_eq_true, decide_eq_true_eq, List.all_eq_true] at hstate
  intro hconsistent
  obtain ⟨s, hs, henabled⟩ := hconsistent d hd
  have hmem : s ∈ [s] := List.mem_singleton_self s
  rw [← hs, List.mem_filter, decide_eq_true_eq] at hmem
  have hoff := hstate.2 s hmem.1
  simp [hmem.2, henabled.mpr hstate.1] at hoff

/-- A domain that was added by hand. -/
def addByHand : Call :=
  .create 1 ⟨2, 7, 0⟩
    { domain := lit "Example.com"
      registrarID := none
      businessPriority := []
      monitoringEnabled := true
      expectedContentMode := []
      expirationAt := none
      notes := [] }

theorem schedules_consistent_sample :
    (addByHand.run sampleLibrary samplePostgres emptyDB).inventory.domains.rows.length = 1 ∧
      ScheduleConsistent (addByHand.run sampleLibrary samplePostgres emptyDB).inventory := by
  refine ⟨by decide +kernel, schedules_consistent sampleLibrary samplePostgres _ ?_⟩
  exact .step addByHand (.init ⟨rfl, rfl, rfl⟩) ⟨trivial, rfl⟩

end DomainMonitor.Sheets
