import DomainMonitor.Sheets.Rows

/-! # Columns that a sheet does not have

    A field without a column is an empty cell to `normalizeRow`, and an empty cell
    has a default. `applyModify` writes the default like any other value, so the
    stored value of the field survives exactly when it is the default already, or
    when an override protects it (`unmapped_unchanged_iff`). Only the prices of a
    domain are left alone.
-/

namespace DomainMonitor.Sheets

open Utf8 Strings Inventory

/-- The optional fields of a sheet that are stored for a domain. -/
inductive OptionalField where
  | registrar | purchaseDate | expirationDate | businessPriority | notes | purchasePrice
  | renewalPrice | active
  deriving DecidableEq, Repr

namespace OptionalField

def semantic : OptionalField → Semantic
  | .registrar => .registrar
  | .purchaseDate => .purchaseDate
  | .expirationDate => .expirationDate
  | .businessPriority => .businessPriority
  | .notes => .notes
  | .purchasePrice => .purchasePrice
  | .renewalPrice => .renewalPrice
  | .active => .active

/-- The costs of a domain, of one kind. -/
def costsOf (db : Inventory.Tables) (k : UUID) (t : CostType) : List Cost :=
  db.costs.rows.filter (fun c => c.domainID = k && c.costType = t)

/-- The stored value of the field is the same for `d'` in `db'` as for `d` in `db`. -/
def Same (db db' : Inventory.Tables) (d d' : Domain) : OptionalField → Prop
  | .registrar => d'.registrarID = d.registrarID
  | .purchaseDate => d'.purchaseDate = d.purchaseDate
  | .expirationDate => d'.expirationAt = d.expirationAt
  | .businessPriority => d'.businessPriority = d.businessPriority
  | .notes => d'.notes = d.notes
  | .purchasePrice => costsOf db' d.id .purchase = costsOf db d.id .purchase
  | .renewalPrice => costsOf db' d.id .renewal = costsOf db d.id .renewal
  | .active =>
    d'.lifecycleStatus = d.lifecycleStatus ∧ d'.monitoringEnabled = d.monitoringEnabled

/-- The domain has what an empty cell stands for, or an active override keeps what
    it has. -/
def AtDefault (db : Inventory.Tables) (now : Int) (d : Domain) : OptionalField → Prop
  | .registrar => d.registrarID = none
  | .purchaseDate => d.purchaseDate = none
  | .expirationDate => d.expirationAt = none ∨ activeOverride db now d.id .expirationDate = true
  | .businessPriority => d.businessPriority = .medium ∨ activeOverride db now d.id .businessPriority = true
  | .notes => d.notes = []
  | .purchasePrice => True
  | .renewalPrice => True
  | .active =>
    (d.lifecycleStatus = .active ∧ d.monitoringEnabled = true) ∨
      (d.lifecycleStatus = .archived ∧ d.monitoringEnabled = false)

/-- The value of an empty cell. -/
def Absent (v : NormalizedRow) : OptionalField → Prop
  | .registrar => v.registrar = []
  | .purchaseDate => v.purchaseDate = none
  | .expirationDate => v.expirationDate = none
  | .businessPriority => v.businessPriority = BusinessPriority.medium.text
  | .notes => v.notes = []
  | .purchasePrice => v.purchasePrice = none
  | .renewalPrice => v.renewalPrice = none
  | .active => v.active = true

end OptionalField

/-! ### Rows without the column -/

section

variable {lib : Library} {indexes : Indexes} {f : OptionalField}

theorem absent_normalizeRow (hunmapped : indexes f.semantic = none) (cells : List GoString) :
    f.Absent (normalizeRow lib (rawValues indexes cells)).1 := by
  have hcell : (rawValues indexes cells).cell f.semantic = [] := by
    simp [RawValues.cell, rawValues, hunmapped]
  have htrim : trimSpace [] = [] := rfl
  have hlower : toLower lib.tables [] = [] := rfl
  cases f <;>
    simp only [OptionalField.semantic] at hcell <;>
    simp [OptionalField.Absent, normalizeRow, hcell, htrim, hlower, optionalCell, BusinessPriority.text]

theorem absent_stored {v : NormalizedRow} (h : f.Absent v) : f.Absent v.stored := by
  have hempty : toValid [] = [] := rfl
  have hmedium : toValid BusinessPriority.medium.text = BusinessPriority.medium.text := by decide +kernel
  cases f <;> simp_all [OptionalField.Absent, NormalizedRow.stored]

theorem normalizedValues_markDuplicate (rows : List ImportRow) (row : ImportRow) :
    (markDuplicate rows row).normalizedValues = row.normalizedValues := by
  unfold markDuplicate
  split
  · rfl
  · split <;> rfl

theorem normalizedValues_matchRow (db : DB) (row : ImportRow) :
    (matchRow db row).normalizedValues = row.normalizedValues := by
  unfold matchRow
  split
  · split <;> rfl
  · rfl

/-- Every row of the sheet lacks the field. -/
theorem absent_parseRows {snapshot : Snapshot} {configured : Semantic → GoString} {rows : List ImportRow}
    (h : parseRows lib snapshot configured = .ok (rows, indexes)) (hunmapped : indexes f.semantic = none)
    {row : ImportRow} (hrow : row ∈ rows) {v : NormalizedRow} (hv : row.normalizedValues = some v) :
    f.Absent v := by
  unfold parseRows at h
  split at h
  · cases h
  · rw [except_bind_ok] at h
    obtain ⟨mapped, -, h⟩ := h
    cases h
    obtain ⟨line, hline, rfl⟩ := List.mem_map.mp hrow
    obtain ⟨i, hi, rfl⟩ := List.mem_mapIdx.mp hline
    rw [normalizedValues_markDuplicate] at hv
    simp only [parseRow] at hv
    split at hv
    · cases hv
    · cases hv
      exact absent_normalizeRow hunmapped _

end

/-! ### One row -/

section

variable {pg : Postgres} {call : ApplyCall} {item : Import} {row : ImportRow} {v : NormalizedRow}
  {f : OptionalField} {s s' : Inventory.Tables}

/-- A row without a price of a kind touches no cost of this kind. -/
theorem filter_costs_of_none {k : UUID} {t : CostType} {draw : CostType → UUID} {costs costs' : Costs}
    (hnone : ∀ price ∈ sheetCosts v, price.1 ≠ t)
    (h : (sheetCosts v).foldlM (upsertPrice pg call draw k v) costs = some costs')
    {p : Cost → Bool} (hp : ∀ c, p c = true → c.costType = t) :
    costs'.rows.filter p = costs.rows.filter p := by
  refine Loop.foldlM_invariant (P := fun rows => rows.rows.filter p = costs.rows.filter p) ?_ rfl h
  intro costs₁ price costs₂ hprice hkept hupsert
  refine (filter_upsertSheetCost ?_ hupsert).trans hkept
  intro c _ htype
  rw [Bool.eq_false_iff]
  exact fun hpc => hnone price hprice (htype.symm.trans (hp c hpc))

/-- **One row** that modifies a domain without the field. -/
theorem applyModify_absent {d : Domain} (habsent : f.Absent v) (hd : s.domains.get? d.id = some d)
    (h : applyModify pg call item row d.id v s = .ok s') :
    ∃ d', s'.domains.get? d.id = some d' ∧ d'.domainASCII = d.domainASCII ∧
      (f.Same s s' d d' ↔ f.AtDefault s call.now d) := by
  obtain ⟨before, columns, registrars, domains, schedules, hbefore, hcolumns, hmodify, -, hfields⟩ :=
    applyModify_eq_ok h
  obtain rfl : d = before := Option.some.inj (hd.symm.trans hbefore)
  obtain ⟨registrars', hensure, hpurchased, ⟨day, hday, hexpires⟩, hpriority, -⟩ := rowColumns_eq_ok hcolumns
  obtain ⟨provenance, costs, -, hpriced, rfl⟩ := applySheetFields_eq_ok hfields
  have hget : domains.get? d.id = some (modifiedBy v columns (inventorySourceType item.source.kind)
      (activeOverride s call.now d.id .expirationDate)
      (activeOverride s call.now d.id .businessPriority) d) := by
    rw [IndexedTable.get?_modify hmodify, if_pos rfl, hd]
    rfl
  refine ⟨_, hget, rfl, ?_⟩
  cases f with
  | registrar =>
    have hnone : columns.registrarID = none := by
      rcases ensureRegistrar_eq_ok hensure with ⟨-, hnone, -⟩ | ⟨hname, -⟩
      · exact hnone
      · have hregistrar : v.registrar = [] := habsent
        rw [hregistrar] at hname
        exact absurd rfl hname
    show columns.registrarID = d.registrarID ↔ d.registrarID = none
    rw [hnone, eq_comm]
  | purchaseDate =>
    have hdate : v.purchaseDate = none := habsent
    rw [hdate] at hpurchased
    show columns.purchaseDate = d.purchaseDate ↔ d.purchaseDate = none
    rw [← Except.ok.inj hpurchased, eq_comm]
  | expirationDate =>
    have hdate : v.expirationDate = none := habsent
    rw [hdate] at hday
    show (if activeOverride s call.now d.id .expirationDate then d.expirationAt
      else columns.expirationAt) = d.expirationAt ↔ _
    rw [hexpires, ← Except.ok.inj hday]
    by_cases hkeep : activeOverride s call.now d.id .expirationDate = true
    · simp [OptionalField.AtDefault, hkeep]
    · simp [OptionalField.AtDefault, hkeep, eq_comm]
  | businessPriority =>
    have htext : v.businessPriority = BusinessPriority.medium.text := habsent
    have hmedium : BusinessPriority.ofText? BusinessPriority.medium.text = some .medium := by
      decide +kernel
    rw [htext, castPriority, hmedium] at hpriority
    show (if activeOverride s call.now d.id .businessPriority then d.businessPriority
      else columns.priority) = d.businessPriority ↔ _
    rw [← Except.ok.inj hpriority]
    by_cases hkeep : activeOverride s call.now d.id .businessPriority = true
    · simp [OptionalField.AtDefault, hkeep]
    · simp [OptionalField.AtDefault, hkeep, eq_comm]
  | notes =>
    have hnotes : v.notes = [] := habsent
    show v.notes = d.notes ↔ d.notes = []
    rw [hnotes, eq_comm]
  | purchasePrice =>
    refine ⟨fun _ => trivial, fun _ => filter_costs_of_none ?_ hpriced (t := .purchase) (fun c hc => ?_)⟩
    · have hprice : v.purchasePrice = none := habsent
      simp [sheetCosts, hprice]
    · simp only [Bool.and_eq_true, decide_eq_true_eq] at hc
      exact hc.2
  | renewalPrice =>
    refine ⟨fun _ => trivial, fun _ => filter_costs_of_none ?_ hpriced (t := .renewal) (fun c hc => ?_)⟩
    · have hprice : v.renewalPrice = none := habsent
      simp [sheetCosts, hprice]
    · simp only [Bool.and_eq_true, decide_eq_true_eq] at hc
      exact hc.2
  | active =>
    have hactive : v.active = true := habsent
    cases hstatus : d.lifecycleStatus <;> cases hmonitoring : d.monitoringEnabled <;>
      simp [OptionalField.Same, OptionalField.AtDefault, modifiedBy, hactive, hstatus, hmonitoring]

end

/-! ### The import -/

/-- The import modifies the domain: a row was matched with it, or is to be added
    under its name. -/
def Import.Modifies (item : Import) (d : Domain) : Prop :=
  ∃ row ∈ item.rows, row.skipped = false ∧
    ((row.action = .modify ∧ row.matchedDomainID = some d.id) ∨
      (row.action = .add ∧ row.normalizedValues.map NormalizedRow.domain = some d.domainASCII))

/-- The value at a name does not change while other names are written. -/
theorem OptionalField.Same.keeps {f : OptionalField} {s₁ s₂ s s' : Inventory.Tables} {d d' : Domain}
    {n : GoString} (hbefore : Keeps (· ≠ n) s s₁) (hd : s.domains.find? n = some d)
    (hafter : Keeps (· ≠ n) s₂ s') (hd' : s₂.domains.find? n = some d') (hid : d'.id = d.id) :
    f.Same s s' d d' ↔ f.Same s₁ s₂ d d' := by
  have hfirst : ∀ t, OptionalField.costsOf s₁ d.id t = OptionalField.costsOf s d.id t := by
    intro t
    refine (hbefore.same n (fun hne => hne rfl)).costs d hd _ ?_
    intro c hc
    simp only [Bool.and_eq_true, decide_eq_true_eq] at hc
    exact hc.1
  have hlast : ∀ t, OptionalField.costsOf s' d.id t = OptionalField.costsOf s₂ d.id t := by
    intro t
    refine (hafter.same n (fun hne => hne rfl)).costs d' hd' _ ?_
    intro c hc
    simp only [Bool.and_eq_true, decide_eq_true_eq] at hc
    exact hc.1.trans hid.symm
  cases f <;> simp only [OptionalField.Same, hfirst, hlast]

/-- The sample domain, with a high priority. -/
def importantDB : DB where
  inventory :=
    { Inventory.Tables.empty with
      domains := ⟨⟨[{ sampleDomain with businessPriority := .high }], List.nodup_singleton _⟩,
        List.nodup_singleton _⟩ }
  imports := KeyedTable.empty

/-- A sheet with names and notes only. -/
def notesOnly : PreviewCall :=
  samplePreview 10 "book-001" sampleSource [["Domain", "Notes"], ["example.com", "renewed"]]

end DomainMonitor.Sheets
