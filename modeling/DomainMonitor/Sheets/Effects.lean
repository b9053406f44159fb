import DomainMonitor.Lib.Loop
import DomainMonitor.Sheets.Apply

/-! # What the rows of an import change

    A row writes to one domain, to its costs and to its provenance; it may add a
    registrar. `WritesTo` says what it leaves alone, `Written` what a row that adds
    or modifies a domain stores. Both are stated of a single row, for any state of
    the tables.
-/

namespace DomainMonitor.Sheets

open Utf8 Inventory

/-! ### Costs -/

/-- The cost that a price of a row becomes. -/
structure SheetCost (k : UUID) (t : CostType) (amount currency : GoString)
    (taxRate : Option GoString) (c : Cost) : Prop where
  open_ : replacedBy k t c = true
  amount : Decimal.numeric 20 6 amount = some c.amount
  currency : c.currencyCode = currency
  rate : taxRate.map (Decimal.numeric 20 10) = c.taxRate.map some

section

variable {pg : Postgres} {id k : UUID} {now today : Int} {t : CostType} {amount currency : GoString}
  {taxRate : Option GoString} {costs costs' : Costs}

theorem replacedBy_iff {c : Cost} : replacedBy k t c = true ↔
    c.domainID = k ∧ c.costType = t ∧ c.priceSource = .googleSheet ∧ c.effectiveTo = none := by
  simp [replacedBy, and_assoc]

theorem upsertSheetCost_eq_some
    (h : upsertSheetCost pg id now today k t amount currency taxRate costs = some costs') :
    ∃ c, SheetCost k t amount currency taxRate c ∧ c.effectiveFrom = today ∧ c.createdAt = now ∧
      costs'.rows = costs.rows.map (fun c => if replacedBy k t c then closedCost today c else c) ++ [c] := by
  simp only [upsertSheetCost, Option.bind_eq_bind, Option.bind_eq_some_iff] at h
  obtain ⟨n, hamount, h⟩ := h
  cases taxRate with
  | none =>
    simp only [Option.bind_some, Option.ite_none_right_eq_some] at h
    exact ⟨_, ⟨replacedBy_iff.mpr ⟨rfl, rfl, rfl, rfl⟩, hamount, rfl, rfl⟩, rfl, rfl,
      (KeyedTable.insert_eq_some h.2).2⟩
  | some text =>
    simp only [Option.bind_eq_some_iff, Option.map_eq_some_iff, Option.ite_none_right_eq_some] at h
    obtain ⟨rate, ⟨stored, hstored, rfl⟩, -, hinsert⟩ := h
    refine ⟨_, ⟨replacedBy_iff.mpr ⟨rfl, rfl, rfl, rfl⟩, hamount, rfl, ?_⟩, rfl, rfl,
      (KeyedTable.insert_eq_some hinsert).2⟩
    exact congrArg some hstored

/-- After the upsert the new cost is the only open one of its kind. -/
theorem open_upsertSheetCost
    (h : upsertSheetCost pg id now today k t amount currency taxRate costs = some costs') :
    ∃ c, SheetCost k t amount currency taxRate c ∧ costs'.rows.filter (replacedBy k t) = [c] := by
  obtain ⟨c, hc, -, -, hrows⟩ := upsertSheetCost_eq_some h
  refine ⟨c, hc, ?_⟩
  have hclosed : (costs.rows.map (fun c => if replacedBy k t c then closedCost today c else c)).filter
      (replacedBy k t) = [] := by
    rw [List.filter_eq_nil_iff]
    intro c' hc'
    obtain ⟨old, -, rfl⟩ := List.mem_map.mp hc'
    split
    · simp [replacedBy, closedCost]
    · assumption
  rw [hrows, List.filter_append, hclosed, List.nil_append, List.filter_cons_of_pos hc.open_,
    List.filter_nil]

/-- Selections of costs of another domain or another kind do not change. -/
theorem filter_upsertSheetCost {p : Cost → Bool}
    (hp : ∀ c, c.domainID = k → c.costType = t → p c = false)
    (h : upsertSheetCost pg id now today k t amount currency taxRate costs = some costs') :
    costs'.rows.filter p = costs.rows.filter p := by
  obtain ⟨c, hc, -, -, hrows⟩ := upsertSheetCost_eq_some h
  obtain ⟨hdomain, htype, -, -⟩ := replacedBy_iff.mp hc.open_
  have hnew : [c].filter p = [] := by
    rw [List.filter_cons_of_neg (by simp [hp c hdomain htype]), List.filter_nil]
  rw [hrows, List.filter_append, hnew, List.append_nil]
  apply KeyedTable.filter_update
  intro old hold
  obtain ⟨hdomain, htype, -, -⟩ := replacedBy_iff.mp hold
  exact ⟨hp old hdomain htype, hp (closedCost today old) hdomain htype⟩

/-- What becomes of the open costs of one kind when a row may give a price. -/
structure Priced (k : UUID) (t : CostType) (price : Option GoString) (value : NormalizedRow)
    (costs costs' : Costs) : Prop where
  kept : price = none → costs'.rows.filter (replacedBy k t) = costs.rows.filter (replacedBy k t)
  priced : ∀ amount, price = some amount → ∃ c, SheetCost k t amount value.currency value.taxRate c ∧
    costs'.rows.filter (replacedBy k t) = [c]

end

section

variable {pg : Postgres} {call : ApplyCall} {item : Import} {row : ImportRow} {k : UUID}
  {value : NormalizedRow} {db db' : Inventory.Tables}

/-- The loop over the prices of a row. -/
abbrev upsertPrice (pg : Postgres) (call : ApplyCall) (draw : CostType → UUID) (k : UUID)
    (value : NormalizedRow) (costs : Costs) (price : CostType × GoString) : Option Costs :=
  upsertSheetCost pg (draw price.1) call.now call.today k price.1 price.2 value.currency
    value.taxRate costs

theorem priced_of_option {t : CostType} {price : Option GoString} {draw : CostType → UUID}
    {costs costs' : Costs}
    (h : (price.toList.map (fun amount => (t, amount))).foldlM (upsertPrice pg call draw k value)
      costs = some costs') :
    Priced k t price value costs costs' ∧
      ∀ p : Cost → Bool, (∀ c, c.domainID = k → c.costType = t → p c = false) →
        costs'.rows.filter p = costs.rows.filter p := by
  cases price with
  | none =>
    cases h
    exact ⟨⟨fun _ => rfl, nofun⟩, fun _ _ => rfl⟩
  | some amount =>
    simp only [Option.toList_some, List.map_cons, List.map_nil, List.foldlM_cons, List.foldlM_nil,
      Option.bind_eq_bind, Option.pure_def, Option.bind_fun_some] at h
    refine ⟨⟨nofun, ?_⟩, fun p hp => filter_upsertSheetCost hp h⟩
    intro amount' hamount
    cases hamount
    exact open_upsertSheetCost h

/-- The prices of a row: one kind after the other. -/
theorem priced_of_foldlM {draw : CostType → UUID} {costs costs' : Costs}
    (h : (sheetCosts value).foldlM (upsertPrice pg call draw k value) costs = some costs') :
    Priced k .purchase value.purchasePrice value costs costs' ∧
      Priced k .renewal value.renewalPrice value costs costs' ∧
      ∀ p : Cost → Bool, (∀ c, c.domainID = k → p c = false) →
        costs'.rows.filter p = costs.rows.filter p := by
  have hother : ∀ t t' : CostType, t ≠ t' → ∀ c : Cost, c.domainID = k → c.costType = t →
      replacedBy k t' c = false := by
    intro t t' hne c _ htype
    rw [Bool.eq_false_iff, ne_eq, replacedBy_iff]
    exact fun hc => hne (htype.symm.trans hc.2.1)
  rw [sheetCosts, List.foldlM_append, Option.bind_eq_bind, Option.bind_eq_some_iff] at h
  obtain ⟨costs₁, hpurchase, hrenewal⟩ := h
  obtain ⟨hpurchase, hfirst⟩ := priced_of_option hpurchase
  obtain ⟨hrenewal, hsecond⟩ := priced_of_option hrenewal
  have hkeepPurchase := hsecond _ (hother .renewal .purchase (by decide))
  have hkeepRenewal := hfirst _ (hother .purchase .renewal (by decide))
  refine ⟨⟨?_, ?_⟩, ⟨?_, hrenewal.priced⟩, ?_⟩
  · intro hnone
    rw [hkeepPurchase, hpurchase.kept hnone]
  · intro amount hamount
    rw [hkeepPurchase]
    exact hpurchase.priced amount hamount
  · intro hnone
    rw [hrenewal.kept hnone, hkeepRenewal]
  · intro p hp
    rw [hsecond p (fun c hc _ => hp c hc), hfirst p (fun c hc _ => hp c hc)]

/-! ### Provenance -/

/-- `setProvenance` retires and adds rows of one domain only. -/
theorem filter_setProvenance {id : UUID} {now observed : Int} {field : Field} {reference : Reference}
    {provenance provenance' : Provenances} {p : Provenance → Bool}
    (hp : ∀ r : Provenance, r.domainID = k → p r = false)
    (h : setProvenance id now observed k field reference provenance = some provenance') :
    provenance'.rows.filter p = provenance.rows.filter p := by
  have hnew : ∀ {kept : Provenances} {r : Provenance}, r.domainID = k → kept.insert r = some provenance' →
      provenance'.rows.filter p = kept.rows.filter p := by
    intro kept r hr hinsert
    rw [IndexedTable.rows_insert hinsert, List.filter_append,
      List.filter_cons_of_neg (by simp [hp r hr]), List.filter_nil, List.append_nil]
  simp only [setProvenance, Option.bind_eq_bind] at h
  cases hprevious : provenance.find? (k, field) with
  | none =>
    simp only [hprevious, Option.bind_some] at h
    exact hnew rfl h
  | some previous =>
    simp only [hprevious, Option.bind_eq_some_iff] at h
    obtain ⟨kept, hretired, hinsert⟩ := h
    obtain ⟨hmem, hindex⟩ := IndexedTable.find?_some hprevious
    have hdomain : previous.domainID = k := by
      unfold Provenance.currentIndex at hindex
      split at hindex
      · exact congrArg Prod.fst (Option.some.inj hindex)
      · cases hindex
    rw [hnew rfl hinsert, IndexedTable.rows, IndexedTable.check_eq_some hretired]
    -- The row that is retired is the previous one, of the same domain.
    refine (congrArg (List.filter p) (List.map_congr_left ?_)).trans
      (KeyedTable.filter_update (q := fun r => decide (r = previous)) (f := retired) ?_ _)
    · intro r hr
      have hiff : r.id = previous.id ↔ r = previous :=
        ⟨fun hid => provenance.table.eq_of_key_eq hr hmem hid, fun h => h ▸ rfl⟩
      simp only [hiff, decide_eq_true_eq]
    · intro r hr
      rw [decide_eq_true_eq] at hr
      subst hr
      exact ⟨hp r hdomain, hp (retired r) hdomain⟩

end

/-! ### Registrars -/

section

variable {pg : Postgres} {newID : UUID} {name : GoString} {registrars registrars' : Registrars}
  {registrarID : Option UUID}

theorem registrarNamed_some {r : Registrar} (h : registrarNamed pg registrars name = some r) :
    r ∈ registrars.rows ∧ pg.lower r.name = pg.lower name := by
  have hmem := List.mem_filter.mp (List.argmin_mem h)
  exact ⟨hmem.1, by simpa using hmem.2⟩

/-- A new registrar is found under the names with its lower case, which found none
    before. -/
theorem registrarNamed_insert {r : Registrar} (h : registrars.insert r = some registrars')
    (hnone : registrarNamed pg registrars r.name = none) (name : GoString) :
    registrarNamed pg registrars' name =
      if pg.lower r.name = pg.lower name then some r else registrarNamed pg registrars name := by
  unfold registrarNamed at hnone ⊢
  rw [IndexedTable.rows_insert h, List.filter_append]
  by_cases hlower : pg.lower r.name = pg.lower name
  · have hnil := List.argmin_eq_none.mp hnone
    rw [if_pos hlower, ← hlower, hnil, List.nil_append, List.filter_cons_of_pos (by simp),
      List.filter_nil]
    rfl
  · rw [if_neg hlower, List.filter_cons_of_neg (by simpa using hlower), List.filter_nil, List.append_nil]

/-- `ensureRegistrar`: nothing for an empty name, the registrar that has the name,
    or a new one. -/
theorem ensureRegistrar_eq_ok
    (h : ensureRegistrar pg newID name registrars = .ok (registrarID, registrars')) :
    (trimSpace name = [] ∧ registrarID = none ∧ registrars' = registrars) ∨
      (trimSpace name ≠ [] ∧ ∃ r, registrarID = some r.id ∧
        registrarNamed pg registrars' (trimSpace name) = some r ∧
        (registrars' = registrars ∨
          registrarNamed pg registrars (trimSpace name) = none ∧ r.name = trimSpace name ∧
            registrars.insert r = some registrars')) := by
  unfold ensureRegistrar at h
  dsimp only at h
  split at h
  · cases h
    exact .inl ⟨‹_›, rfl, rfl⟩
  · rename_i hname
    refine .inr ⟨hname, ?_⟩
    split at h
    · rename_i r hfound
      cases h
      exact ⟨r, rfl, hfound, .inl rfl⟩
    · rename_i hnone
      split at h
      · split at h
        · rename_i inserted hinsert
          split at h
          · rename_i r hfound
            cases h
            rw [registrarNamed_insert hinsert hnone, if_pos rfl] at hfound
            cases hfound
            exact ⟨_, rfl, by rw [registrarNamed_insert hinsert hnone, if_pos rfl],
              .inr ⟨hnone, rfl, hinsert⟩⟩
          · cases h
        · cases h
      · cases h

theorem ensureRegistrar_get?
    (h : ensureRegistrar pg newID name registrars = .ok (registrarID, registrars')) {i : UUID}
    {r : Registrar} (hr : registrars.get? i = some r) : registrars'.get? i = some r := by
  rcases ensureRegistrar_eq_ok h with ⟨-, -, rfl⟩ | ⟨-, r', -, -, rfl | ⟨-, -, hinsert⟩⟩
  · exact hr
  · exact hr
  · -- The new identifier was not taken.
    have hnew : registrars.get? r'.id = none := by
      obtain ⟨table, htable, -⟩ := Option.bind_eq_some_iff.mp hinsert
      exact (KeyedTable.insert_eq_some htable).1
    rw [IndexedTable.get?_insert hinsert, if_neg]
    · exact hr
    · intro hi
      rw [hi, hnew] at hr
      cases hr

end

/-! ### What a row leaves alone -/

/-- Only domain `k` is written, with its costs and its provenance; its name stays.
    Registrars may be added, overrides are not touched. -/
structure WritesTo (k : UUID) (s s' : Inventory.Tables) : Prop where
  domains : ∀ j, j ≠ k → s'.domains.get? j = s.domains.get? j
  name : ∀ d, s.domains.get? k = some d →
    ∃ d', s'.domains.get? k = some d' ∧ d'.domainASCII = d.domainASCII
  costs : ∀ p : Cost → Bool, (∀ c, c.domainID = k → p c = false) →
    s'.costs.rows.filter p = s.costs.rows.filter p
  provenance : ∀ p : Provenance → Bool, (∀ r, r.domainID = k → p r = false) →
    s'.provenance.rows.filter p = s.provenance.rows.filter p
  registrars : ∀ i r, s.registrars.get? i = some r → s'.registrars.get? i = some r
  overrides : s'.overrides = s.overrides

section

variable {pg : Postgres} {call : ApplyCall} {item : Import} {row : ImportRow} {k : UUID}
  {value : NormalizedRow} {s s' : Inventory.Tables}

/-- `applySheetFields` after a write to the domain itself. -/
theorem WritesTo.fields {s₁ : Inventory.Tables}
    (hfields : applySheetFields pg call item row k value s₁ = .ok s') (h : WritesTo k s s₁)
    (hcosts : s₁.costs = s.costs) (hprovenance : s₁.provenance = s.provenance) : WritesTo k s s' := by
  obtain ⟨provenance, costs, hrecorded, hpriced, rfl⟩ := applySheetFields_eq_ok hfields
  refine ⟨h.domains, h.name, ?_, ?_, h.registrars, h.overrides⟩
  · rw [hcosts] at hpriced
    exact (priced_of_foldlM hpriced).2.2
  · intro p hp
    rw [hprovenance] at hrecorded
    exact Loop.foldlM_invariant (P := fun rows => rows.rows.filter p = s.provenance.rows.filter p)
      (fun _ _ _ _ hkept hset => (filter_setProvenance hp hset).trans hkept) rfl hrecorded

/-- `UPDATE domains ... WHERE id = k`. -/
theorem WritesTo.modify {f : Domain → Domain} {hf : ∀ d, (f d).id = d.id} {domains : Domains}
    {registrars : Registrars} {schedules : Monitor.Schedules}
    (h : s.domains.modify k f hf = some domains) (hname : ∀ d, (f d).domainASCII = d.domainASCII)
    (hregistrars : ∀ i r, s.registrars.get? i = some r → registrars.get? i = some r) :
    WritesTo k s { s with registrars := registrars, domains := domains, schedules := schedules } where
  domains := by
    intro j hj
    show domains.get? j = _
    rw [IndexedTable.get?_modify h, if_neg hj]
  name := by
    intro d hd
    refine ⟨f d, ?_, hname d⟩
    show domains.get? k = _
    rw [IndexedTable.get?_modify h, if_pos rfl, hd]
    rfl
  costs := fun _ _ => rfl
  provenance := fun _ _ => rfl
  registrars := hregistrars
  overrides := rfl

theorem rowColumns_registrars {columns : RowColumns} {registrars : Registrars}
    (h : rowColumns pg call row value s = .ok (columns, { s with registrars := registrars })) :
    ensureRegistrar pg (call.draws row.rowNumber).registrarID value.registrar s.registrars =
      .ok (columns.registrarID, registrars) := by
  obtain ⟨registrars', hensure, -, -, -, heq⟩ := rowColumns_eq_ok h
  have hsame : registrars = registrars' := congrArg Inventory.Tables.registrars heq
  rw [hsame]
  exact hensure

theorem applyModify_writesTo (h : applyModify pg call item row k value s = .ok s') :
    WritesTo k s s' := by
  obtain ⟨before, columns, registrars, domains, schedules, -, hcolumns, hmodify, -, hfields⟩ :=
    applyModify_eq_ok h
  refine WritesTo.fields hfields ?_ rfl rfl
  exact WritesTo.modify hmodify (fun _ => rfl)
    (fun _ _ hr => ensureRegistrar_get? (rowColumns_registrars hcolumns) hr)

/-- The domain that an added row draws an identifier for did not exist. -/
theorem get?_none_of_insert {domains domains' : Domains} {d : Domain}
    (h : domains.insert d = some domains') : domains.get? d.id = none := by
  obtain ⟨table, htable, -⟩ := Option.bind_eq_some_iff.mp h
  exact (KeyedTable.insert_eq_some htable).1

theorem applyAdd_writesTo (hnew : s.domains.find? value.domain = none)
    (h : applyAdd pg call item row value s = .ok s') :
    WritesTo (call.draws row.rowNumber).domainID s s' := by
  obtain ⟨columns, registrars, domains, schedules, hcolumns, hinsert, -, hfields⟩ :=
    applyAdd_eq_ok hnew h
  refine WritesTo.fields hfields ⟨?_, ?_, fun _ _ => rfl, fun _ _ => rfl, ?_, rfl⟩ rfl rfl
  · intro j hj
    show domains.get? j = _
    rw [IndexedTable.get?_insert hinsert]
    exact if_neg hj
  · intro d hd
    have hnone := get?_none_of_insert hinsert
    rw [show (addedDomain (call.draws row.rowNumber).domainID value columns
      (inventorySourceType item.source.kind)).id = (call.draws row.rowNumber).domainID from rfl, hd] at hnone
    cases hnone
  · exact fun _ _ hr => ensureRegistrar_get? (rowColumns_registrars hcolumns) hr

theorem applyMissing_writesTo (h : applyMissing call item row k s = .ok s') : WritesTo k s s' := by
  obtain ⟨domains, schedules, hmodify, -, rfl⟩ := applyMissing_eq_ok h
  refine WritesTo.modify hmodify ?_ (fun _ _ hr => hr)
  intro d
  unfold missingFrom
  split <;> rfl

theorem seenAgain_writesTo (h : statement (s.updateDomain k seenAgain seenAgain_id) = .ok s') :
    WritesTo k s s' := by
  obtain ⟨domains, hmodify, rfl⟩ := Tables.updateDomain_eq_ok (statement_eq_ok.mp h)
  refine WritesTo.modify hmodify ?_ (fun _ _ hr => hr)
  intro d
  unfold seenAgain
  split <;> rfl

end

/-! ### What a row stores -/

/-- Domain `d` is what a row with value `value` says, and so are its open costs. -/
structure Written (pg : Postgres) (k : UUID) (value : NormalizedRow) (d : Domain)
    (s s' : Inventory.Tables) : Prop where
  stored : s'.domains.get? k = some d
  registrar : ∃ newID, ensureRegistrar pg newID value.registrar s.registrars =
    .ok (d.registrarID, s'.registrars)
  purchased : nullableDate value.purchaseDate = .ok d.purchaseDate
  expires : ∃ day, nullableDate value.expirationDate = .ok day ∧ d.expirationAt = day.map midnight
  priority : castPriority value.businessPriority = .ok d.businessPriority
  notes : d.notes = value.notes
  monitored : d.monitored = value.active
  purchase : Priced k .purchase value.purchasePrice value s.costs s'.costs
  renewal : Priced k .renewal value.renewalPrice value s.costs s'.costs

section

variable {pg : Postgres} {call : ApplyCall} {item : Import} {row : ImportRow} {k : UUID}
  {value : NormalizedRow} {s s' : Inventory.Tables}

/-- A row that adds a domain. -/
theorem written_of_applyAdd (hnew : s.domains.find? value.domain = none)
    (h : applyAdd pg call item row value s = .ok s') :
    ∃ d, Written pg (call.draws row.rowNumber).domainID value d s s' ∧ d.domainASCII = value.domain ∧
      s.domains.get? (call.draws row.rowNumber).domainID = none := by
  obtain ⟨columns, registrars, domains, schedules, hcolumns, hinsert, -, hfields⟩ :=
    applyAdd_eq_ok hnew h
  obtain ⟨registrars', hensure, hpurchased, hexpires, hpriority, heq⟩ := rowColumns_eq_ok hcolumns
  obtain rfl : registrars = registrars' := congrArg Inventory.Tables.registrars heq
  obtain ⟨provenance, costs, -, hpriced, rfl⟩ := applySheetFields_eq_ok hfields
  obtain ⟨hpurchase, hrenewal, -⟩ := priced_of_foldlM hpriced
  refine ⟨addedDomain (call.draws row.rowNumber).domainID value columns
    (inventorySourceType item.source.kind), ⟨?_, ⟨_, hensure⟩, hpurchased, hexpires, hpriority, rfl, ?_,
      hpurchase, hrenewal⟩, rfl, get?_none_of_insert hinsert⟩
  · show domains.get? _ = _
    rw [IndexedTable.get?_insert hinsert]
    exact if_pos rfl
  · cases hactive : value.active <;> simp [Domain.monitored, addedDomain, hactive]

/-- A row that modifies a domain that is not archived and has no active override. -/
theorem written_of_applyModify {d : Domain} (hd : s.domains.get? k = some d)
    (harchived : d.lifecycleStatus ≠ .archived)
    (hoverride : ∀ field, activeOverride s call.now k field = false)
    (h : applyModify pg call item row k value s = .ok s') :
    ∃ d', Written pg k value d' s s' ∧ d'.domainASCII = d.domainASCII := by
  obtain ⟨before, columns, registrars, domains, schedules, hbefore, hcolumns, hmodify, -, hfields⟩ :=
    applyModify_eq_ok h
  obtain rfl : d = before := Option.some.inj (hd.symm.trans hbefore)
  obtain ⟨registrars', hensure, hpurchased, hexpires, hpriority, heq⟩ := rowColumns_eq_ok hcolumns
  obtain rfl : registrars = registrars' := congrArg Inventory.Tables.registrars heq
  obtain ⟨provenance, costs, -, hpriced, rfl⟩ := applySheetFields_eq_ok hfields
  obtain ⟨hpurchase, hrenewal, -⟩ := priced_of_foldlM hpriced
  rw [hoverride, hoverride] at hmodify
  refine ⟨modifiedBy value columns (inventorySourceType item.source.kind) false false d,
    ⟨?_, ⟨_, hensure⟩, hpurchased, hexpires, hpriority, rfl, ?_, hpurchase, hrenewal⟩, rfl⟩
  · show domains.get? _ = _
    rw [IndexedTable.get?_modify hmodify, if_pos rfl, hd]
    rfl
  · cases hactive : value.active <;> simp [Domain.monitored, modifiedBy, hactive, harchived]

end

/-! ### Runs of rows -/

/-- Nothing changed at the name `n`: not the domain, its costs or its provenance. -/
structure SameAt (n : GoString) (s s' : Inventory.Tables) : Prop where
  domain : s'.domains.find? n = s.domains.find? n
  costs : ∀ d, s.domains.find? n = some d → ∀ p : Cost → Bool,
    (∀ c, p c = true → c.domainID = d.id) → s'.costs.rows.filter p = s.costs.rows.filter p
  provenance : ∀ d, s.domains.find? n = some d → ∀ p : Provenance → Bool,
    (∀ r, p r = true → r.domainID = d.id) → s'.provenance.rows.filter p = s.provenance.rows.filter p

/-- Every cost belongs to a domain. -/
def CostsOwned (s : Inventory.Tables) : Prop := ∀ c ∈ s.costs.rows, (s.domains.get? c.domainID).isSome

/-- Domains stay, under their names. -/
def NamesKept (s s' : Inventory.Tables) : Prop :=
  ∀ k d, s.domains.get? k = some d →
    ∃ d', s'.domains.get? k = some d' ∧ d'.domainASCII = d.domainASCII

/-- What a run of rows keeps that are about the names in `targets`. -/
structure Keeps (targets : GoString → Prop) (s s' : Inventory.Tables) : Prop where
  names : NamesKept s s'
  registrars : ∀ i r, s.registrars.get? i = some r → s'.registrars.get? i = some r
  overrides : s'.overrides = s.overrides
  owned : CostsOwned s → CostsOwned s'
  same : ∀ n, ¬ targets n → SameAt n s s'

section

variable {targets targets' : GoString → Prop} {s s₁ s' : Inventory.Tables} {k : UUID}

theorem SameAt.refl (n : GoString) (s : Inventory.Tables) : SameAt n s s :=
  ⟨rfl, fun _ _ _ _ => rfl, fun _ _ _ _ => rfl⟩

theorem SameAt.trans {n : GoString} (h : SameAt n s s₁) (h' : SameAt n s₁ s') : SameAt n s s' where
  domain := h'.domain.trans h.domain
  costs := fun d hd p hp => (h'.costs d (h.domain.trans hd) p hp).trans (h.costs d hd p hp)
  provenance := fun d hd p hp =>
    (h'.provenance d (h.domain.trans hd) p hp).trans (h.provenance d hd p hp)

theorem NamesKept.refl (s : Inventory.Tables) : NamesKept s s := fun _ d hd => ⟨d, hd, rfl⟩

theorem NamesKept.trans (h : NamesKept s s₁) (h' : NamesKept s₁ s') : NamesKept s s' := by
  intro k d hd
  obtain ⟨d₁, hd₁, hname⟩ := h k d hd
  obtain ⟨d', hd', hname'⟩ := h' k d₁ hd₁
  exact ⟨d', hd', hname'.trans hname⟩

theorem Keeps.refl (targets : GoString → Prop) (s : Inventory.Tables) : Keeps targets s s :=
  ⟨NamesKept.refl s, fun _ _ h => h, rfl, id, fun n _ => SameAt.refl n s⟩

theorem Keeps.trans (h : Keeps targets s s₁) (h' : Keeps targets' s₁ s')
    (hle : ∀ n, targets' n → targets n) : Keeps targets s s' where
  names := h.names.trans h'.names
  registrars := fun i r hr => h'.registrars i r (h.registrars i r hr)
  overrides := h'.overrides.trans h.overrides
  owned := fun hs => h'.owned (h.owned hs)
  same := fun n hn => (h.same n hn).trans (h'.same n (fun htarget => hn (hle n htarget)))

/-- A write to a domain does not show at another name. -/
theorem WritesTo.same (h : WritesTo k s s') {n : GoString}
    (hbefore : ∀ d, s.domains.get? k = some d → d.domainASCII ≠ n)
    (hafter : ∀ d, s'.domains.get? k = some d → d.domainASCII ≠ n) : SameAt n s s' := by
  have hother : ∀ d, s.domains.find? n = some d → d.id ≠ k := by
    intro d hd hk
    obtain ⟨hmem, hname⟩ := IndexedTable.find?_some hd
    exact hbefore d (hk ▸ IndexedTable.get?_of_mem hmem) (Option.some.inj hname)
  refine ⟨?_, ?_, ?_⟩
  · cases hd : s.domains.find? n with
    | some d =>
      obtain ⟨hmem, hname⟩ := IndexedTable.find?_some hd
      have hget := (h.domains d.id (hother d hd)).trans (IndexedTable.get?_of_mem hmem)
      exact IndexedTable.find?_of_mem (IndexedTable.get?_some hget).1 hname
    | none =>
      -- A domain that has the name afterwards had it before.
      cases hd' : s'.domains.find? n with
      | none => rfl
      | some d' =>
        exfalso
        obtain ⟨hmem, hname⟩ := IndexedTable.find?_some hd'
        have hget := IndexedTable.get?_of_mem hmem
        by_cases hk : d'.id = k
        · exact hafter d' (hk ▸ hget) (Option.some.inj hname)
        · rw [h.domains d'.id hk] at hget
          exact IndexedTable.find?_none hd (IndexedTable.get?_some hget).1 hname
  · intro d hd p hp
    refine h.costs p (fun c hc => ?_)
    rw [Bool.eq_false_iff]
    exact fun hpc => hother d hd ((hp c hpc).symm.trans hc)
  · intro d hd p hp
    refine h.provenance p (fun r hr => ?_)
    rw [Bool.eq_false_iff]
    exact fun hpr => hother d hd ((hp r hpr).symm.trans hr)

theorem WritesTo.owned (h : WritesTo k s s')
    (hk : (s'.domains.get? k).isSome ∨ s'.costs = s.costs) (hs : CostsOwned s) : CostsOwned s' := by
  intro c hc
  by_cases hck : c.domainID = k
  · rcases hk with hk | hk
    · exact hck ▸ hk
    · rw [hk] at hc
      obtain ⟨d, hd⟩ := Option.isSome_iff_exists.mp (hs c hc)
      obtain ⟨d', hd', -⟩ := h.name d (hck ▸ hd)
      rw [hck, hd']
      rfl
  · have hfilter := h.costs (fun c' => c'.domainID = c.domainID)
      (fun c' hc' => by simpa [hc'] using Ne.symm hck)
    have hmem : c ∈ s'.costs.rows.filter (fun c' => c'.domainID = c.domainID) :=
      List.mem_filter.mpr ⟨hc, by simp⟩
    rw [hfilter] at hmem
    rw [h.domains c.domainID hck]
    exact hs c (List.mem_filter.mp hmem).1

/-- A write to a domain with the name `m`, as a step of a run. -/
theorem WritesTo.keeps (h : WritesTo k s s') {m : GoString}
    (hk : (s'.domains.get? k).isSome ∨ s'.costs = s.costs)
    (hbefore : ∀ d, s.domains.get? k = some d → d.domainASCII = m)
    (hafter : ∀ d, s'.domains.get? k = some d → d.domainASCII = m) : Keeps (· = m) s s' where
  names := by
    intro j d hd
    by_cases hj : j = k
    · subst hj
      exact h.name d hd
    · exact ⟨d, (h.domains j hj).trans hd, rfl⟩
  registrars := h.registrars
  overrides := h.overrides
  owned := h.owned hk
  same := fun n hn => h.same (fun d hd => fun heq => hn (heq.symm.trans (hbefore d hd)))
    (fun d hd => fun heq => hn (heq.symm.trans (hafter d hd)))

end

/-- The name of the domain a row is about, in the database it was previewed on. -/
def ImportRow.target (db : Inventory.Tables) (row : ImportRow) : Option GoString :=
  if row.skipped then none
  else
    match row.matchedDomainID with
    | some k => (db.domains.get? k).map Domain.domainASCII
    | none => row.normalizedValues.map NormalizedRow.domain

/-- A row as a preview on `db` makes it. -/
structure Aimed (db : Inventory.Tables) (row : ImportRow) : Prop where
  target : row.skipped = false → ∃ m, row.target db = some m
  fresh : row.action = .add → row.matchedDomainID = none

section

variable {pg : Postgres} {call : ApplyCall} {item : Import} {row : ImportRow} {m : GoString}
  {db s s' : Inventory.Tables}

/-- A matched domain still has the name the preview knew it under. -/
theorem name_of_matched (htarget : row.target db = some m)
    (hnames : NamesKept db s) {k : UUID} (hmatched : row.matchedDomainID = some k) :
    ∃ d, s.domains.get? k = some d ∧ d.domainASCII = m := by
  unfold ImportRow.target at htarget
  split at htarget
  · cases htarget
  · rw [hmatched] at htarget
    obtain ⟨d, hd, rfl⟩ := Option.map_eq_some_iff.mp htarget
    exact hnames k d hd

theorem WritesTo.keeps_of_get? {k : UUID} (h : WritesTo k s s') {d : Domain}
    (hd : s.domains.get? k = some d) (hname : d.domainASCII = m) : Keeps (· = m) s s' := by
  obtain ⟨d', hd', hname'⟩ := h.name d hd
  refine h.keeps (.inl (by rw [hd']; rfl)) ?_ ?_
  · intro d₁ hd₁
    rw [← Option.some.inj (hd.symm.trans hd₁), hname]
  · intro d₁ hd₁
    rw [← Option.some.inj (hd'.symm.trans hd₁), hname', hname]

/-- **Step lemma**: a row leaves every name alone but its own. -/
theorem applyRow_keeps (haimed : Aimed db row) (htarget : row.target db = some m)
    (hnames : NamesKept db s) (h : applyRow pg call item row s = .ok s') : Keeps (· = m) s s' := by
  cases rowRun_of_ok h with
  | modify k value hrow h =>
    have hk : ∃ d, s.domains.get? k = some d ∧ d.domainASCII = m := by
      obtain ⟨hvalue, ⟨-, hmatched⟩ | ⟨hadd, d, hd, rfl⟩⟩ := hrow
      · exact name_of_matched htarget hnames hmatched
      · obtain ⟨hmem, hname⟩ := IndexedTable.find?_some hd
        refine ⟨d, IndexedTable.get?_of_mem hmem, (Option.some.inj hname).trans ?_⟩
        unfold ImportRow.target at htarget
        split at htarget
        · cases htarget
        · rw [haimed.fresh hadd, hvalue] at htarget
          exact Option.some.inj htarget
    obtain ⟨d, hd, hname⟩ := hk
    exact (applyModify_writesTo h).keeps_of_get? hd hname
  | add value haction hvalue hnew h =>
    obtain ⟨d, hwritten, hname, hfresh⟩ := written_of_applyAdd hnew h
    have hm : value.domain = m := by
      unfold ImportRow.target at htarget
      split at htarget
      · cases htarget
      · rw [haimed.fresh haction, hvalue] at htarget
        exact Option.some.inj htarget
    refine (applyAdd_writesTo hnew h).keeps (.inl (by rw [hwritten.stored]; rfl)) ?_ ?_
    · intro d₁ hd₁
      rw [hfresh] at hd₁
      cases hd₁
    · intro d₁ hd₁
      rw [← Option.some.inj (hwritten.stored.symm.trans hd₁), hname, hm]
  | missing k _ hmatched h =>
    obtain ⟨d, hd, hname⟩ := name_of_matched htarget hnames hmatched
    exact (applyMissing_writesTo h).keeps_of_get? hd hname
  | unchanged k _ hmatched h =>
    obtain ⟨d, hd, hname⟩ := name_of_matched htarget hnames hmatched
    exact (seenAgain_writesTo h).keeps_of_get? hd hname
  | nothing _ h =>
    subst h
    exact Keeps.refl _ _

theorem applyNext_eq_ok {state state' : Inventory.Tables × Nat}
    (h : applyNext pg call item state row = .ok state') :
    (row.skipped = true ∧ state' = state) ∨
      (row.skipped = false ∧ applyRow pg call item row state.1 = .ok state'.1 ∧
        state'.2 = state.2 + 1) := by
  unfold applyNext at h
  split at h
  · cases h
    exact .inl ⟨‹_›, rfl⟩
  · rename_i hskipped
    rw [except_bind_ok] at h
    obtain ⟨db, hrow, hstate⟩ := h
    cases hstate
    exact .inr ⟨Bool.eq_false_iff.mpr hskipped, hrow, rfl⟩

/-- **Run lemma**: the rows of a list leave every name alone that none of them is
    about. -/
theorem applyNext_keeps {rows : List ImportRow} {state state' : Inventory.Tables × Nat}
    (haimed : ∀ row ∈ rows, Aimed db row) (hnames : NamesKept db state.1)
    (h : rows.foldlM (applyNext pg call item) state = .ok state') :
    Keeps (fun n => ∃ row ∈ rows, row.target db = some n) state.1 state'.1 := by
  refine Loop.foldlM_ok_invariant
    (P := fun next => Keeps (fun n => ∃ row ∈ rows, row.target db = some n) state.1 next.1)
    ?_ (Keeps.refl _ _) h
  intro next row next' hrow hkeeps hnext
  rcases applyNext_eq_ok hnext with ⟨-, rfl⟩ | ⟨hskipped, hone, -⟩
  · exact hkeeps
  · obtain ⟨m, hm⟩ := (haimed row hrow).target hskipped
    have hstep := applyRow_keeps (haimed row hrow) hm (hnames.trans hkeeps.names) hone
    exact hkeeps.trans hstep (fun n hn => ⟨row, hrow, hn ▸ hm⟩)

end

/-! ### Registrars along a run -/

/-- The name a row asks for a registrar under. -/
def ImportRow.registrar? (row : ImportRow) : Option GoString :=
  if !row.skipped && (row.action = .add || row.action = .modify) then
    (row.normalizedValues.map (fun value => trimSpace value.registrar)).filter (fun name => name ≠ [])
  else none

/-- The name of the registrar found under `name`, after rows asked for registrars
    under `written`, in this order. -/
def knownRegistrar (pg : Postgres) (registrars : Registrars) (written : List GoString)
    (name : GoString) : Option GoString :=
  ((registrarNamed pg registrars name).map Registrar.name).or
    (written.find? (fun other => pg.lower other = pg.lower name))

section

variable {pg : Postgres} {call : ApplyCall} {item : Import} {row : ImportRow}
  {s s' : Inventory.Tables} {registrars registrars' : Registrars}

theorem registrarNamed_congr {name name' : GoString} (h : pg.lower name = pg.lower name') :
    registrarNamed pg registrars name = registrarNamed pg registrars name' := by
  unfold registrarNamed
  rw [h]

/-- One request for a registrar. -/
theorem knownRegistrar_ensure {newID : UUID} {written : GoString} {registrarID : Option UUID}
    (h : ensureRegistrar pg newID written registrars = .ok (registrarID, registrars'))
    (name : GoString) :
    (registrarNamed pg registrars' name).map Registrar.name =
      knownRegistrar pg registrars
        ((some (trimSpace written)).filter (fun name => name ≠ [])).toList name := by
  unfold knownRegistrar
  rcases ensureRegistrar_eq_ok h with ⟨hempty, -, rfl⟩ | ⟨hname, r, -, hfound, hcase⟩
  · simp [hempty, Option.filter]
  · have hlist : ((some (trimSpace written)).filter (fun name => decide (name ≠ []))).toList =
        [trimSpace written] := by simp [Option.filter, hname]
    rw [hlist, List.find?_cons]
    by_cases hlower : pg.lower (trimSpace written) = pg.lower name
    · -- The request finds a registrar, an old one or the one it inserts.
      have hnamed : registrarNamed pg registrars' name = some r :=
        (registrarNamed_congr hlower).symm.trans hfound
      rw [hnamed]
      rcases hcase with rfl | ⟨hnone, hrname, -⟩
      · rw [hnamed]
        rfl
      · rw [← registrarNamed_congr hlower, hnone]
        simp [hlower, hrname]
    · have hsame : registrarNamed pg registrars' name = registrarNamed pg registrars name := by
        rcases hcase with rfl | ⟨hnone, hrname, hinsert⟩
        · rfl
        · rw [registrarNamed_insert hinsert (hrname ▸ hnone), if_neg (hrname ▸ hlower)]
      rw [hsame]
      simp [hlower]

theorem applyRow_registrars (hskipped : row.skipped = false)
    (h : applyRow pg call item row s = .ok s') (name : GoString) :
    (registrarNamed pg s'.registrars name).map Registrar.name =
      knownRegistrar pg s.registrars row.registrar?.toList name := by
  have hnone : (row.action ≠ .add ∧ row.action ≠ .modify) → s'.registrars = s.registrars →
      (registrarNamed pg s'.registrars name).map Registrar.name =
        knownRegistrar pg s.registrars row.registrar?.toList name := by
    intro haction hsame
    simp [ImportRow.registrar?, knownRegistrar, haction.1, haction.2, hsame]
  have hsome : ∀ value newID registrarID, row.normalizedValues = some value →
      (row.action = .add ∨ row.action = .modify) →
      ensureRegistrar pg newID value.registrar s.registrars = .ok (registrarID, s'.registrars) →
      (registrarNamed pg s'.registrars name).map Registrar.name =
        knownRegistrar pg s.registrars row.registrar?.toList name := by
    intro value newID registrarID hvalue haction hensure
    have hrow : row.registrar? = (some (trimSpace value.registrar)).filter (fun name => name ≠ []) := by
      rcases haction with haction | haction <;>
        simp [ImportRow.registrar?, hskipped, haction, hvalue]
    rw [hrow]
    exact knownRegistrar_ensure hensure name
  cases rowRun_of_ok h with
  | modify k value hrow h =>
    obtain ⟨before, columns, registrars, domains, schedules, -, hcolumns, -, -, hfields⟩ :=
      applyModify_eq_ok h
    obtain ⟨_, _, -, -, rfl⟩ := applySheetFields_eq_ok hfields
    refine hsome value _ _ hrow.1 ?_ (rowColumns_registrars hcolumns)
    exact hrow.2.elim (fun h => .inr h.1) (fun h => .inl h.1)
  | add value haction hvalue hnew h =>
    obtain ⟨columns, registrars, domains, schedules, hcolumns, -, -, hfields⟩ := applyAdd_eq_ok hnew h
    obtain ⟨_, _, -, -, rfl⟩ := applySheetFields_eq_ok hfields
    exact hsome value _ _ hvalue (.inl haction) (rowColumns_registrars hcolumns)
  | missing k haction _ h =>
    obtain ⟨_, _, -, -, rfl⟩ := applyMissing_eq_ok h
    exact hnone (by simp [haction]) rfl
  | unchanged k haction _ h =>
    obtain ⟨_, -, rfl⟩ := Tables.updateDomain_eq_ok (statement_eq_ok.mp h)
    exact hnone (by simp [haction]) rfl
  | nothing haction h =>
    subst h
    refine hnone ?_ rfl
    rcases haction with haction | haction <;> simp [haction]

/-- Which registrar a name finds after a run of rows. -/
theorem applyNext_registrars {rows : List ImportRow} {state state' : Inventory.Tables × Nat}
    (h : rows.foldlM (applyNext pg call item) state = .ok state') (name : GoString) :
    (registrarNamed pg state'.1.registrars name).map Registrar.name =
      knownRegistrar pg state.1.registrars (rows.filterMap ImportRow.registrar?) name := by
  induction rows generalizing state with
  | nil =>
    cases h
    simp [knownRegistrar]
  | cons row rows ih =>
    rw [List.foldlM_cons, except_bind_ok] at h
    obtain ⟨next, hnext, hrest⟩ := h
    have hone : (registrarNamed pg next.1.registrars name).map Registrar.name =
        knownRegistrar pg state.1.registrars row.registrar?.toList name := by
      rcases applyNext_eq_ok hnext with ⟨hskipped, rfl⟩ | ⟨hskipped, hrow, -⟩
      · simp [ImportRow.registrar?, hskipped, knownRegistrar]
      · exact applyRow_registrars hskipped hrow name
    have hlist : (row :: rows).filterMap ImportRow.registrar? =
        row.registrar?.toList ++ rows.filterMap ImportRow.registrar? := by
      cases hrow : row.registrar? <;> simp [hrow]
    rw [ih hrest, hlist]
    unfold knownRegistrar at hone ⊢
    rw [hone, List.find?_append, Option.or_assoc]

end

end DomainMonitor.Sheets
