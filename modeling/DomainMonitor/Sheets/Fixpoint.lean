import DomainMonitor.Sheets.Rows

/-! # Previewing an applied sheet again

    A preview compares a sheet with the inventory, and applying the import writes
    what differs. Previewing the same sheet once more should find nothing to do.
    It does so for every row that is stored as it is written (`StableRow`,
    `preview_fixpoint_iff`). Some rows are not: a currency or a tax rate is stored
    with a price only, a price that is taken out of the sheet stays open, and a
    registrar is shown under the name it was first entered with
    (`currency_without_price_modified`).
-/

namespace DomainMonitor.Sheets

open Utf8 Strings Inventory

/-! ### What a preview shows afterwards -/

theorem dayOf_midnight (day : Int) : dayOf (midnight day) = day := by
  unfold dayOf midnight
  rw [Int.mul_ediv_cancel _ (by decide), Int.sub_add_cancel]

/-- A date column shows the date of the row, from year 1 on. -/
theorem date_shown {text : Option GoString} {stored : Option Int}
    (hclean : ∀ t, text = some t → ∃ day, t = Rfc3339.dateText day)
    (h : nullableDate text = .ok stored) :
    trimSpace ((stored.map TimeParse.columnText).getD []) = trimSpace (text.getD []) ↔
      ∀ day, text = some (Rfc3339.dateText day) → 1 ≤ (Rfc3339.yearDay day).1 := by
  cases text with
  | none =>
    cases h
    exact ⟨fun _ _ => nofun, fun _ => rfl⟩
  | some t =>
    obtain ⟨day, rfl⟩ := hclean t rfl
    simp only [nullableDate] at h
    split at h
    · rename_i parsed hparsed
      cases h
      obtain rfl := TimeParse.eq_of_date?_dateText hparsed
      rw [Option.map_some, Option.getD_some, Option.getD_some, TimeParse.trimSpace_columnText_eq_iff]
      constructor
      · intro hyear other hother
        rw [Option.some.inj hother] at hparsed
        rwa [← TimeParse.eq_of_date?_dateText hparsed]
      · intro hyear
        exact hyear _ rfl
    · cases h

/-- The open sheet costs under a name. -/
def openUnder (db : Inventory.Tables) (name : GoString) (t : CostType) : List Cost :=
  match db.domains.find? name with
  | some d => openSheetCosts db d.id t
  | none => []

/-- The latest of the costs that `ORDER BY effective_from DESC, created_at DESC`
    sorts. -/
abbrev latest (costs : List Cost) : Option Cost :=
  OrderBy.lastBy (fun c => toLex (c.effectiveFrom, c.createdAt)) costs

section

variable {k : UUID} {t : CostType} {v : NormalizedRow} {costs costs' : Costs}

theorem latest_of_priced {price : Option GoString} {amount : GoString} (h : Priced k t price v costs costs')
    (hprice : price = some amount) :
    ∃ c, SheetCost k t amount v.currency v.taxRate c ∧
      latest (costs'.rows.filter (replacedBy k t)) = some c := by
  obtain ⟨c, hc, hrows⟩ := h.priced amount hprice
  exact ⟨c, hc, by rw [hrows]; rfl⟩

theorem latest_none_iff (costs : List Cost) : latest costs = none ↔ costs = [] := List.argmax_eq_none

/-- A price column shows the price of the row, unless the row has none and another
    price is still open. -/
theorem price_shown {price : Option GoString} (h : Priced k t price v costs costs')
    (hclean : ∀ text, price = some text → ∃ q : ℚ, ¬ q < 0 ∧ text = Decimal.floatString 6 q) :
    trimSpace (((latest (costs'.rows.filter (replacedBy k t))).map
        (fun c => Decimal.fixed 6 c.amount)).getD []) = trimSpace (price.getD []) ↔
      (price = none → costs.rows.filter (replacedBy k t) = []) := by
  cases price with
  | none =>
    rw [h.kept rfl]
    cases hlatest : latest (costs.rows.filter (replacedBy k t)) with
    | none => simp [(latest_none_iff _).mp hlatest]
    | some c =>
      have hne : costs.rows.filter (replacedBy k t) ≠ [] := by
        rw [ne_eq, ← latest_none_iff, hlatest]
        nofun
      rw [Option.map_some, Option.getD_some, trimSpace_of_solid (Decimal.solid_fixed _ _)]
      simp only [hne, forall_const, iff_false]
      exact Decimal.fixed_ne_nil _ _
  | some amount =>
    obtain ⟨c, hc, hlatest⟩ := latest_of_priced h rfl
    obtain ⟨q, hq, rfl⟩ := hclean amount rfl
    rw [hlatest, Option.map_some, Option.getD_some, Option.getD_some,
      Decimal.text_of_numeric (by decide) hq hc.amount]
    simp

/-- The tax rate is shown with the renewal price. -/
theorem taxRate_shown (h : Priced k t v.renewalPrice v costs costs')
    (hclean : ∀ text, v.taxRate = some text → ∃ q : ℚ, ¬ q < 0 ∧ text = Decimal.floatString 10 q)
    (hopen : v.renewalPrice = none → costs.rows.filter (replacedBy k t) = []) :
    trimSpace ((((latest (costs'.rows.filter (replacedBy k t))).bind Cost.taxRate).map
        (Decimal.fixed 10)).getD []) = trimSpace (v.taxRate.getD []) ↔
      (v.renewalPrice = none → v.taxRate = none) := by
  cases hprice : v.renewalPrice with
  | none =>
    rw [h.kept hprice, hopen hprice]
    cases hrate : v.taxRate with
    | none => simp [latest]
    | some text =>
      obtain ⟨q, hq, rfl⟩ := hclean text hrate
      have hne : Decimal.floatString 10 q ≠ [] := by
        rw [Decimal.floatString, if_neg hq]
        exact Decimal.fixed_ne_nil _ _
      rw [Option.getD_some, trimSpace_of_solid (solid_floatString hq)]
      simp only [forall_const, reduceCtorEq, iff_false]
      exact hne.symm
  | some amount =>
    obtain ⟨c, hc, hlatest⟩ := latest_of_priced h hprice
    rw [hlatest, Option.bind_some]
    simp only [reduceCtorEq, false_imp_iff, iff_true]
    have hrate := hc.rate
    cases htax : v.taxRate with
    | none =>
      rw [htax, Option.map_none, eq_comm, Option.map_eq_none_iff] at hrate
      rw [hrate]
      rfl
    | some text =>
      obtain ⟨q, hq, rfl⟩ := hclean text htax
      rw [htax, Option.map_some, eq_comm, Option.map_eq_some_iff] at hrate
      obtain ⟨n, hn, hnumeric⟩ := hrate
      rw [hn, Option.map_some, Option.getD_some, Option.getD_some,
        Decimal.text_of_numeric (by decide) hq hnumeric.symm]

/-- The currency is that of the renewal price, or else of the purchase price. -/
theorem currency_shown {purchase renewal : List Cost}
    (hpurchase : v.purchasePrice = none → purchase = [])
    (hpurchased : ∀ amount, v.purchasePrice = some amount →
      ∃ c, latest purchase = some c ∧ c.currencyCode = v.currency)
    (hrenewal : v.renewalPrice = none → renewal = [])
    (hrenewed : ∀ amount, v.renewalPrice = some amount →
      ∃ c, latest renewal = some c ∧ c.currencyCode = v.currency) :
    trimSpace ((((latest renewal).map Cost.currencyCode).or
        ((latest purchase).map Cost.currencyCode)).getD []) = trimSpace v.currency ↔
      (v.purchasePrice = none → v.renewalPrice = none → trimSpace v.currency = []) := by
  cases hr : v.renewalPrice with
  | some amount =>
    obtain ⟨c, hc, hcurrency⟩ := hrenewed amount hr
    rw [hc]
    simp [hcurrency]
  | none =>
    rw [hrenewal hr]
    cases hp : v.purchasePrice with
    | some amount =>
      obtain ⟨c, hc, hcurrency⟩ := hpurchased amount hp
      rw [hc]
      simp [latest, hcurrency]
    | none =>
      rw [hpurchase hp]
      exact ⟨fun h _ _ => h.symm, fun h => (h rfl rfl).symm⟩

end

/-- The name a preview shows for the registrar of an applied row, when rows asked
    for registrars under `written`. -/
def registrarShown (pg : Postgres) (registrars : Registrars) (written : List GoString)
    (name : GoString) : GoString :=
  if trimSpace (toValid name) = [] then []
  else (knownRegistrar pg registrars written (trimSpace (toValid name))).getD []

/-- The registrar that a row was given is the first one with its name in lower
    case, of those that were there and those that were asked for. -/
theorem registrar_shown {pg : Postgres} {newID : UUID} {name : GoString} {registrarID : Option UUID}
    {before registrars registrars' after : Registrars} {pre : List GoString} (post : List GoString)
    (hbefore : ∀ name, (registrarNamed pg registrars name).map Registrar.name =
      knownRegistrar pg before pre name)
    (h : ensureRegistrar pg newID (toValid name) registrars = .ok (registrarID, registrars'))
    (hafter : ∀ i r, registrars'.get? i = some r → after.get? i = some r) :
    ((registrarID.bind after.get?).map Registrar.name).getD [] = registrarShown pg before
      (pre ++ ((some (trimSpace (toValid name))).filter (fun name => name ≠ [])).toList ++ post) name := by
  have hknown := knownRegistrar_ensure h (trimSpace (toValid name))
  unfold registrarShown
  rcases ensureRegistrar_eq_ok h with ⟨hempty, rfl, -⟩ | ⟨hname, r, rfl, hfound, -⟩
  · rw [if_pos hempty]
    rfl
  · have hlist : ((some (trimSpace (toValid name))).filter (fun name => decide (name ≠ []))).toList =
        [trimSpace (toValid name)] := by simp [Option.filter, hname]
    rw [hlist] at hknown ⊢
    have hget := hafter r.id r (IndexedTable.get?_of_mem (registrarNamed_some hfound).1)
    rw [if_neg hname, Option.bind_some, hget, Option.map_some, Option.getD_some]
    -- The name itself ends the search among the names that were asked for.
    have hmine : knownRegistrar pg before (pre ++ [trimSpace (toValid name)] ++ post)
        (trimSpace (toValid name)) = some r.name := by
      rw [hfound, Option.map_some] at hknown
      rw [hknown]
      unfold knownRegistrar at hbefore ⊢
      rw [hbefore]
      simp [List.find?_append]
    rw [hmine]
    rfl

/-! ### Rows that a second preview finds unchanged -/

/-- Row `v` is stored as it is written, given the registrars that the changed rows
    ask for. -/
structure StableRow (pg : Postgres) (db : Inventory.Tables) (written : List GoString)
    (v : NormalizedRow) : Prop where
  registrar : trimSpace (registrarShown pg db.registrars written v.registrar) = v.registrar
  /-- A price that is left out closes no cost. -/
  purchasePrice : v.purchasePrice = none → openUnder db v.domain .purchase = []
  renewalPrice : v.renewalPrice = none → openUnder db v.domain .renewal = []
  /-- Currency and tax rate are stored with a price only. -/
  taxRate : v.renewalPrice = none → v.taxRate = none
  currency : v.purchasePrice = none → v.renewalPrice = none → trimSpace v.currency = []
  purchaseDate : ∀ day, v.purchaseDate = some (Rfc3339.dateText day) → 1 ≤ (Rfc3339.yearDay day).1
  expirationDate : ∀ day, v.expirationDate = some (Rfc3339.dateText day) → 1 ≤ (Rfc3339.yearDay day).1
  notes : Valid v.notes

theorem compareField_eq_nil {field : String} {before after : GoString} :
    compareField field before after = [] ↔ trimSpace before = trimSpace after := by
  unfold compareField
  split
  · simp_all
  · simp_all

theorem sheetDiff_eq_nil {current : CurrentDomain} {next : NormalizedRow} :
    sheetDiff current next = [] ↔
      trimSpace current.registrar = trimSpace next.registrar ∧
      trimSpace current.purchasePrice = trimSpace (next.purchasePrice.getD []) ∧
      trimSpace current.renewalPrice = trimSpace (next.renewalPrice.getD []) ∧
      trimSpace current.currency = trimSpace next.currency ∧
      trimSpace current.taxRate = trimSpace (next.taxRate.getD []) ∧
      trimSpace current.purchaseDate = trimSpace (next.purchaseDate.getD []) ∧
      trimSpace current.expirationDate = trimSpace (next.expirationDate.getD []) ∧
      trimSpace current.priority = trimSpace next.businessPriority ∧
      trimSpace current.notes = trimSpace next.notes ∧
      current.active = next.active := by
  simp only [sheetDiff, List.append_eq_nil_iff, compareField_eq_nil, and_assoc, ite_eq_right_iff,
    List.cons_ne_nil, imp_false, ne_eq, not_not]

/-- Rows about other domains leave the open costs of a domain. -/
theorem Keeps.openCosts {name : GoString} {s s' : Inventory.Tables} {d : Domain}
    (h : Keeps (· ≠ name) s s') (hd : s.domains.find? name = some d) (t : CostType) :
    s'.costs.rows.filter (replacedBy d.id t) = s.costs.rows.filter (replacedBy d.id t) :=
  (h.same name (fun hne => hne rfl)).costs d hd _ (fun _ hc => (replacedBy_iff.mp hc).1)

/-- **One row**: after it was applied, and after rows about other domains, the
    preview finds it unchanged exactly when it is stable. -/
theorem sheetDiff_written_iff {pg : Postgres} {k : UUID} {v : NormalizedRow} {d : Domain}
    {db s₁ s₂ s' : Inventory.Tables} {imports : Imports} {pre : List GoString} (post : List GoString)
    (hclean : v.Clean)
    (hregistrars : ∀ name, (registrarNamed pg s₁.registrars name).map Registrar.name =
      knownRegistrar pg db.registrars pre name)
    (hopen : ∀ t, s₁.costs.rows.filter (replacedBy k t) = openUnder db v.domain t)
    (hwritten : Written pg k v.stored d s₁ s₂) (hname : d.domainASCII = v.domain)
    (hafter : Keeps (· ≠ v.domain) s₂ s') :
    sheetDiff (currentDomain ⟨s', imports⟩ d) v = [] ↔
      StableRow pg db (pre ++ ((some (trimSpace (toValid v.registrar))).filter
        (fun name => name ≠ [])).toList ++ post) v := by
  obtain ⟨hmem, rfl⟩ := IndexedTable.get?_some hwritten.stored
  have hfind : s₂.domains.find? v.domain = some d := IndexedTable.find?_of_mem hmem (by rw [hname])
  have hpurchase := hwritten.purchase
  have hrenewal := hwritten.renewal
  rw [hclean.stored_purchasePrice] at hpurchase
  rw [hclean.stored_renewalPrice] at hrenewal
  have hlatest : ∀ t, latestSheetCost s' d.id t = latest (s₂.costs.rows.filter (replacedBy d.id t)) := by
    intro t
    rw [← hafter.openCosts hfind]
    rfl
  -- Column by column.
  obtain ⟨newID, hensure⟩ := hwritten.registrar
  have hregistrar : ((d.registrarID.bind s'.registrars.get?).map Registrar.name).getD [] = _ :=
    registrar_shown post hregistrars hensure hafter.registrars
  have hpurchasePrice := price_shown hpurchase hclean.purchasePrice
  have hrenewalPrice := price_shown hrenewal hclean.renewalPrice
  have hpurchased := hwritten.purchased
  rw [hclean.stored_purchaseDate] at hpurchased
  have hpurchaseDate := date_shown hclean.purchaseDate hpurchased
  obtain ⟨day, hday, hexpires⟩ := hwritten.expires
  rw [hclean.stored_expirationDate] at hday
  have hexpirationDate := date_shown hclean.expirationDate hday
  have hexpiration : (d.expirationAt.map (fun t => TimeParse.columnText (dayOf t))) =
      day.map TimeParse.columnText := by
    rw [hexpires, Option.map_map]
    congr 1
    funext day
    exact congrArg TimeParse.columnText (dayOf_midnight day)
  have hpriority : d.businessPriority.text = v.businessPriority := by
    have hcast := hwritten.priority
    rw [hclean.stored_priority] at hcast
    unfold castPriority at hcast
    split at hcast
    · cases hcast
      exact ofText?_some ‹_›
    · cases hcast
  have hnotes : trimSpace d.notes = trimSpace v.notes ↔ Valid v.notes := by
    rw [hwritten.notes, hclean.notes]
    exact trimSpace_toValid_eq_iff hclean.notes
  have htaxRate : (v.renewalPrice = none → openUnder db v.domain .renewal = []) →
      (trimSpace ((((latest (s₂.costs.rows.filter (replacedBy d.id .renewal))).bind Cost.taxRate).map
        (Decimal.fixed 10)).getD []) = trimSpace (v.taxRate.getD []) ↔
      (v.renewalPrice = none → v.taxRate = none)) := by
    intro hnone
    have hshown := taxRate_shown (v := v.stored) hwritten.renewal
      (by rw [hclean.stored_taxRate]; exact hclean.taxRate)
      (by rw [hclean.stored_renewalPrice, hopen]; exact hnone)
    rwa [hclean.stored_taxRate, hclean.stored_renewalPrice] at hshown
  have hcurrency : (v.purchasePrice = none → openUnder db v.domain .purchase = []) →
      (v.renewalPrice = none → openUnder db v.domain .renewal = []) →
      (trimSpace ((((latest (s₂.costs.rows.filter (replacedBy d.id .renewal))).map Cost.currencyCode).or
        ((latest (s₂.costs.rows.filter (replacedBy d.id .purchase))).map Cost.currencyCode)).getD []) =
          trimSpace v.currency ↔
        (v.purchasePrice = none → v.renewalPrice = none → trimSpace v.currency = [])) := by
    have hstored : ∀ {t : CostType} {price : Option GoString},
        Priced d.id t price v.stored s₁.costs s₂.costs → ∀ amount, price = some amount →
        ∃ c, latest (s₂.costs.rows.filter (replacedBy d.id t)) = some c ∧ c.currencyCode = v.currency := by
      intro t price hpriced amount hamount
      obtain ⟨c, hc, hlatest⟩ := latest_of_priced hpriced hamount
      exact ⟨c, hlatest, hc.currency.trans hclean.stored_currency⟩
    intro hnone hnone'
    refine currency_shown ?_ (hstored hpurchase) ?_ (hstored hrenewal)
    · intro hprice
      rw [hpurchase.kept hprice, hopen]
      exact hnone hprice
    · intro hprice
      rw [hrenewal.kept hprice, hopen]
      exact hnone' hprice
  rw [sheetDiff_eq_nil]
  simp only [currentDomain, hlatest, hexpiration, hpriority, hwritten.monitored, hclean.registrar,
    hregistrar, hpurchasePrice, hrenewalPrice, hpurchaseDate, hexpirationDate, hnotes, hopen]
  constructor
  · intro h
    obtain ⟨hr, hp, hn, hc, ht, hpd, hed, -, hv, -⟩ := h
    exact ⟨hr, hp, hn, (htaxRate hn).mp ht, (hcurrency hp hn).mp hc, hpd, hed, hv⟩
  · intro h
    exact ⟨h.registrar, h.purchasePrice, h.renewalPrice,
      (hcurrency h.purchasePrice h.renewalPrice).mpr h.currency,
      (htaxRate h.renewalPrice).mpr h.taxRate, h.purchaseDate, h.expirationDate, trivial, h.notes, rfl⟩

/-! ### The second preview -/

/-- The preview changes something: the domain is new, or a field differs. -/
def changes (db : DB) (v : NormalizedRow) : Bool :=
  match existing db v.domain with
  | none => true
  | some current => !(sheetDiff current v).isEmpty

/-- The valid rows that a preview finds changed. -/
def changedValues (db : DB) (rows : List ImportRow) : List NormalizedRow :=
  (rows.filterMap ImportRow.validValue).filter (changes db)

/-- The registrars that rows ask for. -/
def writtenRegistrars (values : List NormalizedRow) : List GoString :=
  values.filterMap (fun v => (some (trimSpace (toValid v.registrar))).filter (fun name => name ≠ []))

/-- Every cost belongs to a domain, and every domain names a registrar that exists. -/
structure ForeignKeys (db : Inventory.Tables) : Prop where
  costs : CostsOwned db
  registrars : ∀ d ∈ db.domains.rows, ∀ r, d.registrarID = some r → (db.registrars.get? r).isSome

section

variable {db : DB} {source : Source} {start : Nat} {rows : List ImportRow} {row : ImportRow}

theorem Parsed.of_validValue {v : NormalizedRow} (h : Parsed row) (hvalue : row.validValue = some v) :
    row.normalizedValues = some v ∧ v.Clean := by
  cases hvalid : row.valid with
  | false => simp [ImportRow.validValue, hvalid] at hvalue
  | true =>
    obtain ⟨v', hvalue', hv'⟩ := h.validValue hvalid
    rwa [Option.some.inj (hvalue'.symm.trans hvalue)] at hv'

theorem registrar?_matchRow (h : Parsed row) :
    (matchRow db row).stored.registrar? = (row.validValue.filter (changes db)).bind (fun v =>
      (some (trimSpace (toValid v.registrar))).filter (fun name => name ≠ [])) := by
  cases hvalid : row.valid with
  | false =>
    simp [matchRow_of_invalid hvalid, ImportRow.registrar?, ImportRow.skipped, hvalid,
      ImportRow.validValue]
  | true =>
    obtain ⟨v, hvalue, hnormalized, -⟩ := h.validValue hvalid
    rw [hvalue, matchRow_of_valid hvalue]
    have hstored : v.stored.registrar = toValid v.registrar := rfl
    cases hd : db.inventory.domains.find? v.domain with
    | none =>
      simp [ImportRow.registrar?, ImportRow.skipped, hvalid, hnormalized, changes, existing_eq, hd, hstored,
        Option.filter]
    | some d =>
      by_cases hdiff : (sheetDiff (currentDomain db d) v).isEmpty = true
      · simp [ImportRow.registrar?, ImportRow.skipped, hvalid, changes, existing_eq, hd, hdiff,
          Option.filter]
      · simp [ImportRow.registrar?, ImportRow.skipped, hvalid, hnormalized, changes, existing_eq, hd,
          hdiff, hstored, Option.filter]

/-- The registrars that the rows of an import ask for. -/
theorem filterMap_registrar?_importRows (source : Source) (start : Nat)
    (hparsed : ∀ row ∈ rows, Parsed row) : (importRows db source start rows).filterMap ImportRow.registrar? =
      writtenRegistrars (changedValues db rows) := by
  unfold importRows writtenRegistrars changedValues
  rw [List.map_append, List.filterMap_append, List.filterMap_map, List.filterMap_map, List.filterMap_map]
  have hmissing : ((missingDomains db source rows).mapIdx
      (fun i current => missingRow (start + 1 + i) current)).filterMap
        (ImportRow.registrar? ∘ ImportRow.stored) = [] := by
    rw [List.filterMap_eq_nil_iff]
    intro row hrow
    obtain ⟨i, hi, rfl⟩ := List.mem_mapIdx.mp hrow
    rfl
  rw [hmissing, List.append_nil, ← List.filterMap_eq_filter, List.filterMap_filterMap,
    List.filterMap_filterMap]
  apply List.filterMap_congr
  intro row hrow
  refine (registrar?_matchRow (hparsed row hrow)).trans ?_
  cases row.validValue with
  | none => rfl
  | some v =>
    by_cases hchanges : changes db v = true <;> simp [Option.filter, hchanges, Option.guard]

end

section

variable {pg : Postgres} {call : ApplyCall} {item : Import} {db : DB} {source : Source} {start : Nat}
  {rows : List ImportRow} {row : ImportRow} {v : NormalizedRow} {s₁ s₂ s' : Inventory.Tables}
  {imports : Imports}

/-- A row that adds or modifies a domain is written. -/
theorem exists_written (hparsed : Parsed row) (hvalue : row.validValue = some v)
    (hchanges : changes db v = true) (hkeys : ForeignKeys db.inventory)
    (harchived : ∀ d ∈ db.inventory.domains.rows, d.lifecycleStatus ≠ .archived)
    (hoverride : ∀ o ∈ db.inventory.overrides.rows, o.activeAt call.now = false)
    (hbefore : Keeps (· ≠ v.domain) db.inventory s₁)
    (h : applyRow pg call item (matchRow db row).stored s₁ = .ok s₂) :
    ∃ k d, Written pg k v.stored d s₁ s₂ ∧ d.domainASCII = v.domain ∧
      ∀ t, s₁.costs.rows.filter (replacedBy k t) = openUnder db.inventory v.domain t := by
  obtain ⟨hnormalized, hclean⟩ := hparsed.of_validValue hvalue
  rw [matchRow_of_valid hvalue] at h
  cases hd : db.inventory.domains.find? v.domain with
  | none =>
    have hnew : s₁.domains.find? v.stored.domain = none := by
      rw [hclean.stored_domain, hbefore.find?, hd]
    rw [hd] at h
    simp only [applyRow, action_stored, normalizedValues_stored, hnormalized, Option.map_some] at h
    obtain ⟨d, hwritten, hname, hfresh⟩ := written_of_applyAdd hnew h
    refine ⟨_, d, hwritten, hname.trans hclean.stored_domain, ?_⟩
    intro t
    -- A domain that did not exist has no costs.
    rw [openUnder, hd, List.filter_eq_nil_iff]
    intro c hc hreplaced
    have howned := hbefore.owned hkeys.costs c hc
    rw [(replacedBy_iff.mp hreplaced).1, hfresh] at howned
    cases howned
  | some d =>
    have hfind : s₁.domains.find? v.domain = some d := by rw [hbefore.find?, hd]
    obtain ⟨hget, hname⟩ := get?_of_find? hfind
    have hdiff : (sheetDiff (currentDomain db d) v).isEmpty = false := by
      simpa [changes, existing_eq, hd] using hchanges
    rw [hd] at h
    simp only [applyRow, action_stored, normalizedValues_stored, hnormalized, Option.map_some,
      matchedDomainID_stored, hdiff] at h
    have hactive : ∀ field, activeOverride s₁ call.now d.id field = false := by
      intro field
      unfold activeOverride KeyedTable.any
      rw [hbefore.overrides, List.any_eq_false]
      intro o ho hactive
      simp [hoverride o ho] at hactive
    have hnot := harchived d (IndexedTable.find?_some hd).1
    obtain ⟨d', hwritten, hname'⟩ := written_of_applyModify hget hnot hactive h
    refine ⟨d.id, d', hwritten, hname'.trans hname, ?_⟩
    intro t
    rw [openUnder, hd]
    exact hbefore.openCosts hd t

/-- A row without a change leaves what a preview shows. -/
theorem sheetDiff_unchanged {d : Domain} (hd : db.inventory.domains.find? v.domain = some d)
    (hkeys : ForeignKeys db.inventory)
    (hregistrars : ∀ i r, db.inventory.registrars.get? i = some r → s'.registrars.get? i = some r)
    (hcosts : ∀ t, s'.costs.rows.filter (replacedBy d.id t) =
      db.inventory.costs.rows.filter (replacedBy d.id t)) :
    sheetDiff (currentDomain ⟨s', imports⟩ (seenAgain d)) v = sheetDiff (currentDomain db d) v := by
  have hregistrar : d.registrarID.bind s'.registrars.get? =
      d.registrarID.bind db.inventory.registrars.get? := by
    cases hid : d.registrarID with
    | none => rfl
    | some i =>
      obtain ⟨r, hr⟩ := Option.isSome_iff_exists.mp
        (hkeys.registrars d (IndexedTable.find?_some hd).1 i hid)
      rw [Option.bind_some, Option.bind_some, hr, hregistrars i r hr]
  have hlatest : ∀ t, latestSheetCost s' d.id t = latestSheetCost db.inventory d.id t :=
    fun t => congrArg latest (hcosts t)
  have hseen : seenAgain d = { d with
      sourceStatus := (seenAgain d).sourceStatus, version := (seenAgain d).version } := by
    unfold seenAgain
    split <;> rfl
  rw [hseen]
  simp only [sheetDiff, currentDomain, hregistrar, hlatest]
  rfl

/-- **Every valid row after the run**: its domain exists, and a preview finds it
    unchanged if it was, or if it is stable. -/
theorem applied_row {snapshot : Snapshot} {count : Nat} (imports : Imports) (hrows : ParsedRows snapshot rows)
    (hkeys : ForeignKeys db.inventory)
    (harchived : ∀ d ∈ db.inventory.domains.rows, d.lifecycleStatus ≠ .archived)
    (hoverride : ∀ o ∈ db.inventory.overrides.rows, o.activeAt call.now = false)
    (hrun : (importRows db source start rows).foldlM (applyNext pg call item) (db.inventory, 0) =
      .ok (s', count))
    (hrow : row ∈ rows) (hvalue : row.validValue = some v) :
    ∃ d, s'.domains.find? v.domain = some d ∧
      (sheetDiff (currentDomain ⟨s', imports⟩ d) v = [] ↔ (changes db v = true →
        StableRow pg db.inventory (writtenRegistrars (changedValues db rows)) v)) := by
  have hparsed := hrows.parsed row hrow
  have htarget : (matchRow db row).stored.target db.inventory = some v.domain := by
    rw [target_matchRow hparsed, validDomain_eq, hvalue]
    rfl
  obtain ⟨pre, post, s₁, s₂, hsplit, hbefore, hregistrars, hone, hafter⟩ :=
    exists_run_at (aimed_importRows db source start hrows.parsed) (nodup_target_importRows hrows.parsed hrows.nodup)
      (NamesKept.refl _) (mem_importRows.mpr (.inl ⟨row, hrow, rfl⟩)) htarget hrun
  by_cases hchanges : changes db v = true
  · obtain ⟨k, d, hwritten, hname, hopen⟩ := exists_written hparsed hvalue hchanges hkeys harchived
      hoverride hbefore hone
    have hclean := (hparsed.of_validValue hvalue).2
    refine ⟨d, by rw [hafter.find?, ← hname, find?_of_get? hwritten.stored], ?_⟩
    rw [sheetDiff_written_iff (post.filterMap ImportRow.registrar?) hclean hregistrars hopen hwritten
      hname hafter]
    -- The registrars asked for before this row, by it, and after it.
    have hlist : pre.filterMap ImportRow.registrar? ++ ((some (trimSpace (toValid v.registrar))).filter
        (fun name => name ≠ [])).toList ++ post.filterMap ImportRow.registrar? =
        writtenRegistrars (changedValues db rows) := by
      rw [← filterMap_registrar?_importRows source start hrows.parsed, hsplit,
        List.filterMap_append, List.append_assoc]
      congr 1
      have hmine : (matchRow db row).stored.registrar? =
          (some (trimSpace (toValid v.registrar))).filter (fun name => name ≠ []) := by
        rw [registrar?_matchRow hparsed, hvalue]
        simp [Option.filter, hchanges]
      cases hregistrar : (some (trimSpace (toValid v.registrar))).filter (fun name => decide (name ≠ [])) with
      | none => rw [List.filterMap_cons_none (hmine.trans hregistrar)]; rfl
      | some name => rw [List.filterMap_cons_some (hmine.trans hregistrar)]; rfl
    rw [hlist]
    exact ⟨fun h _ => h, fun h => h hchanges⟩
  · -- The row is unchanged: the domain is there, with nothing to be written.
    cases hd : db.inventory.domains.find? v.domain with
    | none => simp [changes, existing_eq, hd] at hchanges
    | some d =>
      have hdiff : sheetDiff (currentDomain db d) v = [] := by
        simpa [changes, existing_eq, hd] using hchanges
      rw [matchRow_of_valid hvalue, hd] at hone
      simp only [applyRow, action_stored, matchedDomainID_stored, hdiff, List.isEmpty_nil, if_true] at hone
      obtain ⟨domains, hmodify, rfl⟩ := Tables.updateDomain_eq_ok (statement_eq_ok.mp hone)
      have hfind : s₁.domains.find? v.domain = some d := by rw [hbefore.find?, hd]
      obtain ⟨hget, hname⟩ := get?_of_find? hfind
      have hseen : domains.get? d.id = some (seenAgain d) := by
        rw [IndexedTable.get?_modify hmodify, if_pos rfl, hget]
        rfl
      have hseenName : (seenAgain d).domainASCII = v.domain := by
        unfold seenAgain
        split <;> exact hname
      have hfind₂ : domains.find? v.domain = some (seenAgain d) := hseenName ▸ find?_of_get? hseen
      refine ⟨seenAgain d, hafter.find?.trans hfind₂, ?_⟩
      rw [sheetDiff_unchanged hd hkeys, hdiff]
      · simp [hchanges]
      · exact fun i r hr => hafter.registrars i r (hbefore.registrars i r hr)
      · intro t
        have hlater := hafter.openCosts hfind₂ t
        rw [seenAgain_id] at hlater
        exact hlater.trans (hbefore.openCosts hd t)

/-! ### No missing rows the second time -/

theorem originOf_eq (db : DB) (k : UUID) :
    originOf db k = (OrderBy.lastBy (fun p => toLex (p.observedAt, p.createdAt)) (originRows db k)).bind
      (fun p => (p.sourceReference.importID.bind db.imports.get?).map Import.source) := by
  unfold originOf
  congr 1
  funext p
  cases p.sourceReference.importID <;> rfl

/-- Where a domain came from, after rows about other domains. -/
theorem originOf_congr {k : UUID}
    (hprovenance : ∀ p : Provenance → Bool, (∀ r, p r = true → r.domainID = k) →
      s'.provenance.rows.filter p = db.inventory.provenance.rows.filter p)
    (hsources : ∀ p ∈ db.inventory.provenance.rows,
      (p.sourceReference.importID.bind imports.get?).map Import.source =
        (p.sourceReference.importID.bind db.imports.get?).map Import.source) :
    originOf ⟨s', imports⟩ k = originOf db k := by
  have hrows : originRows ⟨s', imports⟩ k = originRows db k := by
    refine (hprovenance _ ?_).trans (List.filter_congr ?_)
    · intro r hr
      simp only [Bool.and_eq_true, decide_eq_true_eq] at hr
      exact hr.1.1.1
    · intro p hp
      have hsome := congrArg Option.isSome (hsources p hp)
      rw [Option.isSome_map, Option.isSome_map] at hsome
      rw [hsome]
  rw [originOf_eq, originOf_eq, hrows]
  cases hlast : OrderBy.lastBy (fun p => toLex (p.observedAt, p.createdAt)) (originRows db k) with
  | none => rfl
  | some p => exact hsources p (List.mem_filter.mp (List.argmax_mem hlast)).1

theorem listedIn_currentDomain {d : Domain} :
    (currentDomain db d).listedIn source = true ↔ d.sourceType = inventorySourceType source.kind ∧
      d.sourceStatus = .present ∧ originOf db d.id = some source := by
  simp [CurrentDomain.listedIn, currentDomain, and_assoc]

/-- A domain of the source that no valid row names is marked missing by the run. -/
theorem missingDomains_applied {count : Nat} (hparsed : ∀ row ∈ rows, Parsed row)
    (hnodup : (rows.filterMap ImportRow.validDomain).Nodup) (hitem : item.source = source)
    (hsources : ∀ p ∈ db.inventory.provenance.rows,
      (p.sourceReference.importID.bind imports.get?).map Import.source =
        (p.sourceReference.importID.bind db.imports.get?).map Import.source)
    (hrun : (importRows db source start rows).foldlM (applyNext pg call item) (db.inventory, 0) =
      .ok (s', count)) :
    missingDomains ⟨s', imports⟩ source rows = [] := by
  rw [missingDomains, List.filter_eq_nil_iff]
  intro current hcurrent hmissing
  obtain ⟨d', hd', rfl⟩ := get?_of_currentDomain hcurrent
  rw [Bool.and_eq_true, Bool.not_eq_true', listedIn_currentDomain] at hmissing
  obtain ⟨⟨htype, hstatus, horigin⟩, hunnamed⟩ := hmissing
  have hfind' : s'.domains.find? d'.domainASCII = some d' := find?_of_get? hd'
  have haimed := aimed_importRows db source start hparsed
  have hkeeps := applyNext_keeps haimed (NamesKept.refl _) hrun
  by_cases htarget : ∃ row ∈ importRows db source start rows,
      row.target db.inventory = some d'.domainASCII
  · obtain ⟨row, hrow, hname⟩ := htarget
    obtain ⟨pre, post, s₁, s₂, -, hbefore, -, hone, hafter⟩ :=
      exists_run_at haimed (nodup_target_importRows hparsed hnodup) (NamesKept.refl _) hrow hname hrun
    rcases mem_importRows.mp hrow with ⟨parsed, hmem, rfl⟩ | ⟨i, current, hi, rfl⟩
    · -- No valid row names the domain.
      rw [target_matchRow (hparsed parsed hmem)] at hname
      rw [List.any_eq_false] at hunnamed
      exact hunnamed parsed hmem (by simp [hname, currentDomain])
    · -- The domain was reported missing, and the row took it out of the source.
      obtain ⟨hcurrent, hlisted⟩ := List.mem_filter.mp (List.mem_of_getElem? hi)
      rw [target_missingRow hcurrent] at hname
      obtain ⟨d, hd, rfl⟩ := get?_of_currentDomain hcurrent
      rw [Bool.and_eq_true, listedIn_currentDomain] at hlisted
      have hname : d.domainASCII = d'.domainASCII := Option.some.inj hname
      have hget : s₁.domains.get? d.id = some d :=
        (get?_of_find? (hbefore.find?.trans (hname ▸ find?_of_get? hd))).1
      have hone : applyMissing call item (missingRow (start + 1 + i) (currentDomain db d)).stored d.id s₁ =
          .ok s₂ := hone
      obtain ⟨domains, schedules, hmodify, -, rfl⟩ := applyMissing_eq_ok hone
      have hmarked : domains.get? d.id = some (missingFrom (inventorySourceType item.source.kind) d) := by
        rw [IndexedTable.get?_modify hmodify, if_pos rfl, hget]
        rfl
      rw [missingFrom, hitem, if_pos hlisted.1.1] at hmarked
      have hfinal := hafter.find?.trans (hname ▸ find?_of_get? hmarked)
      rw [hfind'] at hfinal
      rw [Option.some.inj hfinal] at hstatus
      cases hstatus
  · -- No row is about the domain: it was in the source before, and is not missing.
    have hsame := hkeeps.same d'.domainASCII htarget
    have hfind : db.inventory.domains.find? d'.domainASCII = some d' := hsame.domain.symm.trans hfind'
    have hd := (get?_of_find? hfind).1
    apply htarget
    have hlisted : (currentDomain db d').listedIn source = true := by
      rw [listedIn_currentDomain]
      exact ⟨htype, hstatus, (originOf_congr (hsame.provenance d' hfind) hsources) ▸ horigin⟩
    have hmem : currentDomain db d' ∈ missingDomains db source rows := by
      refine List.mem_filter.mpr ⟨List.mem_map_of_mem (IndexedTable.get?_some hd).1, ?_⟩
      rw [Bool.and_eq_true, Bool.not_eq_true']
      exact ⟨hlisted, hunnamed⟩
    obtain ⟨i, hi⟩ := List.mem_iff_getElem?.mp hmem
    exact ⟨_, mem_importRows.mpr (.inr ⟨i, _, hi, rfl⟩),
      target_missingRow (List.mem_map_of_mem (IndexedTable.get?_some hd).1) _⟩

end

/-- **Previewing an applied sheet again** finds only unchanged and invalid rows
    exactly when every changed row of the first preview is stable. The import is a
    new one with a new identifier, and nothing happens between its preview and its
    application; no domain is archived and no override is active. -/
theorem preview_fixpoint_iff (lib : Library) (pg : Postgres) (preview : PreviewCall) (call : ApplyCall)
    (db db₁ db₂ : DB) (item applied : Import) (rows : List ImportRow) (indexes : Indexes)
    (hkeys : ForeignKeys db.inventory)
    (harchived : ∀ d ∈ db.inventory.domains.rows, d.lifecycleStatus ≠ .archived)
    (hoverride : ∀ o ∈ db.inventory.overrides.rows, o.activeAt call.now = false)
    (hfresh : ∀ p ∈ db.inventory.provenance.rows, p.sourceReference.importID ≠ some preview.id)
    (hkey : importByIdempotency db (trimSpace preview.key) = none)
    (hopen : openImportByHash db preview.source preview.hash = none)
    (hparse : parseRows lib preview.snapshot preview.configured = .ok (rows, indexes))
    (hpreview : previewSnapshot lib preview db = .ok (db₁, item))
    (hcall : call.importID = item.id) (happly : apply pg call db₁ = .ok (db₂, applied)) :
    ∃ again, previewRows lib preview.snapshot preview.configured preview.source db₂ = .ok again ∧
      ((∀ row ∈ again, row.action = .unchanged ∨ row.action = .invalid) ↔
        ∀ v ∈ changedValues db rows,
          StableRow pg db.inventory (writtenRegistrars (changedValues db rows)) v) := by
  have hrows := parsedRows_of_ok hparse
  rcases previewSnapshot_eq_ok hpreview with ⟨-, hold | hold⟩ |
    ⟨out, imports, hout, hinsert, hdb₁, hid, hsource, hstatus, hstored⟩
  · rw [hkey] at hold
    cases hold
  · rw [hopen] at hold
    cases hold
  · -- The import that is applied is the one that was previewed.
    have hrowsOf : item.rows = importRows db preview.source preview.snapshot.values.length rows := by
      obtain ⟨parsed, indexes', hparse', rfl⟩ := previewRows_eq_ok.mp hout
      rw [hparse] at hparse'
      cases hparse'
      exact hstored
    have hdb₁ : db₁ = { db with imports := imports } := hdb₁
    have himports : ∀ i, i ≠ preview.id → imports.get? i = db.imports.get? i := by
      intro i hi
      rw [KeyedTable.get?_insert hinsert, if_neg (by rw [hid]; exact hi)]
    obtain ⟨-, found, hfound, hcase⟩ := apply_eq_ok happly
    have hfound : imports.get? call.importID = some found := by
      rw [hdb₁] at hfound
      exact hfound
    rw [hcall, KeyedTable.get?_insert hinsert, if_pos rfl] at hfound
    obtain rfl := Option.some.inj hfound
    rcases hcase with ⟨happlied, -⟩ | ⟨-, inventory, count, hrun, -, hdb₂, -⟩
    · rw [hstatus] at happlied
      cases happlied
    · have hdb₂ : db₂ = _ := hdb₂
      rw [hdb₁] at hrun hdb₂
      rw [applyRows, hrowsOf, orderBy_importRows hrows] at hrun
      have hsources : ∀ p ∈ db.inventory.provenance.rows,
          (p.sourceReference.importID.bind db₂.imports.get?).map Import.source =
            (p.sourceReference.importID.bind db.imports.get?).map Import.source := by
        intro p hp
        cases href : p.sourceReference.importID with
        | none => rfl
        | some i =>
          have hi : i ≠ preview.id := fun heq => hfresh p hp (href.trans (congrArg some heq))
          rw [Option.bind_some, Option.bind_some, hdb₂, KeyedTable.get?_modify,
            if_neg (by rw [hid]; exact hi), himports i hi]
      have hmissing := missingDomains_applied hrows.parsed hrows.nodup hsource hsources hrun
      have hinventory : db₂.inventory = inventory := by rw [hdb₂]
      refine ⟨_, previewRows_eq_ok.mpr ⟨rows, indexes, hparse, rfl⟩, ?_⟩
      have hnone : missingDomains db₂ preview.source rows = [] := by
        rw [← hmissing, ← hinventory]
      rw [hnone, List.mapIdx_nil, List.append_nil]
      have hafter : ∀ row ∈ rows, ∀ v, row.validValue = some v →
          ∃ d, db₂.inventory.domains.find? v.domain = some d ∧
            (sheetDiff (currentDomain db₂ d) v = [] ↔ (changes db v = true →
              StableRow pg db.inventory (writtenRegistrars (changedValues db rows)) v)) := by
        intro row hrow v hvalue
        have happlied := applied_row db₂.imports hrows hkeys harchived hoverride hrun hrow hvalue
        rwa [← hinventory] at happlied
      constructor
      · intro hall v hv
        obtain ⟨hmem, hchanges⟩ := List.mem_filter.mp hv
        obtain ⟨row, hrow, hvalue⟩ := List.mem_filterMap.mp hmem
        obtain ⟨d, hd, hiff⟩ := hafter row hrow v hvalue
        have haction := hall _ (List.mem_map_of_mem hrow)
        rw [matchRow_of_valid hvalue, hd] at haction
        refine hiff.mp ?_ hchanges
        by_contra hdiff
        simp [hdiff] at haction
      · intro hstable row hrow
        obtain ⟨parsed, hparsed, rfl⟩ := List.mem_map.mp hrow
        cases hvalid : parsed.valid with
        | false =>
          rw [matchRow_of_invalid hvalid]
          exact .inr ((hrows.parsed parsed hparsed).invalid hvalid)
        | true =>
          obtain ⟨v, hvalue, -, -⟩ := (hrows.parsed parsed hparsed).validValue hvalid
          obtain ⟨d, hd, hiff⟩ := hafter parsed hparsed v hvalue
          have hdiff := hiff.mpr (fun hchanges => hstable v
            (List.mem_filter.mpr ⟨List.mem_filterMap.mpr ⟨parsed, hparsed, hvalue⟩, hchanges⟩))
          rw [matchRow_of_valid hvalue, hd]
          left
          simp [hdiff]

/-- One domain with a note. -/
def notedDomain : PreviewCall :=
  samplePreview 1 "book-001" sampleSource [["Domain", "Notes"], ["Example.com", "kept"]]

def notedRow : NormalizedRow where
  domain := lit "example.com"
  domainUnicode := lit "example.com"
  registrableDomain := lit "example.com"
  registrar := []
  purchasePrice := none
  renewalPrice := none
  currency := []
  taxRate := none
  purchaseDate := none
  expirationDate := none
  businessPriority := lit "medium"
  notes := lit "kept"
  active := true

theorem preview_fixpoint_noted :
    ∃ db₁ item db₂ applied again,
      previewSnapshot sampleLibrary notedDomain emptyDB = .ok (db₁, item) ∧
      apply samplePostgres (sampleApply 1 "apply-01") db₁ = .ok (db₂, applied) ∧
      previewRows sampleLibrary notedDomain.snapshot notedDomain.configured notedDomain.source db₂ =
        .ok again ∧
      ∀ row ∈ again, row.action = .unchanged ∨ row.action = .invalid := by
  have hsome : ((previewSnapshot sampleLibrary notedDomain emptyDB).toOption.any (fun first =>
      first.2.id = 1 &&
        (apply samplePostgres (sampleApply 1 "apply-01") first.1).toOption.any (fun _ => true))) = true := by
    decide +kernel
  have hvalues : (parseRows sampleLibrary notedDomain.snapshot notedDomain.configured).toOption.any
      (fun parsed => changedValues emptyDB parsed.1 = [notedRow]) = true := by decide +kernel
  obtain ⟨first, hpreview, hsome⟩ := exists_ok_of_any hsome
  rw [Bool.and_eq_true, decide_eq_true_eq] at hsome
  obtain ⟨second, happly, -⟩ := exists_ok_of_any hsome.2
  obtain ⟨parsed, hparse, hvalues⟩ := exists_ok_of_any hvalues
  obtain ⟨again, hagain, hiff⟩ := preview_fixpoint_iff sampleLibrary samplePostgres notedDomain
    (sampleApply 1 "apply-01") emptyDB first.1 second.1 first.2 second.2 parsed.1 parsed.2
    ⟨List.forall_mem_nil _, List.forall_mem_nil _⟩ (List.forall_mem_nil _) (List.forall_mem_nil _)
    (List.forall_mem_nil _) rfl rfl hparse hpreview hsome.1.symm happly
  refine ⟨first.1, first.2, second.1, second.2, again, hpreview, happly, hagain, hiff.mpr ?_⟩
  rw [decide_eq_true_eq.mp hvalues]
  intro v hv
  rw [List.mem_singleton.mp hv]
  exact ⟨by decide +kernel, fun _ => by decide +kernel, fun _ => by decide +kernel, fun _ => rfl,
    fun _ _ => by decide +kernel, nofun, nofun, by decide +kernel⟩

/-- A currency without a price. -/
def currencyOnly : PreviewCall :=
  { samplePreview 1 "book-001" sampleSource [["Domain", "Currency"], ["example.com", "THB"]] with
    configured := sampleMapping [(.domain, "Domain"), (.currency, "Currency")] }

/-- Costs carry the currency, and the row has none: the domain is added, and every
    later preview of the same sheet reports a change of its currency. -/
theorem currency_without_price_modified :
    ∃ db₁ item db₂ applied again,
      previewSnapshot sampleLibrary currencyOnly emptyDB = .ok (db₁, item) ∧
      apply samplePostgres (sampleApply 1 "apply-01") db₁ = .ok (db₂, applied) ∧
      previewRows sampleLibrary currencyOnly.snapshot currencyOnly.configured currencyOnly.source db₂ =
        .ok again ∧
      ∃ row ∈ again, row.action = .modify := by
  have hsome : ((previewSnapshot sampleLibrary currencyOnly emptyDB).toOption.any (fun first =>
      (apply samplePostgres (sampleApply 1 "apply-01") first.1).toOption.any (fun second =>
        (previewRows sampleLibrary currencyOnly.snapshot currencyOnly.configured currencyOnly.source
          second.1).toOption.any (fun again => again.any (fun row => row.action = .modify))))) = true := by
    decide +kernel
  obtain ⟨first, hpreview, hsome⟩ := exists_ok_of_any hsome
  obtain ⟨second, happly, hsome⟩ := exists_ok_of_any hsome
  obtain ⟨again, hagain, hsome⟩ := exists_ok_of_any hsome
  obtain ⟨row, hrow, haction⟩ := List.any_eq_true.mp hsome
  exact ⟨first.1, first.2, second.1, second.2, again, hpreview, happly, hagain, row, hrow,
    by simpa using haction⟩

end DomainMonitor.Sheets
