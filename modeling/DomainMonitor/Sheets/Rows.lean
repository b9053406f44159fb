import DomainMonitor.Sheets.Effects
import DomainMonitor.Sheets.Missing

/-! # The rows of an import

    What validation guarantees of a valid row, and what a preview on a database
    makes of the parsed rows: rows about pairwise different domains, in the order
    in which they are applied. So a run of an import splits at each row, and the
    other rows leave the domain of that row alone (`exists_run_at`).
-/

namespace DomainMonitor.Sheets

open Utf8 Strings Inventory

/-! ### The values of valid rows -/

/-- What validation guarantees of a row. -/
structure NormalizedRow.Clean (v : NormalizedRow) : Prop where
  domain : Solid v.domain
  registrar : trimSpace v.registrar = v.registrar
  purchasePrice : ∀ text, v.purchasePrice = some text → ∃ q : ℚ, ¬ q < 0 ∧ text = Decimal.floatString 6 q
  renewalPrice : ∀ text, v.renewalPrice = some text → ∃ q : ℚ, ¬ q < 0 ∧ text = Decimal.floatString 6 q
  currency : Valid v.currency
  taxRate : ∀ text, v.taxRate = some text → ∃ q : ℚ, ¬ q < 0 ∧ text = Decimal.floatString 10 q
  purchaseDate : ∀ text, v.purchaseDate = some text → ∃ day, text = Rfc3339.dateText day
  expirationDate : ∀ text, v.expirationDate = some text → ∃ day, text = Rfc3339.dateText day
  priority : ∃ p : BusinessPriority, v.businessPriority = p.text
  notes : trimSpace v.notes = v.notes

section

variable {lib : Library} {raw : RawValues}

variable {cell text : GoString}

theorem optionalCell_some {α : Type} {parse : GoString → Option α} {a : α}
    (h : (optionalCell parse cell).1 = some a) : parse cell = some a := by
  unfold optionalCell at h
  split at h
  · cases h
  · exact h

theorem parsePrice_some (h : parsePrice cell = some text) :
    ∃ q : ℚ, ¬ q < 0 ∧ text = Decimal.floatString 6 q := by
  simp only [parsePrice, Option.bind_eq_bind, Option.bind_eq_some_iff] at h
  obtain ⟨q, -, h⟩ := h
  split at h
  · cases h
  · exact ⟨q, ‹_›, (Option.some.inj h).symm⟩

theorem parseTaxRate_some (h : parseTaxRate cell = some text) :
    ∃ q : ℚ, ¬ q < 0 ∧ text = Decimal.floatString 10 q := by
  simp only [parseTaxRate, Option.bind_eq_bind, Option.bind_eq_some_iff] at h
  obtain ⟨q, -, h⟩ := h
  split at h
  · cases h
  · split at h
    · cases h
    · exact ⟨q, ‹_›, (Option.some.inj h).symm⟩

theorem parseDateCell_some (h : parseDateCell cell = some text) :
    ∃ day, text = Rfc3339.dateText day := by
  obtain ⟨day, -, rfl⟩ := Option.map_eq_some_iff.mp h
  exact ⟨day, rfl⟩

theorem ofText?_some {p : BusinessPriority} (h : BusinessPriority.ofText? text = some p) :
    p.text = text := by
  simpa using List.find?_some h

theorem names?_some {names : Normalized} (h : lib.names? cell = some names) :
    Solid names.ascii := by
  unfold Library.names? at h
  split at h
  · cases h
    exact solid_of_normalize ‹_›
  · cases h

theorem clean_of_normalizeRow (h : (normalizeRow lib raw).2 = []) : (normalizeRow lib raw).1.Clean := by
  obtain ⟨names, hnames⟩ := Option.isSome_iff_exists.mp (names_isSome_of_clean h)
  refine
    { domain := ?_
      registrar := trimSpace_trimSpace _
      purchasePrice := fun _ ht => parsePrice_some (optionalCell_some ht)
      renewalPrice := fun _ ht => parsePrice_some (optionalCell_some ht)
      currency := valid_toUpper _ _
      taxRate := fun _ ht => parseTaxRate_some (optionalCell_some ht)
      purchaseDate := fun _ ht => parseDateCell_some (optionalCell_some ht)
      expirationDate := fun _ ht => parseDateCell_some (optionalCell_some ht)
      priority := ?_
      notes := trimSpace_trimSpace _ }
  · rw [domain_normalizeRow, hnames]
    exact names?_some hnames
  · -- A priority without a name would have been reported.
    cases hpriority : BusinessPriority.ofText? (normalizeRow lib raw).1.businessPriority with
    | some p => exact ⟨p, (ofText?_some hpriority).symm⟩
    | none =>
      exfalso
      have hnone : (BusinessPriority.ofText? (if toLower lib.tables (trimSpace (raw.cell .businessPriority)) = []
          then lit "medium" else toLower lib.tables (trimSpace (raw.cell .businessPriority)))) = none :=
        hpriority
      simp only [normalizeRow, hnone, Option.isNone_none, List.map_eq_nil_iff,
        List.filter_eq_nil_iff] at h
      exact h (true, "INVALID_BUSINESS_PRIORITY") (by simp) rfl

end

/-! ### Valid rows in `jsonb` -/

theorem map_toValid_of_solid {text : Option GoString} (h : ∀ t, text = some t → Solid t) :
    text.map toValid = text := by
  cases text with
  | none => rfl
  | some t => exact congrArg some (toValid_of_ascii (h t rfl).ascii)

theorem solid_floatString {scale : Nat} {q : ℚ} (hq : ¬ q < 0) : Solid (Decimal.floatString scale q) := by
  rw [Decimal.floatString, if_neg hq]
  exact Decimal.solid_fixed _ _

theorem solid_priority (p : BusinessPriority) : Solid p.text := by
  have hall : ∀ p : BusinessPriority, ∀ b ∈ p.text, 32 < b.toNat ∧ b.toNat < 127 := by
    intro p
    cases p <;> decide +kernel
  exact hall p

section

variable {v : NormalizedRow}

theorem NormalizedRow.Clean.stored_domain (h : v.Clean) : v.stored.domain = v.domain :=
  toValid_of_ascii h.domain.ascii

theorem NormalizedRow.Clean.stored_purchasePrice (h : v.Clean) :
    v.stored.purchasePrice = v.purchasePrice := by
  refine map_toValid_of_solid (fun t ht => ?_)
  obtain ⟨q, hq, rfl⟩ := h.purchasePrice t ht
  exact solid_floatString hq

theorem NormalizedRow.Clean.stored_renewalPrice (h : v.Clean) :
    v.stored.renewalPrice = v.renewalPrice := by
  refine map_toValid_of_solid (fun t ht => ?_)
  obtain ⟨q, hq, rfl⟩ := h.renewalPrice t ht
  exact solid_floatString hq

theorem NormalizedRow.Clean.stored_taxRate (h : v.Clean) : v.stored.taxRate = v.taxRate := by
  refine map_toValid_of_solid (fun t ht => ?_)
  obtain ⟨q, hq, rfl⟩ := h.taxRate t ht
  exact solid_floatString hq

theorem NormalizedRow.Clean.stored_purchaseDate (h : v.Clean) :
    v.stored.purchaseDate = v.purchaseDate := by
  refine map_toValid_of_solid (fun t ht => ?_)
  obtain ⟨day, rfl⟩ := h.purchaseDate t ht
  exact TimeParse.solid_dateText day

theorem NormalizedRow.Clean.stored_expirationDate (h : v.Clean) :
    v.stored.expirationDate = v.expirationDate := by
  refine map_toValid_of_solid (fun t ht => ?_)
  obtain ⟨day, rfl⟩ := h.expirationDate t ht
  exact TimeParse.solid_dateText day

theorem NormalizedRow.Clean.stored_currency (h : v.Clean) : v.stored.currency = v.currency :=
  toValid_of_valid h.currency

theorem NormalizedRow.Clean.stored_priority (h : v.Clean) :
    v.stored.businessPriority = v.businessPriority := by
  obtain ⟨p, hp⟩ := h.priority
  show toValid v.businessPriority = _
  rw [hp]
  exact toValid_of_ascii (solid_priority p).ascii

end

/-! ### Parsed rows -/

variable (db : DB) (row : ImportRow)

/-- A row as `ParseRows` returns it. -/
structure Parsed : Prop where
  unmatched : row.matchedDomainID = none
  valid : row.valid = true → ∃ v, row.normalizedValues = some v ∧ v.Clean
  unchanged : row.valid = true → row.action = .unchanged
  invalid : row.valid = false → row.action = .invalid

theorem parsed_parseRow (lib : Library) (indexes : Indexes) (i : Nat) (cells : List GoString) :
    Parsed (parseRow lib indexes i cells) := by
  simp only [parseRow]
  split
  · exact ⟨rfl, fun h => absurd h Bool.false_ne_true, fun h => absurd h Bool.false_ne_true, fun _ => rfl⟩
  · by_cases herrors : (normalizeRow lib (rawValues indexes cells)).2 = []
    · exact ⟨rfl, fun _ => ⟨_, rfl, clean_of_normalizeRow herrors⟩, fun _ => by simp [herrors],
        fun h => by simp [herrors] at h⟩
    · exact ⟨rfl, fun h => by simp [herrors] at h, fun h => by simp [herrors] at h,
        fun _ => by simp [herrors]⟩

theorem Parsed.markDuplicate {row : ImportRow} (h : Parsed row) (rows : List ImportRow) :
    Parsed (markDuplicate rows row) := by
  unfold Sheets.markDuplicate
  split
  · exact h
  · split
    · exact ⟨h.unmatched, fun h => absurd h Bool.false_ne_true, fun h => absurd h Bool.false_ne_true,
        fun _ => rfl⟩
    · exact h

/-- The value of a valid row. -/
def ImportRow.validValue : Option NormalizedRow :=
  if row.valid then row.normalizedValues else none

theorem validDomain_eq : row.validDomain = row.validValue.map NormalizedRow.domain := by
  unfold ImportRow.validDomain ImportRow.validValue
  split <;> rfl

theorem rowNumber_parseRow (lib : Library) (indexes : Indexes) (i : Nat) (cells : List GoString) :
    (parseRow lib indexes i cells).rowNumber = i + 2 := by
  simp only [parseRow]
  split <;> rfl

theorem rowNumber_markDuplicate (rows : List ImportRow) (row : ImportRow) :
    (markDuplicate rows row).rowNumber = row.rowNumber := by
  unfold markDuplicate
  split
  · rfl
  · split <;> rfl

/-- The rows that `ParseRows` returns. -/
structure ParsedRows (snapshot : Snapshot) (rows : List ImportRow) : Prop where
  parsed : ∀ row ∈ rows, Parsed row
  /-- No two valid rows name one domain. -/
  nodup : (rows.filterMap ImportRow.validDomain).Nodup
  numbers : rows.map ImportRow.rowNumber =
    (List.range (snapshot.values.length - 1)).map (fun i : Nat => (i : Int) + 2)
  header : 0 < snapshot.values.length

theorem nodup_validDomain (rows : List ImportRow) :
    ((rows.map (markDuplicate rows)).filterMap ImportRow.validDomain).Nodup := by
  rw [List.nodup_iff_count_le_one]
  intro name
  rw [List.count_filterMap, List.countP_map]
  by_cases hfew : rows.countP (fun row => row.validDomain = some name) < 2
  · refine (List.countP_mono_left ?_).trans (Nat.lt_succ_iff.mp hfew)
    intro row _ hrow
    have hmarked : (markDuplicate rows row).validDomain = some name := by simpa using hrow
    simpa using (validDomain_markDuplicate.mp hmarked).1
  · -- A name that several rows give is left to none.
    rw [List.countP_eq_zero.mpr]
    · exact Nat.zero_le 1
    · intro row _ hrow
      have hmarked : (markDuplicate rows row).validDomain = some name := by simpa using hrow
      exact hfew (validDomain_markDuplicate.mp hmarked).2

theorem parsedRows_of_ok {lib : Library} {snapshot : Snapshot} {configured : Semantic → GoString}
    {rows : List ImportRow} {indexes : Indexes}
    (h : parseRows lib snapshot configured = .ok (rows, indexes)) : ParsedRows snapshot rows := by
  unfold parseRows at h
  split at h
  · cases h
  · rename_i headers lines hvalues
    rw [except_bind_ok] at h
    obtain ⟨mapped, -, h⟩ := h
    cases h
    refine ⟨?_, nodup_validDomain _, ?_, by simp [hvalues]⟩
    · intro row hrow
      obtain ⟨line, hline, rfl⟩ := List.mem_map.mp hrow
      obtain ⟨i, hi, rfl⟩ := List.mem_mapIdx.mp hline
      exact (parsed_parseRow lib indexes i _).markDuplicate _
    · rw [List.map_map]
      apply List.ext_getElem
      · simp [parseLines, hvalues]
      · intro i _ _
        simp [parseLines, rowNumber_markDuplicate, rowNumber_parseRow]

/-! ### The rows of an import -/

@[simp] theorem valid_stored : row.stored.valid = row.valid := rfl

@[simp] theorem action_stored : row.stored.action = row.action := rfl

@[simp] theorem matchedDomainID_stored :
    row.stored.matchedDomainID = row.matchedDomainID := rfl

@[simp] theorem normalizedValues_stored :
    row.stored.normalizedValues = row.normalizedValues.map NormalizedRow.stored := rfl

theorem existing_eq (name : GoString) :
    existing db name = (db.inventory.domains.find? name).map (currentDomain db) := by
  unfold existing currentDomains
  rw [List.find?_map]
  congr 1
  apply List.find?_congr
  intro d _
  simp [currentDomain]

section

variable {db : DB} {source : Source} {row : ImportRow} {v : NormalizedRow}

/-- What a preview makes of a valid row. -/
theorem matchRow_of_valid (hvalue : row.validValue = some v) :
    matchRow db row =
      match db.inventory.domains.find? v.domain with
      | none => { row with action := .add, diff := [⟨"domain", none, some v.domain⟩] }
      | some d =>
        { row with
          matchedDomainID := some d.id
          diff := sheetDiff (currentDomain db d) v
          action := if (sheetDiff (currentDomain db d) v).isEmpty then .unchanged else .modify } := by
  unfold ImportRow.validValue at hvalue
  split at hvalue
  · rename_i hvalid
    simp only [matchRow, hvalid, hvalue, existing_eq]
    cases db.inventory.domains.find? v.domain <;> rfl
  · cases hvalue

theorem matchRow_of_invalid (hvalid : row.valid = false) : matchRow db row = row := by
  simp only [matchRow, hvalid]

theorem Parsed.validValue (h : Parsed row) (hvalid : row.valid = true) :
    ∃ v, row.validValue = some v ∧ row.normalizedValues = some v ∧ v.Clean := by
  obtain ⟨v, hv, hclean⟩ := h.valid hvalid
  exact ⟨v, by rw [ImportRow.validValue, if_pos hvalid, hv], hv, hclean⟩

theorem target_matchRow (h : Parsed row) :
    (matchRow db row).stored.target db.inventory = row.validDomain := by
  cases hvalid : row.valid with
  | false =>
    simp [matchRow_of_invalid hvalid, ImportRow.target, ImportRow.skipped, hvalid,
      ImportRow.validDomain]
  | true =>
    obtain ⟨v, hvalue, hnormalized, hclean⟩ := h.validValue hvalid
    rw [validDomain_eq, hvalue, matchRow_of_valid hvalue]
    cases hd : db.inventory.domains.find? v.domain with
    | none =>
      simp [ImportRow.target, ImportRow.skipped, hvalid, h.unmatched, hnormalized,
        hclean.stored_domain]
    | some d =>
      obtain ⟨hmem, hname⟩ := IndexedTable.find?_some hd
      have hget := IndexedTable.get?_of_mem hmem
      by_cases hdiff : (sheetDiff (currentDomain db d) v).isEmpty = true
      · simp [ImportRow.target, ImportRow.skipped, hvalid, hdiff, hget,
          Option.some.inj hname]
      · simp [ImportRow.target, ImportRow.skipped, hvalid, hdiff, hget,
          Option.some.inj hname]

theorem aimed_matchRow (h : Parsed row) : Aimed db.inventory (matchRow db row).stored := by
  cases hvalid : row.valid with
  | false =>
    rw [matchRow_of_invalid hvalid]
    refine ⟨fun hskipped => ?_, fun _ => h.unmatched⟩
    simp [ImportRow.skipped, hvalid] at hskipped
  | true =>
    obtain ⟨v, hvalue, -, -⟩ := h.validValue hvalid
    refine ⟨fun _ => ⟨v.domain, ?_⟩, ?_⟩
    · rw [target_matchRow h, validDomain_eq, hvalue]
      rfl
    · rw [matchRow_of_valid hvalue]
      cases hd : db.inventory.domains.find? v.domain with
      | none => exact fun _ => h.unmatched
      | some d =>
        intro hadd
        rw [action_stored] at hadd
        dsimp only at hadd
        split at hadd <;> cases hadd

variable {current : CurrentDomain}

theorem get?_of_currentDomain (h : current ∈ currentDomains db) :
    ∃ d, db.inventory.domains.get? d.id = some d ∧ current = currentDomain db d := by
  obtain ⟨d, hd, rfl⟩ := List.mem_map.mp h
  exact ⟨d, IndexedTable.get?_of_mem hd, rfl⟩

theorem target_missingRow (h : current ∈ currentDomains db) (number : Int) :
    (missingRow number current).stored.target db.inventory = some current.domain := by
  obtain ⟨d, hd, rfl⟩ := get?_of_currentDomain h
  simp [ImportRow.target, ImportRow.skipped, missingRow, currentDomain, hd]

theorem aimed_missingRow (h : current ∈ currentDomains db) (number : Int) :
    Aimed db.inventory (missingRow number current).stored :=
  ⟨fun _ => ⟨_, target_missingRow h number⟩, nofun⟩

end

/-- The rows that a preview of parsed rows stores. -/
def importRows (source : Source) (start : Nat) (rows : List ImportRow) : List ImportRow :=
  (rows.map (matchRow db) ++ (missingDomains db source rows).mapIdx
    (fun i current => missingRow (start + 1 + i) current)).map ImportRow.stored

section

variable {db : DB} {source : Source} {start : Nat} {rows : List ImportRow}

theorem mem_importRows {row : ImportRow} : row ∈ importRows db source start rows ↔
    (∃ parsed ∈ rows, row = (matchRow db parsed).stored) ∨
      ∃ (i : Nat) (current : CurrentDomain), (missingDomains db source rows)[i]? = some current ∧
        row = (missingRow (start + 1 + i) current).stored := by
  simp only [importRows, List.map_append, List.map_map, List.mem_append, List.mem_map,
    List.mem_mapIdx, Function.comp_apply]
  constructor
  · rintro (⟨parsed, hparsed, rfl⟩ | ⟨_, ⟨i, hi, rfl⟩, rfl⟩)
    · exact .inl ⟨parsed, hparsed, rfl⟩
    · exact .inr ⟨i, _, List.getElem?_eq_getElem hi, rfl⟩
  · rintro (⟨parsed, hparsed, rfl⟩ | ⟨i, current, hi, rfl⟩)
    · exact .inl ⟨parsed, hparsed, rfl⟩
    · obtain ⟨hlt, rfl⟩ := List.getElem?_eq_some_iff.mp hi
      exact .inr ⟨_, ⟨i, hlt, rfl⟩, rfl⟩

theorem aimed_importRows (db : DB) (source : Source) (start : Nat) (hparsed : ∀ row ∈ rows, Parsed row) :
    ∀ row ∈ importRows db source start rows, Aimed db.inventory row := by
  intro row hrow
  rcases mem_importRows.mp hrow with ⟨parsed, hmem, rfl⟩ | ⟨i, current, hi, rfl⟩
  · exact aimed_matchRow (hparsed parsed hmem)
  · exact aimed_missingRow (List.mem_filter.mp (List.mem_of_getElem? hi)).1 _

theorem filterMap_target_importRows (hparsed : ∀ row ∈ rows, Parsed row) :
    (importRows db source start rows).filterMap (ImportRow.target db.inventory) =
      rows.filterMap ImportRow.validDomain ++ (missingDomains db source rows).map CurrentDomain.domain := by
  unfold importRows
  rw [List.map_append, List.filterMap_append, List.filterMap_map, List.filterMap_map, List.filterMap_map]
  congr 1
  · exact List.filterMap_congr (fun row hrow => target_matchRow (hparsed row hrow))
  · rw [← List.filterMap_eq_map]
    have hmissing : ∀ current ∈ missingDomains db source rows, current ∈ currentDomains db :=
      fun current hcurrent => (List.mem_filter.mp hcurrent).1
    generalize missingDomains db source rows = missing at hmissing
    -- Each missing row stands for its own domain, whatever its number.
    induction missing using List.reverseRecOn with
    | nil => rfl
    | append_singleton missing current ih =>
      rw [List.mapIdx_concat, List.filterMap_append, List.filterMap_append,
        ih (fun c hc => hmissing c (List.mem_append_left _ hc))]
      congr 1
      simp [target_missingRow (hmissing current (by simp))]

/-- The rows of an import are about pairwise different domains. -/
theorem nodup_target_importRows (hparsed : ∀ row ∈ rows, Parsed row)
    (hnodup : (rows.filterMap ImportRow.validDomain).Nodup) :
    ((importRows db source start rows).filterMap (ImportRow.target db.inventory)).Nodup := by
  rw [filterMap_target_importRows hparsed, List.nodup_append]
  refine ⟨hnodup, ?_, ?_⟩
  · have hsub : List.Sublist ((missingDomains db source rows).map CurrentDomain.domain)
        (db.inventory.domains.rows.map Domain.domainASCII) := by
      have hfilter := (List.filter_sublist (p := fun current : CurrentDomain => current.listedIn source &&
        !rows.any (fun row => row.validDomain = some current.domain)) (l := currentDomains db)).map
          CurrentDomain.domain
      rw [currentDomains, List.map_map] at hfilter
      exact hfilter
    refine hsub.nodup ?_
    have hunique := db.inventory.domains.unique
    rwa [List.filterMap_eq_map'] at hunique
  · intro a ha b hb hab
    subst hab
    obtain ⟨row, hrow, hname⟩ := List.mem_filterMap.mp ha
    obtain ⟨current, hcurrent, rfl⟩ := List.mem_map.mp hb
    have hnone := (Bool.and_eq_true _ _ ▸ (List.mem_filter.mp hcurrent).2).2
    rw [Bool.not_eq_true', List.any_eq_false] at hnone
    exact hnone row hrow (by simp [hname])

end

theorem rowNumber_matchRow : (matchRow db row).rowNumber = row.rowNumber := by
  unfold matchRow
  split
  · split <;> rfl
  · rfl

/-- The rows are stored in the order in which they are applied. -/
theorem orderBy_importRows {db : DB} {source : Source} {snapshot : Snapshot} {rows : List ImportRow}
    (h : ParsedRows snapshot rows) :
    OrderBy.orderBy ImportRow.rowNumber (importRows db source snapshot.values.length rows) =
      importRows db source snapshot.values.length rows := by
  apply OrderBy.orderBy_eq_self
  rw [← List.pairwise_map]
  have hnumbers : (importRows db source snapshot.values.length rows).map ImportRow.rowNumber =
      (List.range (snapshot.values.length - 1)).map (fun i : Nat => (i : Int) + 2) ++
        (List.range (missingDomains db source rows).length).map
          (fun i : Nat => (snapshot.values.length : Int) + 1 + i) := by
    rw [importRows, List.map_map, List.map_append, List.map_map]
    congr 1
    · rw [← h.numbers]
      exact List.map_congr_left (fun row _ => rowNumber_matchRow db row)
    · apply List.ext_getElem
      · simp
      · intro i _ _
        simp [missingRow, ImportRow.stored]
  have hpos := h.header
  rw [hnumbers, List.pairwise_append]
  refine ⟨?_, ?_, ?_⟩
  · rw [List.pairwise_map]
    exact List.pairwise_lt_range.imp (fun hab => by omega)
  · rw [List.pairwise_map]
    exact List.pairwise_lt_range.imp (fun hab => by omega)
  · intro a ha b hb
    obtain ⟨i, hi, rfl⟩ := List.mem_map.mp ha
    obtain ⟨j, -, rfl⟩ := List.mem_map.mp hb
    rw [List.mem_range] at hi
    omega

/-! ### The run of an import, at one row -/

section

variable {pg : Postgres} {call : ApplyCall} {item : Import} {db s₁ s₂ s' : Inventory.Tables}

theorem get?_of_find? {domains : Domains} {name : GoString} {d : Domain}
    (h : domains.find? name = some d) : domains.get? d.id = some d ∧ d.domainASCII = name := by
  obtain ⟨hmem, hname⟩ := IndexedTable.find?_some h
  exact ⟨IndexedTable.get?_of_mem hmem, Option.some.inj hname⟩

theorem find?_of_get? {domains : Domains} {k : UUID} {d : Domain} (h : domains.get? k = some d) :
    domains.find? d.domainASCII = some d :=
  IndexedTable.find?_of_mem (IndexedTable.get?_some h).1 rfl

theorem Keeps.find? {n : GoString} (h : Keeps (· ≠ n) s₁ s₂) :
    s₂.domains.find? n = s₁.domains.find? n := (h.same n (fun hne => hne rfl)).domain

theorem Keeps.weaken {targets targets' : GoString → Prop} (h : Keeps targets s₁ s')
    (hle : ∀ n, targets n → targets' n) : Keeps targets' s₁ s' :=
  (Keeps.refl targets' s₁).trans h hle

/-- Every other row leaves the domain of a row alone: the run before it and the run
    after it. The run starts in a state that still has the domains of the preview. -/
theorem exists_run_at {rows : List ImportRow} {row : ImportRow} {n : GoString} {count : Nat}
    {s : Inventory.Tables} (haimed : ∀ row ∈ rows, Aimed db row)
    (hnodup : (rows.filterMap (ImportRow.target db)).Nodup) (hstart : NamesKept db s)
    (hrow : row ∈ rows) (htarget : row.target db = some n)
    (h : rows.foldlM (applyNext pg call item) (s, 0) = .ok (s', count)) :
    ∃ pre post s₁ s₂, rows = pre ++ row :: post ∧ Keeps (· ≠ n) s s₁ ∧
      (∀ name, (registrarNamed pg s₁.registrars name).map Registrar.name =
        knownRegistrar pg s.registrars (pre.filterMap ImportRow.registrar?) name) ∧
      applyRow pg call item row s₁ = .ok s₂ ∧ Keeps (· ≠ n) s₂ s' := by
  obtain ⟨pre, post, rfl⟩ := List.append_of_mem hrow
  rw [List.foldlM_append, except_bind_ok] at h
  obtain ⟨⟨s₁, count₁⟩, hpre, h⟩ := h
  rw [List.foldlM_cons, except_bind_ok] at h
  obtain ⟨⟨s₂, count₂⟩, hone, hpost⟩ := h
  have hskipped : row.skipped = false := by
    by_contra hskipped
    rw [Bool.not_eq_false] at hskipped
    simp [ImportRow.target, hskipped] at htarget
  have hone : applyRow pg call item row s₁ = .ok s₂ := by
    rcases applyNext_eq_ok hone with ⟨hskip, -⟩ | ⟨-, hone, -⟩
    · rw [hskip] at hskipped
      cases hskipped
    · exact hone
  -- No other row has the name, because the names are pairwise different.
  rw [List.filterMap_append, List.filterMap_cons_some htarget, List.nodup_append] at hnodup
  obtain ⟨-, hlater, hearlier⟩ := hnodup
  have hbefore := applyNext_keeps (fun r hr => haimed r (List.mem_append_left _ hr)) hstart hpre
  have hkeeps := applyRow_keeps (haimed row hrow) htarget (hstart.trans hbefore.names) hone
  have hafter := applyNext_keeps
    (fun r hr => haimed r (List.mem_append_right _ (List.mem_cons_of_mem _ hr)))
    ((hstart.trans hbefore.names).trans hkeeps.names) hpost
  refine ⟨pre, post, s₁, s₂, rfl, hbefore.weaken ?_, applyNext_registrars hpre, hone, hafter.weaken ?_⟩
  · intro m hm hmn
    obtain ⟨r, hr, hrm⟩ := hm
    exact hearlier m (List.mem_filterMap.mpr ⟨r, hr, hrm⟩) n List.mem_cons_self hmn
  · intro m hm hmn
    obtain ⟨r, hr, hrm⟩ := hm
    exact (List.nodup_cons.mp hlater).1 (hmn ▸ List.mem_filterMap.mpr ⟨r, hr, hrm⟩)

end

end DomainMonitor.Sheets
