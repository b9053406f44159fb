import DomainMonitor.Finance.Engine
import DomainMonitor.Sheets.Rows

/-! # What `ParseRows` guarantees

    A tax rate is compared as text, and that is exact (`sheet_tax_rate_exact`).
    Duplicates are looked for among the valid rows only: a row stays valid when every
    other row of its domain is refused for another reason
    (`duplicate_of_bad_row_kept`). And the fields are resolved one by one, so that two
    of them can take one column, and a saved header that the sheet does not have is
    passed over (`one_column_for_two_prices`).
-/

namespace DomainMonitor.Sheets

open Utf8 Strings Inventory

/-! ### Tax rates -/

theorem invalidTaxRate_iff (lib : Library) (raw : RawValues) :
    lit "INVALID_TAX_RATE" ∈ (normalizeRow lib raw).2 ↔
      raw.cell .taxRate ≠ [] ∧ parseTaxRate (raw.cell .taxRate) = none := by
  have hother : ∀ code ∈ ["INVALID_DOMAIN", "INVALID_BUSINESS_PRIORITY", "INVALID_ACTIVE",
      "INVALID_PURCHASE_PRICE", "INVALID_RENEWAL_PRICE", "CURRENCY_REQUIRED_FOR_PRICE",
      "INVALID_PURCHASE_DATE", "INVALID_EXPIRATION_DATE"], lit code ≠ lit "INVALID_TAX_RATE" := by
    decide
  have hbad : (optionalCell parseTaxRate (raw.cell .taxRate)).2 = true ↔
      raw.cell .taxRate ≠ [] ∧ parseTaxRate (raw.cell .taxRate) = none := by
    unfold optionalCell
    split_ifs with hempty <;> simp [hempty]
  simp only [List.forall_mem_cons] at hother
  rw [← hbad]
  simp only [normalizeRow, List.mem_map, List.mem_filter, List.mem_cons, List.not_mem_nil, or_false,
    and_assoc, exists_eq_or_imp, exists_eq_left, hother, and_false, false_or, and_true]

/-- **Tax rates.** A cell with a plain decimal of at most ten decimals is accepted
    exactly when it is at most 1, and what is stored denotes the same number: the
    comparison of texts agrees with the test of `Calculate` and with the constraint
    of the table. -/
theorem sheet_tax_rate_exact (lib : Library) (raw : RawValues) {p : Decimal.Plain}
    (hplain : Decimal.plain? (trimSpace (raw.cell .taxRate)) = some p)
    (hscale : p.fraction.length ≤ 10) (hsign : 0 ≤ p.value) :
    (lit "INVALID_TAX_RATE" ∉ (normalizeRow lib raw).2 ↔ p.value ≤ 1) ∧
    ((normalizeRow lib raw).1.taxRate.isSome = true ↔ p.value ≤ 1) ∧
    (∀ text ∈ (normalizeRow lib raw).1.taxRate, Finance.parseDecimal text 10 = some p.value ∧
      ∃ n, Decimal.numeric 20 10 text = some n ∧ p.value = (n : ℚ) / 10 ^ 10 ∧ n ≤ 10 ^ 10) ∧
    (∀ amount months mode, mode = Finance.taxExclusive ∨ mode = Finance.taxInclusive →
      ((∃ cost, Finance.exactCost amount months mode (some (raw.cell .taxRate)) = .ok cost) ↔
        p.value ≤ 1)) := by
  have hcell : Finance.parseDecimal (raw.cell .taxRate) 10 = some p.value := by
    simp [Finance.parseDecimal, hplain, hscale]
  generalize p.value = q at hcell hsign ⊢
  obtain ⟨u, rfl⟩ := Finance.parseDecimal_units hcell hsign
  have hpow : (0 : ℚ) < 10 ^ 10 := by positivity
  have hle : (u : ℚ) / 10 ^ 10 ≤ 1 ↔ u ≤ 10 ^ 10 := by
    rw [div_le_one hpow]
    exact_mod_cast Iff.rfl
  have htext : Finance.decimalString 10 ((u : ℚ) / 10 ^ 10) = Decimal.fixed 10 u := by
    rw [Finance.decimalString, Decimal.floatString, if_neg (not_lt.mpr hsign), Decimal.units_div]
  have hbound : lit "1.0000000000" < Decimal.fixed 10 u ↔ ¬ u ≤ 10 ^ 10 := by
    rw [not_le, ← Decimal.fixed_one_lt (by decide)]
    rfl
  have hrate : parseTaxRate (raw.cell .taxRate) = if u ≤ 10 ^ 10 then some (Decimal.fixed 10 u) else none := by
    simp only [parseTaxRate, hcell, Option.bind_eq_bind, Option.bind_some, if_neg (not_lt.mpr hsign), htext,
      hbound, ite_not]
  have hne : raw.cell .taxRate ≠ [] := by
    intro hempty
    rw [hempty] at hcell
    cases hcell
  have hstored : (normalizeRow lib raw).1.taxRate = parseTaxRate (raw.cell .taxRate) := by
    show (optionalCell parseTaxRate (raw.cell .taxRate)).1 = _
    rw [optionalCell, if_neg hne]
  have hnone : parseTaxRate (raw.cell .taxRate) = none ↔ ¬ u ≤ 10 ^ 10 := by
    rw [hrate]
    split_ifs with hu
    · exact iff_of_false not_false (not_not.mpr hu)
    · exact iff_of_true rfl hu
  rw [invalidTaxRate_iff, hstored, hle]
  refine ⟨by rw [hnone, and_iff_right hne, not_not],
    by rw [Option.isSome_iff_ne_none, ne_eq, hnone, not_not], ?_, ?_⟩
  · intro text hmem
    rw [hrate] at hmem
    split_ifs at hmem with hu
    · cases hmem
      refine ⟨?_, u, Decimal.numeric_fixed (by decide) (hu.trans_lt (by decide)), rfl, hu⟩
      rw [← htext, Finance.parseDecimal_decimalString (by decide) hsign, Decimal.rounded, Decimal.units_div]
    · cases hmem
  · intro amount months mode hmode
    have hmodes : mode ≠ Finance.taxUnknown ∧ mode ≠ Finance.taxExempt ∧
        ¬ (mode ≠ Finance.taxExclusive ∧ mode ≠ Finance.taxInclusive) := by
      rcases hmode with rfl | rfl <;> decide
    rw [Finance.exactCost, if_neg hmodes.1, if_neg hmodes.2.1, if_neg hmodes.2.2, hcell]
    by_cases hu : u ≤ 10 ^ 10
    · rw [Option.filter_some_pos (by simpa using ⟨hsign, hle.mpr hu⟩)]
      exact iff_of_true ⟨_, rfl⟩ hu
    · rw [Option.filter_some_neg (by simpa using fun _ => not_le.mp (mt hle.mp hu))]
      exact iff_of_false (by simp) hu

/-- Seven percent, written with leading zeros. -/
theorem sheet_tax_rate_exact_padded :
    ∃ raw : RawValues, raw.cell .taxRate = lit "00.07" ∧
      lit "INVALID_TAX_RATE" ∉ (normalizeRow sampleLibrary raw).2 := by
  let raw : RawValues := fun field => if field = .taxRate then some (lit "00.07") else none
  have hplain : Decimal.plain? (trimSpace (raw.cell .taxRate)) = some ⟨false, lit "00", lit "07"⟩ := by
    decide +kernel
  exact ⟨raw, rfl, (sheet_tax_rate_exact sampleLibrary raw hplain (by decide) (by decide +kernel)).1.mpr
    (by decide +kernel)⟩

/-! ### Duplicates -/

/-- Lines that name one domain: every row of theirs is refused. -/
def DuplicatesInvalid (lib : Library) (indexes : Indexes) (lines : List (List GoString))
    (rows : List ImportRow) : Prop :=
  ∀ name, 2 ≤ lines.countP (fun cells => lineDomain lib indexes cells = some name) →
    ∀ (i : Nat) (cells : List GoString) (row : ImportRow), lines[i]? = some cells →
      lineDomain lib indexes cells = some name → rows[i]? = some row → row.valid = false ∧ row.action = .invalid

section

variable {lib : Library} {snapshot : Snapshot} {configured : Semantic → GoString}
  {headers : List GoString} {lines : List (List GoString)} {rows : List ImportRow} {indexes : Indexes}

theorem parseRows_eq (hvalues : snapshot.values = headers :: lines) :
    parseRows lib snapshot configured =
      (resolveMapping lib Semantic.all headers configured).map (fun indexes =>
        ((parseLines lib indexes lines).map (markDuplicate (parseLines lib indexes lines)), indexes)) := by
  rw [parseRows, hvalues]
  dsimp only
  cases resolveMapping lib Semantic.all headers configured <;> rfl

theorem rawValues_parseRow (i : Nat) (cells : List GoString) :
    (parseRow lib indexes i cells).rawValues = rawValues indexes cells := by
  simp only [parseRow]
  split <;> rfl

theorem rawValues_markDuplicate (all : List ImportRow) (row : ImportRow) :
    (markDuplicate all row).rawValues = row.rawValues := by
  unfold markDuplicate
  split
  · rfl
  · split <;> rfl

/-- The row of a line. -/
theorem getElem?_rows {i : Nat} {row : ImportRow} :
    ((parseLines lib indexes lines).map (markDuplicate (parseLines lib indexes lines)))[i]? = some row ↔
      ∃ cells, lines[i]? = some cells ∧
        markDuplicate (parseLines lib indexes lines) (parseRow lib indexes i cells) = row := by
  simp [parseLines, List.getElem?_mapIdx, Option.map_eq_some_iff]

/-- **Duplicates.** There is one row for each line, in order. Rows of one domain are
    all refused unless exactly one of them is valid otherwise. -/
theorem duplicates_rejected_iff (hvalues : snapshot.values = headers :: lines)
    (h : parseRows lib snapshot configured = .ok (rows, indexes)) :
    rows.map ImportRow.rowNumber = (List.range lines.length).map (fun i : Nat => (i : Int) + 2) ∧
    rows.map ImportRow.rawValues = lines.map (rawValues indexes) ∧
    (DuplicatesInvalid lib indexes lines rows ↔
      ∀ name, 2 ≤ lines.countP (fun cells => lineDomain lib indexes cells = some name) →
        lines.countP (fun cells => cleanDomain lib indexes cells = some name) ≠ 1) := by
  have hparsed := parsedRows_of_ok h
  have hrows : rows =
      (parseLines lib indexes lines).map (markDuplicate (parseLines lib indexes lines)) := by
    rw [parseRows_eq hvalues] at h
    cases hmapping : resolveMapping lib Semantic.all headers configured with
    | error e =>
      rw [hmapping] at h
      cases h
    | ok mapped =>
      rw [hmapping] at h
      cases h
      rfl
  have hclean : ∀ {cells name}, cleanDomain lib indexes cells = some name →
      lineDomain lib indexes cells = some name := by
    intro cells name hname
    unfold cleanDomain at hname
    split_ifs at hname
    exact hname
  have hdomain : ∀ {i : Nat} {cells : List GoString} {row : ImportRow} {name : GoString},
      lines[i]? = some cells → rows[i]? = some row → row.validDomain = some name →
      lineDomain lib indexes cells = some name := by
    intro i cells row name hline hrow hname
    rw [hrows, getElem?_rows] at hrow
    obtain ⟨cells', hline', rfl⟩ := hrow
    rw [Option.some.inj (hline.symm.trans hline')]
    exact hclean (validDomain_parseRow i ▸ (validDomain_markDuplicate.mp hname).1)
  refine ⟨by simpa [hvalues] using hparsed.numbers, ?_, ?_, ?_⟩
  · rw [hrows]
    apply List.ext_getElem
    · simp [parseLines]
    · intro i _ _
      simp [parseLines, rawValues_markDuplicate, rawValues_parseRow]
  · intro hinvalid name hseveral hone
    obtain ⟨row, hmem, hname⟩ := (exists_validDomain_iff lib indexes lines name).mpr hone
    rw [← hrows] at hmem
    obtain ⟨i, hi⟩ := List.mem_iff_getElem?.mp hmem
    obtain ⟨cells, hline, -⟩ := getElem?_rows.mp (hrows ▸ hi)
    have hfalse := (hinvalid name hseveral i cells row hline (hdomain hline hi hname) hi).1
    simp [ImportRow.validDomain, hfalse] at hname
  · intro hcount name hseveral i cells row hline hname hi
    have hmem := List.mem_of_getElem? hi
    have hrow := hparsed.parsed row hmem
    have hinvalid : row.valid = false := by
      by_contra hvalid
      rw [Bool.not_eq_false] at hvalid
      obtain ⟨v, hv, -⟩ := hrow.valid hvalid
      have hown : row.validDomain = some v.domain := by simp [ImportRow.validDomain, hvalid, hv]
      rw [hdomain hline hi hown] at hname
      refine hcount name hseveral ((exists_validDomain_iff lib indexes lines name).mp ⟨row, ?_, ?_⟩)
      · exact hrows ▸ hmem
      · exact hown.trans hname
    exact ⟨hinvalid, hrow.invalid hinvalid⟩

end

/-- Two spellings of one domain: both rows are refused. -/
theorem duplicates_rejected_spellings :
    ∃ rows, parseRows sampleLibrary
        (sampleSnapshot [["Domain"], ["example.com"], ["Example.COM."]]) domainMapping =
          .ok (rows, domainColumn) ∧
      DuplicatesInvalid sampleLibrary domainColumn [[lit "example.com"], [lit "Example.COM."]] rows := by
  have hvalues : (sampleSnapshot [["Domain"], ["example.com"], ["Example.COM."]]).values =
      [lit "Domain"] :: [[lit "example.com"], [lit "Example.COM."]] := rfl
  have hrows : parseRows sampleLibrary
      (sampleSnapshot [["Domain"], ["example.com"], ["Example.COM."]]) domainMapping = _ :=
    parseRows_eq hvalues
  rw [resolveMapping_domainColumn, Except.map] at hrows
  refine ⟨_, hrows, (duplicates_rejected_iff hvalues hrows).2.2.mpr ?_⟩
  intro name hseveral hone
  generalize hlines : [[lit "example.com"], [lit "Example.COM."]] = lines at hseveral hone
  have hsame : lines.map (cleanDomain sampleLibrary domainColumn) =
      lines.map (lineDomain sampleLibrary domainColumn) := by
    rw [← hlines]
    decide +kernel
  have hcount := congrArg (List.countP (fun d => decide (d = some name))) hsame
  simp only [List.countP_map, Function.comp_def, hone] at hcount
  rw [← hcount] at hseveral
  exact absurd hseveral (by decide)

/-- The bad price of one row keeps the other one valid. -/
theorem duplicate_of_bad_row_kept :
    ∃ rows indexes, parseRows sampleLibrary (sampleSnapshot [["Domain", "Price", "Currency"],
        ["example.com", "12.5 THB", "THB"], ["Example.com", "12.5", "THB"]]) priceMapping =
          .ok (rows, indexes) ∧
      rows.map ImportRow.action = [.invalid, .unchanged] ∧
      (sampleLibrary.names? (lit "Example.com")).map Normalized.ascii = some (lit "example.com") := by
  have hsome : ((parseRows sampleLibrary (sampleSnapshot [["Domain", "Price", "Currency"],
      ["example.com", "12.5 THB", "THB"], ["Example.com", "12.5", "THB"]]) priceMapping).toOption.any
        (fun result => result.1.map ImportRow.action = [.invalid, .unchanged])) = true := by
    decide +kernel
  obtain ⟨⟨rows, indexes⟩, hrows, hactions⟩ := exists_ok_of_any hsome
  exact ⟨rows, indexes, hrows, of_decide_eq_true hactions, by decide +kernel⟩

/-! ### Columns -/

/-- No column stands for two fields, and a saved header is found in one column. -/
structure MappingSound (lib : Library) (headers : List GoString) (configured : Semantic → GoString)
    (indexes : Indexes) : Prop where
  injective : ∀ f g i, indexes f = some i → indexes g = some i → f = g
  saved : ∀ f, trimSpace (configured f) ≠ [] → ∃ i, indexes f = some i ∧
    ∀ j, j ∈ columnsNamed lib headers (normalizeHeader lib (trimSpace (configured f))) ↔ j = i

/-- A header of the sheet that both fields are looked for under. -/
def SharedHeader (lib : Library) (headers : List GoString) (configured : Semantic → GoString)
    (f g : Semantic) : Prop :=
  ∃ name, (∃ c ∈ candidates configured f, normalizeHeader lib c = name) ∧
    (∃ c ∈ candidates configured g, normalizeHeader lib c = name) ∧ columnsNamed lib headers name ≠ []

section

variable {lib : Library} {headers : List GoString} {configured : Semantic → GoString}
  {indexes : Indexes} {f g : Semantic} {i : Nat}

theorem mem_uniqueInts {values : List Nat} : i ∈ uniqueInts values ↔ i ∈ values := by
  have hfold : ∀ acc, i ∈ values.foldl (fun result value => if value ∈ result then result
      else result ++ [value]) acc ↔ i ∈ acc ∨ i ∈ values := by
    induction values with
    | nil => simp
    | cons value values ih =>
      intro acc
      rw [List.foldl_cons, ih, List.mem_cons]
      split_ifs with hmem
      · constructor
        · rintro (h | h) <;> simp [h]
        · rintro (h | rfl | h) <;> simp [*]
      · simp [or_assoc]
  simpa [uniqueInts] using hfold []

theorem mem_matchingColumns : i ∈ matchingColumns lib headers configured f ↔
    ∃ c ∈ candidates configured f, i ∈ columnsNamed lib headers (normalizeHeader lib c) := by
  simp [matchingColumns, mem_uniqueInts, List.mem_flatMap]

theorem resolveMapping_eq_ok {order : List Semantic} :
    resolveMapping lib order headers configured = .ok indexes ↔
      (∀ f ∈ order, (matchingColumns lib headers configured f).length ≤ 1) ∧
      indexes = (fun f => (matchingColumns lib headers configured f).head?) ∧
      (indexes .domain).isSome = true := by
  have hnone : order.find? (fun f => 1 < (matchingColumns lib headers configured f).length) = none ↔
      ∀ f ∈ order, (matchingColumns lib headers configured f).length ≤ 1 := by
    simp [List.find?_eq_none]
  unfold resolveMapping
  split
  · rename_i f hfound
    refine iff_of_false nofun ?_
    rintro ⟨hfew, -, -⟩
    rw [hnone.mpr hfew] at hfound
    cases hfound
  · rename_i hfound
    dsimp only
    split_ifs with hdomain
    · refine iff_of_false nofun ?_
      rintro ⟨-, rfl, hsome⟩
      rw [Option.isNone_iff_eq_none] at hdomain
      simp [hdomain] at hsome
    · rw [Except.ok.injEq]
      constructor
      · rintro rfl
        exact ⟨hnone.mp hfound, rfl, by simpa [Option.isSome_iff_ne_none] using hdomain⟩
      · rintro ⟨-, rfl, -⟩
        rfl

/-- The column of a field is the only one that matches it. -/
theorem indexes_iff (h : resolveMapping lib Semantic.all headers configured = .ok indexes) :
    indexes f = some i ↔ i ∈ matchingColumns lib headers configured f := by
  obtain ⟨hfew, rfl, -⟩ := resolveMapping_eq_ok.mp h
  have hfew := hfew f (by cases f <;> decide)
  dsimp only
  cases hcolumns : matchingColumns lib headers configured f with
  | nil => simp
  | cons j rest =>
    rw [hcolumns, List.length_cons] at hfew
    obtain rfl : rest = [] := List.length_eq_zero_iff.mp (by omega)
    simp [eq_comm]

theorem name_of_mem {name : List Char} (h : i ∈ columnsNamed lib headers name) :
    normalizeHeader lib (headers.getD i []) = name := by
  unfold columnsNamed at h
  split_ifs at h
  · cases h
  · exact of_decide_eq_true (List.mem_filter.mp h).2

/-- **Column mapping.** The mapping does not depend on the order of the fields. It is
    sound unless two fields are looked for under one header of the sheet, or the
    sheet has no column with a saved header. -/
theorem mapping_sound_iff (h : resolveMapping lib Semantic.all headers configured = .ok indexes) :
    (∀ order, order.Perm Semantic.all → resolveMapping lib order headers configured = .ok indexes) ∧
    (MappingSound lib headers configured indexes ↔
      (∀ f g, f ≠ g → ¬ SharedHeader lib headers configured f g) ∧
      ∀ f, trimSpace (configured f) ≠ [] →
        columnsNamed lib headers (normalizeHeader lib (trimSpace (configured f))) ≠ []) := by
  have hsaved : ∀ f, trimSpace (configured f) ≠ [] → ∀ i, indexes f = some i ↔
      i ∈ columnsNamed lib headers (normalizeHeader lib (trimSpace (configured f))) := by
    intro f hf i
    rw [indexes_iff h, mem_matchingColumns, candidates, if_pos hf]
    simp
  refine ⟨?_, ?_, ?_⟩
  · intro order hperm
    obtain ⟨hfew, hindexes, hdomain⟩ := resolveMapping_eq_ok.mp h
    exact resolveMapping_eq_ok.mpr ⟨fun f hf => hfew f (hperm.mem_iff.mp hf), hindexes, hdomain⟩
  · rintro ⟨hinjective, hcolumn⟩
    refine ⟨?_, ?_⟩
    · rintro f g hne ⟨name, ⟨c, hc, rfl⟩, ⟨c', hc', hsame⟩, hname⟩
      obtain ⟨i, hi⟩ := List.exists_mem_of_ne_nil _ hname
      have hi' : i ∈ columnsNamed lib headers (normalizeHeader lib c') := by rwa [hsame]
      refine hne (hinjective f g i ?_ ?_)
      · exact (indexes_iff h).mpr (mem_matchingColumns.mpr ⟨c, hc, hi⟩)
      · exact (indexes_iff h).mpr (mem_matchingColumns.mpr ⟨c', hc', hi'⟩)
    · intro f hf
      obtain ⟨i, -, hi⟩ := hcolumn f hf
      exact List.ne_nil_of_mem ((hi i).mpr rfl)
  · rintro ⟨hshared, hoccurs⟩
    refine ⟨?_, ?_⟩
    · intro f g i hf hg
      by_contra hne
      obtain ⟨c, hc, hi⟩ := mem_matchingColumns.mp ((indexes_iff h).mp hf)
      obtain ⟨c', hc', hi'⟩ := mem_matchingColumns.mp ((indexes_iff h).mp hg)
      have hsame : normalizeHeader lib c' = normalizeHeader lib c :=
        (name_of_mem hi').symm.trans (name_of_mem hi)
      exact hshared f g hne ⟨_, ⟨c, hc, rfl⟩, ⟨c', hc', hsame⟩, List.ne_nil_of_mem hi⟩
    · intro f hf
      obtain ⟨i, hi⟩ := List.exists_mem_of_ne_nil _ (hoccurs f hf)
      have hcolumn := (hsaved f hf i).mpr hi
      refine ⟨i, hcolumn, ?_⟩
      intro j
      rw [← hsaved f hf j, hcolumn, Option.some.injEq, eq_comm]

end

/-- The fields in the opposite order. -/
theorem mapping_sound_reversed : resolveMapping sampleLibrary Semantic.all.reverse [lit "Domain"]
    domainMapping = .ok domainColumn :=
  (mapping_sound_iff resolveMapping_domainColumn).1 _ (List.reverse_perm _)

/-- Both prices are saved under one header, and the header saved for the registrar is
    not in the sheet. -/
theorem one_column_for_two_prices :
    ∃ indexes, resolveMapping sampleLibrary Semantic.all [lit "Domain", lit "Price"]
        (sampleMapping [(.domain, "Domain"), (.purchasePrice, "Price"), (.renewalPrice, "Price"),
          (.registrar, "Provider")]) = .ok indexes ∧
      indexes .purchasePrice = some 1 ∧ indexes .renewalPrice = some 1 ∧ indexes .registrar = none := by
  have hsome : ((resolveMapping sampleLibrary Semantic.all [lit "Domain", lit "Price"]
      (sampleMapping [(.domain, "Domain"), (.purchasePrice, "Price"), (.renewalPrice, "Price"),
        (.registrar, "Provider")])).toOption.any (fun indexes => indexes .purchasePrice = some 1 &&
          indexes .renewalPrice = some 1 && indexes .registrar = none)) = true := by
    decide +kernel
  obtain ⟨indexes, hindexes, hsome⟩ := exists_ok_of_any hsome
  simp only [Bool.and_eq_true, decide_eq_true_eq, and_assoc] at hsome
  exact ⟨indexes, hindexes, hsome⟩

end DomainMonitor.Sheets
