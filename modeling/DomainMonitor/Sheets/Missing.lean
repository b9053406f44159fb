import DomainMonitor.Sheets.Preview

/-! # Which domains a preview reports missing

    A preview reports a domain of its source as missing unless a valid row names
    it. A line that names the domain but has another bad cell, or that names it
    twice, does not count: the domain is in the sheet and is reported missing
    (`missing_although_listed`). The two agree exactly when every domain of the
    source that some line names has one line whose cells are all valid
    (`listed_not_missing_iff`).
-/

namespace DomainMonitor.Sheets

open Utf8 Strings Inventory

/-! ### Lines -/

variable (lib : Library) (indexes : Indexes) (cells : List GoString) (lines : List (List GoString))

/-- The domain that the domain cell of a line normalizes to. -/
def lineDomain : Option GoString :=
  (lib.names? ((rawValues indexes cells).cell .domain)).map Normalized.ascii

/-- Every cell of the line passes its validation. -/
def cleanLine : Bool :=
  !allEmpty (rawValues indexes cells) && (normalizeRow lib (rawValues indexes cells)).2.isEmpty

/-- The domain of a line all of whose cells are valid. -/
def cleanDomain : Option GoString :=
  if cleanLine lib indexes cells then lineDomain lib indexes cells else none

section

variable {lib : Library} {indexes : Indexes} {cells : List GoString} {name : GoString}

theorem names_isSome_of_clean {raw : RawValues} (h : (normalizeRow lib raw).2 = []) :
    (lib.names? (raw.cell .domain)).isSome := by
  by_contra hnone
  rw [Option.not_isSome_iff_eq_none] at hnone
  simp [normalizeRow, hnone] at h

theorem domain_normalizeRow (raw : RawValues) :
    (normalizeRow lib raw).1.domain =
      ((lib.names? (raw.cell .domain)).map Normalized.ascii).getD [] := rfl

/-- What `parseRow` makes of a line. -/
theorem validDomain_parseRow (i : Nat) :
    (parseRow lib indexes i cells).validDomain = cleanDomain lib indexes cells := by
  unfold parseRow cleanDomain cleanLine lineDomain
  by_cases hempty : allEmpty (rawValues indexes cells) = true
  · simp [hempty, ImportRow.validDomain]
  · by_cases herrors : (normalizeRow lib (rawValues indexes cells)).2 = []
    · obtain ⟨names, hnames⟩ := Option.isSome_iff_exists.mp (names_isSome_of_clean herrors)
      simp [hempty, herrors, ImportRow.validDomain, domain_normalizeRow, hnames]
    · simp [hempty, herrors, ImportRow.validDomain]

theorem action_parseRow (i : Nat) : (parseRow lib indexes i cells).action ≠ .missing := by
  simp only [parseRow]
  split
  · simp
  · dsimp only
    split <;> simp

end

/-! ### Rows -/

theorem map_validDomain_parseLines :
    (parseLines lib indexes lines).map ImportRow.validDomain =
      lines.map (cleanDomain lib indexes) := by
  apply List.ext_getElem
  · simp [parseLines]
  · intro i _ _
    simp [parseLines, validDomain_parseRow]

/-- A row keeps its domain only when no other valid row names it. -/
theorem validDomain_markDuplicate {rows : List ImportRow} {row : ImportRow} {name : GoString} :
    (markDuplicate rows row).validDomain = some name ↔
      row.validDomain = some name ∧ rows.countP (fun other => other.validDomain = some name) < 2 := by
  unfold markDuplicate
  cases hrow : row.validDomain with
  | none => simp [hrow]
  | some own =>
    by_cases hcount : 2 ≤ rows.countP (fun other => other.validDomain = some own)
    · have hinvalid : ∀ r : ImportRow, r.valid = false → r.validDomain = none := by
        intro r hr
        simp [ImportRow.validDomain, hr]
      simp only [if_pos hcount, hinvalid, reduceCtorEq, Option.some.injEq, false_iff, not_and, not_lt]
      intro hname
      exact hname ▸ hcount
    · simp only [if_neg hcount, hrow, Option.some.injEq, iff_self_and]
      intro hname
      exact hname ▸ not_le.mp hcount

theorem action_matchRow {db : DB} {row : ImportRow} (h : row.action ≠ .missing) :
    (matchRow db row).action ≠ .missing := by
  unfold matchRow
  split
  · split
    · simp
    · dsimp only
      split <;> simp
  · exact h

theorem action_markDuplicate {rows : List ImportRow} {row : ImportRow} (h : row.action ≠ .missing) :
    (markDuplicate rows row).action ≠ .missing := by
  unfold markDuplicate
  split
  · exact h
  · split
    · simp
    · exact h

/-- Some row names a domain, after duplicates were refused, exactly when one clean
    line does. -/
theorem exists_validDomain_iff (name : GoString) :
    (∃ row ∈ (parseLines lib indexes lines).map (markDuplicate (parseLines lib indexes lines)),
      row.validDomain = some name) ↔
      lines.countP (fun cells => cleanDomain lib indexes cells = some name) = 1 := by
  have hcount : (parseLines lib indexes lines).countP (fun other => other.validDomain = some name) =
      lines.countP (fun cells => cleanDomain lib indexes cells = some name) := by
    have hmap := congrArg (List.countP (fun d => decide (d = some name)))
      (map_validDomain_parseLines lib indexes lines)
    rwa [List.countP_map, List.countP_map] at hmap
  have hpos : (∃ row ∈ parseLines lib indexes lines, row.validDomain = some name) ↔
      0 < lines.countP (fun cells => cleanDomain lib indexes cells = some name) := by
    rw [← hcount, List.countP_pos_iff]
    simp
  constructor
  · intro h
    obtain ⟨marked, hmem, hname⟩ := h
    obtain ⟨row, hrow, rfl⟩ := List.mem_map.mp hmem
    obtain ⟨hvalid, hfew⟩ := validDomain_markDuplicate.mp hname
    have hsome := hpos.mp ⟨row, hrow, hvalid⟩
    rw [hcount] at hfew
    omega
  · intro h
    obtain ⟨row, hrow, hvalid⟩ := hpos.mpr (by omega)
    refine ⟨_, List.mem_map_of_mem hrow, validDomain_markDuplicate.mpr ⟨hvalid, ?_⟩⟩
    rw [hcount]
    omega

/-! ### Missing rows -/

/-- The row reports a domain as missing. -/
def ImportRow.MissingFor (row : ImportRow) (name : GoString) : Prop :=
  row.action = .missing ∧ row.normalizedValues.map NormalizedRow.domain = some name

/-- The rows of a preview, when the header row can be mapped. -/
theorem previewRows_eq {lib : Library} {snapshot : Snapshot} {configured : Semantic → GoString}
    {headers : List GoString} {lines : List (List GoString)} {indexes : Indexes}
    (hvalues : snapshot.values = headers :: lines)
    (hmapping : resolveMapping lib Semantic.all headers configured = .ok indexes)
    (source : Source) (db : DB) :
    previewRows lib snapshot configured source db = .ok
      (let rows := (parseLines lib indexes lines).map (markDuplicate (parseLines lib indexes lines))
       rows.map (matchRow db) ++ (missingDomains db source rows).mapIdx
        (fun i current => missingRow (snapshot.values.length + 1 + i) current)) := by
  simp only [previewRows, parseRows, hvalues, hmapping]
  rfl

/-- A preview reports the domains of the source that no clean line names alone. -/
theorem exists_missing_iff (source : Source) (db : DB) (start : Nat) (name : GoString) :
    let parsed := parseLines lib indexes lines
    let rows := parsed.map (markDuplicate parsed)
    (∃ row ∈ rows.map (matchRow db) ++ (missingDomains db source rows).mapIdx
        (fun i current => missingRow (start + 1 + i) current), row.MissingFor name) ↔
      (∃ current ∈ currentDomains db, current.domain = name ∧ current.listedIn source) ∧
        lines.countP (fun cells => cleanDomain lib indexes cells = some name) ≠ 1 := by
  intro parsed rows
  rw [ne_eq, ← exists_validDomain_iff lib indexes lines name]
  constructor
  · intro h
    obtain ⟨row, hrow, hmissing, hname⟩ := h
    rcases List.mem_append.mp hrow with hrow | hrow
    · -- A row of the sheet is never a missing row.
      exfalso
      obtain ⟨marked, hmarked, rfl⟩ := List.mem_map.mp hrow
      obtain ⟨line, hline, rfl⟩ := List.mem_map.mp hmarked
      obtain ⟨i, hi, rfl⟩ := List.mem_mapIdx.mp hline
      exact action_matchRow (action_markDuplicate (action_parseRow i)) hmissing
    · obtain ⟨i, hi, rfl⟩ := List.mem_mapIdx.mp hrow
      have hmem := List.getElem_mem hi
      obtain ⟨hcurrent, hcond⟩ := List.mem_filter.mp hmem
      rw [Bool.and_eq_true, Bool.not_eq_true', List.any_eq_false] at hcond
      have hdomain : ((missingDomains db source rows)[i]).domain = name := Option.some.inj hname
      refine ⟨⟨_, hcurrent, hdomain, hcond.1⟩, ?_⟩
      intro hvalid
      obtain ⟨row, hrow, hvalid⟩ := hvalid
      exact hcond.2 row hrow (by rw [hvalid, hdomain]; simp)
  · intro h
    obtain ⟨⟨current, hcurrent, hdomain, hlisted⟩, hnone⟩ := h
    have hmem : current ∈ missingDomains db source rows := by
      refine List.mem_filter.mpr ⟨hcurrent, ?_⟩
      rw [Bool.and_eq_true, Bool.not_eq_true', List.any_eq_false]
      refine ⟨hlisted, fun row hrow hvalid => hnone ⟨row, hrow, ?_⟩⟩
      rw [← hdomain]
      simpa using hvalid
    obtain ⟨i, hi, hcurrent⟩ := List.getElem_of_mem hmem
    refine ⟨missingRow (start + 1 + i) current, List.mem_append_right _ ?_, rfl, ?_⟩
    · exact List.mem_mapIdx.mpr ⟨i, hi, by rw [hcurrent]⟩
    · rw [← hdomain]
      rfl

/-- **Listed domains are not missing**, for a snapshot whose header row can be
    mapped, exactly when every domain of the source that some line names has one
    line whose cells are all valid. -/
theorem listed_not_missing_iff (lib : Library) (snapshot : Snapshot)
    (configured : Semantic → GoString) (source : Source) (db : DB) (headers : List GoString)
    (lines : List (List GoString)) (indexes : Indexes)
    (hvalues : snapshot.values = headers :: lines)
    (hmapping : resolveMapping lib Semantic.all headers configured = .ok indexes) :
    ∃ rows, previewRows lib snapshot configured source db = .ok rows ∧
      ((∀ cells ∈ lines, ∀ name, lineDomain lib indexes cells = some name →
          ∀ row ∈ rows, ¬ row.MissingFor name) ↔
        ∀ cells ∈ lines, ∀ name, lineDomain lib indexes cells = some name →
          (∃ current ∈ currentDomains db, current.domain = name ∧ current.listedIn source) →
          lines.countP (fun cells => cleanDomain lib indexes cells = some name) = 1) := by
  refine ⟨_, previewRows_eq hvalues hmapping source db, ?_⟩
  refine forall₂_congr fun cells _ => forall₂_congr fun name _ => ?_
  have hmissing := exists_missing_iff lib indexes lines source db snapshot.values.length name
  constructor
  · intro h hlisted
    by_contra hcount
    obtain ⟨row, hrow, hfor⟩ := hmissing.mpr ⟨hlisted, hcount⟩
    exact h row hrow hfor
  · intro h row hrow hfor
    obtain ⟨hlisted, hcount⟩ := hmissing.mp ⟨row, hrow, hfor⟩
    exact hcount (h hlisted)

/-- The domain column alone. -/
def domainColumn : Indexes := fun field => if field = .domain then some 0 else none

def domainMapping : Semantic → GoString := sampleMapping [(.domain, "Domain")]

theorem resolveMapping_domainColumn : resolveMapping sampleLibrary Semantic.all [lit "Domain"] domainMapping =
    .ok domainColumn := by
  have hnone : Semantic.all.find? (fun field => 1 < (matchingColumns sampleLibrary [lit "Domain"]
      domainMapping field).length) = none := by decide +kernel
  have hindexes : (fun field => (matchingColumns sampleLibrary [lit "Domain"] domainMapping field).head?) =
      domainColumn := by
    funext field
    cases field <;> decide +kernel
  simp only [resolveMapping, hnone, hindexes]
  rfl

/-- A sheet that lists the sample domain and nothing else. -/
theorem listed_not_missing_sample :
    ∃ rows, previewRows sampleLibrary (sampleSnapshot [["Domain"], ["Example.com"]]) domainMapping
        sampleSource sampleDB = .ok rows ∧
      ∀ cells ∈ [[lit "Example.com"]], ∀ name,
        lineDomain sampleLibrary domainColumn cells = some name →
          ∀ row ∈ rows, ¬ row.MissingFor name := by
  obtain ⟨rows, hrows, hiff⟩ := listed_not_missing_iff sampleLibrary
    (sampleSnapshot [["Domain"], ["Example.com"]]) domainMapping sampleSource sampleDB
    [lit "Domain"] [[lit "Example.com"]] domainColumn rfl resolveMapping_domainColumn
  refine ⟨rows, hrows, hiff.mpr ?_⟩
  intro cells hcells name hname _
  rw [List.mem_singleton.mp hcells] at hname
  have hdomain : lineDomain sampleLibrary domainColumn [lit "Example.com"] = some (lit "example.com") := by
    decide +kernel
  rw [← Option.some.inj (hdomain.symm.trans hname)]
  decide +kernel

/-- A sheet that lists the sample domain with a price that is not a number. -/
def badPrice : Snapshot :=
  sampleSnapshot [["Domain", "Price", "Currency"], ["example.com", "12.5 THB", "THB"]]

def priceMapping : Semantic → GoString :=
  sampleMapping [(.domain, "Domain"), (.renewalPrice, "Price"), (.currency, "Currency")]

/-- A bad price in the row of a listed domain: the row is refused, and the domain
    is reported missing. -/
theorem missing_although_listed :
    ∃ rows, previewRows sampleLibrary badPrice priceMapping sampleSource sampleDB = .ok rows ∧
      (sampleLibrary.names? (lit "example.com")).map Normalized.ascii = some (lit "example.com") ∧
      ∃ row ∈ rows, row.MissingFor (lit "example.com") := by
  have hsome : ((previewRows sampleLibrary badPrice priceMapping sampleSource sampleDB).toOption.any
      (fun rows => rows.any (fun row => row.action = .missing &&
        row.normalizedValues.map NormalizedRow.domain = some (lit "example.com")))) = true := by
    decide +kernel
  obtain ⟨rows, hrows, hsome⟩ := exists_ok_of_any hsome
  obtain ⟨row, hrow, hmissing⟩ := List.any_eq_true.mp hsome
  rw [Bool.and_eq_true, decide_eq_true_eq, decide_eq_true_eq] at hmissing
  exact ⟨rows, hrows, by decide +kernel, row, hrow, hmissing⟩

end DomainMonitor.Sheets
