import DomainMonitor.Finance.Decimal
import DomainMonitor.Inventory.Service

/-! # Sheet rows (`internal/sheets/model.go`)

    From the cells of a sheet to import rows: `resolveMapping` finds the column of
    each field by its header, `normalizeRow` validates the cells of one row, and
    `ParseRows` puts the two together and refuses rows that name one domain twice.

    Where the source ranges over a Go map, the fields are taken in the order of
    `Semantic.all`; the order shows in the order of a row's error codes, and in
    which ambiguous field an error names.
-/

namespace DomainMonitor.Sheets

open Utf8 Strings Inventory

/-! ### Fields and headers -/

/-- The keys of `headerAliases`. -/
inductive Semantic where
  | domain | registrar | purchasePrice | renewalPrice | currency | taxRate
  | purchaseDate | expirationDate | businessPriority | notes | active
  deriving DecidableEq, Repr

def Semantic.all : List Semantic :=
  [.domain, .registrar, .purchasePrice, .renewalPrice, .currency, .taxRate,
    .purchaseDate, .expirationDate, .businessPriority, .notes, .active]

def Semantic.name : Semantic → String
  | .domain => "domain"
  | .registrar => "registrar"
  | .purchasePrice => "purchase_price"
  | .renewalPrice => "renewal_price"
  | .currency => "currency"
  | .taxRate => "tax_rate"
  | .purchaseDate => "purchase_date"
  | .expirationDate => "expiration_date"
  | .businessPriority => "business_priority"
  | .notes => "notes"
  | .active => "active"

def headerAliases : Semantic → List String
  | .domain => ["domain", "domain_name", "โดเมน"]
  | .registrar => ["registrar", "provider", "domain_provider", "ผู้ให้บริการ"]
  | .purchasePrice => ["purchase_price", "buy_price", "ราคาซื้อ"]
  | .renewalPrice => ["renewal_price", "renew_price", "ราคาต่ออายุ"]
  | .currency => ["currency", "สกุลเงิน"]
  | .taxRate => ["tax_rate", "vat_rate", "อัตราภาษี"]
  | .purchaseDate => ["purchase_date", "วันที่ซื้อ"]
  | .expirationDate => ["expiration_date", "expiry_date", "expires_at", "วันหมดอายุ"]
  | .businessPriority => ["business_priority", "priority", "ความสำคัญ"]
  | .notes => ["notes", "note", "หมายเหตุ"]
  | .active => ["active", "enabled", "ใช้งาน"]

/-- `Snapshot`. -/
structure Snapshot where
  revision : GoString
  values : List (List GoString)

inductive Error where
  | validation (message : GoString)
  | notFound
  | conflict
  /-- A statement the database refused. -/
  | database
  deriving DecidableEq, Repr

/-- What the parser takes from elsewhere: the domain normalizer with its tables,
    and `unicode.IsDigit`. -/
structure Library extends Inventory.Library where
  isDigit : Char → Bool

def Library.tables (lib : Library) : Strings.Tables := lib.names.tables

variable (lib : Library) (raw : RawValues) (value : GoString) (indexes : Indexes)

/-- One step of the loop of `normalizeHeader`: the text so far, and whether it ends
    in an underscore that stands for a separator. -/
def headerStep (state : List Char × Bool) (c : Char) : List Char × Bool :=
  if lib.tables.isLetter c || lib.isDigit c then (state.1 ++ [c], false)
  else if !state.2 && !state.1.isEmpty then (state.1 ++ ['_'], true)
  else state

/-- `strings.Trim(s, "_")`. -/
def trimUnderscores (s : List Char) : List Char :=
  ((s.dropWhile (· = '_')).reverse.dropWhile (· = '_')).reverse

/-- `normalizeHeader`. -/
def normalizeHeader : List Char :=
  let characters := (decode (toLower lib.tables (trimSpace value))).map Rune.value
  trimUnderscores (characters.foldl (headerStep lib) ([], false)).1

/-- `byNormalized[name]`: the columns with that header; blank headers are not
    entered. -/
def columnsNamed (headers : List GoString) (name : List Char) : List Nat :=
  if name = [] then []
  else (List.range headers.length).filter (fun i => normalizeHeader lib (headers.getD i []) = name)

/-- `uniqueInts`. -/
def uniqueInts (values : List Nat) : List Nat :=
  values.foldl (fun result value => if value ∈ result then result else result ++ [value]) []

/-- The headers a field is looked for under: the saved one, or its aliases. -/
def candidates (configured : Semantic → GoString) (field : Semantic) : List GoString :=
  let wanted := trimSpace (configured field)
  if wanted ≠ [] then [wanted] else (headerAliases field).map lit

/-- The columns that match a field. -/
def matchingColumns (headers : List GoString) (configured : Semantic → GoString) (field : Semantic) :
    List Nat :=
  uniqueInts ((candidates configured field).flatMap
    (fun candidate => columnsNamed lib headers (normalizeHeader lib candidate)))

/-- `indexes`: the column of each field that has one. -/
abbrev Indexes : Type := Semantic → Option Nat

/-- `resolveMapping`, with the fields in the order `order`. -/
def resolveMapping (order : List Semantic) (headers : List GoString)
    (configured : Semantic → GoString) : Except Error Indexes :=
  match order.find? (fun field => 1 < (matchingColumns lib headers configured field).length) with
  | some field => .error (.validation (lit ("ambiguous column mapping for " ++ field.name)))
  | none =>
    let indexes : Indexes := fun field => (matchingColumns lib headers configured field).head?
    if (indexes .domain).isNone then .error (.validation (lit "required column domain is missing"))
    else .ok indexes

/-! ### Cells -/

/-- `raw`: the trimmed cells of the mapped columns. -/
abbrev RawValues : Type := Semantic → Option GoString

/-- `raw[field]`; the empty string when the field is not mapped. -/
def RawValues.cell (field : Semantic) : GoString := (raw field).getD []

def rawValues (cells : List GoString) : RawValues :=
  fun field => (indexes field).map (fun index => trimSpace (cells.getD index []))

def allEmpty : Bool :=
  Semantic.all.all (fun field => trimSpace (raw.cell field) = [])

structure NormalizedRow where
  domain : GoString
  domainUnicode : GoString
  registrableDomain : GoString
  registrar : GoString
  purchasePrice : Option GoString
  renewalPrice : Option GoString
  currency : GoString
  taxRate : Option GoString
  purchaseDate : Option GoString
  expirationDate : Option GoString
  businessPriority : GoString
  notes : GoString
  active : Bool
  deriving DecidableEq, Repr

/-- `parseBool`. -/
def parseBool : Option Bool :=
  let word := toLower lib.tables (trimSpace value)
  if word ∈ ["true", "1", "yes", "y", "active", "ใช่", "ใช้งาน"].map lit then some true
  else if word ∈ ["false", "0", "no", "n", "inactive", "ไม่", "ไม่ใช้งาน"].map lit then some false
  else none

/-- `parseDate`: the day in UTC. -/
def parseDate : Option Int :=
  (TimeParse.date? (trimSpace value)).or (TimeParse.timestampDate? (trimSpace value))

/-- An optional cell: its value, and whether it is invalid. An empty cell has no
    value. -/
def optionalCell {α : Type} (parse : GoString → Option α) (cell : GoString) : Option α × Bool :=
  if cell = [] then (none, false) else (parse cell, (parse cell).isNone)

/-- A price, with six decimals. -/
def parsePrice (cell : GoString) : Option GoString := do
  let value ← Finance.parseDecimal cell 6
  if value < 0 then none else some (Finance.decimalString 6 value)

/-- A tax rate, with ten decimals; the bound is compared as text. -/
def parseTaxRate (cell : GoString) : Option GoString := do
  let value ← Finance.parseDecimal cell 10
  if value < 0 then none
  else if lit "1.0000000000" < Finance.decimalString 10 value then none
  else some (Finance.decimalString 10 value)

/-- A date, as `2006-01-02`. -/
def parseDateCell (cell : GoString) : Option GoString := (parseDate cell).map Rfc3339.dateText

/-- `normalizer.Normalize(raw["domain"])`. -/
def Library.normalize (lib : Library) (cell : GoString) : Except ValidationError Normalized :=
  Inventory.normalize lib.names lib.allowUnknownTLD cell

/-- The names a domain cell normalizes to; empty ones when it does not. -/
def Library.names? (cell : GoString) : Option Normalized :=
  match lib.normalize cell with
  | .ok normalized => some normalized
  | .error _ => none

/-- `normalizeRow`. -/
def normalizeRow : NormalizedRow × List GoString :=
  let names := lib.names? (raw.cell .domain)
  let written := toLower lib.tables (trimSpace (raw.cell .businessPriority))
  let priority := if written = [] then lit "medium" else written
  let (active, activeBad) := optionalCell (parseBool lib) (raw.cell .active)
  let (purchasePrice, purchasePriceBad) := optionalCell parsePrice (raw.cell .purchasePrice)
  let (renewalPrice, renewalPriceBad) := optionalCell parsePrice (raw.cell .renewalPrice)
  let currency := toUpper lib.toUpper (trimSpace (raw.cell .currency))
  let (taxRate, taxRateBad) := optionalCell parseTaxRate (raw.cell .taxRate)
  let (purchaseDate, purchaseDateBad) := optionalCell parseDateCell (raw.cell .purchaseDate)
  let (expirationDate, expirationDateBad) := optionalCell parseDateCell (raw.cell .expirationDate)
  let failures : List (Bool × String) :=
    [(names.isNone, "INVALID_DOMAIN"),
      ((BusinessPriority.ofText? priority).isNone, "INVALID_BUSINESS_PRIORITY"),
      (activeBad, "INVALID_ACTIVE"),
      (purchasePriceBad, "INVALID_PURCHASE_PRICE"),
      (renewalPriceBad, "INVALID_RENEWAL_PRICE"),
      ((purchasePrice.isSome || renewalPrice.isSome) && currency.length ≠ 3,
        "CURRENCY_REQUIRED_FOR_PRICE"),
      (taxRateBad, "INVALID_TAX_RATE"),
      (purchaseDateBad, "INVALID_PURCHASE_DATE"),
      (expirationDateBad, "INVALID_EXPIRATION_DATE")]
  ({ domain := (names.map Normalized.ascii).getD []
     domainUnicode := (names.map Normalized.unicode).getD []
     registrableDomain := (names.map Normalized.registrableDomain).getD []
     registrar := trimSpace (raw.cell .registrar)
     purchasePrice := purchasePrice
     renewalPrice := renewalPrice
     currency := currency
     taxRate := taxRate
     purchaseDate := purchaseDate
     expirationDate := expirationDate
     businessPriority := priority
     notes := trimSpace (raw.cell .notes)
     active := active.getD true },
    (failures.filter (·.1)).map (fun failure => lit failure.2))

/-! ### Rows -/

inductive Action where
  | add | modify | unchanged | missing | invalid
  deriving DecidableEq, Repr

/-- A difference a preview shows. -/
structure Change where
  field : String
  before : Option GoString
  after : Option GoString
  deriving DecidableEq, Repr

structure ImportRow where
  rowNumber : Int
  matchedDomainID : Option UUID
  action : Action
  valid : Bool
  rawValues : RawValues
  normalizedValues : Option NormalizedRow
  validationErrors : List GoString
  diff : List Change

/-- The row of one line of cells, before duplicates are looked for. -/
def parseRow (rowIndex : Nat) (cells : List GoString) : ImportRow :=
  let raw := rawValues indexes cells
  let row : ImportRow :=
    { rowNumber := rowIndex + 2
      matchedDomainID := none
      action := .invalid
      valid := false
      rawValues := raw
      normalizedValues := none
      validationErrors := []
      diff := [] }
  if allEmpty raw then { row with validationErrors := [lit "EMPTY_ROW"] }
  else
    let (normalized, errors) := normalizeRow lib raw
    { row with
      normalizedValues := some normalized
      validationErrors := errors
      valid := errors.isEmpty
      action := if errors.isEmpty then .unchanged else .invalid }

/-- The domain of a valid row. -/
def ImportRow.validDomain (row : ImportRow) : Option GoString :=
  if row.valid then row.normalizedValues.map NormalizedRow.domain else none

/-- A valid row whose domain another valid row names, too, becomes invalid. -/
def markDuplicate (rows : List ImportRow) (row : ImportRow) : ImportRow :=
  match row.validDomain with
  | none => row
  | some name =>
    if 2 ≤ rows.countP (fun other => other.validDomain = some name) then
      { row with
        valid := false
        action := .invalid
        validationErrors := row.validationErrors ++ [lit "DUPLICATE_DOMAIN:" ++ name] }
    else row

/-- The rows of the lines below the header, before duplicates are looked for. -/
def parseLines (lines : List (List GoString)) : List ImportRow :=
  lines.mapIdx (parseRow lib indexes)

/-- `ParseRows`. -/
def parseRows (snapshot : Snapshot) (configured : Semantic → GoString) :
    Except Error (List ImportRow × Indexes) :=
  match snapshot.values with
  | [] => .error (.validation (lit "sheet has no header row"))
  | headers :: lines => do
    let indexes ← resolveMapping lib Semantic.all headers configured
    let rows := parseLines lib indexes lines
    .ok (rows.map (markDuplicate rows), indexes)

end DomainMonitor.Sheets
