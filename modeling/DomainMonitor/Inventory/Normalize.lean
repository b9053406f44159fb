import DomainMonitor.Basic
import DomainMonitor.Lib.NetIP
import DomainMonitor.Lib.URL

/-! # Domain names (`internal/domain/normalize.go`)

    `Normalizer.Normalize`: from what a user typed, a host name or a URL, to the
    canonical ASCII name. The IDNA tables and the public suffix list are the
    library's.
-/

namespace DomainMonitor.Inventory

open Utf8 Strings

/-- `ValidationError`. -/
structure ValidationError where
  field : GoString
  reasonCode : GoString
  reason : GoString
  deriving DecidableEq, Repr

structure Normalized where
  originalInput : GoString
  ascii : GoString
  unicode : GoString
  registrableDomain : GoString
  deriving DecidableEq, Repr

/-- What other packages decide: `unicode`, `net/url`, `idna.Lookup` and
    `publicsuffix`. -/
structure Names where
  tables : Strings.Tables
  url : URL.Env
  toASCII : GoString → Option GoString
  toUnicode : GoString → Option GoString
  /-- The public suffix of a name, and whether it is managed by ICANN. -/
  publicSuffix : GoString → GoString × Bool
  effectiveTLDPlusOne : GoString → Option GoString

/-- `unicode.IsControl`. -/
def isControl (c : Char) : Bool := c.toNat < 32 || (127 ≤ c.toNat && c.toNat < 160)

def containsText (sub s : GoString) : Bool := s.tails.any (fun t => sub.isPrefixOf t)

/-- `strings.TrimSuffix(s, ".")`. -/
def trimDot (s : GoString) : GoString := if s.getLast? = some 46 then s.dropLast else s

def invalidDomain (reason : String) : ValidationError where
  field := lit "domain"
  reasonCode := lit "DOMAIN_INVALID"
  reason := lit reason

/-- `extractHost`; the error is the reason it gives. -/
def extractHost (lib : Names) (input : GoString) : Except String GoString :=
  let raw := if containsText (lit "://") input then input else lit "https://" ++ input
  match URL.parse lib.url raw with
  | .error _ => .error "cannot parse input"
  | .ok parsed =>
    if parsed.scheme ≠ lit "http" ∧ parsed.scheme ≠ lit "https" then
      .error "only http and https URLs are accepted"
    else if parsed.user.isSome then .error "URL credentials are not allowed"
    else if parsed.port ≠ [] then .error "custom ports are not allowed"
    else if parsed.hostname = [] then .error "hostname is missing"
    else .ok parsed.hostname

def isLabelByte (c : UInt8) : Bool :=
  (97 ≤ c.toNat && c.toNat ≤ 122) || (48 ≤ c.toNat && c.toNat ≤ 57) || c = 45

/-- The checks of one label of `validateASCIIName`. -/
def validateLabel (label : GoString) : Except String Unit :=
  if label = [] then .error "domain contains an empty label"
  else if 63 < label.length then .error "domain label exceeds 63 bytes"
  else if label.head? = some 45 ∨ label.getLast? = some 45 then
    .error "domain label cannot start or end with a hyphen"
  else if label.all isLabelByte then .ok ()
  else .error "domain contains an invalid character"

def validateASCIIName (name : GoString) : Except String Unit :=
  if 253 < name.length then .error "domain exceeds 253 bytes"
  else if (name.splitOn 46).length < 2 then .error "domain must contain a public suffix"
  else (name.splitOn 46).forM validateLabel

/-- `Normalizer.Normalize`. -/
def normalize (lib : Names) (allowUnknownTLD : Bool) (input : GoString) :
    Except ValidationError Normalized :=
  let original := trimSpace input
  if original = [] then .error (invalidDomain "value is required")
  else if (decode original).any (fun r => isControl (Rune.value r)) then
    .error (invalidDomain "control characters are not allowed")
  else
    match extractHost lib original with
    | .error reason => .error (invalidDomain reason)
    | .ok host =>
      let host := trimDot (trimSpace host)
      if host = [] then .error (invalidDomain "hostname is empty")
      -- net.ParseIP takes no zone.
      else if (NetIP.parseAddr host).any (fun ip => match ip with | .v4 _ => true | .v6 _ zone => zone = []) then
        .error (invalidDomain "IP literals are not domains")
      else
        match lib.toASCII host with
        | none => .error (invalidDomain "IDNA conversion failed")
        | some converted =>
          let ascii := toLower lib.tables (trimDot converted)
          match validateASCIIName ascii with
          | .error reason => .error (invalidDomain reason)
          | .ok () =>
            let (suffix, icann) := lib.publicSuffix ascii
            if suffix = [] ∨ ascii = suffix then
              .error (invalidDomain "a registrable domain is required")
            else if !icann && !allowUnknownTLD then
              .error (invalidDomain "unknown or private public suffix")
            else
              match lib.effectiveTLDPlusOne ascii with
              | none => .error (invalidDomain "cannot determine registrable domain")
              | some registrable =>
                match lib.toUnicode ascii with
                | none => .error (invalidDomain "cannot produce Unicode display form")
                | some display =>
                  .ok
                    { originalInput := original
                      ascii := ascii
                      unicode := display
                      registrableDomain := registrable }

/-! ### Normalized names are ASCII -/

theorem mem_of_mem_intercalate {sep : UInt8} {parts : List GoString} {b : UInt8}
    (h : b ∈ [sep].intercalate parts) : b = sep ∨ ∃ part ∈ parts, b ∈ part := by
  induction parts with
  | nil => simp at h
  | cons part parts ih =>
    cases parts with
    | nil =>
      rw [List.intercalate_singleton] at h
      exact .inr ⟨part, List.mem_singleton_self _, h⟩
    | cons next rest =>
      simp only [List.intercalate_cons_cons, List.mem_append, List.mem_singleton] at h
      rcases h with (h | h) | h
      · exact .inr ⟨part, List.mem_cons_self, h⟩
      · exact .inl h
      · rcases ih h with h | ⟨p, hp, hb⟩
        · exact .inl h
        · exact .inr ⟨p, List.mem_cons_of_mem _ hp, hb⟩

theorem forM_ok {α ε : Type} {check : α → Except ε Unit} {xs : List α} (h : xs.forM check = .ok ()) :
    ∀ x ∈ xs, check x = .ok () := by
  induction xs with
  | nil =>
    intro x hx
    cases hx
  | cons x xs ih =>
    rw [List.forM_eq_forM, List.forM_cons] at h
    cases hx : check x with
    | error e =>
      rw [hx] at h
      cases h
    | ok u =>
      rw [hx] at h
      intro y hy
      rcases List.mem_cons.mp hy with rfl | hy
      · exact hx
      · exact ih h y hy

theorem validateLabel_eq_ok {label : GoString} :
    validateLabel label = .ok () ↔
      label ≠ [] ∧ label.length ≤ 63 ∧ label.head? ≠ some 45 ∧ label.getLast? ≠ some 45 ∧
      label.all isLabelByte = true := by
  unfold validateLabel
  split_ifs with hempty hlong hhyphen hbytes
  · simp [hempty]
  · simp only [false_iff, not_and]
    omega
  · simp only [false_iff, not_and]
    intro _ _ hhead hlast
    exact absurd hhyphen (not_or.mpr ⟨hhead, hlast⟩)
  · simp only [true_iff]
    exact ⟨hempty, not_lt.mp hlong, (not_or.mp hhyphen).1, (not_or.mp hhyphen).2, hbytes⟩
  · simp [hbytes]

variable {name input : GoString} {allowUnknownTLD : Bool} {lib : Names}

theorem validateASCIIName_eq_ok (h : validateASCIIName name = .ok ()) :
    name.length ≤ 253 ∧ ∀ label ∈ name.splitOn 46, validateLabel label = .ok () := by
  unfold validateASCIIName at h
  split at h
  · cases h
  · split at h
    · cases h
    · exact ⟨not_lt.mp ‹_›, forM_ok h⟩

/-- A name is made of the bytes of its labels and of dots. -/
theorem isLabelByte_of_validateASCIIName (h : validateASCIIName name = .ok ()) :
    ∀ b ∈ name, isLabelByte b = true ∨ b = 46 := by
  intro b hb
  have hjoin : [46].intercalate (name.splitOn 46) = name := List.intercalate_splitOn 46
  rw [← hjoin] at hb
  rcases mem_of_mem_intercalate hb with rfl | ⟨label, hlabel, hb⟩
  · exact .inr rfl
  · obtain ⟨-, -, -, -, hbytes⟩ := validateLabel_eq_ok.mp ((validateASCIIName_eq_ok h).2 label hlabel)
    exact .inl (List.all_eq_true.mp hbytes b hb)

theorem isLabelByte_range {c : UInt8} (h : isLabelByte c = true ∨ c = 46) :
    32 < c.toNat ∧ c.toNat < 127 ∧ ¬ (65 ≤ c.toNat ∧ c.toNat ≤ 90) := by
  simp only [isLabelByte, Bool.or_eq_true, Bool.and_eq_true, decide_eq_true_eq] at h
  rcases h with ((h | h) | rfl) | rfl
  · omega
  · omega
  · decide
  · decide

theorem solid_of_validateASCIIName (h : validateASCIIName name = .ok ()) : Solid name := by
  intro b hb
  have hrange := isLabelByte_range (isLabelByte_of_validateASCIIName h b hb)
  exact ⟨hrange.1, hrange.2.1⟩

/-- What is known of a name that `normalize` returns. -/
structure NormalizedName (lib : Names) (allowUnknownTLD : Bool) (n : Normalized) : Prop where
  converted : ∃ host converted, lib.toASCII host = some converted ∧
    n.ascii = toLower lib.tables (trimDot converted)
  valid : validateASCIIName n.ascii = .ok ()
  suffix : (lib.publicSuffix n.ascii).1 ≠ [] ∧ n.ascii ≠ (lib.publicSuffix n.ascii).1
  icann : (lib.publicSuffix n.ascii).2 = true ∨ allowUnknownTLD = true
  registrable : lib.effectiveTLDPlusOne n.ascii = some n.registrableDomain

theorem normalize_eq_ok {n : Normalized} (h : normalize lib allowUnknownTLD input = .ok n) :
    NormalizedName lib allowUnknownTLD n := by
  simp only [normalize] at h
  split at h
  · cases h
  · split at h
    · cases h
    · split at h
      · cases h
      · split at h
        · cases h
        · split at h
          · cases h
          · split at h
            · cases h
            · rename_i converted hconverted
              split at h
              · cases h
              · rename_i hvalid
                split at h
                · cases h
                · rename_i hsuffix
                  split at h
                  · cases h
                  · rename_i hicann
                    split at h
                    · cases h
                    · rename_i hregistrable
                      split at h
                      · cases h
                      · cases h
                        refine ⟨⟨_, converted, hconverted, rfl⟩, hvalid, not_or.mp hsuffix, ?_,
                          hregistrable⟩
                        simpa [Bool.and_eq_true, or_iff_not_imp_left] using hicann

/-- The ASCII name that `normalize` returns is made of letters, digits, hyphens and
    dots. -/
theorem solid_of_normalize {normalized : Normalized}
    (h : normalize lib allowUnknownTLD input = .ok normalized) : Solid normalized.ascii :=
  solid_of_validateASCIIName (normalize_eq_ok h).valid

end DomainMonitor.Inventory
