import DomainMonitor.Config
import DomainMonitor.Inventory.Normalize
import DomainMonitor.Probeprotocol

/-! # The probe agent (`cmd/probe/main.go`)

    What a remote probe checks before it works on a job. The platform builds the
    job from its own configuration and from the name of a domain it has accepted
    (`DispatchPending`); the agent trusts neither and checks both again
    (`validateJob`). The two lists of checks are compared here.
-/

namespace DomainMonitor.Agent

open Utf8 Strings Inventory Probeprotocol

/-! ### The checks of the agent -/

/-- `net.ParseIP` accepts the text: an address without a zone. -/
def isIPLiteral (s : GoString) : Bool :=
  (NetIP.parseAddr s).any (fun ip => match ip with | .v4 _ => true | .v6 _ zone => zone = [])

/-- One label of `validCanonicalDomain`. -/
def validLabel (label : GoString) : Bool :=
  1 ≤ label.length && label.length ≤ 63 && label.head? ≠ some 45 && label.getLast? ≠ some 45 &&
    label.all isLabelByte

def validCanonicalDomain (lib : Names) (value : GoString) : Bool :=
  if value = [] ∨ value ≠ toLower lib.tables value ∨ value.any (fun b => (lit "/:@ \t\r\n").contains b)
      ∨ isIPLiteral value then false
  else
    match lib.toASCII value with
    | none => false
    | some ascii =>
      if ascii ≠ value ∨ 253 < ascii.length ∨ ascii.head? = some 46 ∨ ascii.getLast? = some 46 then false
      else if !(ascii.splitOn 46).all validLabel then false
      else
        let (suffix, icann) := lib.publicSuffix ascii
        if suffix = [] ∨ !icann ∨ suffix = ascii then false
        else (lib.effectiveTLDPlusOne ascii).isSome

/-- `validateJob`; the error is its text. -/
def validateJob (lib : Names) (job : Job) : Except String Unit :=
  let policy := job.policy
  if !validCanonicalDomain lib job.target.domainASCII then
    .error "job target is not a canonical public domain"
  else if job.target.schemes ≠ [lit "https", lit "http"] ∨ job.target.ports ≠ [443, 80] then
    .error "job target violates the fixed scheme and port contract"
  else if policy.deadlineMS < 1000 ∨ policy.deadlineMS > 60000 ∨ policy.maxRedirects < 1
      ∨ policy.maxRedirects > 20 ∨ policy.maxBodyBytes < 1024 ∨ policy.maxBodyBytes > 16777216
      ∨ policy.storeExcerptBytes < 0 ∨ policy.storeExcerptBytes > 65536
      ∨ policy.storeExcerptBytes > policy.maxBodyBytes then
    .error "job policy exceeds probe safety limits"
  else .ok ()

/-! ### The jobs of the platform -/

/-- The policy `DispatchPending` writes into every job. -/
def dispatchPolicy (cfg : Config) : Policy where
  deadlineMS := milliseconds cfg.httpChainTimeout
  maxRedirects := cfg.httpMaxRedirects
  maxBodyBytes := cfg.httpMaxBodyBytes
  storeExcerptBytes := cfg.httpExcerptBytes

/-- The target of a job for a domain. -/
def dispatchTarget (domainASCII : GoString) : Target where
  domainASCII := domainASCII
  schemes := [lit "https", lit "http"]
  ports := [443, 80]

/-- What `DispatchPending` draws and reads for one job besides target and policy. -/
structure Draw where
  jobID : UUID
  runID : UUID
  policyVersion : String
  nonce : GoString
  now : Int
  jobTTL : Int

def dispatchJob (cfg : Config) (draw : Draw) (domainASCII : GoString) : Job where
  jobID := draw.jobID
  runID := draw.runID
  target := dispatchTarget domainASCII
  policyVersion := draw.policyVersion
  policy := dispatchPolicy cfg
  issuedAt := draw.now
  expiresAt := draw.now + draw.jobTTL
  nonce := draw.nonce

/-! ### Names -/

/-- What the agent relies on: the ASCII form of a name is its own ASCII form, and no
    public suffix managed by ICANN is that of an IP address. -/
structure Lawful (lib : Names) : Prop where
  stable : ∀ host converted, lib.toASCII host = some converted →
    validateASCIIName (toLower lib.tables (trimDot converted)) = .ok () →
    lib.toASCII (toLower lib.tables (trimDot converted)) = some (toLower lib.tables (trimDot converted))
  numeric : ∀ name, isIPLiteral name = true → (lib.publicSuffix name).2 = false

theorem lower_of_range : ∀ n < 127, ¬ (65 ≤ n ∧ n ≤ 90) → (Char.ofNat n).toLower = Char.ofNat n := by
  decide

/-- Lower-case ASCII stays as it is. -/
theorem toLower_of_valid {name : GoString} (tables : Strings.Tables) (h : validateASCIIName name = .ok ()) :
    toLower tables name = name := by
  have hbytes := isLabelByte_of_validateASCIIName h
  unfold toLower
  rw [decode_ascii (solid_of_validateASCIIName h).ascii, List.flatMap_map]
  have hone : ∀ b ∈ name, String.utf8EncodeChar (tables.toLower (Rune.value (.char (asciiChar b)))) = [b] := by
    intro b hb
    obtain ⟨hlow, hhigh, hupper⟩ := isLabelByte_range (hbytes b hb)
    have hnat := asciiChar_toNat (b := b) (by omega)
    have hsame : (asciiChar b).toLower = asciiChar b := lower_of_range b.toNat (by omega) hupper
    show String.utf8EncodeChar (tables.toLower (asciiChar b)) = [b]
    rw [tables.toLower_ascii _ (by omega), hsame, encode_asciiChar (by omega)]
  rw [List.flatMap_congr hone, List.flatMap_singleton']

theorem validLabel_of_validateLabel {label : GoString} (h : validateLabel label = .ok ()) :
    validLabel label = true := by
  obtain ⟨hempty, hlong, hfirst, hlast, hbytes⟩ := validateLabel_eq_ok.mp h
  have hpos : 1 ≤ label.length := List.length_pos_of_ne_nil hempty
  simp [validLabel, hpos, hlong, hfirst, hlast, hbytes]

/-- A name whose labels are not empty neither starts nor ends with a dot. -/
theorem dot_of_labels {name : GoString} (h : ∀ label ∈ name.splitOn 46, label ≠ []) :
    name.head? ≠ some 46 ∧ name.getLast? ≠ some 46 := by
  -- A dot splits off what is before it and what is after it.
  have hsplit : ∀ front back, name = front ++ 46 :: back → [] ≠ front ∧ [] ≠ back := by
    intro front back hname
    rw [hname, List.splitOn_append_cons_self] at h
    constructor
    · rintro rfl
      exact h [] (by simp) rfl
    · rintro rfl
      exact h [] (by simp) rfl
  constructor
  · intro hhead
    cases name with
    | nil => cases hhead
    | cons b rest =>
      cases hhead
      exact (hsplit [] rest rfl).1 rfl
  · intro hlast
    obtain ⟨front, hname⟩ := List.getLast?_eq_some_iff.mp hlast
    exact (hsplit front [] hname).2 rfl

/-- **The names agree** up to the public suffix: what the platform accepted is
    canonical for the agent exactly if ICANN manages its suffix. -/
theorem validCanonicalDomain_iff {lib : Names} (hlib : Lawful lib) {allowUnknownTLD : Bool} {n : Normalized}
    (h : NormalizedName lib allowUnknownTLD n) :
    validCanonicalDomain lib n.ascii = true ↔ (lib.publicSuffix n.ascii).2 = true := by
  obtain ⟨host, converted, htoASCII, hascii⟩ := h.converted
  have hstable : lib.toASCII n.ascii = some n.ascii := by
    rw [hascii]
    exact hlib.stable host converted htoASCII (hascii ▸ h.valid)
  obtain ⟨hlength, hlabels⟩ := validateASCIIName_eq_ok h.valid
  have hnonempty : ∀ label ∈ n.ascii.splitOn 46, label ≠ [] :=
    fun label hlabel => (validateLabel_eq_ok.mp (hlabels label hlabel)).1
  obtain ⟨hhead, hlast⟩ := dot_of_labels hnonempty
  have hne : n.ascii ≠ [] := by
    intro hnil
    exact hnonempty [] (by simp [hnil]) rfl
  have hclean : ∀ b ∈ n.ascii, b ∉ lit "/:@ \t\r\n" := by
    intro b hb hmem
    have hbyte := isLabelByte_of_validateASCIIName h.valid b hb
    have hnone : ∀ c ∈ lit "/:@ \t\r\n", ¬ (isLabelByte c = true ∨ c = 46) := by
      decide +kernel
    exact hnone b hmem hbyte
  have hall : (n.ascii.splitOn 46).all validLabel = true :=
    List.all_eq_true.mpr (fun label hlabel => validLabel_of_validateLabel (hlabels label hlabel))
  unfold validCanonicalDomain
  by_cases hip : isIPLiteral n.ascii = true
  · simp [hip, hlib.numeric n.ascii hip]
  · simp [hne, toLower_of_valid lib.tables h.valid, hip, hstable, hlength, hhead, hlast, hall,
      h.suffix.1, h.suffix.2.symm, h.registrable]
    exact fun _ => hclean

/-! ### Jobs -/

theorem validateJob_eq_ok {lib : Names} {job : Job} :
    validateJob lib job = .ok () ↔
      validCanonicalDomain lib job.target.domainASCII = true ∧
      (job.target.schemes = [lit "https", lit "http"] ∧ job.target.ports = [443, 80]) ∧
      (1000 ≤ job.policy.deadlineMS ∧ job.policy.deadlineMS ≤ 60000) ∧
      (1 ≤ job.policy.maxRedirects ∧ job.policy.maxRedirects ≤ 20) ∧
      (1024 ≤ job.policy.maxBodyBytes ∧ job.policy.maxBodyBytes ≤ 16777216) ∧
      (0 ≤ job.policy.storeExcerptBytes ∧ job.policy.storeExcerptBytes ≤ 65536) ∧
      job.policy.storeExcerptBytes ≤ job.policy.maxBodyBytes := by
  simp only [validateJob]
  split
  · simp_all
  · split
    · rename_i hcontract
      simp only [reduceCtorEq, false_iff]
      intro ⟨_, ⟨hschemes, hports⟩, _⟩
      exact hcontract.elim (fun h => h hschemes) (fun h => h hports)
    · rename_i hcanonical hcontract
      simp only [not_or, not_not] at hcontract
      simp only [Bool.not_eq_true', Bool.not_eq_false] at hcanonical
      split
      · simp only [reduceCtorEq, false_iff]
        omega
      · simp only [hcanonical, hcontract, true_iff, and_self, true_and]
        omega

/-- **The job is accepted** exactly if the deadline the platform is configured with
    is one the agent permits and ICANN manages the suffix of the domain. -/
theorem validateJob_dispatchJob_iff {lib : Names} (hlib : Lawful lib) {e : Env} {cfg : Config}
    {allowUnknownTLD : Bool} (hload : load e = .ok cfg)
    (hallow : parseBool e "ALLOW_UNKNOWN_TLD" false = .ok allowUnknownTLD) {input : GoString}
    {n : Normalized} (hn : normalize lib allowUnknownTLD input = .ok n) (draw : Draw) :
    validateJob lib (dispatchJob cfg draw n.ascii) = .ok () ↔
      (second ≤ cfg.httpChainTimeout ∧ cfg.httpChainTimeout < 60 * second + millisecond) ∧
      (allowUnknownTLD = true → (lib.publicSuffix n.ascii).2 = true) := by
  have hname := normalize_eq_ok hn
  have hranges := (show cfg.Accepted from ⟨e, hload⟩).ranges
  obtain ⟨hredirects, hredirects'⟩ := hranges.httpMaxRedirects
  obtain ⟨hbody, hbody'⟩ := hranges.httpMaxBodyBytes
  obtain ⟨⟨hexcerpt, hexcerpt'⟩, hfits⟩ := hranges.httpExcerptBytes
  have hdomain := validCanonicalDomain_iff hlib hname
  have hicann : (lib.publicSuffix n.ascii).2 = true ↔
      (allowUnknownTLD = true → (lib.publicSuffix n.ascii).2 = true) :=
    ⟨fun h _ => h, fun h => hname.icann.elim id h⟩
  rw [← hicann, ← hdomain]
  have hdeadline : (1000 ≤ milliseconds cfg.httpChainTimeout ∧ milliseconds cfg.httpChainTimeout ≤ 60000) ↔
      second ≤ cfg.httpChainTimeout ∧ cfg.httpChainTimeout < 60 * second + millisecond := by
    rw [milliseconds_eq (Int.le_of_lt hranges.httpChainTimeout)]
    unfold second millisecond
    omega
  rw [← hdeadline]
  rw [validateJob_eq_ok]
  constructor
  · intro ⟨hcanonical, _, hlimits, _⟩
    exact ⟨hlimits, hcanonical⟩
  · intro ⟨hlimits, hcanonical⟩
    exact ⟨hcanonical, ⟨rfl, rfl⟩, hlimits, ⟨hredirects, hredirects'⟩, ⟨hbody, hbody'⟩,
      ⟨hexcerpt, hexcerpt'⟩, hfits⟩

/-! ### A small platform -/

/-- ASCII tables, and a list on which `com` is the only suffix managed by ICANN. -/
def agentNames : Names where
  tables := Strings.asciiTables
  url := ⟨id, id⟩
  toASCII := some
  toUnicode := some
  publicSuffix := fun name =>
    let last := (name.splitOn 46).getLastD []
    (last, last = lit "com" && !isIPLiteral name)
  effectiveTLDPlusOne := fun name => some name

theorem agentNames_lawful : Lawful agentNames where
  stable := fun _ _ _ _ => rfl
  numeric := fun name h => by simp [agentNames, h]

def sampleDraw : Draw where
  jobID := 1
  runID := 2
  policyVersion := "monitor-2026-08-v2"
  nonce := lit "nonce"
  now := 1000000000
  jobTTL := 2 * minute

theorem validateJob_dispatchJob_default :
    ∃ n, normalize agentNames false (lit "Example.com") = .ok n ∧
      validateJob agentNames (dispatchJob defaultConfig sampleDraw n.ascii) = .ok () := by
  have hsome : (normalize agentNames false (lit "Example.com")).toOption.any (fun _ => true) = true := by
    decide +kernel
  obtain ⟨n, hn, -⟩ := exists_ok_of_any hsome
  refine ⟨n, hn, (validateJob_dispatchJob_iff agentNames_lawful load_emptyEnv rfl hn sampleDraw).mpr ?_⟩
  exact ⟨by decide, nofun⟩

/-- A chain timeout of 90 seconds is accepted by `Load`, and the agent refuses every
    job it leads to. -/
theorem long_deadline_refused :
    ∃ cfg n, load (Env.withSettings [] [("MONITOR_HTTP_CHAIN_TIMEOUT", 90 * second)]) = .ok cfg ∧
      normalize agentNames false (lit "example.com") = .ok n ∧
      validateJob agentNames (dispatchJob cfg sampleDraw n.ascii) =
        .error "job policy exceeds probe safety limits" := by
  have hsome : (normalize agentNames false (lit "example.com")).toOption.any (fun n =>
      validateJob agentNames (dispatchJob { defaultConfig with httpChainTimeout := 90 * second }
        sampleDraw n.ascii) = .error "job policy exceeds probe safety limits") = true := by
    decide +kernel
  obtain ⟨n, hn, hrefused⟩ := exists_ok_of_any hsome
  exact ⟨{ defaultConfig with httpChainTimeout := 90 * second }, n, by rfl, hn, by simpa using hrefused⟩

end DomainMonitor.Agent
