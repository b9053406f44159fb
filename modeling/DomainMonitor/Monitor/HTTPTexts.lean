import DomainMonitor.Httpcheck.Chain
import DomainMonitor.Monitor.HTTPEvidence

/-! # The texts of HTTP observations

    `PersistHTTPAttempt` hands the strings of an attempt to text columns as they
    are. URLs come out of the chain as text if the `Location` values do; header
    values and a title that is not cut off are copied byte by byte, so they are
    text exactly when the server sent text.
-/

namespace DomainMonitor.Monitor

open Httpcheck Utf8

/-! ### The text columns -/

/-- The URL, header and title columns of an attempt and of its hops hold text. -/
structure HTTPTexts (a : Scheme × ResolverMode × Attempt) : Prop where
  check : let c := httpCheckColumns a.1 a.2.1 a.2.2
    ∀ t ∈ [some c.requestURL, c.effectiveURL, c.contentType, c.title, c.serverHeader], ∀ s ∈ t,
      Storable s
  hops : ∀ hop ∈ a.2.2.redirects,
    let c := redirectHopColumns hop
    ∀ t ∈ [some c.sourceURL, some c.location, c.resolvedTarget], ∀ s ∈ t, Storable s

/-- The same, of the strings of the attempt. -/
structure StringsStorable (a : Attempt) : Prop where
  requestURL : Storable a.requestURL
  effectiveURL : Storable a.effectiveURL
  contentType : Storable a.content.contentType
  title : Storable a.content.title
  serverHeader : Storable a.serverHeader
  hops : ∀ hop ∈ a.redirects,
    Storable hop.sourceURL ∧ Storable hop.location ∧ Storable hop.resolvedTarget

theorem httpTexts_iff (a : Scheme × ResolverMode × Attempt) :
    HTTPTexts a ↔ StringsStorable a.2.2 := by
  have hcheck : (let c := httpCheckColumns a.1 a.2.1 a.2.2
      ∀ t ∈ [some c.requestURL, c.effectiveURL, c.contentType, c.title, c.serverHeader], ∀ s ∈ t,
        Storable s) ↔
      Storable a.2.2.requestURL ∧ Storable a.2.2.effectiveURL ∧
      Storable a.2.2.content.contentType ∧ Storable a.2.2.content.title ∧
      Storable a.2.2.serverHeader := by
    dsimp only [httpCheckColumns]
    simp only [List.forall_mem_cons, List.not_mem_nil, false_implies, implies_true, and_true,
      nullableString_storable, Option.mem_some, forall_eq']
  have hhop : ∀ hop : RedirectHop, (let c := redirectHopColumns hop
      ∀ t ∈ [some c.sourceURL, some c.location, c.resolvedTarget], ∀ s ∈ t, Storable s) ↔
      Storable hop.sourceURL ∧ Storable hop.location ∧ Storable hop.resolvedTarget := by
    intro hop
    dsimp only [redirectHopColumns]
    simp only [List.forall_mem_cons, List.not_mem_nil, false_implies, implies_true, and_true,
      nullableString_storable, Option.mem_some, forall_eq']
  constructor
  · intro h
    obtain ⟨h1, h2, h3, h4, h5⟩ := hcheck.mp h.check
    exact ⟨h1, h2, h3, h4, h5, fun hop hmem => (hhop hop).mp (h.hops hop hmem)⟩
  · intro h
    exact ⟨hcheck.mpr ⟨h.requestURL, h.effectiveURL, h.contentType, h.title, h.serverHeader⟩,
      fun hop hmem => (hhop hop).mpr (h.hops hop hmem)⟩

/-- An attempt that is stored has been handed over as text. -/
theorem HTTPInsertable.httpTexts {a : Scheme × ResolverMode × Attempt} (h : HTTPInsertable a) :
    HTTPTexts a := by
  constructor
  · intro c t ht
    refine h.check.2 t ?_
    simp only [List.mem_cons, List.not_mem_nil, or_false] at ht
    obtain rfl | rfl | rfl | rfl | rfl := ht <;> simp [HTTPCheckColumns.texts, c]
  · intro hop hhop c t ht
    refine (h.hops hop hhop).2 t ?_
    simp only [List.mem_cons, List.not_mem_nil, or_false] at ht
    obtain rfl | rfl | rfl := ht <;> simp [RedirectHopColumns.texts, c]

/-! ### One attempt -/

/-- The texts a final response is recorded with are text. -/
def ResponseText (config : Httpcheck.Config) (response : Response) : Prop :=
  Storable (response.get "Server") ∧ Storable (response.get "Content-Type") ∧
    ∀ payload ∈ response.payload? config, TitleStorable payload

/-- Every `Location` that is recorded is text, and so is the final response. -/
def AnswersText (lib : Library) (config : Httpcheck.Config) (mode : ContentMode) (initial : URL)
    (server : Server) (n : Nat) : Prop :=
  (∀ i, Recorded lib config mode initial server n i → Storable (server.location i)) ∧
  ∀ response, EndsWith lib config mode initial server n response → ResponseText config response

variable {lib : Library} {config : Httpcheck.Config} {server : Server} {n : Nat}

theorem finalTexts_iff {response? : Option Response} {a : Attempt}
    (h : FinalTexts lib config response? a) :
    (Storable a.content.contentType ∧ Storable a.content.title ∧ Storable a.serverHeader) ↔
      ∀ response ∈ response?, ResponseText config response := by
  cases response? with
  | none =>
    obtain ⟨hheader, hcontent⟩ := h
    rw [hheader, hcontent]
    simp [Storable]
  | some response =>
    obtain ⟨hheader, hcontent⟩ := h
    rw [hheader, hcontent.contentType, hcontent.title]
    simp only [Option.mem_some, forall_eq', ResponseText]
    cases response.payload? config with
    | none =>
      simp only [Option.map_none, Option.getD_none, Option.not_mem_none, false_implies,
        implies_true, and_true]
      constructor
      · rintro ⟨htype, -, hserver⟩
        exact ⟨hserver, htype⟩
      · rintro ⟨hserver, htype⟩
        exact ⟨htype, by decide, hserver⟩
    | some payload =>
      simp only [Option.map_some, Option.getD_some, Option.mem_some, forall_eq',
        extractTitle_storable]
      constructor
      · rintro ⟨htype, htitle, hserver⟩
        exact ⟨hserver, htype, htitle⟩
      · rintro ⟨hserver, htype, htitle⟩
        exact ⟨htype, htitle, hserver⟩

variable {alternateDNS : List Dnscheck.Result} {mode : ContentMode} {target : Target} {cfg : Config}
  {parsed : URL}

/-- The strings of an attempt are text exactly when the servers answered text. -/
theorem checkAttempt_strings_iff {initial : URL} (hmax : 0 ≤ config.maxRedirects)
    (hinitial : TextURL initial) :
    StringsStorable (checkAttempt lib config mode initial server n) ↔
      AnswersText lib config mode initial server n := by
  obtain ⟨m, response?, h⟩ := checkAttempt_texts lib mode initial server n hmax
  have hfinal := finalTexts_iff h.final
  -- The recorded hops carry the `Location` values of the first `m` responses.
  have hlocations : (∀ hop ∈ (checkAttempt lib config mode initial server n).redirects,
      Storable hop.location) ↔ ∀ i < m, Storable (server.location i) := by
    have hmap := h.chain.locations
    constructor
    · intro hhops i hi
      have hmem : server.location i ∈ (List.range m).map server.location :=
        List.mem_map_of_mem (List.mem_range.mpr hi)
      rw [← hmap] at hmem
      obtain ⟨hop, hhop, heq⟩ := List.mem_map.mp hmem
      rw [← heq]
      exact hhops hop hhop
    · intro hall hop hhop
      have hmem : hop.location ∈ List.map RedirectHop.location _ := List.mem_map_of_mem hhop
      rw [hmap] at hmem
      obtain ⟨i, hi, heq⟩ := List.mem_map.mp hmem
      rw [← heq]
      exact hall i (List.mem_range.mp hi)
  unfold AnswersText
  simp only [h.recorded, h.ends]
  constructor
  · intro hstrings
    exact ⟨hlocations.mp fun hop hhop => (hstrings.hops hop hhop).2.1,
      hfinal.mp ⟨hstrings.contentType, hstrings.title, hstrings.serverHeader⟩⟩
  · rintro ⟨hall, hresponse⟩
    obtain ⟨htype, htitle, hserver⟩ := hfinal.mpr hresponse
    have hurls := h.chain.urls hinitial hall
    refine ⟨?_, h.effectiveURL hinitial hall, htype, htitle, hserver, fun hop hhop => ?_⟩
    · rw [h.chain.requestURL]
      exact hinitial.storable lib.url
    · exact ⟨(hurls hop hhop).1, hlocations.mpr hall hop hhop, (hurls hop hhop).2⟩

/-! ### A run -/

/-- The URLs a run starts from print as text: host names are stored text. -/
theorem RunAttempt.textURL {web : Web}
    (h : RunAttempt lib cfg target web alternateDNS parsed server n) : TextURL parsed := by
  obtain ⟨hhttps, hhttp⟩ := storable_hostURL target.domainASCII.storable
  have hdomain : ∀ {origin : Origin},
      DomainAttempt lib (httpConfig cfg) target.expectedContentMode origin target.domainASCII.bytes
        parsed server n → TextURL parsed := by
    rintro origin (⟨hattempt, -⟩ | ⟨-, hattempt, -⟩)
    · exact validateURL_textURL hhttps hattempt.1
    · exact validateURL_textURL hhttp hattempt.1
  rcases h with h | ⟨_, _, -, h⟩
  · exact hdomain h
  · exact hdomain h

/-- A refused URL is recorded with texts of the program's own. -/
theorem invalidAttempt_strings {rawURL : GoString} (h : Storable rawURL) (message : GoString)
    (checkedAt : Int) : StringsStorable (invalidAttempt rawURL message checkedAt) := by
  have hempty : Storable [] := by decide
  exact ⟨h, hempty, hempty, hempty, hempty, fun hop hhop => absurd hhop List.not_mem_nil⟩

/-- **The texts of a run can be stored exactly when the servers answered text.**
    The URLs, `Location` values, `Server` and `Content-Type` headers and titles
    that `PersistHTTPAttempt` hands to text columns are UTF-8 without NUL exactly
    when every recorded `Location`, and the `Server` and `Content-Type` headers
    and the title of every final response, are. -/
theorem http_texts_storable_iff {cfg : Config} (hcfg : cfg.Accepted) (lib : Library)
    (target : Target) (web : Web) (localDNS alternateDNS : List Dnscheck.Result) (checkedAt : Int) :
    (∀ a ∈ httpAttempts (gatherEvidence lib cfg target web localDNS alternateDNS checkedAt),
        HTTPTexts a) ↔
      ∀ parsed server n, RunAttempt lib cfg target web alternateDNS parsed server n →
        AnswersText lib (normalizeConfig (httpConfig cfg)) target.expectedContentMode parsed
          server n := by
  have hmax := (httpConfig_maxRedirects hcfg).1
  obtain ⟨hhttps, hhttp⟩ := storable_hostURL target.domainASCII.storable
  simp only [httpTexts_iff]
  rw [forall_mem_httpAttempts (invalidAttempt_strings hhttps) (invalidAttempt_strings hhttp)]
  constructor
  · intro h parsed server n hattempt
    exact (checkAttempt_strings_iff hmax hattempt.textURL).mp (h parsed server n hattempt)
  · intro h parsed server n hattempt
    exact (checkAttempt_strings_iff hmax hattempt.textURL).mpr (h parsed server n hattempt)

/-! ### Two titles -/

/-- What such a server answers is recorded as text when the response is. -/
theorem sampleWeb_answersText {response : Response}
    (hredirect : isRedirect response.statusCode = false) (htext : ResponseText config response)
    (h : RunAttempt sampleHTTPLibrary cfg target (sampleWeb response) alternateDNS parsed server n) :
    AnswersText sampleHTTPLibrary config mode parsed server n := by
  constructor
  · rintro i ⟨-, ⟨response', hresult, hredirect'⟩, -⟩
    rw [sampleWeb_server h] at hresult
    cases hresult
    rw [hredirect] at hredirect'
    cases hredirect'
  · intro response' hends
    rw [sampleWeb_endsWith h hends]
    exact htext

/-- A page with a title in ASCII. -/
theorem http_texts_storable_ascii :
    defaultConfig.Accepted ∧
    ∀ a ∈ httpAttempts (gatherEvidence sampleHTTPLibrary defaultConfig sampleDomain.target
        (sampleWeb (sampleResponse 200 (lit "<title>home</title>"))) [] [] second), HTTPTexts a := by
  refine ⟨defaultConfig_accepted, (http_texts_storable_iff defaultConfig_accepted sampleHTTPLibrary
    sampleDomain.target (sampleWeb (sampleResponse 200 (lit "<title>home</title>"))) [] []
    second).mpr ?_⟩
  intro parsed server n hattempt
  refine sampleWeb_answersText (by decide) ⟨by decide, by decide, ?_⟩ hattempt
  intro payload hpayload
  have hpage : (sampleResponse 200 (lit "<title>home</title>")).payload?
      (normalizeConfig (httpConfig defaultConfig)) = some (lit "<title>home</title>") := by
    decide +kernel
  rw [hpage] at hpayload
  cases hpayload
  unfold TitleStorable
  decide +kernel

/-- A page whose title is a single byte that is not UTF-8. -/
def latinPage : List UInt8 := lit "<title>" ++ [255] ++ lit "</title>"

/-- The title of that page cannot be stored, so `CompleteRun` fails. -/
theorem latin_title_refused :
    defaultConfig.Accepted ∧
    (¬ ∀ a ∈ httpAttempts (gatherEvidence sampleHTTPLibrary defaultConfig sampleDomain.target
        (sampleWeb (sampleResponse 200 latinPage)) [] [] second), HTTPTexts a) ∧
    ¬ ∃ rows, persistHTTPEvidence (gatherEvidence sampleHTTPLibrary defaultConfig
      sampleDomain.target (sampleWeb (sampleResponse 200 latinPage)) [] [] second) = .ok rows := by
  have hmax := (httpConfig_maxRedirects defaultConfig_accepted).1
  have hrefused : ¬ ∀ a ∈ httpAttempts (gatherEvidence sampleHTTPLibrary defaultConfig
      sampleDomain.target (sampleWeb (sampleResponse 200 latinPage)) [] [] second), HTTPTexts a := by
    intro h
    obtain ⟨hhttps, hhttp⟩ := storable_hostURL sampleDomain.target.domainASCII.storable
    simp only [httpTexts_iff] at h
    rw [forall_mem_httpAttempts (invalidAttempt_strings hhttps) (invalidAttempt_strings hhttp)] at h
    obtain ⟨parsed, hattempt, hends⟩ := sampleWeb_sees defaultConfig (sampleResponse 200 latinPage)
      [] (by decide)
    have hanswers := (checkAttempt_strings_iff hmax hattempt.textURL).mp (h parsed _ 1 hattempt)
    have hpage : (sampleResponse 200 latinPage).payload?
        (normalizeConfig (httpConfig defaultConfig)) = some latinPage := by decide +kernel
    have htitle := (hanswers.2 _ hends).2.2 latinPage hpage
    unfold TitleStorable at htitle
    revert htitle
    decide +kernel
  refine ⟨defaultConfig_accepted, hrefused, ?_⟩
  intro hrows
  obtain ⟨hinsertable, -⟩ := (persistHTTPEvidence_iff _).mp hrows
  exact hrefused fun a ha => (hinsertable a ha).httpTexts

end DomainMonitor.Monitor
