import DomainMonitor.Lib.MediaType
import DomainMonitor.Lib.Regexp
import DomainMonitor.Lib.URL
import DomainMonitor.Httpcheck.Types
import DomainMonitor.Netcheck

/-! # Reading a response (`internal/httpcheck/content.go`)

    What is kept of a response: its size, a digest, a redacted excerpt, the
    title, and a verdict on the content. Bodies and header values are arbitrary
    bytes; the regular expressions see them through the UTF-8 decoder, byte by
    byte where they are not UTF-8.
-/

namespace DomainMonitor.Httpcheck

open Utf8 Strings Regexp

/-! ### Responses -/

/-- A header value as `net/http` delivers it: tabs, printable ASCII and bytes
    above ASCII. -/
structure HeaderValue where
  bytes : GoString
  valid : ∀ b ∈ bytes, b.toNat = 9 ∨ (32 ≤ b.toNat ∧ b.toNat ≠ 127)

/-- A response body: its bytes, and the error that ends it instead of an EOF. -/
structure Body where
  bytes : List UInt8
  err : Option GoString := none

/-- `io.ReadAll(io.LimitReader(body, limit))`: an error behind the limit is not
    seen. -/
def Body.readAll (body : Body) (limit : Nat) : Except GoString (List UInt8) :=
  match body.err with
  | some err => if body.bytes.length < limit then .error err else .ok (body.bytes.take limit)
  | none => .ok (body.bytes.take limit)

/-- The part of `http.Response` the checker reads. -/
structure Response where
  statusCode : Nat
  proto : GoString
  header : String → List HeaderValue
  contentLength : Int
  lengthKnown : -1 ≤ contentLength
  body : Body
  /-- What `tlscheck.FromConnectionState` makes of the connection, if it is TLS. -/
  tls : Option TLSResult := none

variable (response : Response) (pattern : Pattern Rune) (lib : Library) (config : Config)
  (contentType : GoString) (payload : List UInt8)

/-- `Header.Get`. -/
def Response.get (name : String) : GoString :=
  match response.header name with
  | [] => []
  | value :: _ => value.bytes

/-- The part of `httpcheck.Config` that decides what is observed; the other
    fields are timeouts and request headers. -/
structure Config where
  maxRedirects : Int
  maxBodyBytes : Int
  excerptBytes : Int
  headerBytes : Int
  minMeaningfulBytes : Int
  retry : Netcheck.Policy

/-- `normalizeConfig`. -/
def normalizeConfig : Config :=
  let excerptBytes := if config.excerptBytes ≤ 0 then 32768 else config.excerptBytes
  { maxRedirects := if config.maxRedirects ≤ 0 then 10 else config.maxRedirects
    maxBodyBytes := if config.maxBodyBytes ≤ 0 then 2097152 else config.maxBodyBytes
    excerptBytes := if excerptBytes > 65536 then 65536 else excerptBytes
    headerBytes := if config.headerBytes ≤ 0 then 16384 else config.headerBytes
    minMeaningfulBytes := if config.minMeaningfulBytes ≤ 0 then 64 else config.minMeaningfulBytes
    retry := config.retry.normalized }

theorem normalizeConfig_bounds :
    0 ≤ (normalizeConfig config).maxRedirects ∧ 1 ≤ (normalizeConfig config).maxBodyBytes := by
  unfold normalizeConfig
  dsimp only
  constructor <;> split_ifs <;> omega

/-- What the checker uses of other packages: the Unicode tables, `net/url`'s own
    parameters, SHA-256, the public suffix list and `http.ParseTime`. -/
structure Library where
  tables : Tables
  url : URL.Env
  sha256 : List UInt8 → List UInt8
  sha256_length : ∀ payload, (sha256 payload).length = 32
  effectiveTLDPlusOne : GoString → Option GoString
  parseTime : GoString → Option Int

/-! ### Patterns -/

/-- The characters a case-insensitive pattern accepts for a lower-case one: the
    Kelvin sign and the long s are cases of `k` and `s`. -/
def foldsTo (c x : Char) : Bool :=
  x == c || x == c.toUpper || (c == 'k' && x == 'K') || (c == 's' && x == 'ſ')

def one (p : Char → Bool) : Pattern Rune := .one (fun r => p (Rune.value r))

def many (p : Char → Bool) (greedy : Bool) : Pattern Rune := .many (fun r => p (Rune.value r)) greedy

/-- A word, in any case. -/
def word (s : String) : Pattern Rune :=
  s.toList.foldr (fun c rest => .seq (one (foldsTo c)) rest) .empty

def isRegexpSpace (c : Char) : Bool := ['\t', '\n', '\u000c', '\r', ' '].contains c

def titlePattern : Pattern Rune :=
  .seq (word "<title") (.seq (many (· != '>') true) (.seq (one (· == '>'))
    (.seq (.group 1 (many (fun _ => true) false)) (word "</title>"))))

def tagPattern : Pattern Rune :=
  .seq (one (· == '<')) (.seq (many (· != '>') true) (one (· == '>')))

def secretName : Pattern Rune :=
  .alt (word "authorization")
    (.alt (.seq (word "api") (.seq (.alt (one (fun c => c == '_' || c == '-')) .empty) (word "key")))
      (.alt (word "token") (word "password")))

def isSecretSeparator (c : Char) : Bool := isRegexpSpace c || ['"', '\'', '=', ':'].contains c

def isSecretChar (c : Char) : Bool :=
  !(isRegexpSpace c || ['"', '\'', '<', '>', ';', '&'].contains c)

def secretSeparator : Pattern Rune := .seq (one isSecretSeparator) (many isSecretSeparator true)

def secretValue : Pattern Rune :=
  .seq (one isSecretChar) (.seq (one isSecretChar) (.seq (one isSecretChar)
    (.seq (one isSecretChar) (many isSecretChar true))))

def secretPattern : Pattern Rune :=
  .seq (.group 1 secretName) (.seq (.group 2 secretSeparator) (.group 3 secretValue))

def htmlWhitespace : Pattern Rune := .seq (one isRegexpSpace) (many isRegexpSpace true)

/-- The bytes of decoded text. -/
def bytesOf (runes : List Rune) : List UInt8 := runes.flatMap Rune.bytes

def space : Rune := .char ' '

/-- `ReplaceAllString(s, " ")`. -/
def replaceBySpace (s : GoString) : GoString :=
  bytesOf (pattern.replaceAll (fun _ => [space]) (decode s))

/-! ### Verdicts on the content -/

/-- `strings.Contains`. -/
def contains (s part : List UInt8) : Bool := s.tails.any (part.isPrefixOf ·)

/-- `looksLikeHTML`. -/
def looksLikeHTML : Bool :=
  let mediaType := toLower lib.tables (MediaType.parse lib.tables contentType)
  if mediaType = lit "text/html" ∨ mediaType = lit "application/xhtml+xml" then true
  else
    let front := toLower lib.tables (payload.take 1024)
    contains front (lit "<!doctype html") || contains front (lit "<html")
      || contains front (lit "<body")

/-- `isTextual`. -/
def isTextual : Bool :=
  let mediaType := toLower lib.tables (MediaType.parse lib.tables contentType)
  if (lit "text/").isPrefixOf mediaType || contains mediaType (lit "json")
      || looksLikeHTML lib contentType payload then true
  else decide (Valid payload)

/-- `meaningfulText`: the letters and digits outside tags. -/
def meaningfulText : Nat :=
  let withoutTags := replaceBySpace tagPattern payload
  let normalized := replaceBySpace htmlWhitespace (trimSpace withoutTags)
  (decode normalized).countP (fun r =>
    lib.tables.isLetter (Rune.value r) || lib.tables.isNumber (Rune.value r))

/-- `extractTitle`: a title of more than 512 characters is cut and encoded anew,
    a shorter one keeps its bytes. -/
def extractTitle : GoString :=
  match titlePattern.find (decode payload) with
  | none => []
  | some m =>
    let title := replaceBySpace htmlWhitespace
      (trimSpace (replaceBySpace tagPattern (bytesOf (m.group 1))))
    let runes := decode title
    if runes.length > 512 then
      (runes.take 512).flatMap (fun r => String.utf8EncodeChar (Rune.value r))
    else title

def redacted : List Rune := "[REDACTED]".toList.map Rune.char

/-- `redactExcerpt`. -/
def redactExcerpt : List UInt8 :=
  bytesOf (secretPattern.replaceAll (fun m => m.group 1 ++ (m.group 2 ++ redacted)) (decode payload))

/-! ### `readContent` -/

/-- The verdict of `readContent` once the payload is known: status and error. -/
def contentVerdict (mode : ContentMode) (contentType : GoString) (payload : List UInt8)
    (oversized : Bool) : ContentStatus × Option (Code × GoString) :=
  let html := looksLikeHTML lib contentType payload
  if oversized then
    (.oversizedTruncated, some (.contentTooLarge,
      lit "decoded response body exceeds " ++ lit (toString config.maxBodyBytes) ++ lit " bytes"))
  else if mode = .statusOnly ∧ payload = [] then (.empty, none)
  else if mode = .statusOnly then (if html then .validHTML else .validNonHTML, none)
  else if payload = [] then (.empty, some (.contentEmpty, lit "response body is empty"))
  else if (payload.length : Int) < config.minMeaningfulBytes then
    (.tooSmall, some (.contentTooSmall,
      lit "response body is smaller than " ++ lit (toString config.minMeaningfulBytes)
        ++ lit " bytes"))
  else if mode = .html ∧ html = false then
    (.unsupportedContent, some (.contentUnsupported, lit "response is not HTML"))
  else if html ∧ (meaningfulText lib payload : Int) < max 1 (config.minMeaningfulBytes / 4) then
    (.notMeaningful, some (.contentNotMeaningful,
      lit "HTML response does not contain meaningful text"))
  else (if html then .validHTML else .validNonHTML, none)

/-- The bytes the excerpt is made of; none when the content is not textual. -/
def excerptSource : List UInt8 :=
  if isTextual lib contentType payload then payload.take config.excerptBytes.toNat else []

/-- `readContent`. -/
def readContent (mode : ContentMode) (response : Response) : ContentEvidence :=
  let contentType := response.get "Content-Type"
  let evidence : ContentEvidence :=
    { contentType, declaredContentLength := response.contentLength }
  match response.body.readAll (config.maxBodyBytes.toNat + 1) with
  | .error err =>
    { evidence with
      errorCode := some .httpBodyRead, errorMessage := lit "read response body: " ++ err }
  | .ok payload =>
    let bodySize := payload.length
    let oversized := (payload.length : Int) > config.maxBodyBytes
    let payload := payload.take config.maxBodyBytes.toNat
    let (status, error) := contentVerdict lib config mode contentType payload oversized
    { evidence with
      status, bodySize
      bodySHA256 := lib.sha256 payload
      hashComplete := !oversized
      excerpt := redactExcerpt (excerptSource lib config contentType payload)
      title := extractTitle payload
      errorCode := error.map Prod.fst
      errorMessage := (error.map Prod.snd).getD [] }

/-! ### Selected headers -/

def selectedHeaderNames : List String := [
  "Content-Type", "Content-Length", "Server", "Cache-Control", "Age", "ETag", "Last-Modified",
  "Via", "X-Cache", "Cf-Ray", "Cf-Cache-Status", "X-Request-Id"]

/-- `strings.Join(values, ", ")`. -/
def joinValues : List HeaderValue → GoString
  | [] => []
  | [value] => value.bytes
  | value :: values => value.bytes ++ lit ", " ++ joinValues values

/-- One name in the loop of `selectHeaders`: what is left of the budget, and the
    headers selected so far. -/
def selectHeader (state : Int × List (String × GoString)) (name : String) :
    Int × List (String × GoString) :=
  let (remaining, selected) := state
  let value := joinValues (response.header name)
  let nameLength : Int := name.length
  if value = [] ∨ remaining ≤ nameLength + 2 then state
  else
    let value := value.take (remaining - nameLength - 2).toNat
    (remaining - (nameLength + value.length + 2), selected ++ [(name, value)])

/-- `selectHeaders`. -/
def selectHeaders (maxBytes : Int) : List (String × GoString) :=
  (selectedHeaderNames.foldl (selectHeader response) (maxBytes, [])).2

/-- What a header takes of the budget: name, value and two separator bytes. -/
def headerSize (h : String × GoString) : Int := h.1.length + h.2.length + 2

def headersSize (headers : List (String × GoString)) : Int := (headers.map headerSize).sum

theorem headersSize_append (xs ys : List (String × GoString)) :
    headersSize (xs ++ ys) = headersSize xs + headersSize ys := by
  simp [headersSize]

section Budget

variable (response : Response)

/-- `added` may come out of a loop over `names` that starts with `budget`. -/
structure Selects (names : List String) (budget : Int) (added : List (String × GoString)) :
    Prop where
  within : 0 ≤ budget → headersSize added ≤ budget
  chosen : ∀ h ∈ added, h.1 ∈ names ∧ h.2 <+: joinValues (response.header h.1)

/-- One name adds at most its own header, and all of it if it fits. -/
theorem selectHeader_adds (budget : Int) (selected : List (String × GoString)) (name : String) :
    ∃ added, selectHeader response (budget, selected) name =
        (budget - headersSize added, selected ++ added) ∧
      Selects response [name] budget added ∧
      (joinValues (response.header name) ≠ [] →
        (name, joinValues (response.header name)) ∈ added ∨
          budget < headerSize (name, joinValues (response.header name))) := by
  unfold selectHeader
  dsimp only
  generalize hjoined : joinValues (response.header name) = joined
  by_cases hskip : joined = [] ∨ budget ≤ (name.length : Int) + 2
  · rw [if_pos hskip]
    refine ⟨[], by simp [headersSize], ⟨by simp [headersSize], by simp⟩, ?_⟩
    intro hne
    have hpos := List.length_pos_iff.2 hne
    have hsmall := hskip.resolve_left hne
    simp only [headerSize]
    omega
  · rw [if_neg hskip]
    have hlength := List.length_take (i := (budget - name.length - 2).toNat) (l := joined)
    refine ⟨[(name, joined.take (budget - name.length - 2).toNat)],
      by simp only [headersSize, headerSize, List.map_singleton, List.sum_singleton],
      ⟨?_, by simp [hjoined, List.take_prefix]⟩, ?_⟩
    · intro _
      simp only [headersSize, headerSize, List.map_singleton, List.sum_singleton]
      omega
    · intro _
      by_cases hfits : joined.length ≤ (budget - name.length - 2).toNat
      · exact .inl (by simp [List.take_of_length_le hfits])
      · simp only [headerSize]
        omega

theorem selectHeader_foldl (names : List String) (budget : Int)
    (selected : List (String × GoString)) :
    ∃ added, names.foldl (selectHeader response) (budget, selected) =
        (budget - headersSize added, selected ++ added) ∧
      Selects response names budget added := by
  induction names generalizing budget selected with
  | nil => exact ⟨[], by simp [headersSize], by simp [headersSize], by simp⟩
  | cons name names ih =>
    obtain ⟨first, hfirst, hone, -⟩ := selectHeader_adds response budget selected name
    obtain ⟨rest, hrest, hmore⟩ := ih (budget - headersSize first) (selected ++ first)
    refine ⟨first ++ rest, ?_, ?_, ?_⟩
    · rw [List.foldl_cons, hfirst, hrest, headersSize_append, List.append_assoc, Int.sub_sub]
    · intro hbudget
      have h := hmore.within (by have := hone.within hbudget; omega)
      rw [headersSize_append]
      omega
    · rw [List.forall_mem_append]
      exact ⟨fun h hh => (hone.chosen h hh).imp_left (by simp +contextual),
        fun h hh => (hmore.chosen h hh).imp_left (List.mem_cons_of_mem _)⟩

/-- The selected headers fit their budget, and a header with a value is whole
    unless the earlier names of the list have left too little for it. -/
theorem selectHeaders_within_budget (maxBytes : Nat) :
    headersSize (selectHeaders response maxBytes) ≤ maxBytes ∧
      (∀ h ∈ selectHeaders response maxBytes,
        h.1 ∈ selectedHeaderNames ∧ h.2 <+: joinValues (response.header h.1)) ∧
      ∀ earlier name later, selectedHeaderNames = earlier ++ name :: later →
        joinValues (response.header name) ≠ [] →
        (name, joinValues (response.header name)) ∈ selectHeaders response maxBytes ∨
          maxBytes - headersSize ((selectHeaders response maxBytes).filter (·.1 ∈ earlier)) <
            headerSize (name, joinValues (response.header name)) := by
  obtain ⟨all, hall, hselects⟩ := selectHeader_foldl response selectedHeaderNames maxBytes []
  have heq : selectHeaders response maxBytes = all := by
    rw [selectHeaders, hall, List.nil_append]
  rw [heq]
  refine ⟨hselects.within (Int.natCast_nonneg _), hselects.chosen, ?_⟩
  intro earlier name later hnames hvalue
  -- the loop, cut at the name: what came before it decides what it finds
  obtain ⟨before, hbefore, hprior⟩ := selectHeader_foldl response earlier maxBytes []
  obtain ⟨own, hown, hone, hwhole⟩ :=
    selectHeader_adds response (maxBytes - headersSize before) ([] ++ before) name
  obtain ⟨after, hafter, hlater⟩ := selectHeader_foldl response later
    (maxBytes - headersSize before - headersSize own) ([] ++ before ++ own)
  rw [hnames, List.foldl_append, hbefore, List.foldl_cons, hown, hafter] at hall
  have hsplit : all = before ++ (own ++ after) := by simpa using (congrArg Prod.snd hall).symm
  have hnodup : (earlier ++ name :: later).Nodup := hnames ▸ (by decide)
  have hearlier : ∀ h ∈ own ++ after, h.1 ∉ earlier := by
    intro h hh hmem
    have hrest : h.1 ∈ name :: later := by
      rcases List.mem_append.1 hh with hh | hh
      · simp [List.mem_singleton.1 (hone.chosen h hh).1]
      · exact List.mem_cons_of_mem _ (hlater.chosen h hh).1
    exact (List.nodup_append.1 hnodup).2.2 _ hmem _ hrest rfl
  have hfilter : all.filter (·.1 ∈ earlier) = before := by
    rw [hsplit, List.filter_append, List.filter_eq_self.2 (by simpa using fun h hh => (hprior.chosen h hh).1),
      List.filter_eq_nil_iff.2 (by simpa using hearlier), List.append_nil]
  rw [hfilter, hsplit]
  rcases hwhole hvalue with hmem | hlt
  · exact .inl (by simp [hmem])
  · exact .inr hlt

end Budget

/-! ### The length of the excerpt -/

/-- The secrets the redaction removes. -/
def secrets : List (List UInt8) :=
  (secretPattern.all (decode payload)).map (fun m => bytesOf (m.group 3))

theorem bytesOf_append (xs ys : List Rune) : bytesOf (xs ++ ys) = bytesOf xs ++ bytesOf ys :=
  List.flatMap_append

/-- Each secret makes room for the ten bytes of `[REDACTED]`. -/
theorem redactExcerpt_length :
    (redactExcerpt payload).length + ((secrets payload).map List.length).sum =
      payload.length + 10 * (secrets payload).length := by
  have hsize : ∀ xs ys, (bytesOf (xs ++ ys)).length = (bytesOf xs).length + (bytesOf ys).length := by
    intro xs ys
    rw [bytesOf_append, List.length_append]
  have hreplace := secretPattern.size_replaceFuel
    (fun m => m.group 1 ++ (m.group 2 ++ redacted)) (fun runes => (bytesOf runes).length) hsize
    (decode payload).length (decode payload)
  have hpayload : (bytesOf (decode payload)).length = payload.length := by
    rw [bytesOf, bytes_decode]
  -- Match by match, the replacement differs from the text in the third group only.
  have hmatches : ∀ ms : List (Match Rune), (∀ m ∈ ms, ∃ s, secretPattern.find s = some m) →
      (ms.map (fun m => (bytesOf (m.group 1 ++ (m.group 2 ++ redacted))).length)).sum
        + (ms.map (fun m => (bytesOf (m.group 3)).length)).sum =
      (ms.map (fun m => (bytesOf m.text).length)).sum + 10 * ms.length := by
    intro ms hms
    induction ms with
    | nil => rfl
    | cons m ms ih =>
      obtain ⟨hm, hms⟩ := List.forall_mem_cons.mp hms
      obtain ⟨s, hs⟩ := hm
      have htext := Pattern.find_three_groups (by decide) (by decide) (by decide) hs
      have hredacted : (bytesOf redacted).length = 10 := by decide
      have hlength : (bytesOf m.text).length = (bytesOf (m.group 1)).length
          + ((bytesOf (m.group 2)).length + (bytesOf (m.group 3)).length) := by
        rw [htext, hsize, hsize]
      have hsum := ih hms
      simp only [List.map_cons, List.sum_cons, List.length_cons, hsize, hredacted, hlength]
        at hsum ⊢
      omega
  have hsecrets := hmatches (secretPattern.all (decode payload)) (Pattern.allFuel_find _ _)
  unfold redactExcerpt secrets Pattern.replaceAll Pattern.all at *
  simp only [List.map_map, List.length_map, Function.comp_def] at *
  omega

/-! ### The characters of the title -/

/-- The characters of the title: tags and runs of white space have become single
    spaces. -/
def titleRunes : List Rune :=
  match titlePattern.find (decode payload) with
  | none => []
  | some m =>
    htmlWhitespace.replaceAll (fun _ => [space])
      (trimRunes (tagPattern.replaceAll (fun _ => [space]) (m.group 1)))

/-- Spaces between pieces of decoded text keep it decoded text. -/
theorem stable_replaceAll {runes : List Rune} (h : Stable runes) :
    Stable (pattern.replaceAll (fun _ => [space]) runes) := by
  refine Pattern.replaceFuel_preserves (fun _ _ h => h.of_append_right) ?_ _ _ h
  intro s m ys hm hs hys
  rw [(Pattern.find_split s hm).eq] at hs
  exact hs.of_append_left.append_ascii (by decide) hys

theorem stable_of_infix {xs runes : List Rune} (hx : xs <:+: runes) (h : Stable runes) :
    Stable xs := by
  obtain ⟨front, back, rfl⟩ := hx
  exact h.of_append_left.of_append_right

theorem decode_replaceBySpace (s : GoString) :
    decode (replaceBySpace pattern s) = pattern.replaceAll (fun _ => [space]) (decode s) :=
  stable_replaceAll pattern (stable_decode s)

theorem extractTitle_eq :
    extractTitle payload =
      if (titleRunes payload).length > 512 then
        ((titleRunes payload).take 512).flatMap (fun r => String.utf8EncodeChar (Rune.value r))
      else bytesOf (titleRunes payload) := by
  unfold extractTitle titleRunes
  cases hm : titlePattern.find (decode payload) with
  | none => rfl
  | some m =>
    have hgroup : Stable (m.group 1) :=
      stable_of_infix ((Pattern.find_split _ hm).group_contained 1) (stable_decode payload)
    have hdecode : decode (bytesOf (m.group 1)) = m.group 1 := hgroup
    have htitle : decode (trimSpace (replaceBySpace tagPattern (bytesOf (m.group 1)))) =
        trimRunes (tagPattern.replaceAll (fun _ => [space]) (m.group 1)) := by
      rw [decode_trimSpace, decode_replaceBySpace, hdecode]
    have hbytes : replaceBySpace htmlWhitespace
        (trimSpace (replaceBySpace tagPattern (bytesOf (m.group 1)))) =
        bytesOf (htmlWhitespace.replaceAll (fun _ => [space])
          (trimRunes (tagPattern.replaceAll (fun _ => [space]) (m.group 1)))) := by
      rw [← htitle]
      rfl
    simp only [decode_replaceBySpace, htitle]
    rw [hbytes]

theorem stable_titleRunes : Stable (titleRunes payload) := by
  unfold titleRunes
  cases hm : titlePattern.find (decode payload) with
  | none => rfl
  | some m =>
    have hgroup : Stable (m.group 1) :=
      stable_of_infix ((Pattern.find_split _ hm).group_contained 1) (stable_decode payload)
    obtain ⟨pre, post, hsplit, -⟩ :=
      trimRunes_split (tagPattern.replaceAll (fun _ => [space]) (m.group 1))
    have hstripped := stable_replaceAll tagPattern hgroup
    rw [hsplit] at hstripped
    exact stable_replaceAll _ hstripped.of_append_left.of_append_right

/-- What a title needs to be text: a long one is encoded anew, so only a NUL
    among the characters that are kept does harm; a short one also has to be
    UTF-8. -/
def TitleStorable : Prop :=
  if (titleRunes payload).length > 512 then
    ∀ r ∈ (titleRunes payload).take 512, (Rune.value r).toNat ≠ 0
  else ∀ r ∈ titleRunes payload, r.storable = true

theorem extractTitle_storable : Storable (extractTitle payload) ↔ TitleStorable payload := by
  rw [extractTitle_eq]
  unfold TitleStorable
  split_ifs
  · rw [storable_encode]
  · have hstable : decode (bytesOf (titleRunes payload)) = titleRunes payload :=
      stable_titleRunes payload
    rw [storable_iff, hstable]

end DomainMonitor.Httpcheck
