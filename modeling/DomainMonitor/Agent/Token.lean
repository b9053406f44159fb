import DomainMonitor.Monitor.Schema
import DomainMonitor.Probeprotocol.Signing

/-! # The token flow of the agent (`cmd/probe/main.go`)

    `ensureToken` asks the platform for a challenge, signs the text that comes with it,
    and sends the signature back for an access token. The text is whatever the answer
    says: `signing_message` is not compared with the challenge it belongs to.

    Whoever answers for the platform chooses both answers, so they are parameters.
-/

namespace DomainMonitor.Agent

open Utf8 Strings Probeprotocol Encoding
open Monitor (zeroTime)

/-! ### Requests and answers -/

structure TokenChallenge where
  challengeID : UUID
  challenge : GoString
  signingMessage : GoString
  expiresAt : Int
  deriving DecidableEq, Repr

structure TokenResponse where
  accessToken : GoString
  tokenType : GoString
  expiresAt : Int
  scope : List GoString
  deriving DecidableEq, Repr

/-- `TokenRequest`; the first request has no challenge and no signature. -/
structure TokenRequest where
  probeID : UUID
  challengeID : UUID := 0
  signature : GoString := []
  deriving DecidableEq, Repr

structure Response where
  statusCode : Int
  body : List UInt8
  deriving DecidableEq, Repr

/-- How UUIDs, times and token responses are read. -/
structure Readers where
  uuid : GoString → Option UUID
  time : GoString → Option Int
  response : List UInt8 → Option TokenResponse

/-- The zero value of a `time.Time`. -/
def noChallenge : TokenChallenge := ⟨0, [], [], zeroTime⟩

def challengeFields (readers : Readers) : List (Unmarshal.Field TokenChallenge) :=
  [Unmarshal.textField (lit "challenge_id") readers.uuid (fun id c => { c with challengeID := id }),
    Unmarshal.stringField (lit "challenge") (fun text c => { c with challenge := text }),
    Unmarshal.stringField (lit "signing_message") (fun text c => { c with signingMessage := text }),
    Unmarshal.textField (lit "expires_at") readers.time (fun t c => { c with expiresAt := t })]

/-- `json.Unmarshal` of the challenge inside `data`. -/
def decodeChallenge (readers : Readers) (body : List UInt8) : Option TokenChallenge :=
  Unmarshal.struct false
    [Unmarshal.structField (lit "data") false
      [Unmarshal.structField (lit "challenge") false (challengeFields readers) id (fun c _ => c)]
      id (fun c _ => c)] body noChallenge

/-- `doJSONStatus` after the request was sent: at most 2 MiB of the body are read, an
    answer without content leaves the zero value, and every other answer outside the
    2xx range is an error. -/
def doJSON {α : Type} (zero : α) (decode : List UInt8 → Option α) : Option Response → Option α
  | none => none
  | some response =>
    if response.statusCode = 204 then some zero
    else if response.statusCode < 200 ∨ 300 ≤ response.statusCode then none
    else decode (response.body.take 2097152)

/-! ### The flow -/

structure TokenState where
  probeID : UUID
  token : GoString
  tokenExpiry : Int
  deriving DecidableEq, Repr

/-- The token is good for more than half a minute. -/
def TokenState.fresh (a : TokenState) (now : Int) : Bool :=
  a.token ≠ [] && 30 * second < timeSub a.tokenExpiry now

/-- What a call of `ensureToken` did: the messages it signed, whether it failed, and the
    state afterwards. -/
structure TokenRun where
  signed : List (List UInt8)
  failed : Bool
  state : TokenState

/-- `ensureToken`, with the private key as what it signs and the peer as what it
    answers. -/
def ensureToken (readers : Readers) (sign : List UInt8 → List UInt8) (peer : TokenRequest → Option Response)
    (now : Int) (a : TokenState) : TokenRun :=
  if a.fresh now then ⟨[], false, a⟩
  else match doJSON noChallenge (decodeChallenge readers) (peer { probeID := a.probeID }) with
  | none => ⟨[], true, a⟩
  | some challenge =>
    let request : TokenRequest :=
      { probeID := a.probeID
        challengeID := challenge.challengeID
        signature := Encoding.base64Encode (sign challenge.signingMessage) }
    match doJSON ⟨[], [], zeroTime, []⟩ readers.response (peer request) with
    | none => ⟨[challenge.signingMessage], true, a⟩
    | some response => ⟨[challenge.signingMessage], false,
        { a with token := response.accessToken, tokenExpiry := response.expiresAt }⟩

/-! ### Result messages -/

def isHexByte (c : UInt8) : Bool := (48 ≤ c.toNat && c.toNat ≤ 57) || (97 ≤ c.toNat && c.toNat ≤ 102)

/-- The form of a result message: the version, `result`, 64 hexadecimal digits in lower
    case, and whatever follows the next line break. -/
def isResultMessage (m : List UInt8) : Bool :=
  let front := version ++ lit "\nresult\n"
  let rest := m.drop front.length
  front.isPrefixOf m && (rest.take 64).length = 64 && (rest.take 64).all isHexByte &&
    (rest.drop 64).head? = some 10

theorem isHexByte_iff {c : UInt8} : isHexByte c = true ↔ ∃ d < 16, c = hexDigit d := by
  constructor
  · intro hc
    exact Utf8.forall_byte (P := fun c => isHexByte c = true → ∃ d < 16, c = hexDigit d)
      (by decide +kernel) c hc
  · rintro ⟨d, hd, rfl⟩
    have hall : ∀ d < 16, isHexByte (hexDigit d) = true := by decide
    exact hall d hd

/-- Hexadecimal digits in lower case are the encoding of some bytes. -/
theorem exists_hexEncode : ∀ (n : Nat) (text : List UInt8), text.length = 2 * n →
    text.all isHexByte = true → ∃ bytes, bytes.length = n ∧ hexEncode bytes = text
  | 0, text, hlength, _ => ⟨[], rfl, (List.length_eq_zero_iff.mp hlength).symm⟩
  | n + 1, text, hlength, hall => by
    match text with
    | [] => simp at hlength
    | [_] => simp at hlength; omega
    | a :: b :: rest =>
      simp only [List.length_cons] at hlength
      simp only [List.all_cons, Bool.and_eq_true] at hall
      obtain ⟨ha, hb, hrest⟩ := hall
      obtain ⟨bytes, hbytes, hencode⟩ := exists_hexEncode n rest (by omega) hrest
      obtain ⟨high, hhigh, rfl⟩ := isHexByte_iff.mp ha
      obtain ⟨low, hlow, rfl⟩ := isHexByte_iff.mp hb
      refine ⟨UInt8.ofNat (16 * high + low) :: bytes, by rw [List.length_cons, hbytes], ?_⟩
      have hnat : (UInt8.ofNat (16 * high + low)).toNat = 16 * high + low := by
        rw [UInt8.toNat_ofNat']
        omega
      have hdiv : (16 * high + low) / 16 = high := by omega
      have hmod : (16 * high + low) % 16 = low := by omega
      rw [hexEncode, List.flatMap_cons, ← hexEncode, hencode, hnat, hdiv, hmod]
      rfl

/-- **The form** is that of the result messages, for some hash and some nonce. -/
theorem isResultMessage_iff {m : List UInt8} :
    isResultMessage m = true ↔ ∃ hash nonce, hash.length = 32 ∧ m = resultSigningMessage hash nonce := by
  constructor
  · intro h
    simp only [isResultMessage, Bool.and_eq_true, decide_eq_true_eq] at h
    obtain ⟨⟨⟨hfront, hlength⟩, hhex⟩, hbreak⟩ := h
    obtain ⟨rest, rfl⟩ := List.isPrefixOf_iff_prefix.mp hfront
    rw [List.drop_left] at hlength hhex hbreak
    obtain ⟨hash, hhash, hencode⟩ := exists_hexEncode 32 (rest.take 64) hlength hhex
    obtain ⟨nonce, hnonce⟩ : ∃ nonce, rest.drop 64 = 10 :: nonce := by
      cases hdrop : rest.drop 64 with
      | nil =>
        rw [hdrop] at hbreak
        cases hbreak
      | cons b nonce =>
        rw [hdrop] at hbreak
        cases hbreak
        exact ⟨nonce, rfl⟩
    refine ⟨hash, nonce, hhash, ?_⟩
    have hrest : rest = hexEncode hash ++ 10 :: nonce := by
      rw [hencode, ← hnonce, List.take_append_drop]
    have hline : lit "\n" = [10] := by decide
    rw [resultSigningMessage, hrest, hline]
    simp
  · rintro ⟨hash, nonce, hhash, rfl⟩
    have hlength : (hexEncode hash).length = 64 := by rw [length_hexEncode, hhash]
    have hline : lit "\n" = [10] := by decide
    have hsplit : resultSigningMessage hash nonce =
        (version ++ lit "\nresult\n") ++ (hexEncode hash ++ 10 :: nonce) := by
      rw [resultSigningMessage, hline]
      simp
    have htake : (hexEncode hash ++ 10 :: nonce).take 64 = hexEncode hash := List.take_left' hlength
    have hdrop : (hexEncode hash ++ 10 :: nonce).drop 64 = 10 :: nonce := List.drop_left' hlength
    have hfront : (version ++ lit "\nresult\n").isPrefixOf
        ((version ++ lit "\nresult\n") ++ (hexEncode hash ++ 10 :: nonce)) = true :=
      List.isPrefixOf_iff_prefix.mpr (List.prefix_append _ _)
    have hhex : (hexEncode hash).all isHexByte = true := by
      rw [List.all_eq_true]
      intro c hc
      exact isHexByte_iff.mpr (mem_hexEncode hc)
    simp only [isResultMessage]
    rw [hsplit, hfront, List.drop_left, htake, hdrop, hlength, hhex]
    rfl

/-! ### What is signed -/

/-- `ensureToken` signs the message of the challenge it received and nothing else. -/
theorem mem_signed_ensureToken {readers : Readers} {sign : List UInt8 → List UInt8}
    {peer : TokenRequest → Option Response} {now : Int} {a : TokenState} {m : List UInt8} :
    m ∈ (ensureToken readers sign peer now a).signed ↔
      a.fresh now = false ∧ ∃ challenge, doJSON noChallenge (decodeChallenge readers)
        (peer { probeID := a.probeID }) = some challenge ∧ challenge.signingMessage = m := by
  unfold ensureToken
  cases hfresh : a.fresh now with
  | true => simp
  | false =>
    cases hchallenge : doJSON noChallenge (decodeChallenge readers) (peer { probeID := a.probeID }) with
    | none => simp
    | some challenge =>
      simp only [Bool.false_eq_true, if_false, Option.some.injEq, true_and]
      split <;> simp [eq_comm]

/-- **The agent signs a result message** exactly when it needs a token and the answer to
    its first request carries a text of that form. -/
theorem ensureToken_signs_result_iff (readers : Readers) (sign : List UInt8 → List UInt8)
    (peer : TokenRequest → Option Response) (now : Int) (a : TokenState) :
    (∀ m ∈ (ensureToken readers sign peer now a).signed, ∀ hash nonce, hash.length = 32 →
      m ≠ resultSigningMessage hash nonce) ↔
      (a.fresh now = true ∨ ∀ challenge, doJSON noChallenge (decodeChallenge readers)
        (peer { probeID := a.probeID }) = some challenge →
        isResultMessage challenge.signingMessage = false) := by
  constructor
  · intro h
    by_contra hnot
    obtain ⟨hfresh, hall⟩ := not_or.mp hnot
    push Not at hall
    obtain ⟨challenge, hchallenge, hform⟩ := hall
    obtain ⟨hash, nonce, hhash, hmessage⟩ := isResultMessage_iff.mp (by simpa using hform)
    exact h _ (mem_signed_ensureToken.mpr ⟨Bool.eq_false_iff.mpr hfresh, challenge, hchallenge, rfl⟩) hash
      nonce hhash hmessage
  · intro h m hm hash nonce hhash hmessage
    obtain ⟨hfresh, challenge, hchallenge, rfl⟩ := mem_signed_ensureToken.mp hm
    rcases h with h | h
    · rw [hfresh] at h
      cases h
    · have hform := h challenge hchallenge
      rw [isResultMessage_iff.mpr ⟨hash, nonce, hhash, hmessage⟩] at hform
      cases hform

/-- Readers for an answer that has neither identifiers nor times in it. -/
def sampleReaders : Readers where
  uuid := fun _ => none
  time := fun _ => none
  response := fun _ => none

/-- The hash of a payload the peer would like to have signed. -/
def wantedHash : List UInt8 := List.replicate 32 0

/-- An answer that asks for the signature of a result. -/
def oracleBody : List UInt8 :=
  lit "\x7b\"data\":\x7b\"challenge\":\x7b\"signing_message\":\"domain-monitor-probe.v1\\nresult\\n" ++
    hexEncode wantedHash ++ lit "\\nnonce\"\x7d\x7d\x7d"

/-- The agent signs it. -/
theorem ensureToken_signs_result :
    resultSigningMessage wantedHash (lit "nonce") ∈
      (ensureToken sampleReaders (fun _ => List.replicate 64 0) (fun _ => some ⟨200, oracleBody⟩) 0
        ⟨1, [], zeroTime⟩).signed := by
  have hchallenge : doJSON noChallenge (decodeChallenge sampleReaders) (some ⟨200, oracleBody⟩) =
      some ⟨0, [], resultSigningMessage wantedHash (lit "nonce"), zeroTime⟩ := by decide +kernel
  exact mem_signed_ensureToken.mpr ⟨by decide, _, hchallenge, rfl⟩

end DomainMonitor.Agent
