import DomainMonitor.Lib.Rfc3339
import DomainMonitor.Lib.Unmarshal
import DomainMonitor.Lib.Uuid
import DomainMonitor.Probeprotocol

/-! # Signed results (`internal/probeprotocol/protocol.go`)

    A probe marshals its payload, signs the hash of the bytes together with the nonce,
    and sends bytes, hash and signature in an envelope that is JSON again. Two things are
    proved: an envelope that verifies was signed as a result by the holder of the key,
    with this payload and this nonce; and the trip through JSON does not change an
    envelope.

    The encoding of the DNS and HTTP observations inside the payload is a parameter:
    neither side looks at it.
-/

namespace DomainMonitor.Probeprotocol

open Utf8 Strings Encoding

/-! ### Messages -/

/-- `TokenSigningMessage`. -/
def tokenSigningMessage (challengeID : UUID) (challenge : GoString) (expiresAt : Int) : List UInt8 :=
  version ++ lit "\ntoken\n" ++ Uuid.text challengeID ++ lit "\n" ++ challenge ++ lit "\n" ++
    Rfc3339.formatNano expiresAt

/-- A result message determines hash and nonce. -/
theorem resultSigningMessage_inj {h h' : List UInt8} {nonce nonce' : GoString} (hlength : h.length = h'.length)
    (heq : resultSigningMessage h nonce = resultSigningMessage h' nonce') : h = h' ∧ nonce = nonce' := by
  simp only [resultSigningMessage, List.append_assoc] at heq
  have hrest := List.append_cancel_left (List.append_cancel_left heq)
  obtain ⟨hhex, htail⟩ := List.append_inj hrest (by rw [length_hexEncode, length_hexEncode, hlength])
  refine ⟨?_, List.append_cancel_left htail⟩
  have hdecoded := hexDecode_hexEncode h
  rw [hhex, hexDecode_hexEncode] at hdecoded
  exact (Option.some.inj hdecoded).symm

/-- **Domain separation**: no token message is a result message. -/
theorem resultSigningMessage_ne_token (h : List UInt8) (nonce : GoString) (challengeID : UUID)
    (challenge : GoString) (expiresAt : Int) :
    resultSigningMessage h nonce ≠ tokenSigningMessage challengeID challenge expiresAt := by
  intro heq
  simp only [resultSigningMessage, tokenSigningMessage, List.append_assoc] at heq
  have hrest := List.append_cancel_left heq
  have hhead := congrArg (fun s => s.drop 1 |>.head?) hrest
  have hresult : lit "\nresult\n" = [10, 114, 101, 115, 117, 108, 116, 10] := by decide
  have htoken : lit "\ntoken\n" = [10, 116, 111, 107, 101, 110, 10] := by decide
  rw [hresult, htoken] at hhead
  cases hhead

/-! ### Signing -/

/-- The parts of a payload that are only carried along. -/
structure Encoders where
  dns : List Dnscheck.Result → Option Marshal.Doc
  http : Httpcheck.OriginResult → Option Marshal.Doc

/-- `time.Time.MarshalJSON`, which refuses years that do not have four digits. -/
def timeDoc (t : Int) : Option Marshal.Doc :=
  let year := (Rfc3339.yearDay (t / second / 86400 + Rfc3339.unixEpoch)).1
  if 0 ≤ year ∧ year ≤ 9999 then some (.str (Rfc3339.formatNano t)) else none

/-- The fields of a `ResultPayload`, in order. -/
def payloadFields (p : ResultPayload) (startedAt finishedAt dns http : Marshal.Doc) :
    List (GoString × Marshal.Doc) :=
  [(lit "protocol_version", Marshal.Doc.str p.protocolVersion),
    (lit "probe_id", Marshal.Doc.str (Uuid.text p.probeID)),
    (lit "agent_version", Marshal.Doc.str p.agentVersion),
    (lit "region_code", Marshal.Doc.str p.regionCode),
    (lit "country_code", Marshal.Doc.str p.countryCode)] ++
  (if p.networkName = [] then [] else [(lit "network_name", Marshal.Doc.str p.networkName)]) ++
  [(lit "job_id", Marshal.Doc.str (Uuid.text p.jobID)),
    (lit "run_id", Marshal.Doc.str (Uuid.text p.runID)), (lit "nonce", Marshal.Doc.str p.nonce),
    (lit "started_at", startedAt), (lit "finished_at", finishedAt),
    (lit "clock_offset_ms", Marshal.Doc.num (Marshal.int p.clockOffsetMS)), (lit "dns", dns),
    (lit "http", http)]

variable (use : KeyUse) (enc : Encoders) (crypto : Crypto) (bytes : List UInt8)

def payloadDoc (p : ResultPayload) : Option Marshal.Doc := do
  let startedAt ← timeDoc p.startedAt
  let finishedAt ← timeDoc p.finishedAt
  let dns ← enc.dns p.dns
  let http ← enc.http p.http
  return .obj (payloadFields p startedAt finishedAt dns http)

/-- `json.Marshal(payload)`. -/
def marshalPayload (p : ResultPayload) : Option (List UInt8) :=
  (payloadDoc enc p).map Marshal.marshal

/-- `SignResult` with a private key, which is what it signs. -/
def signResult (sign : List UInt8 → List UInt8) (p : ResultPayload) :
    Option ResultEnvelope := do
  let raw ← marshalPayload enc p
  let hash := crypto.sha256 raw
  return {
    payload := raw
    payloadSHA256 := hexEncode hash
    signature := base64Encode (sign (resultSigningMessage hash p.nonce)) }

/-! ### Authenticity -/

/-- What the holder of a key has signed: results, and challenges for tokens. -/
structure KeyUse where
  results : Set ResultPayload
  tokens : Set (UUID × GoString × Int)

/-- The messages with a signature. -/
def KeyUse.messages : Set (List UInt8) :=
  { m | (∃ p ∈ use.results, ∃ raw, marshalPayload enc p = some raw ∧
      m = resultSigningMessage (crypto.sha256 raw) p.nonce) ∨
    ∃ t ∈ use.tokens, m = tokenSigningMessage t.1 t.2.1 t.2.2 }

/-- Ed25519 is unforgeable: only signed messages verify. -/
def KeyUse.Unforgeable (publicKey : List UInt8) : Prop :=
  ∀ m signature, crypto.verify publicKey m signature = true → m ∈ use.messages enc crypto

/-- No signed payload collides with another one, `bytes`, under SHA-256. -/
def KeyUse.CollisionFree : Prop :=
  ∀ p ∈ use.results, ∀ raw, marshalPayload enc p = some raw → crypto.sha256 raw = crypto.sha256 bytes →
    raw = bytes

variable {publicKey : List UInt8} {crypto : Crypto} {envelope : ResultEnvelope} {enc : Encoders}

/-- What `VerifyResult` has checked. -/
theorem verifyResult_eq_ok {payload : ResultPayload} {hash : List UInt8} :
    verifyResult crypto publicKey envelope = .ok (payload, hash) ↔
      envelope.payload ≠ [] ∧ hash = crypto.sha256 envelope.payload ∧
      hexDecode (trimSpace envelope.payloadSHA256) = some hash ∧
      crypto.unmarshal envelope.payload = some payload ∧
      ∃ signature, decodeSignature envelope.signature = some signature ∧
        crypto.verify publicKey (resultSigningMessage hash payload.nonce) signature = true := by
  have hlength := crypto.sha256_length envelope.payload
  unfold verifyResult
  constructor
  · intro h
    split at h
    · cases h
    · rename_i hpayload
      dsimp only at h
      split at h
      · cases h
      · rename_i claimed hclaimed
        split at h
        · cases h
        · rename_i hequal
          split at h
          · cases h
          · rename_i p hp
            split at h
            · cases h
            · rename_i signature hsignature
              split at h
              · rename_i hverify
                cases h
                simp only [equalHash, Bool.not_eq_true', Bool.not_eq_false, Bool.and_eq_true,
                  decide_eq_true_eq] at hequal
                exact ⟨hpayload, rfl, by rw [hclaimed, hequal.2], hp, signature, hsignature, hverify⟩
              · cases h
  · intro ⟨hpayload, hhash, hclaimed, hp, signature, hsignature, hverify⟩
    subst hhash
    simp [hpayload, hclaimed, equalHash, hlength, hp, hsignature, hverify]

theorem verifyResult_authentic {use : KeyUse} {payload : ResultPayload} {hash : List UInt8}
    (hunforgeable : use.Unforgeable enc crypto publicKey)
    (hcollision : use.CollisionFree enc crypto envelope.payload)
    (h : verifyResult crypto publicKey envelope = .ok (payload, hash)) :
    ∃ p ∈ use.results, marshalPayload enc p = some envelope.payload ∧ p.nonce = payload.nonce := by
  obtain ⟨-, hhash, -, -, signature, -, hverify⟩ := verifyResult_eq_ok.mp h
  rcases hunforgeable _ _ hverify with ⟨p, hp, raw, hraw, hmessage⟩ | ⟨t, -, hmessage⟩
  · have hlengths : hash.length = (crypto.sha256 raw).length := by
      rw [hhash, crypto.sha256_length, crypto.sha256_length]
    obtain ⟨hsame, hnonce⟩ := resultSigningMessage_inj hlengths hmessage
    have hbytes := hcollision p hp raw hraw (hsame.symm.trans hhash)
    exact ⟨p, hp, hbytes ▸ hraw, hnonce.symm⟩
  · exact absurd hmessage (resultSigningMessage_ne_token _ _ _ _ _)

/-! ### Transport -/

/-- `json.Marshal(envelope)`: a raw message has to be JSON, and is written without
    blanks and with HTML escaped. -/
def marshalEnvelope (e : ResultEnvelope) : Option (List UInt8) :=
  (Json.parse e.payload).map (fun payload => Json.text Json.compact (.obj
    [(Marshal.string (lit "payload"), Json.escapeHTML payload),
      (Marshal.string (lit "payload_sha256"), .str (Marshal.string e.payloadSHA256)),
      (Marshal.string (lit "signature"), .str (Marshal.string e.signature))]))

def envelopeFields : List (Unmarshal.Field ResultEnvelope) :=
  [Unmarshal.rawField (lit "payload") (fun raw e => { e with payload := raw }),
    Unmarshal.stringField (lit "payload_sha256") (fun text e => { e with payloadSHA256 := text }),
    Unmarshal.stringField (lit "signature") (fun text e => { e with signature := text })]

/-- `decodeJSON` into an envelope, which refuses unknown members. -/
def unmarshalEnvelope (body : List UInt8) : Option ResultEnvelope :=
  Unmarshal.struct true envelopeFields body ⟨[], [], []⟩

/-- The nonce `json.Unmarshal` finds in a payload. -/
def payloadNonce (raw : List UInt8) : Option GoString :=
  Unmarshal.struct false [Unmarshal.stringField (lit "nonce") (fun text _ => text)] raw []

/-- What is used of `json.Unmarshal` into a `ResultPayload`: it reads what
    `json.Marshal` has written, and it finds the nonce. -/
structure Crypto.Reads (crypto : Crypto) (enc : Encoders) : Prop where
  accepts : ∀ p raw, marshalPayload enc p = some raw → (crypto.unmarshal raw).isSome
  nonce : ∀ raw p, crypto.unmarshal raw = some p → payloadNonce raw = some p.nonce

theorem valid_of_ascii {s : GoString} (h : ∀ b ∈ s, b.toNat < 128) : Valid s := by
  unfold Valid
  rw [decode_ascii h]
  intro r hr
  obtain ⟨b, -, rfl⟩ := List.mem_map.mp hr
  rfl

theorem solid_hexEncode : Solid (hexEncode bytes) := by
  intro c hc
  obtain ⟨d, hd, rfl⟩ := mem_hexEncode hc
  have hall : ∀ d < 16, 32 < (hexDigit d).toNat ∧ (hexDigit d).toNat < 127 := by decide
  exact hall d hd

theorem solid_base64Encode : Solid (base64Encode bytes) := by
  intro c hc
  obtain ⟨n, hn, rfl⟩ := mem_base64Encode hc
  exact base64Digit_range n hn

theorem valid_of_solid {s : GoString} (h : Solid s) : Valid s := valid_of_ascii h.ascii

/-- **Transport**: an envelope whose payload was written by `json.Marshal` comes back
    byte for byte. -/
theorem unmarshalEnvelope_marshalEnvelope {e : ResultEnvelope} {d : Marshal.Doc}
    (hpayload : e.payload = Marshal.marshal d) (hhash : Valid e.payloadSHA256) (hsignature : Valid e.signature) :
    ∃ body, marshalEnvelope e = some body ∧ unmarshalEnvelope body = some e := by
  have hparse : Json.parse e.payload = some d.value := by
    rw [hpayload]
    exact Json.parse_text d.value
  refine ⟨_, by rw [marshalEnvelope, hparse]; rfl, ?_⟩
  rw [unmarshalEnvelope, Unmarshal.struct_obj, Marshal.escapeHTML_value]
  have hnames : Unmarshal.foldName (lit "payload") ≠ Unmarshal.foldName (lit "payload_sha256") ∧
      Unmarshal.foldName (lit "payload") ≠ Unmarshal.foldName (lit "signature") ∧
      Unmarshal.foldName (lit "payload_sha256") ≠ Unmarshal.foldName (lit "signature") := by decide
  obtain ⟨hne₁, hne₂, hne₃⟩ := hnames
  have hfirst : envelopeFields.find? (fun f => Unmarshal.foldName f.name = Unmarshal.foldName (lit "payload")) =
      some (Unmarshal.rawField (lit "payload") (fun raw e => { e with payload := raw })) := by
    simp [envelopeFields, Unmarshal.rawField]
  have hsecond : envelopeFields.find?
      (fun f => Unmarshal.foldName f.name = Unmarshal.foldName (lit "payload_sha256")) =
      some (Unmarshal.stringField (lit "payload_sha256") (fun text e => { e with payloadSHA256 := text })) := by
    simp [envelopeFields, Unmarshal.rawField, Unmarshal.stringField, hne₁]
  have hthird : envelopeFields.find?
      (fun f => Unmarshal.foldName f.name = Unmarshal.foldName (lit "signature")) =
      some (Unmarshal.stringField (lit "signature") (fun text e => { e with signature := text })) := by
    simp [envelopeFields, Unmarshal.rawField, Unmarshal.stringField, hne₂, hne₃]
  simp only [List.map_cons, List.map_nil, List.foldlM_cons, List.foldlM_nil,
    Unmarshal.assignMember_string (show Valid (lit "payload") by decide),
    Unmarshal.assignMember_string (show Valid (lit "payload_sha256") by decide),
    Unmarshal.assignMember_string (show Valid (lit "signature") by decide), hfirst, hsecond, hthird,
    Unmarshal.stringField_assign, Unmarshal.readString_string hhash, Unmarshal.readString_string hsignature]
  show some (⟨Marshal.marshal d, e.payloadSHA256, e.signature⟩ : ResultEnvelope) = some e
  rw [← hpayload]

/-- The nonce in a payload that was written. -/
theorem payloadNonce_marshalPayload {p : ResultPayload} {raw : List UInt8}
    (h : marshalPayload enc p = some raw) :
    payloadNonce raw = some (Unmarshal.readString (Marshal.string p.nonce)) := by
  obtain ⟨d, hd, rfl⟩ := Option.map_eq_some_iff.mp h
  simp only [payloadDoc, Option.bind_eq_bind, Option.bind_eq_some_iff] at hd
  obtain ⟨startedAt, -, finishedAt, -, dns, -, http, -, hdoc⟩ := hd
  cases hdoc
  -- The members before the nonce, the nonce, and the members after it.
  obtain ⟨front, back, hsplit, hfront, hback⟩ : ∃ front back,
      payloadFields p startedAt finishedAt dns http = front ++ (lit "nonce", .str p.nonce) :: back ∧
      (∀ m ∈ front, Valid m.1 ∧ Unmarshal.foldName (lit "nonce") ≠ Unmarshal.foldName m.1) ∧
      ∀ m ∈ back, Valid m.1 ∧ Unmarshal.foldName (lit "nonce") ≠ Unmarshal.foldName m.1 := by
    have hnames : ∀ name ∈ [lit "protocol_version", lit "probe_id", lit "agent_version", lit "region_code",
        lit "country_code", lit "network_name", lit "job_id", lit "run_id", lit "started_at",
        lit "finished_at", lit "clock_offset_ms", lit "dns", lit "http"],
        Valid name ∧ Unmarshal.foldName (lit "nonce") ≠ Unmarshal.foldName name := by decide +kernel
    simp only [List.forall_mem_cons, List.not_mem_nil, false_implies, implies_true, and_true] at hnames
    obtain ⟨hversion, hprobe, hagent, hregion, hcountry, hnetwork, hjob, hrun, hstarted, hfinished, hclock,
      hdns, hhttp⟩ := hnames
    refine ⟨[(lit "protocol_version", Marshal.Doc.str p.protocolVersion), (lit "probe_id", Marshal.Doc.str (Uuid.text p.probeID)),
        (lit "agent_version", Marshal.Doc.str p.agentVersion), (lit "region_code", Marshal.Doc.str p.regionCode),
        (lit "country_code", Marshal.Doc.str p.countryCode)] ++
      (if p.networkName = [] then [] else [(lit "network_name", Marshal.Doc.str p.networkName)]) ++
      [(lit "job_id", Marshal.Doc.str (Uuid.text p.jobID)), (lit "run_id", Marshal.Doc.str (Uuid.text p.runID))],
      [(lit "started_at", startedAt), (lit "finished_at", finishedAt),
        (lit "clock_offset_ms", Marshal.Doc.num (Marshal.int p.clockOffsetMS)), (lit "dns", dns), (lit "http", http)],
      by simp [payloadFields], ?_, ?_⟩
    · split
      · simp only [List.append_nil, List.cons_append, List.nil_append, List.forall_mem_cons,
          List.not_mem_nil, false_implies, implies_true, and_true]
        exact ⟨hversion, hprobe, hagent, hregion, hcountry, hjob, hrun⟩
      · simp only [List.cons_append, List.nil_append, List.forall_mem_cons,
          List.not_mem_nil, false_implies, implies_true, and_true]
        exact ⟨hversion, hprobe, hagent, hregion, hcountry, hnetwork, hjob, hrun⟩
    · simp only [List.forall_mem_cons, List.not_mem_nil, false_implies, implies_true, and_true]
      exact ⟨hstarted, hfinished, hclock, hdns, hhttp⟩
  rw [payloadNonce, Unmarshal.struct_marshal, hsplit, List.map_append, List.map_cons, List.foldlM_append,
    Unmarshal.foldlM_skip _ (fun m hm => (hfront m hm).1) (fun m hm f hf => by
      rw [List.mem_singleton.mp hf]
      exact (hfront m hm).2)]
  have hfind : [Unmarshal.stringField (lit "nonce") (fun text (_ : GoString) => text)].find?
      (fun f => Unmarshal.foldName f.name = Unmarshal.foldName (lit "nonce")) =
      some (Unmarshal.stringField (lit "nonce") (fun text _ => text)) := by
    simp [Unmarshal.stringField]
  simp only [Option.bind_eq_bind, Option.bind_some, List.foldlM_cons,
    Unmarshal.assignMember_string (show Valid (lit "nonce") by decide), hfind, Marshal.Doc.value,
    Unmarshal.stringField_assign]
  refine Unmarshal.foldlM_skip _ (fun m hm => (hback m hm).1) (fun m hm f hf => ?_)
  rw [List.mem_singleton.mp hf]
  exact (hback m hm).2

theorem decodeSignature_base64Encode {signature : List UInt8} (h : signature.length = 64) :
    decodeSignature (base64Encode signature) = some signature := by
  unfold decodeSignature
  rw [trimSpace_of_solid (solid_base64Encode signature), base64Decode_base64Encode]
  simp [h]

/-- What was signed verifies after the trip. -/
theorem signResult_portable {sign : List UInt8 → List UInt8}
    (hkey : ∀ m, (sign m).length = 64 ∧ crypto.verify publicKey m (sign m) = true)
    (hreads : crypto.Reads enc) {p : ResultPayload} (hnonce : Valid p.nonce)
    (h : signResult enc crypto sign p = some envelope) :
    ∃ body payload, marshalEnvelope envelope = some body ∧ unmarshalEnvelope body = some envelope ∧
      verifyResult crypto publicKey envelope = .ok (payload, crypto.sha256 envelope.payload) := by
  simp only [signResult, Option.bind_eq_bind, Option.bind_eq_some_iff] at h
  obtain ⟨raw, hraw, henvelope⟩ := h
  cases henvelope
  obtain ⟨d, -, hd⟩ := Option.map_eq_some_iff.mp hraw
  have hsolid := solid_hexEncode (crypto.sha256 raw)
  obtain ⟨body, hbody, hback⟩ := unmarshalEnvelope_marshalEnvelope (d := d)
    (e := ⟨raw, hexEncode (crypto.sha256 raw),
      base64Encode (sign (resultSigningMessage (crypto.sha256 raw) p.nonce))⟩) hd.symm
    (valid_of_solid hsolid) (valid_of_solid (solid_base64Encode _))
  obtain ⟨payload, hpayload⟩ := Option.isSome_iff_exists.mp (hreads.accepts p raw hraw)
  have hsame : payload.nonce = p.nonce := by
    have hread := hreads.nonce raw payload hpayload
    rw [payloadNonce_marshalPayload hraw, Unmarshal.readString_string hnonce] at hread
    exact (Option.some.inj hread).symm
  obtain ⟨hlength, hverify⟩ := hkey (resultSigningMessage (crypto.sha256 raw) p.nonce)
  have hne : raw ≠ [] := by
    obtain ⟨b, bytes, htext, -⟩ := Json.text_start Json.compact d.value
    rw [← hd, Marshal.marshal, htext]
    exact List.cons_ne_nil _ _
  refine ⟨body, payload, hbody, hback, verifyResult_eq_ok.mpr ⟨hne, rfl, ?_, hpayload, _,
    decodeSignature_base64Encode hlength, ?_⟩⟩
  · rw [trimSpace_of_solid hsolid]
    exact hexDecode_hexEncode _
  · rw [hsame]
    exact hverify

def sampleEncoders : Encoders where
  dns := fun _ => some (.arr [])
  http := fun _ => some .null

def samplePayload : ResultPayload where
  protocolVersion := version
  probeID := 1
  agentVersion := lit "1"
  regionCode := lit "SG"
  countryCode := lit "SG"
  jobID := 2
  runID := 3
  nonce := lit "nonce"
  startedAt := 0
  finishedAt := second
  http := { https := [] }

theorem zeroHash_length (_ : List UInt8) : (List.replicate 32 (0 : UInt8)).length = 32 :=
  List.length_replicate

/-- A hash and a signature that are the same for all messages; `accepted` are the
    messages that verify. -/
def sampleCrypto (accepted : List UInt8 → Bool) : Crypto where
  sha256 := fun _ => List.replicate 32 0
  sha256_length := zeroHash_length
  verify := fun _ m _ => accepted m
  unmarshal := fun raw => (payloadNonce raw).map (fun nonce => { samplePayload with nonce := nonce })

theorem sampleCrypto_reads (accepted : List UInt8 → Bool) : (sampleCrypto accepted).Reads sampleEncoders where
  accepts := fun p raw h => by
    simp [sampleCrypto, payloadNonce_marshalPayload h]
  nonce := fun raw p h => by
    obtain ⟨nonce, hnonce, rfl⟩ := Option.map_eq_some_iff.mp h
    exact hnonce

/-- The key that has signed one result. -/
def sampleUse : KeyUse where
  results := {samplePayload}
  tokens := ∅

/-- Its one message verifies. -/
def sampleAccepts (m : List UInt8) : Bool :=
  m = resultSigningMessage (List.replicate 32 0) (lit "nonce")

end DomainMonitor.Probeprotocol
