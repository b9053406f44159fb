import DomainMonitor.Lib.JsonParse
import DomainMonitor.Lib.Marshal
import DomainMonitor.Monitor.Evidence
import DomainMonitor.Probe.Results

/-! # Stored remote evidence (`internal/probe/results.go`, `internal/probeprotocol`)

    `SubmitResult` keeps the signed envelope in a `jsonb` column. Read back, its
    payload is the text PostgreSQL writes for the stored value, while the probe has
    hashed and signed the bytes it sent.
-/

namespace DomainMonitor.Probe

open Monitor Probeprotocol

/-! ### Reading an envelope back -/

/-- The member of an object with this key. -/
def member (key : String) : Json.Value → Option Json.Value
  | .obj members => (members.find? (fun m => Marshal.unquote m.1.raw = lit key)).map Prod.snd
  | _ => none

/-- A `json.RawMessage`: the bytes of the value as PostgreSQL writes them. -/
def rawMember (key : String) (v : Json.Value) : List UInt8 :=
  ((member key v).map (Json.text Json.spaced)).getD []

/-- A `string`. -/
def stringMember (key : String) (v : Json.Value) : GoString :=
  match member key v with
  | some (.str s) => Marshal.unquote s.raw
  | _ => []

/-- `json.Unmarshal` of the text of `raw_envelope`. -/
def readEnvelope (v : Json.Value) : ResultEnvelope where
  payload := rawMember "payload" v
  payloadSHA256 := stringMember "payload_sha256" v
  signature := stringMember "signature" v

variable {lib : Library} {payload : ResultPayload}

variable {envelope : ResultEnvelope} {settings : Settings} {hash : List UInt8} {call : SubmitCall}

/-- Hash and signature come back as they were; the payload is written anew. -/
theorem readEnvelope_stored {raw : Json.Value} (h : envelopeValue lib envelope = some raw) :
    ∃ v, Jsonb.cast lib.numeric envelope.payload = some v ∧
      readEnvelope raw = { envelope with payload := Json.text Json.spaced v } := by
  simp only [envelopeValue, Option.bind_eq_bind, Option.bind_eq_some_iff] at h
  obtain ⟨v, hv, hraw⟩ := h
  cases hraw
  have hsignature : lit "payload" ≠ lit "signature" := by decide
  have hhash : lit "payload" ≠ lit "payload_sha256" := by decide
  have hhash' : lit "signature" ≠ lit "payload_sha256" := by decide
  refine ⟨v, hv, ?_⟩
  simp [readEnvelope, rawMember, stringMember, member, Marshal.unquote_ofText, hsignature, hhash,
    hhash']

/-! ### Verifying it again -/

/-- What a successful verification has checked. -/
theorem verifyResult_hash {crypto : Crypto} {publicKey : List UInt8}
    (h : verifyResult crypto publicKey envelope = .ok (payload, hash)) :
    hash = crypto.sha256 envelope.payload := by
  unfold verifyResult at h
  split at h
  · cases h
  · dsimp only at h
    split at h
    · cases h
    · split at h
      · cases h
      · split at h
        · cases h
        · split at h
          · cases h
          · split at h
            · cases h
              rfl
            · cases h

theorem checkEnvelope_verified (h : checkEnvelope lib settings call = .ok (payload, hash)) :
    verifyResult lib.crypto call.principal.publicKey call.envelope = .ok (payload, hash) := by
  unfold checkEnvelope at h
  split at h
  · cases h
  · split at h
    · cases h
    · rename_i hverify
      split at h
      · cases h
      · split at h
        · cases h
        · split at h
          · cases h
          · cases h
            exact hverify

theorem observe_remote {job : Job} {payloadHash : List UInt8} {db : DB} {o : Observation}
    (h : observe lib settings call job payload payloadHash db = .ok o) :
    o.remote.columns.payloadHash = payloadHash ∧
      envelopeValue lib call.envelope = some o.remote.columns.rawEnvelope := by
  simp only [observe, except_bind_ok] at h
  obtain ⟨_, -, _, -, _, -, _, -, raw, hraw, remote, hremote, _, -, _, -, h⟩ := h
  cases h
  have hcolumns := Row.insert?_eq_some.mp (orFail_ok.mp hremote)
  show remote.columns.payloadHash = payloadHash ∧ _ = some remote.columns.rawEnvelope
  rw [hcolumns]
  exact ⟨rfl, orFail_ok.mp hraw⟩

/-- **Stored evidence**: unless the two payloads collide under SHA-256, the envelope of
    an accepted result verifies again, with the stored `payload_hash`, if and only if
    its payload was sent in the very form in which PostgreSQL writes it back. A payload
    as `SignResult` writes it, an object without blanks, never was. -/
theorem remote_evidence_verifiable_iff {lib : Library} {settings : Settings} {call : SubmitCall}
    {job : Job} {payload : ResultPayload} {payloadHash : List UInt8} {db : DB} {o : Observation}
    (henvelope : checkEnvelope lib settings call = .ok (payload, payloadHash))
    (hobserve : observe lib settings call job payload payloadHash db = .ok o)
    (hcollision : ∀ v, Jsonb.cast lib.numeric call.envelope.payload = some v →
      lib.crypto.sha256 (Json.text Json.spaced v) = lib.crypto.sha256 call.envelope.payload →
      Json.text Json.spaced v = call.envelope.payload) :
    ((∃ payload', verifyResult lib.crypto call.principal.publicKey
        (readEnvelope o.remote.columns.rawEnvelope) = .ok (payload', o.remote.columns.payloadHash)) ↔
      (Jsonb.cast lib.numeric call.envelope.payload).map (Json.text Json.spaced) =
        some call.envelope.payload) ∧
    ∀ k w rest, call.envelope.payload = Json.text Json.compact (.obj ((k, w) :: rest)) →
      ¬ ∃ payload', verifyResult lib.crypto call.principal.publicKey
        (readEnvelope o.remote.columns.rawEnvelope) = .ok (payload', o.remote.columns.payloadHash) := by
  have hverified := checkEnvelope_verified henvelope
  obtain ⟨hhash, hraw⟩ := observe_remote hobserve
  obtain ⟨v, hv, hread⟩ := readEnvelope_stored hraw
  have hiff : (∃ payload', verifyResult lib.crypto call.principal.publicKey
      (readEnvelope o.remote.columns.rawEnvelope) = .ok (payload', o.remote.columns.payloadHash)) ↔
      Json.text Json.spaced v = call.envelope.payload := by
    rw [hread, hhash]
    constructor
    · rintro ⟨payload', hagain⟩
      apply hcollision v hv
      exact (verifyResult_hash hagain).symm.trans (verifyResult_hash hverified)
    · intro hsame
      rw [hsame]
      exact ⟨payload, hverified⟩
  rw [hiff, hv, Option.map_some, Option.some.injEq]
  refine ⟨Iff.rfl, ?_⟩
  intro k w rest hcompact hsame
  rw [hcompact] at hsame
  exact Json.text_spaced_ne_compact v k w rest hsame

/-- An empty payload is written back as it was sent. -/
theorem remote_evidence_verifiable_empty :
    ∃ o, observe sampleLibrary defaultSettings sampleSubmit sampleJob samplePayload
        (List.replicate 32 0) sampleCompleted = .ok o ∧
      ∃ payload', verifyResult sampleLibrary.crypto sampleSubmit.principal.publicKey
        (readEnvelope o.remote.columns.rawEnvelope) = .ok (payload', o.remote.columns.payloadHash) := by
  have henvelope : checkEnvelope sampleLibrary defaultSettings sampleSubmit =
      .ok (samplePayload, List.replicate 32 0) := by decide +kernel
  have hok : (observe sampleLibrary defaultSettings sampleSubmit sampleJob samplePayload
      (List.replicate 32 0) sampleCompleted).isOk = true := by decide +kernel
  have hcast : (Jsonb.cast sampleLibrary.numeric sampleSubmit.envelope.payload).map
      (Json.text Json.spaced) = some sampleSubmit.envelope.payload := by decide +kernel
  cases hobserve : observe sampleLibrary defaultSettings sampleSubmit sampleJob samplePayload
      (List.replicate 32 0) sampleCompleted with
  | error e => rw [hobserve] at hok; cases hok
  | ok o =>
    refine ⟨o, rfl, (remote_evidence_verifiable_iff henvelope hobserve ?_).1.mpr hcast⟩
    intro v hv _
    rw [hv, Option.map_some, Option.some.injEq] at hcast
    exact hcast

/-! ### A payload as probes send it -/

/-- A hash that keeps the first bytes. -/
def leadingLibrary : Library :=
  { sampleLibrary with
    crypto := { sampleLibrary.crypto with
      sha256 := fun bytes => (bytes ++ List.replicate 32 0).take 32
      sha256_length := by
        intro bytes
        simp } }

/-- One member, written without blanks. -/
def compactSubmit : SubmitCall :=
  { sampleSubmit with
    envelope := { sampleSubmit.envelope with
      payload := lit "\x7b\"a\":1\x7d"
      payloadSHA256 := Encoding.hexEncode (leadingLibrary.crypto.sha256 (lit "\x7b\"a\":1\x7d")) } }

/-- The accepted envelope comes back with a blank after the colon, and its hash no longer
    matches. -/
theorem compact_payload_not_verifiable :
    ∃ payload hash o, checkEnvelope leadingLibrary defaultSettings compactSubmit = .ok (payload, hash) ∧
      observe leadingLibrary defaultSettings compactSubmit sampleJob payload hash sampleCompleted =
        .ok o ∧
      verifyResult leadingLibrary.crypto compactSubmit.principal.publicKey
        (readEnvelope o.remote.columns.rawEnvelope) = .error .hashMismatch := by
  have hrun : ((checkEnvelope leadingLibrary defaultSettings compactSubmit).bind (fun p =>
      (observe leadingLibrary defaultSettings compactSubmit sampleJob p.1 p.2 sampleCompleted).map
        (fun o => verifyResult leadingLibrary.crypto compactSubmit.principal.publicKey
          (readEnvelope o.remote.columns.rawEnvelope)))) = .ok (.error .hashMismatch) := by
    decide +kernel
  cases henvelope : checkEnvelope leadingLibrary defaultSettings compactSubmit with
  | error e => rw [henvelope] at hrun; cases hrun
  | ok p =>
    rw [henvelope] at hrun
    cases hobserve : observe leadingLibrary defaultSettings compactSubmit sampleJob p.1 p.2
        sampleCompleted with
    | error e =>
      simp only [Except.bind, hobserve] at hrun
      cases hrun
    | ok o =>
      simp only [Except.bind, hobserve] at hrun
      exact ⟨p.1, p.2, o, rfl, hobserve, Except.ok.inj hrun⟩

end DomainMonitor.Probe
