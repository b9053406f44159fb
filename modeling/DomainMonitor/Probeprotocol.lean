import DomainMonitor.Lib.Encoding
import DomainMonitor.Lib.Utf8
import DomainMonitor.Dnscheck.Types
import DomainMonitor.Httpcheck.Types

/-! # The probe protocol (`internal/probeprotocol/protocol.go`)

    What a remote probe signs and how the platform verifies it. SHA-256, Ed25519
    and the decoding of the payload are parameters: the code that calls them is
    what is modelled.
-/

namespace DomainMonitor.Probeprotocol

/-- `Version`. -/
def version : GoString := lit "domain-monitor-probe.v1"

structure Target where
  domainASCII : GoString
  schemes : List GoString
  ports : List Int
  deriving DecidableEq, Repr

structure Policy where
  deadlineMS : Int
  maxRedirects : Int
  maxBodyBytes : Int
  storeExcerptBytes : Int
  deriving DecidableEq, Repr

/-- A job as the probe receives it. -/
structure Job where
  jobID : UUID
  runID : UUID
  target : Target
  policyVersion : String
  policy : Policy
  issuedAt : Int
  expiresAt : Int
  nonce : GoString
  deriving DecidableEq, Repr

structure ResultPayload where
  protocolVersion : GoString
  probeID : UUID
  agentVersion : GoString
  regionCode : GoString
  countryCode : GoString
  networkName : GoString := []
  jobID : UUID
  runID : UUID
  nonce : GoString
  startedAt : Int
  finishedAt : Int
  clockOffsetMS : Int := 0
  dns : List Dnscheck.Result := []
  http : Httpcheck.OriginResult
  deriving DecidableEq, Repr

/-- `Payload` is a `json.RawMessage`: the bytes as they were received. -/
structure ResultEnvelope where
  payload : List UInt8
  payloadSHA256 : GoString
  signature : GoString
  deriving DecidableEq, Repr

/-- The functions the protocol calls but does not define. -/
structure Crypto where
  /-- `sha256.Sum256`. -/
  sha256 : List UInt8 → List UInt8
  sha256_length : ∀ bytes, (sha256 bytes).length = 32
  /-- `ed25519.Verify` of a key, a message and a signature. -/
  verify : List UInt8 → List UInt8 → List UInt8 → Bool
  /-- `json.Unmarshal` into a `ResultPayload`. -/
  unmarshal : List UInt8 → Option ResultPayload

/-- `EqualHash`. -/
def equalHash (left right : List UInt8) : Bool :=
  left.length = 32 && right.length = 32 && left = right

/-- `DecodeSignature`: 64 bytes of base64url. -/
def decodeSignature (encoded : GoString) : Option (List UInt8) := do
  let raw ← Encoding.base64Decode (Utf8.trimSpace encoded)
  if raw.length ≠ 64 then none else some raw

/-- `ResultSigningMessage`. -/
def resultSigningMessage (payloadHash : List UInt8) (nonce : GoString) : List UInt8 :=
  version ++ lit "\nresult\n" ++ Encoding.hexEncode payloadHash ++ lit "\n" ++ nonce

inductive VerifyError where
  | payloadRequired | hashMismatch | decodePayload | signatureFormat | signatureInvalid
  deriving DecidableEq, Repr

/-- `VerifyResult`: the payload and its hash. -/
def verifyResult (crypto : Crypto) (publicKey : List UInt8) (envelope : ResultEnvelope) :
    Except VerifyError (ResultPayload × List UInt8) :=
  if envelope.payload = [] then .error .payloadRequired
  else
    let computed := crypto.sha256 envelope.payload
    match Encoding.hexDecode (Utf8.trimSpace envelope.payloadSHA256) with
    | none => .error .hashMismatch
    | some claimed =>
      if !equalHash computed claimed then .error .hashMismatch
      else match crypto.unmarshal envelope.payload with
      | none => .error .decodePayload
      | some payload =>
        match decodeSignature envelope.signature with
        | none => .error .signatureFormat
        | some signature =>
          if crypto.verify publicKey (resultSigningMessage computed payload.nonce) signature then
            .ok (payload, computed)
          else .error .signatureInvalid

end DomainMonitor.Probeprotocol
