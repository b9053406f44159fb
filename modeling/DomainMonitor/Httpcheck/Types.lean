import DomainMonitor.Basic

/-! # HTTP evidence (`internal/httpcheck/types.go`)

    The observations the HTTP checker returns. Everything a server chooses
    (header values, `Location`, titles) is a Go string: arbitrary bytes.
-/

namespace DomainMonitor.Httpcheck

inductive ContentMode where
  | html | any | statusOnly
  deriving DecidableEq, Repr

/-- Durations of one attempt; `total` is the only one that is always recorded. -/
structure Timing where
  dns : Int := 0
  connect : Int := 0
  tls : Int := 0
  ttfb : Int := 0
  total : Int := 0
  reused : Bool := false
  deriving DecidableEq, Repr

structure RedirectHop where
  hop : Nat
  sourceURL : GoString
  statusCode : Nat
  location : GoString
  resolvedTarget : GoString := []
  crossDomain : Bool := false
  httpsDowngrade : Bool := false
  duration : Int := 0
  errorCode : Option Code := none
  deriving DecidableEq, Repr

structure ContentEvidence where
  status : ContentStatus := .unknown
  contentType : GoString := []
  declaredContentLength : Int := 0
  bodySize : Nat := 0
  bodySHA256 : List UInt8 := []
  hashComplete : Bool := false
  excerpt : List UInt8 := []
  title : GoString := []
  errorCode : Option Code := none
  errorMessage : GoString := []
  deriving DecidableEq, Repr

/-- `tlscheck.Result`: what the TLS connection of a response showed. -/
structure TLSResult where
  serverName : GoString
  remoteAddress : GoString := []
  tlsVersion : GoString := []
  cipherSuite : GoString := []
  certificateSubject : GoString := []
  certificateIssuer : GoString := []
  serialHash : List UInt8 := []
  sans : List GoString := []
  validFrom : Option Int := none
  validUntil : Option Int := none
  expirationDays : Option Int := none
  hostnameValid : Option Bool := none
  chainValid : Bool := false
  status : TLSStatus
  diagnosticOnly : Bool := false
  errorCode : Option Code := none
  errorMessage : GoString := []
  checkedAt : Int
  deriving DecidableEq, Repr

/-- One attempt at one URL, redirects included. A status code of `0` means that
    no response was received. -/
structure Attempt where
  attempt : Nat
  requestURL : GoString
  effectiveURL : GoString := []
  protocol : GoString := []
  initialStatusCode : Nat := 0
  finalStatusCode : Nat := 0
  redirects : List RedirectHop := []
  timing : Timing := {}
  content : ContentEvidence := {}
  serverHeader : GoString := []
  headers : List (String × GoString) := []
  tls : Option TLSResult := none
  errorCode : Option Code := none
  errorMessage : GoString := []
  checkedAt : Int
  retryAfter : Int := 0
  retryable : Bool := false
  deriving DecidableEq, Repr

structure OriginResult where
  https : List Attempt
  http : List Attempt := []
  usedHTTPFallback : Bool := false
  deriving DecidableEq, Repr

end DomainMonitor.Httpcheck
