import DomainMonitor.Basic

/-! # DNS evidence (`internal/dnscheck/types.go`)

    The observations the DNS checker returns.
-/

namespace DomainMonitor.Dnscheck

inductive QueryType where
  | a | aaaa | cname | ns
  deriving DecidableEq, Repr

inductive ResolverType where
  | localSystem | cloudflareDoH | remoteSystem
  deriving DecidableEq, Repr

/-- One answer record. The TTL is the unsigned 32-bit field of the wire format. -/
structure Answer where
  name : GoString
  type : QueryType
  value : GoString
  ttl : UInt32
  deriving DecidableEq, Repr

/-- One attempt at one query. -/
structure Result where
  resolver : ResolverType
  endpoint : GoString
  queryName : GoString
  queryType : QueryType
  attempt : Nat
  rcode : String := ""
  authoritative : Bool := false
  truncated : Bool := false
  transport : String := ""
  duration : Int := 0
  answers : List Answer := []
  errorCode : Option Code := none
  errorMessage : GoString := []
  checkedAt : Int
  deriving DecidableEq, Repr

end DomainMonitor.Dnscheck
