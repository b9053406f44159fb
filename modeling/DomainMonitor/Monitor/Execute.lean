import DomainMonitor.Classification.Classify
import DomainMonitor.Httpcheck.Checker
import DomainMonitor.Monitor.Schema

/-! # Gathering evidence (`internal/monitor/engine.go`, `internal/protocolcheck/suite.go`)

    Between claiming a run and completing it, `Execute` queries both resolvers,
    checks the domain over HTTP, checks it once more with the host pinned to the
    addresses Cloudflare answered, and classifies what it saw.
-/

namespace DomainMonitor.Monitor

open Httpcheck Classification

/-- The configuration `protocolcheck.New` gives the HTTP checkers. -/
def httpConfig (cfg : Config) : Httpcheck.Config where
  maxRedirects := cfg.httpMaxRedirects
  maxBodyBytes := cfg.httpMaxBodyBytes
  excerptBytes := cfg.httpExcerptBytes
  headerBytes := cfg.httpHeaderBytes
  minMeaningfulBytes := cfg.httpMinBodyBytes
  retry := cfg.retryPolicy

/-- The addresses of conclusive results, each once. -/
def pinnedAddresses (results : List Dnscheck.Result) : List NetIP.Addr :=
  let answers := (results.filter (fun r => r.errorCode.isNone && r.rcode == "NOERROR")).flatMap
    Dnscheck.Result.answers
  let addresses := (answers.filter (fun answer => answer.type = .a ∨ answer.type = .aaaa)).filterMap
    (fun answer => (NetIP.parseAddr (Utf8.trimSpace answer.value)).map NetIP.Addr.unmap)
  addresses.foldl (fun seen address => if address ∈ seen then seen else seen ++ [address]) []

/-- `NewDoHPinnedHTTP`: the host and the addresses it is pinned to, if there is
    something to pin. -/
def newDoHPinnedHTTP (tables : Strings.Tables) (hostname : GoString)
    (results : List Dnscheck.Result) : Option (GoString × List NetIP.Addr) :=
  let hostname := Utf8.trimSpace hostname
  let hostname := if hostname.getLast? = some (Strings.byte '.') then hostname.dropLast else hostname
  let hostname := Strings.toLower tables hostname
  let addresses := pinnedAddresses results
  if hostname = [] ∨ addresses = [] then none else some (hostname, addresses)

/-- The servers a run meets: those the system resolver leads to, and those at
    the addresses a host is pinned to. -/
structure Web where
  system : Origin
  pinned : GoString → List NetIP.Addr → Origin

/-- The part of `Execute` between the DNS queries and `CompleteRun`. -/
def gatherEvidence (lib : Library) (cfg : Config) (target : Target) (web : Web)
    (localDNS alternateDNS : List Dnscheck.Result) (checkedAt : Int) : Evidence :=
  let hostname := target.domainASCII.bytes
  let check := fun origin =>
    checkDomain lib (httpConfig cfg) target.expectedContentMode origin hostname
  let http := check web.system
  { localDNS, alternateDNS, http
    pinnedHTTP := (newDoHPinnedHTTP lib.tables hostname alternateDNS).map
      (fun (host, addresses) => check (web.pinned host addresses))
    decision := classify lib.tables localDNS alternateDNS http
    checkedAt }

theorem gatherEvidence_decision (lib : Library) (cfg : Config) (target : Target) (web : Web)
    (localDNS alternateDNS : List Dnscheck.Result) (checkedAt : Int) :
    (gatherEvidence lib cfg target web localDNS alternateDNS checkedAt).decision =
      classify lib.tables localDNS alternateDNS
        (gatherEvidence lib cfg target web localDNS alternateDNS checkedAt).http := by
  dsimp only [gatherEvidence]

end DomainMonitor.Monitor
