import DomainMonitor.Classification.State
import DomainMonitor.Dnscheck.Checker
import DomainMonitor.Httpcheck.Types

/-! # Classifying evidence (`internal/classification/classification.go`)

    `Classify` turns the DNS results and the HTTP attempts of a run into a
    `Decision`.
-/

namespace DomainMonitor.Classification

open Httpcheck

variable (decision : Decision) (attempt : Attempt) (results : List Dnscheck.Result)
  (code : Option Code) (tables : Strings.Tables) (localDNS alternateDNS : List Dnscheck.Result)
  (origin : OriginResult)

/-- `effectiveAttempt`: the last attempt over HTTP if it was tried, else over
    HTTPS. -/
def effectiveAttempt : Option Attempt :=
  if origin.usedHTTPFallback ∧ origin.http ≠ [] then origin.http.getLast? else origin.https.getLast?

/-- The status `classifyDNS` gives a failed query. -/
def dnsFailure : List (Code × DNSStatus) := [
  (.dnsNXDomain, .nxdomain), (.dnsServFail, .servfail), (.dnsRefused, .refused),
  (.dnsTimeout, .timeout), (.dnsNetworkError, .networkError)]

def classifyDNS (comparison : Dnscheck.Comparison) : DNSStatus :=
  let latest := Dnscheck.latestByType results
  if comparison.discrepancy then .discrepancy
  else if [Dnscheck.QueryType.a, .aaaa, .cname].any (fun queryType =>
      (latest queryType).any (fun r => r.errorCode.isNone && r.rcode == "NOERROR")) then .ok
  else
    match dnsFailure.find? (fun (code, _) => Dnscheck.queryTypes.any (fun queryType =>
        (latest queryType).any (fun r => r.errorCode = some code))) with
    | some (_, status) => status
    | none => .unknown

def classifyHTTP : HTTPStatus :=
  let final := attempt.finalStatusCode
  if attempt.redirects ≠ [] ∧ 200 ≤ final ∧ final < 400 then .redirect
  else if 200 ≤ final ∧ final < 400 then .ok
  else if 400 ≤ final ∧ final < 500 then .clientError
  else if 500 ≤ final then .serverError
  else match attempt.errorCode with
    | some .httpTimeout | some .tcpTimeout => .timeout
    | some .httpRedirectLoop | some .httpRedirectLimit | some .httpMalformedLocation
    | some .httpHTTPSDowngrade => .redirect
    | some .tcpRefused | some .tcpReset | some .tcpNetworkError | some .dnsTimeout
    | some .dnsNetworkError | some .dnsNXDomain | some .dnsServFail | some .dnsRefused
    | some .tlsErrorExpired | some .tlsErrorHostname | some .tlsErrorUnknownAuthority
    | some .tlsErrorHandshake => .connectionError
    | _ => .unknown

def classifyRedirect : RedirectStatus :=
  match attempt.errorCode with
  | some .httpRedirectLoop => .loop
  | some .httpRedirectLimit | some .httpMalformedLocation => .invalid
  | some .httpHTTPSDowngrade => .httpsDowngrade
  | _ =>
    if attempt.redirects = [] then .none
    else if attempt.redirects.any (fun hop => hop.statusCode = 301 ∨ hop.statusCode = 308) then
      .permanent
    else .temporary

def classifyTLS : TLSStatus :=
  match attempt.tls with
  | some tls => tls.status
  | none =>
    match attempt.errorCode with
    | some .tlsErrorExpired => .expired
    | some .tlsErrorHostname => .hostnameMismatch
    | some .tlsErrorUnknownAuthority => .invalid
    | some .tlsErrorHandshake => .error
    | _ => if (lit "http://").isPrefixOf attempt.requestURL then .notApplicable else .unknown

def classifyAvailability : Availability :=
  let final := attempt.finalStatusCode
  if 200 ≤ final ∧ final < 300 then
    if attempt.content.status = .validHTML ∨ attempt.content.status = .validNonHTML then .active
    else .degraded
  else if 400 ≤ final ∧ final < 500 then .degraded
  else if 500 ≤ final then .unavailable
  else match attempt.errorCode with
    | some .runCancelled | some .runDeadlineExceeded => .unknown
    | some .contentEmpty | some .contentTooSmall | some .contentNotMeaningful
    | some .contentTooLarge | some .contentUnsupported => .degraded
    | some _ => .unavailable
    | none => .unknown

/-- `failureStage`: the first part of the code, with two exceptions. -/
def failureStage : String :=
  match code with
  | none => ""
  | some code =>
    let starts := fun front : String => (lit front).isPrefixOf (lit code.text)
    if starts "DNS_" then "dns"
    else if starts "TCP_" || starts "SSRF_" then "tcp"
    else if starts "TLS_" then "tls"
    else if starts "HTTP_" then "http"
    else if starts "CONTENT_" then "content"
    else if code = .runCancelled ∨ code = .runDeadlineExceeded then "persistence"
    else ""

/-- `unique`: the first occurrence of every non-empty reason. -/
def unique (values : List String) : List String :=
  values.foldl (fun result value =>
    if value = "" ∨ value ∈ result then result else result ++ [value]) []

def evidenceReasons (comparison : Dnscheck.Comparison) : List String :=
  unique (comparison.reasons
    ++ (match decision.availability with
        | .active => ["HTTP_FINAL_SUCCESS", "CONTENT_VALID"]
        | .degraded => ["PARTIAL_AVAILABILITY"]
        | .unavailable => ["QUALIFYING_FAILURE"]
        | .unknown => ["EVIDENCE_INCOMPLETE"])
    ++ (if decision.redirect = .permanent then ["PERMANENT_REDIRECT"] else [])
    ++ (match decision.errorCode with
        | some code => [code.text]
        | none => []))

def hasConclusiveDNS : Bool :=
  results.any (fun r => r.errorCode.isNone && r.rcode == "NOERROR")

def repeatedFailure : Bool :=
  code.isSome && results.countP (fun r => r.errorCode = code) ≥ 2

def score : Int :=
  let value : Int := match decision.availability with
    | .active => 65
    | .degraded => 50
    | .unavailable => 35
    | .unknown => 20
  let value := if decision.dns = .ok then value + 10 else value
  let value := if hasConclusiveDNS alternateDNS then value + 10 else value
  let value := if repeatedFailure localDNS decision.errorCode then value + 5 else value
  let value := if decision.dns = .discrepancy then value - 10 else value
  let value := if value < 0 then 0 else value
  if value > 99 then 99 else value

def confidenceLevel (score : Int) : ConfidenceLevel :=
  if score ≥ 80 then .high else if score ≥ 50 then .medium else .low

/-- `Classify`. -/
def classify : Decision :=
  let comparison := Dnscheck.compare tables localDNS alternateDNS
  let dns := classifyDNS localDNS comparison
  match effectiveAttempt origin with
  | none => {
      availability := .unknown, dns, failureStage := "http", errorCode := some .httpTimeout
      errorMessage := lit "HTTP checker returned no attempts", confidence := 20
      confidenceLevel := confidenceLevel 20, reasons := ["HTTP_EVIDENCE_MISSING"] }
  | some attempt =>
    let availability := classifyAvailability attempt
    let decision : Decision := {
      availability, dns
      http := classifyHTTP attempt
      redirect := classifyRedirect attempt
      tls := classifyTLS attempt
      content := attempt.content.status
      initialHTTP := attempt.initialStatusCode
      finalHTTP := attempt.finalStatusCode
      finalTarget := if availability = .active then some .active else none
      errorCode := attempt.errorCode
      errorMessage := attempt.errorMessage
      failureStage := failureStage attempt.errorCode }
    let confidence := score decision localDNS alternateDNS
    { decision with
      reasons := evidenceReasons decision comparison
      confidence
      confidenceLevel := confidenceLevel confidence }

/-! ### What every decision satisfies -/

theorem score_range :
    0 ≤ score decision localDNS alternateDNS ∧ score decision localDNS alternateDNS ≤ 99 := by
  -- Whatever was added, the last two steps clamp the value.
  have hclamp : ∀ value : Int,
      let low := if value < 0 then 0 else value
      0 ≤ (if low > 99 then 99 else low) ∧ (if low > 99 then 99 else low) ≤ 99 := by
    intro value
    dsimp only
    split_ifs <;> omega
  exact hclamp _

/-- The values `failureStage` can take. -/
theorem failureStage_known :
    failureStage code ∈ ["", "dns", "tcp", "tls", "http", "content", "persistence"] := by
  unfold failureStage
  split
  · decide
  · dsimp only
    split_ifs <;> decide

theorem classify_confidence :
    0 ≤ (classify tables localDNS alternateDNS origin).confidence ∧
      (classify tables localDNS alternateDNS origin).confidence ≤ 99 := by
  unfold classify
  dsimp only
  cases effectiveAttempt origin with
  | none => exact (by decide : (0 : Int) ≤ 20 ∧ (20 : Int) ≤ 99)
  | some attempt => exact score_range _ _ _

theorem classify_failureStage :
    (classify tables localDNS alternateDNS origin).failureStage ∈
      ["", "dns", "tcp", "tls", "http", "content", "persistence"] := by
  unfold classify
  dsimp only
  cases effectiveAttempt origin with
  | none => exact failureStage_known (some .httpTimeout)
  | some attempt => exact failureStage_known attempt.errorCode

/-- The availability of a decision is that of the effective attempt. -/
theorem classify_availability {origin : OriginResult} {attempt : Attempt}
    (h : effectiveAttempt origin = some attempt) :
    (classify tables localDNS alternateDNS origin).availability = classifyAvailability attempt := by
  unfold classify
  dsimp only
  rw [h]

/-- A worker cannot observe the ISP status of a domain on its own. -/
theorem classify_isp : (classify tables localDNS alternateDNS origin).isp = .unknown := by
  unfold classify
  dsimp only
  cases effectiveAttempt origin with
  | none => rfl
  | some attempt => rfl

/-- The status codes of a decision are those of the effective attempt. -/
theorem classify_statusCodes :
    (classify tables localDNS alternateDNS origin).initialHTTP =
        ((effectiveAttempt origin).map Attempt.initialStatusCode).getD 0 ∧
      (classify tables localDNS alternateDNS origin).finalHTTP =
        ((effectiveAttempt origin).map Attempt.finalStatusCode).getD 0 := by
  unfold classify
  dsimp only
  cases effectiveAttempt origin with
  | none => exact ⟨rfl, rfl⟩
  | some attempt => exact ⟨rfl, rfl⟩

end DomainMonitor.Classification
