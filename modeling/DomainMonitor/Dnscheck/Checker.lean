import DomainMonitor.Lib.FanOut
import DomainMonitor.Lib.NetIP
import DomainMonitor.Lib.Retry
import DomainMonitor.Dnscheck.Types
import DomainMonitor.Netcheck

/-! # DNS queries (`internal/dnscheck/checker.go`)

    `Query` asks one resolver for one record type, again after a transient
    failure; `QueryAll` runs the four queries concurrently. What a resolver
    answers, how long a wait takes and what the clocks show is arbitrary. The
    wire format is the one of the DNS package: names are unpacked into
    presentation format, a TTL is an unsigned 32-bit number, and a section has
    at most 65535 records.
-/

namespace DomainMonitor.Dnscheck

open Netcheck

/-! ### Messages -/

/-- A name in presentation format: bytes outside printable ASCII are escaped. -/
structure Name where
  text : GoString
  printable : Strings.Printable text

/-- The data of a record; `other` are the types `parseAnswers` skips. -/
inductive RData where
  | a (address : List UInt8)
  | aaaa (address : List UInt8)
  | cname (target : Name)
  | ns (host : Name)
  | other

structure RR where
  name : Name
  ttl : UInt32
  data : RData

structure Msg where
  rcode : Nat
  authoritative : Bool
  truncated : Bool
  answer : List RR
  count : answer.length ≤ 65535

/-- What the code uses of the DNS package and of the Unicode tables. -/
structure Library where
  isDomainName : GoString → Bool
  fqdn : GoString → GoString
  rcodeToString : Nat → String
  tables : Strings.Tables
  rcode_printable : ∀ n, Strings.Printable (lit (rcodeToString n))

/-! ### Resolvers -/

structure ExchangeResult where
  message : Option Msg := none
  duration : Int
  transport : String
  truncated : Bool := false

/-- Everything one attempt meets: what `Exchange` returns, the state of the two
    contexts when it has returned, and whether the wait after the attempt ran to
    its end. -/
structure Exchange where
  result : ExchangeResult
  err : Option Failure := none
  attemptErr : Option ContextErr := none
  parentErr : Option ContextErr := none
  waitOk : Bool := true

/-- A resolver: what happens at every attempt of every query. -/
structure Resolver where
  type : ResolverType
  endpoint : GoString
  exchange : QueryType → Nat → Exchange

/-- `Checker`. The readings of its clock are indexed by query and attempt; the
    attempt timeout only shows in what the attempt meets. -/
structure Checker where
  retry : Policy
  now : QueryType → Nat → Int

/-! ### One query -/

/-- `classifyExchangeError`. -/
def classifyExchangeError (parentErr attemptErr : Option ContextErr) (err : Failure) : Error :=
  match err.classified with
  | some existing => existing
  | none =>
    if parentErr = some .canceled then
      ⟨.runCancelled, "dns", lit "query", false, some ContextErr.canceled.text⟩
    else if parentErr = some .deadlineExceeded then
      ⟨.runDeadlineExceeded, "dns", lit "query", false, some ContextErr.deadlineExceeded.text⟩
    else if attemptErr = some .deadlineExceeded ∨ err.deadlineExceeded then
      ⟨.dnsTimeout, "dns", lit "query", true, some ContextErr.deadlineExceeded.text⟩
    else if err.timeout then ⟨.dnsTimeout, "dns", lit "query", true, some err.text⟩
    else ⟨.dnsNetworkError, "dns", lit "query", true, some err.text⟩

variable (tables : Strings.Tables) (lib : Library) (checker : Checker) (resolver : Resolver)
  (name : GoString) (maxConcurrency : Int) (queryType : QueryType)

/-- `classifyRCode`. -/
def classifyRCode (rcode : Nat) : Option Error :=
  if rcode = 0 then none
  else if rcode = 3 then
    some ⟨.dnsNXDomain, "dns", lit "query", false, some (lit "DNS response code NXDOMAIN")⟩
  else if rcode = 2 then
    some ⟨.dnsServFail, "dns", lit "query", true, some (lit "DNS response code SERVFAIL")⟩
  else if rcode = 5 then
    some ⟨.dnsRefused, "dns", lit "query", false, some (lit "DNS response code REFUSED")⟩
  else
    some ⟨.dnsNetworkError, "dns", lit "query", false,
      some (lit "DNS response code " ++ lit (lib.rcodeToString rcode))⟩

/-- The type and value `parseAnswers` gives a record, if it keeps the record. -/
def RData.answer? : RData → Option (QueryType × GoString)
  | .a address => some (.a, NetIP.text address)
  | .aaaa address => some (.aaaa, NetIP.text address)
  | .cname target => some (.cname, Strings.toLower lib.tables target.text)
  | .ns host => some (.ns, Strings.toLower lib.tables host.text)
  | .other => none

def RR.answer? (record : RR) : Option Answer :=
  (record.data.answer? lib).map (fun (type, value) =>
    { name := Strings.toLower lib.tables record.name.text, type, value, ttl := record.ttl })

def parseAnswers (records : List RR) : List Answer :=
  records.filterMap (RR.answer? lib)

/-- An iteration of the loop in `Query`: the result it appends, and whether the
    error it met is worth another attempt. -/
def queryAttempt (attempt : Nat) : Result × Bool :=
  let exchange := resolver.exchange queryType attempt
  let result : Result := {
    resolver := resolver.type, endpoint := resolver.endpoint, queryName := name, queryType
    attempt, transport := exchange.result.transport, duration := exchange.result.duration
    truncated := exchange.result.truncated, checkedAt := checker.now queryType attempt }
  match exchange.err with
  | some err =>
    let classified := classifyExchangeError exchange.parentErr exchange.attemptErr err
    ({ result with errorCode := some classified.code, errorMessage := classified.text },
      classified.retryable)
  | none =>
    match exchange.result.message with
    | none =>
      let classified : Error := ⟨.dnsMalformedResponse, "dns", lit "query", false,
        some (lit "resolver returned no message")⟩
      ({ result with errorCode := some classified.code, errorMessage := classified.text }, false)
    | some message =>
      -- The answers are parsed whatever the response code says.
      let result := { result with
        rcode := lib.rcodeToString message.rcode
        authoritative := message.authoritative
        truncated := result.truncated || message.truncated
        answers := parseAnswers lib message.answer }
      match classifyRCode lib message.rcode with
      | none => (result, false)
      | some rcodeError =>
        ({ result with errorCode := some rcodeError.code, errorMessage := rcodeError.text },
          rcodeError.retryable)

/-- The name `Query` asks for, unless it is refused. -/
def queryName? : Option GoString :=
  let name := Strings.toLower lib.tables (Utf8.trimSpace name)
  if lib.isDomainName name = false ∨ name = lit "." then none else some (lib.fqdn name)

/-- An attempt is followed by another one: its error is worth it, and the wait
    was not cut short. -/
def again (attempt : Nat) : Bool :=
  (queryAttempt lib checker resolver name queryType attempt).2
    && (resolver.exchange queryType attempt).waitOk

/-- `Query`. -/
def query : List Result :=
  match queryName? lib name with
  | none => [{
      resolver := resolver.type, endpoint := resolver.endpoint
      queryName := Strings.toLower lib.tables (Utf8.trimSpace name), queryType, attempt := 1
      errorCode := some .normalizationInvalid, errorMessage := lit "invalid DNS query name"
      checkedAt := checker.now queryType 1 }]
  | some name =>
    Retry.attempts checker.retry.limit
      (fun n => (queryAttempt lib checker resolver name queryType n).1)
      (again lib checker resolver name queryType)

/-! ### The four queries -/

def queryTypes : List QueryType := [.a, .aaaa, .cname, .ns]

/-- The capacity of the semaphore. -/
def concurrency : Nat :=
  if maxConcurrency < 1 then 2
  else if maxConcurrency > queryTypes.length then queryTypes.length
  else maxConcurrency.toNat

/-- `QueryAll` can return `results`: the four goroutines finish in some order,
    each having filled its own group. -/
def QueryAll (results : List Result) : Prop :=
  ∃ groups, FanOut.Returns queryTypes.length (concurrency maxConcurrency)
      (fun i => query lib checker resolver name (queryTypes.getD i .a)) groups ∧
    results = groups.flatten

theorem concurrency_pos : 1 ≤ concurrency maxConcurrency := by
  have hlen : queryTypes.length = 4 := rfl
  unfold concurrency
  split_ifs <;> omega

/-- Whatever the schedule, the results are those of the four queries in order. -/
theorem queryAll_iff {lib : Library} {checker : Checker} {resolver : Resolver} {name : GoString}
    {maxConcurrency : Int} {results : List Result} :
    QueryAll lib checker resolver name maxConcurrency results ↔
      results = queryTypes.flatMap (query lib checker resolver name) := by
  have hmap : (List.range queryTypes.length).map
      (fun i => query lib checker resolver name (queryTypes.getD i .a)) =
      queryTypes.map (query lib checker resolver name) := rfl
  unfold QueryAll
  simp only [FanOut.returns_iff (concurrency_pos maxConcurrency), hmap]
  constructor
  · rintro ⟨groups, rfl, rfl⟩
    rfl
  · rintro rfl
    exact ⟨_, rfl, rfl⟩

/-! ### Comparing two resolvers (`internal/dnscheck/compare.go`) -/

structure Comparison where
  discrepancy : Bool := false
  nsDiscrepancy : Bool := false
  reasons : List String := []
  deriving DecidableEq, Repr

/-- `latestByType`: for each type the last result with the highest attempt. -/
def latestByType (results : List Result) : QueryType → Option Result :=
  results.foldl (fun latest result queryType =>
    if queryType = result.queryType ∧ (latest queryType).all (fun r => r.attempt ≤ result.attempt)
    then some result else latest queryType) (fun _ => none)

/-- The value an answer contributes to the comparison. -/
def canonicalValue (answer : Answer) : QueryType × GoString :=
  let value := Utf8.trimSpace answer.value
  let value := if value.getLast? = some (Strings.byte '.') then value.dropLast else value
  let value := Strings.toLower tables value
  (answer.type, ((NetIP.parseAddr value).map (fun addr => addr.unmap.text)).getD value)

/-- `canonicalValues`, as a set. -/
def canonicalValues (answers : List Answer) (queryType : QueryType) : List (QueryType × GoString) :=
  (answers.filter (fun answer => answer.type = queryType ∨
    ((queryType = .a ∨ queryType = .aaaa) ∧ answer.type = .cname))).map (canonicalValue tables)

/-- `equalAnswerSets`: the sorted lists without duplicates are equal exactly when
    they have the same members. -/
def equalAnswerSets (left right : List Answer) (queryType : QueryType) : Bool :=
  let leftValues := canonicalValues tables left queryType
  let rightValues := canonicalValues tables right queryType
  leftValues.all (rightValues.contains ·) && rightValues.all (leftValues.contains ·)

/-- `addReason`. -/
def addReason (reasons : List String) (reason : String) : List String :=
  if reason ∈ reasons then reasons else reasons ++ [reason]

/-- The flags and reason a discrepancy of one type leads to. -/
def Comparison.discrepant (comparison : Comparison) (queryType : QueryType) (reason : String) :
    Comparison :=
  if queryType = .ns then
    { comparison with
      nsDiscrepancy := true, reasons := addReason comparison.reasons "DNS_NS_DISCREPANCY" }
  else
    { comparison with discrepancy := true, reasons := addReason comparison.reasons reason }

/-- One type in the loop of `Compare`. -/
def compareType (left right : QueryType → Option Result) (comparison : Comparison)
    (queryType : QueryType) : Comparison :=
  match left queryType, right queryType with
  | some l, some r =>
    if l.rcode ≠ r.rcode ∨ l.errorCode ≠ r.errorCode then
      comparison.discrepant queryType "DNS_RCODE_DISCREPANCY"
    else if equalAnswerSets tables l.answers r.answers queryType = false then
      comparison.discrepant queryType "DNS_ANSWER_DISCREPANCY"
    else comparison
  | _, _ => comparison

/-- `Compare`. -/
def compare (localResults alternate : List Result) : Comparison :=
  queryTypes.foldl
    (compareType tables (latestByType localResults) (latestByType alternate)) {}

end DomainMonitor.Dnscheck
