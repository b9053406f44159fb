import DomainMonitor.Dnscheck.Checker
import DomainMonitor.Monitor.Evidence

/-! # Storing DNS observations

    `QueryAll` numbers the attempts of a query from one, keeps the resolver and
    the type in every result, and takes names, values and TTLs from the wire. So
    the keys are distinct, the attempt numbers are within the limit of the retry
    policy, and the texts are printable, whatever a resolver answers. The TTL is
    copied as an unsigned 32-bit number into a signed column: this is the one
    constraint an answer can break.
-/

namespace DomainMonitor.Dnscheck

open Netcheck

variable {lib : Library} {checker : Checker} {resolver : Resolver} {name : GoString}
  {queryType : QueryType} {n : Nat}

/-! ### What a query returns -/

/-- The message an attempt goes on to read. -/
def Exchange.received (exchange : Exchange) : Option Msg :=
  match exchange.err with
  | some _ => none
  | none => exchange.result.message

/-- Attempt `n` of the query takes place and receives `message`. -/
def Receives (lib : Library) (checker : Checker) (resolver : Resolver) (name : GoString)
    (queryType : QueryType) (n : Nat) (message : Msg) : Prop :=
  ∃ fqdn, queryName? lib name = some fqdn ∧
    Retry.Attempted checker.retry.limit (again lib checker resolver fqdn queryType) n ∧
    (resolver.exchange queryType n).received = some message

/-- The fields of a result that no answer decides. -/
theorem queryAttempt_key (lib : Library) (checker : Checker) (resolver : Resolver)
    (name : GoString) (queryType : QueryType) (n : Nat) :
    (queryAttempt lib checker resolver name queryType n).1.resolver = resolver.type ∧
    (queryAttempt lib checker resolver name queryType n).1.queryType = queryType ∧
    (queryAttempt lib checker resolver name queryType n).1.attempt = n := by
  unfold queryAttempt
  dsimp only
  split
  · exact ⟨rfl, rfl, rfl⟩
  · split
    · exact ⟨rfl, rfl, rfl⟩
    · split <;> exact ⟨rfl, rfl, rfl⟩

/-- The fields of a result that come from the message. -/
theorem queryAttempt_message (lib : Library) (checker : Checker) (resolver : Resolver)
    (name : GoString) (queryType : QueryType) (n : Nat) :
    (queryAttempt lib checker resolver name queryType n).1.answers =
      (match (resolver.exchange queryType n).received with
       | none => []
       | some message => parseAnswers lib message.answer) ∧
    (queryAttempt lib checker resolver name queryType n).1.rcode =
      (match (resolver.exchange queryType n).received with
       | none => ""
       | some message => lib.rcodeToString message.rcode) := by
  unfold queryAttempt Exchange.received
  dsimp only
  cases (resolver.exchange queryType n).err with
  | some err => exact ⟨rfl, rfl⟩
  | none =>
    cases (resolver.exchange queryType n).result.message with
    | none => exact ⟨rfl, rfl⟩
    | some message =>
      cases hrcode : classifyRCode lib message.rcode with
      | none => simp only [hrcode, and_self]
      | some e => simp only [hrcode, and_self]

variable {result : Result}

/-- A result of `Query` is the refusal of the name, or one attempt. -/
theorem mem_query (h : result ∈ query lib checker resolver name queryType) :
    (result.resolver = resolver.type ∧ result.queryType = queryType ∧ result.attempt = 1 ∧
      result.answers = [] ∧ result.rcode = "") ∨
    ∃ fqdn n, queryName? lib name = some fqdn ∧
      Retry.Attempted checker.retry.limit (again lib checker resolver fqdn queryType) n ∧
      result = (queryAttempt lib checker resolver fqdn queryType n).1 := by
  unfold query at h
  cases hname : queryName? lib name with
  | none =>
    rw [hname] at h
    rw [List.mem_singleton.mp h]
    exact .inl ⟨rfl, rfl, rfl, rfl, rfl⟩
  | some fqdn =>
    rw [hname] at h
    obtain ⟨n, hattempted, rfl⟩ := Retry.mem_attempts_iff.mp h
    exact .inr ⟨fqdn, n, rfl, hattempted, rfl⟩

/-- Every result carries the resolver and the type that were asked, and an
    attempt number within the limit. -/
theorem query_key (h : result ∈ query lib checker resolver name queryType) :
    result.resolver = resolver.type ∧ result.queryType = queryType ∧
      1 ≤ result.attempt ∧ result.attempt ≤ checker.retry.limit := by
  have hlimit := checker.retry.limit_pos
  rcases mem_query h with ⟨hresolver, htype, hattempt, -⟩ | ⟨fqdn, n, -, hattempted, rfl⟩
  · exact ⟨hresolver, htype, by omega, by omega⟩
  · obtain ⟨hresolver, htype, hattempt⟩ :=
      queryAttempt_key lib checker resolver fqdn queryType n
    rw [hattempt]
    exact ⟨hresolver, htype, hattempted.1, hattempted.2.1⟩

/-- No two results of a query have the same attempt number. -/
theorem query_attempts_nodup (lib : Library) (checker : Checker) (resolver : Resolver)
    (name : GoString) (queryType : QueryType) :
    ((query lib checker resolver name queryType).map Result.attempt).Nodup := by
  unfold query
  split
  · exact List.nodup_singleton _
  · apply Retry.attempts_nodup
    intro n m h
    rwa [(queryAttempt_key ..).2.2, (queryAttempt_key ..).2.2] at h

/-! ### Answers -/

theorem parseAnswers_length (records : List RR) :
    (parseAnswers lib records).length ≤ records.length :=
  List.length_filterMap_le _ _

/-- Names, addresses and targets are printable. -/
theorem parseAnswers_printable {records : List RR} {answer : Answer}
    (h : answer ∈ parseAnswers lib records) :
    Strings.Printable answer.name ∧ Strings.Printable answer.value := by
  obtain ⟨record, -, hanswer⟩ := List.mem_filterMap.mp h
  obtain ⟨⟨type, value⟩, hdata, rfl⟩ := Option.map_eq_some_iff.mp hanswer
  refine ⟨record.name.printable.toLower lib.tables, ?_⟩
  show Strings.Printable value
  cases hrecord : record.data with
  | a address =>
    rw [hrecord] at hdata
    cases hdata
    exact NetIP.printable_text address
  | aaaa address =>
    rw [hrecord] at hdata
    cases hdata
    exact NetIP.printable_text address
  | cname target =>
    rw [hrecord] at hdata
    cases hdata
    exact target.printable.toLower lib.tables
  | ns host =>
    rw [hrecord] at hdata
    cases hdata
    exact host.printable.toLower lib.tables
  | other =>
    rw [hrecord] at hdata
    cases hdata

/-- The TTLs of the answers are those of the records of a known type. -/
theorem parseAnswers_ttl {records : List RR} {P : UInt32 → Prop} :
    (∀ answer ∈ parseAnswers lib records, P answer.ttl) ↔
      ∀ record ∈ records, record.data ≠ .other → P record.ttl := by
  constructor
  · intro h record hrecord hdata
    obtain ⟨pair, hpair⟩ : ∃ pair, record.data.answer? lib = some pair := by
      cases hd : record.data with
      | other => exact absurd hd hdata
      | a | aaaa | cname | ns => exact ⟨_, rfl⟩
    exact h { name := _, type := pair.1, value := pair.2, ttl := record.ttl }
      (List.mem_filterMap.mpr ⟨record, hrecord, Option.map_eq_some_iff.mpr ⟨pair, hpair, rfl⟩⟩)
  · intro h answer hanswer
    obtain ⟨record, hrecord, hmap⟩ := List.mem_filterMap.mp hanswer
    obtain ⟨pair, hpair, rfl⟩ := Option.map_eq_some_iff.mp hmap
    apply h record hrecord
    intro hother
    rw [hother] at hpair
    cases hpair

/-- The answers of a result were read from a message the query received. -/
theorem query_answers (h : result ∈ query lib checker resolver name queryType) :
    result.answers = [] ∧ result.rcode = "" ∨
    ∃ n message, Receives lib checker resolver name queryType n message ∧
      result.answers = parseAnswers lib message.answer ∧
      result.rcode = lib.rcodeToString message.rcode := by
  rcases mem_query h with ⟨-, -, -, hanswers, hrcode⟩ | ⟨fqdn, n, hname, hattempted, rfl⟩
  · exact .inl ⟨hanswers, hrcode⟩
  · obtain ⟨hanswers, hrcode⟩ := queryAttempt_message lib checker resolver fqdn queryType n
    cases hreceived : (resolver.exchange queryType n).received with
    | none =>
      rw [hreceived] at hanswers hrcode
      exact .inl ⟨hanswers, hrcode⟩
    | some message =>
      rw [hreceived] at hanswers hrcode
      exact .inr ⟨n, message, ⟨fqdn, hname, hattempted, hreceived⟩, hanswers, hrcode⟩

/-- Every message a query receives ends up in a result. -/
theorem Receives.mem_query {message : Msg}
    (h : Receives lib checker resolver name queryType n message) :
    ∃ result ∈ query lib checker resolver name queryType,
      result.answers = parseAnswers lib message.answer := by
  obtain ⟨fqdn, hname, hattempted, hreceived⟩ := h
  refine ⟨(queryAttempt lib checker resolver fqdn queryType n).1, ?_, ?_⟩
  · unfold query
    rw [hname]
    exact Retry.mem_attempts_iff.mpr ⟨n, hattempted, rfl⟩
  · rw [(queryAttempt_message ..).1, hreceived]

end DomainMonitor.Dnscheck

variable (results : List Result) (type : ResolverType) (ttl : UInt32)

namespace DomainMonitor.Monitor

open Dnscheck

/-! ### The constraints on DNS results -/

/-- The constraints of `dns_checks` and `dns_answers` on what the resolvers
    answered. -/
structure DNSStorable : Prop where
  unique : (results.map (fun result => (dnsCheckColumns result).key)).Nodup
  checks : ∀ result ∈ results, (dnsCheckColumns result).Checks
  rcode : ∀ result ∈ results, ∀ text ∈ (dnsCheckColumns result).rcode, Utf8.Storable text
  orders : ∀ result ∈ results, ((dnsAnswerRows result).map DNSAnswerColumns.answerOrder).Nodup
  answers : ∀ result ∈ results, ∀ columns ∈ dnsAnswerRows result,
    Insertable DNSAnswerColumns.Checks DNSAnswerColumns.texts columns

/-- The remaining texts of `dns_checks`: the endpoint, the name that was asked
    for, and the error. -/
def DNSTextsStorable : Prop :=
  ∀ result ∈ results, Utf8.Storable result.endpoint ∧ Utf8.Storable result.queryName ∧
    (∀ text ∈ (dnsCheckColumns result).errorCode, Utf8.Storable text) ∧
    ∀ text ∈ (dnsCheckColumns result).errorMessage, Utf8.Storable text

/-- Answer orders are loop indices. -/
theorem dnsAnswerRows_orders (result : Result) :
    (dnsAnswerRows result).map DNSAnswerColumns.answerOrder =
      (List.range result.answers.length).map Int.ofNat := by
  have hsnd : result.answers.zipIdx.map Prod.snd = List.range result.answers.length := by
    rw [List.zipIdx_map_snd, List.range_eq_range']
  rw [← hsnd, dnsAnswerRows, List.map_map, List.map_map]
  rfl

theorem dnsAnswerRows_orders_nodup (result : Result) :
    ((dnsAnswerRows result).map DNSAnswerColumns.answerOrder).Nodup := by
  rw [dnsAnswerRows_orders]
  exact List.nodup_range.map (fun _ _ h => Int.ofNat.inj h)

/-- The DNS loop goes through when the constraints hold and the remaining texts
    are text. -/
theorem persistDNSResults_iff_storable :
    (∃ rows, results.foldlM persistDNSResult [] = .ok rows) ↔
      DNSStorable results ∧ DNSTextsStorable results := by
  have htexts : ∀ result, (∀ t ∈ (dnsCheckColumns result).texts, ∀ s ∈ t, Utf8.Storable s) ↔
      Utf8.Storable result.endpoint ∧ Utf8.Storable result.queryName ∧
      (∀ text ∈ (dnsCheckColumns result).rcode, Utf8.Storable text) ∧
      (∀ text ∈ (dnsCheckColumns result).errorCode, Utf8.Storable text) ∧
      ∀ text ∈ (dnsCheckColumns result).errorMessage, Utf8.Storable text := by
    intro result
    simp only [DNSCheckColumns.texts, List.forall_mem_cons, Option.mem_some, forall_eq',
      List.not_mem_nil, false_implies, implies_true, and_true]
    rfl
  rw [persistDNSResults_iff]
  constructor
  · rintro ⟨hall, hunique⟩
    refine ⟨⟨hunique, fun r hr => (hall r hr).1.1, ?_, fun r _ => dnsAnswerRows_orders_nodup r,
      fun r hr => (hall r hr).2⟩, ?_⟩
    · intro r hr
      exact ((htexts r).mp (hall r hr).1.2).2.2.1
    · intro r hr
      obtain ⟨hendpoint, hname, -, hcode, hmessage⟩ := (htexts r).mp (hall r hr).1.2
      exact ⟨hendpoint, hname, hcode, hmessage⟩
  · rintro ⟨hstorable, hrest⟩
    refine ⟨?_, hstorable.unique⟩
    intro r hr
    obtain ⟨hendpoint, hname, hcode, hmessage⟩ := hrest r hr
    exact ⟨⟨hstorable.checks r hr, (htexts r).mpr
      ⟨hendpoint, hname, hstorable.rcode r hr, hcode, hmessage⟩⟩, hstorable.answers r hr⟩

/-! ### What holds whatever a resolver answers -/

section Query

variable {lib : Library} {checker : Checker} {resolver : Resolver} {name : GoString}

variable {result : Result} {queryType : QueryType}

theorem dnsCheckColumns_checks (hlimit : checker.retry.limit ≤ 20)
    (h : result ∈ query lib checker resolver name queryType) : (dnsCheckColumns result).Checks := by
  obtain ⟨-, -, hmin, hmax⟩ := query_key h
  refine ⟨?_, ?_, ?_⟩
  · show (1 : Int) ≤ result.attempt
    omega
  · show (result.attempt : Int) ≤ 20
    omega
  · show 0 ≤ max64 0 _
    unfold max64
    split <;> omega

theorem dnsCheckColumns_rcode (h : result ∈ query lib checker resolver name queryType) :
    ∀ text ∈ (dnsCheckColumns result).rcode, Utf8.Storable text := by
  have hprintable : Strings.Printable (lit result.rcode) := by
    rcases query_answers h with ⟨-, hrcode⟩ | ⟨n, message, -, -, hrcode⟩
    · rw [hrcode]
      decide
    · rw [hrcode]
      exact lib.rcode_printable message.rcode
  dsimp only [dnsCheckColumns]
  exact (nullableString_storable (lit result.rcode)).mpr hprintable.storable

/-- An answer row is accepted exactly when its TTL fits the column. -/
theorem dnsAnswerRows_insertable (h : result ∈ query lib checker resolver name queryType) :
    (∀ columns ∈ dnsAnswerRows result,
        Insertable DNSAnswerColumns.Checks DNSAnswerColumns.texts columns) ↔
      ∀ answer ∈ result.answers, answer.ttl.toNat ≤ 2147483647 := by
  have hanswers : result.answers.length ≤ 65535 ∧ ∀ answer ∈ result.answers,
      Strings.Printable answer.name ∧ Strings.Printable answer.value := by
    rcases query_answers h with ⟨hnil, -⟩ | ⟨n, message, -, hparse, -⟩
    · rw [hnil]
      exact ⟨by decide, fun _ hmem => absurd hmem List.not_mem_nil⟩
    · rw [hparse]
      exact ⟨Nat.le_trans (parseAnswers_length _) message.count,
        fun _ hmem => parseAnswers_printable hmem⟩
  obtain ⟨hlength, hprintable⟩ := hanswers
  constructor
  · intro hall answer hanswer
    obtain ⟨i, hi, rfl⟩ := List.mem_iff_getElem.mp hanswer
    have hrow : dnsAnswerColumns i result.answers[i] ∈ dnsAnswerRows result :=
      List.mem_map.mpr ⟨(result.answers[i], i),
        List.mem_zipIdx_iff_getElem?.mpr (List.getElem?_eq_getElem hi), rfl⟩
    have hfits : ((result.answers[i]).ttl.toNat : Int) ≤ 2147483647 := (hall _ hrow).1.2.2.1.2
    omega
  · intro httl columns hcolumns
    obtain ⟨⟨answer, order⟩, hmem, rfl⟩ := List.mem_map.mp hcolumns
    have hget := List.mem_zipIdx_iff_getElem?.mp hmem
    have hanswer : answer ∈ result.answers := List.mem_of_getElem? hget
    have horder : order < result.answers.length := (List.getElem?_eq_some_iff.mp hget).1
    have hfits := httl answer hanswer
    obtain ⟨hname, hvalue⟩ := hprintable answer hanswer
    refine ⟨⟨?_, ?_, ?_, ?_⟩, ?_⟩
    · show FitsInt4 (order : Int)
      exact ⟨by omega, by omega⟩
    · show (0 : Int) ≤ order
      omega
    · show FitsInt4 (answer.ttl.toNat : Int)
      exact ⟨by omega, by omega⟩
    · show (0 : Int) ≤ answer.ttl.toNat
      omega
    · simp only [DNSAnswerColumns.texts, dnsAnswerColumns, List.forall_mem_cons, Option.mem_some,
        forall_eq', List.not_mem_nil, false_implies, implies_true, and_true]
      exact ⟨hname.storable, hvalue.storable⟩

/-- The keys of the four queries of one resolver. -/
theorem queryAll_keys_nodup :
    ((queryTypes.flatMap (query lib checker resolver name)).map
      (fun result => (dnsCheckColumns result).key)).Nodup := by
  rw [List.map_flatMap, List.nodup_flatMap]
  constructor
  · intro queryType _
    have hnodup := query_attempts_nodup lib checker resolver name queryType
    rw [List.Nodup, List.pairwise_map] at hnodup ⊢
    refine hnodup.imp ?_
    intro a b hne hkey
    have hattempt : (a.attempt : Int) = b.attempt := (Prod.mk.inj (Prod.mk.inj hkey).2).2
    omega
  · have htypes : queryTypes.Nodup := by decide
    refine htypes.imp ?_
    intro s t hne key hs ht
    obtain ⟨a, ha, rfl⟩ := List.mem_map.mp hs
    obtain ⟨b, hb, hkey⟩ := List.mem_map.mp ht
    have htype : b.queryType = a.queryType := (Prod.mk.inj (Prod.mk.inj hkey).2).1
    rw [(query_key ha).2.1, (query_key hb).2.1] at htype
    exact hne htype.symm

/-- Every record of a known type in every message the four queries receive has a
    TTL below 2^31. -/
def TTLsFit (lib : Library) (checker : Checker) (resolver : Resolver) (name : GoString) : Prop :=
  ∀ queryType n message, Receives lib checker resolver name queryType n message →
    ∀ record ∈ message.answer, record.data ≠ .other → record.ttl.toNat ≤ 2147483647

/-- The answers of the four queries fit exactly when the TTLs do. -/
theorem queryAll_ttls :
    (∀ result ∈ queryTypes.flatMap (query lib checker resolver name),
        ∀ answer ∈ result.answers, answer.ttl.toNat ≤ 2147483647) ↔
      TTLsFit lib checker resolver name := by
  have hall : ∀ queryType, queryType ∈ queryTypes := by
    intro queryType
    cases queryType <;> decide
  constructor
  · intro h queryType n message hreceives
    obtain ⟨result, hresult, hanswers⟩ := hreceives.mem_query
    have httl := h result (List.mem_flatMap.mpr ⟨queryType, hall queryType, hresult⟩)
    rw [hanswers] at httl
    exact (parseAnswers_ttl (P := fun ttl => ttl.toNat ≤ 2147483647)).mp httl
  · intro h result hresult
    obtain ⟨queryType, -, hresult⟩ := List.mem_flatMap.mp hresult
    rcases query_answers hresult with ⟨hnil, -⟩ | ⟨n, message, hreceives, hanswers, -⟩
    · rw [hnil]
      intro answer hanswer
      cases hanswer
    · rw [hanswers]
      exact (parseAnswers_ttl (P := fun ttl => ttl.toNat ≤ 2147483647)).mpr
        (h queryType n message hreceives)

end Query

/-! ### Both resolvers -/

/-- The DNS checker of `protocolcheck.New`. -/
def dnsChecker (cfg : Config) (now : QueryType → Nat → Int) : Checker where
  retry := cfg.retryPolicy
  now := now

variable {lib : Library} {resolver resolver' : Resolver} {name : GoString}

/-- A result of one of the two resolvers comes from one of its queries. -/
theorem mem_queryAll_append {cfg : Config} {now now' : QueryType → Nat → Int} {result : Result}
    (h : result ∈ queryTypes.flatMap (query lib (dnsChecker cfg now) resolver name)
      ++ queryTypes.flatMap (query lib (dnsChecker cfg now') resolver' name)) :
    ∃ now resolver queryType, result ∈ query lib (dnsChecker cfg now) resolver name queryType := by
  rcases List.mem_append.mp h with h | h
  · obtain ⟨queryType, -, h⟩ := List.mem_flatMap.mp h
    exact ⟨_, _, _, h⟩
  · obtain ⟨queryType, -, h⟩ := List.mem_flatMap.mp h
    exact ⟨_, _, _, h⟩

/-- Results of resolvers of different types have different keys. -/
theorem queryAll_append_keys_nodup {checker checker' : Checker}
    (htype : resolver.type ≠ resolver'.type) :
    ((queryTypes.flatMap (query lib checker resolver name)
      ++ queryTypes.flatMap (query lib checker' resolver' name)).map
      (fun result => (dnsCheckColumns result).key)).Nodup := by
  rw [List.map_append]
  refine queryAll_keys_nodup.append queryAll_keys_nodup ?_
  intro key hleft hright
  obtain ⟨a, ha, rfl⟩ := List.mem_map.mp hleft
  obtain ⟨b, hb, hkey⟩ := List.mem_map.mp hright
  obtain ⟨s, -, ha⟩ := List.mem_flatMap.mp ha
  obtain ⟨t, -, hb⟩ := List.mem_flatMap.mp hb
  have hresolver : b.resolver = a.resolver := (Prod.mk.inj hkey).1
  rw [(query_key ha).1, (query_key hb).1] at hresolver
  exact htype hresolver.symm

theorem dnsStorable_append_iff {cfg : Config} (hcfg : cfg.Accepted)
    {now now' : QueryType → Nat → Int} (htype : resolver.type ≠ resolver'.type) :
    DNSStorable (queryTypes.flatMap (query lib (dnsChecker cfg now) resolver name)
        ++ queryTypes.flatMap (query lib (dnsChecker cfg now') resolver' name)) ↔
      TTLsFit lib (dnsChecker cfg now) resolver name ∧
      TTLsFit lib (dnsChecker cfg now') resolver' name := by
  rw [← queryAll_ttls, ← queryAll_ttls, ← List.forall_mem_append]
  constructor
  · intro h result hresult
    obtain ⟨_, _, _, hquery⟩ := mem_queryAll_append hresult
    exact (dnsAnswerRows_insertable hquery).mp (h.answers result hresult)
  · intro h
    refine ⟨queryAll_append_keys_nodup htype, ?_, ?_,
      fun result _ => dnsAnswerRows_orders_nodup result, ?_⟩
    · intro result hresult
      obtain ⟨_, _, _, hquery⟩ := mem_queryAll_append hresult
      exact dnsCheckColumns_checks hcfg.retryLimit.2 hquery
    · intro result hresult
      obtain ⟨_, _, _, hquery⟩ := mem_queryAll_append hresult
      exact dnsCheckColumns_rcode hquery
    · intro result hresult
      obtain ⟨_, _, _, hquery⟩ := mem_queryAll_append hresult
      exact (dnsAnswerRows_insertable hquery).mpr (h result hresult)

/-- **DNS observations can be stored exactly when their TTLs are below 2^31.**
    The results `Execute` gets from the local and the DoH resolver meet every
    constraint of `dns_checks` and `dns_answers` but the range of `ttl_seconds`,
    and `CompleteRun` gets past its DNS inserts exactly when the TTLs fit and the
    texts that are not part of an answer are text. -/
theorem dns_results_storable_iff {cfg : Config} (hcfg : cfg.Accepted) (lib : Library)
    (localNow alternateNow : QueryType → Nat → Int) {localResolver dohResolver : Resolver}
    (hlocal : localResolver.type = .localSystem) (hdoh : dohResolver.type = .cloudflareDoH)
    (name : GoString) {localDNS alternateDNS : List Result}
    (hlocalDNS : QueryAll lib (dnsChecker cfg localNow) localResolver name 2 localDNS)
    (halternateDNS : QueryAll lib (dnsChecker cfg alternateNow) dohResolver name 2 alternateDNS) :
    (DNSStorable (localDNS ++ alternateDNS) ↔
      TTLsFit lib (dnsChecker cfg localNow) localResolver name ∧
      TTLsFit lib (dnsChecker cfg alternateNow) dohResolver name) ∧
    ((∃ rows, (localDNS ++ alternateDNS).foldlM persistDNSResult [] = .ok rows) ↔
      (TTLsFit lib (dnsChecker cfg localNow) localResolver name ∧
        TTLsFit lib (dnsChecker cfg alternateNow) dohResolver name) ∧
      DNSTextsStorable (localDNS ++ alternateDNS)) := by
  rw [queryAll_iff] at hlocalDNS halternateDNS
  subst hlocalDNS halternateDNS
  have htype : localResolver.type ≠ dohResolver.type := by
    rw [hlocal, hdoh]
    decide
  refine ⟨dnsStorable_append_iff hcfg htype, ?_⟩
  rw [persistDNSResults_iff_storable, dnsStorable_append_iff hcfg htype]

/-! ### Two servers -/

/-- A DNS package that accepts every name. -/
def sampleLibrary : Library where
  isDomainName := fun _ => true
  fqdn := fun name => name ++ lit "."
  rcodeToString := fun rcode => if rcode = 0 then "NOERROR" else ""
  tables := Strings.asciiTables
  rcode_printable := by
    intro n
    split <;> decide

def sampleName : Name where
  text := lit "example.com."
  printable := by decide

/-- One address with the given TTL. -/
def sampleMsg : Msg where
  rcode := 0
  authoritative := false
  truncated := false
  answer := [{ name := sampleName, ttl, data := .a [192, 0, 2, 1] }]
  count := by simp

/-- A resolver that answers every query with the same address. -/
def sampleResolver : Resolver where
  type := type
  endpoint := lit "192.0.2.53:53"
  exchange := fun _ _ =>
    { result := { message := some (sampleMsg ttl), duration := millisecond, transport := "udp" } }

theorem sampleResolver_received (queryType : QueryType) (n : Nat) :
    ((sampleResolver type ttl).exchange queryType n).received = some (sampleMsg ttl) :=
  rfl

theorem sampleResolver_ttlsFit {checker : Checker} {ttl : UInt32} (h : ttl.toNat ≤ 2147483647) :
    TTLsFit sampleLibrary checker (sampleResolver type ttl) name := by
  intro queryType n message hreceives record hrecord _
  obtain ⟨_, -, -, hreceived⟩ := hreceives
  rw [sampleResolver_received] at hreceived
  cases hreceived
  rw [List.mem_singleton.mp hrecord]
  exact h

/-- What `QueryAll` returns for a resolver that answers with `ttl`. -/
def sampleResults : List Result :=
  queryTypes.flatMap (query sampleLibrary (dnsChecker defaultConfig fun _ _ => 0)
    (sampleResolver type ttl) (lit "example.com"))

theorem sampleResults_queryAll :
    QueryAll sampleLibrary (dnsChecker defaultConfig fun _ _ => 0) (sampleResolver type ttl)
      (lit "example.com") 2 (sampleResults type ttl) :=
  queryAll_iff.mpr rfl

/-- With a TTL of five minutes, both resolvers' results can be stored. -/
theorem dns_results_storable_five_minutes :
    defaultConfig.Accepted ∧
    DNSStorable (sampleResults .localSystem 300 ++ sampleResults .cloudflareDoH 300) :=
  ⟨defaultConfig_accepted,
    (dns_results_storable_iff defaultConfig_accepted sampleLibrary (fun _ _ => 0) (fun _ _ => 0)
      (rfl : (sampleResolver .localSystem 300).type = .localSystem)
      (rfl : (sampleResolver .cloudflareDoH 300).type = .cloudflareDoH) (lit "example.com")
      (sampleResults_queryAll .localSystem 300) (sampleResults_queryAll .cloudflareDoH 300)).1.mpr
      ⟨sampleResolver_ttlsFit _ (by decide), sampleResolver_ttlsFit _ (by decide)⟩⟩

theorem sampleResolver_not_ttlsFit {ttl : UInt32} (h : 2147483647 < ttl.toNat) :
    ¬ TTLsFit sampleLibrary (dnsChecker defaultConfig fun _ _ => 0) (sampleResolver type ttl)
      (lit "example.com") := by
  intro hfit
  have hreceives : Receives sampleLibrary (dnsChecker defaultConfig fun _ _ => 0)
      (sampleResolver type ttl) (lit "example.com") .a 1 (sampleMsg ttl) :=
    ⟨lit "example.com.", by decide, ⟨Nat.le_refl 1, by decide, fun m h1 h2 => by omega⟩, rfl⟩
  have hle := hfit .a 1 (sampleMsg ttl) hreceives _ List.mem_cons_self (by simp)
  have hlt : 2147483647 < ttl.toNat := h
  change ttl.toNat ≤ 2147483647 at hle
  omega

/-- A server that answers with a TTL of 2^31 seconds: the answer cannot be
    stored, and `CompleteRun` fails. -/
theorem large_ttl_refused :
    defaultConfig.Accepted ∧
    QueryAll sampleLibrary (dnsChecker defaultConfig fun _ _ => 0)
      (sampleResolver .localSystem 2147483648) (lit "example.com") 2
      (sampleResults .localSystem 2147483648) ∧
    QueryAll sampleLibrary (dnsChecker defaultConfig fun _ _ => 0)
      (sampleResolver .cloudflareDoH 300) (lit "example.com") 2
      (sampleResults .cloudflareDoH 300) ∧
    ¬ DNSStorable (sampleResults .localSystem 2147483648 ++ sampleResults .cloudflareDoH 300) ∧
    ¬ ∃ rows, (sampleResults .localSystem 2147483648 ++ sampleResults .cloudflareDoH 300).foldlM
      persistDNSResult [] = .ok rows := by
  have hrefused : ¬ DNSStorable
      (sampleResults .localSystem 2147483648 ++ sampleResults .cloudflareDoH 300) := by
    intro hstorable
    have htype : (sampleResolver .localSystem 2147483648).type ≠
        (sampleResolver .cloudflareDoH 300).type := by
      intro h
      cases h
    exact sampleResolver_not_ttlsFit _ (by decide)
      ((dnsStorable_append_iff defaultConfig_accepted htype).mp hstorable).1
  refine ⟨defaultConfig_accepted, sampleResults_queryAll _ _, sampleResults_queryAll _ _,
    hrefused, ?_⟩
  intro hrows
  exact hrefused ((persistDNSResults_iff_storable _).mp hrows).1

end DomainMonitor.Monitor
