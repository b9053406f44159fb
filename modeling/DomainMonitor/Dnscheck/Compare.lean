import Mathlib.Data.List.Lex
import Mathlib.Logic.Relation
import DomainMonitor.Dnscheck.Checker
import DomainMonitor.Lib.IPText
import DomainMonitor.Lib.OrderBy

/-! # Comparing resolvers is comparing sets (`internal/dnscheck/compare.go`)

    `canonicalValues` collects the keys of the answers in a map and sorts them, and
    `equalAnswerSets` compares the sorted lists position by position. That is a
    comparison of sets, so it cannot tell apart two lists of answers that differ in
    order, multiplicity, TTLs, or in how a name or an address is written.
-/

namespace DomainMonitor.Dnscheck

open Strings

/-! ### Sorted keys -/

/-- `string(queryType)`. -/
def QueryType.text : QueryType → GoString
  | .a => lit "A"
  | .aaaa => lit "AAAA"
  | .cname => lit "CNAME"
  | .ns => lit "NS"

/-- `string(answer.Type)+":"+value`. -/
def valueKey (v : QueryType × GoString) : GoString := v.1.text ++ byte ':' :: v.2

/-- The order of `sort.Strings`. -/
def byteOrder (s : GoString) : List Nat := s.map UInt8.toNat

variable (tables : Tables) (left right : List Result)

/-- `canonicalValues`. -/
def sortedValues (answers : List Answer) (queryType : QueryType) : List GoString :=
  OrderBy.distinctBy byteOrder ((canonicalValues tables answers queryType).map valueKey)

/-- The loop of `equalAnswerSets`. -/
def equalLists (leftValues rightValues : List GoString) : Bool :=
  leftValues.length = rightValues.length &&
    (leftValues.zip rightValues).all (fun (left, right) => left = right)

theorem equalLists_iff (l r : List GoString) : equalLists l r = true ↔ l = r := by
  unfold equalLists
  induction l generalizing r with
  | nil => cases r <;> simp
  | cons x l ih =>
    cases r with
    | nil => simp
    | cons y r =>
      have hrest := ih r
      simp only [Bool.and_eq_true, decide_eq_true_eq] at hrest
      simp only [List.length_cons, List.zip_cons_cons, List.all_cons, Bool.and_eq_true,
        decide_eq_true_eq, List.cons.injEq, ← hrest, Nat.add_right_cancel_iff]
      tauto

theorem byteOrder_injective : Function.Injective byteOrder :=
  List.map_injective_iff.mpr (fun _ _ h => UInt8.toNat_inj.mp h)

theorem valueKey_injective : Function.Injective valueKey := by
  have hcolon : ∀ queryType : QueryType, byte ':' ∉ queryType.text := by
    intro queryType
    cases queryType <;> decide
  have htext : ∀ q q' : QueryType, q.text = q'.text → q = q' := by
    intro q q'
    cases q <;> cases q' <;> decide
  rintro ⟨q, v⟩ ⟨q', v'⟩ h
  obtain ⟨hq, hv⟩ := append_sep_inj (hcolon q) (hcolon q') h
  exact Prod.ext (htext q q' hq) hv

variable {queryType : QueryType} {results : List Result}

theorem equalAnswerSets_iff {tables : Tables} {left right : List Answer} :
    equalAnswerSets tables left right queryType = true ↔
      ∀ v, v ∈ canonicalValues tables left queryType ↔ v ∈ canonicalValues tables right queryType := by
  unfold equalAnswerSets
  simp only [Bool.and_eq_true, List.all_eq_true, List.contains_iff_mem]
  exact ⟨fun h v => ⟨h.1 v, h.2 v⟩, fun h => ⟨fun v => (h v).mp, fun v => (h v).mpr⟩⟩

/-- The sorted lists are equal exactly when the sets are. -/
theorem equalAnswerSets_eq_sorted (left right : List Answer) (queryType : QueryType) :
    equalAnswerSets tables left right queryType =
      equalLists (sortedValues tables left queryType) (sortedValues tables right queryType) := by
  rw [Bool.eq_iff_iff, equalAnswerSets_iff, equalLists_iff, sortedValues, sortedValues,
    OrderBy.distinctBy_eq_iff byteOrder_injective]
  constructor
  · intro h key
    simp only [List.mem_map, h]
  · intro h v
    simpa only [List.mem_map_of_injective valueKey_injective] using h (valueKey v)

/-! ### The latest result -/

/-- The result that stands for a type: no other one has a higher attempt number, and
    of those with the same number it is the last. -/
structure IsLatest (results : List Result) (queryType : QueryType) (result : Result) : Prop where
  split : ∃ before after, results = before ++ result :: after ∧
    (∀ r ∈ before, r.queryType = queryType → r.attempt ≤ result.attempt) ∧
    ∀ r ∈ after, r.queryType = queryType → r.attempt < result.attempt
  type : result.queryType = queryType

theorem latestByType_concat (results : List Result) (result : Result) (queryType : QueryType) :
    latestByType (results ++ [result]) queryType =
      if queryType = result.queryType ∧
          (latestByType results queryType).all (fun r => r.attempt ≤ result.attempt)
      then some result else latestByType results queryType := by
  unfold latestByType
  rw [List.foldl_append]
  rfl

/-- The loop finds it. -/
theorem latestByType_spec (queryType : QueryType) (results : List Result) :
    (latestByType results queryType = none → ∀ r ∈ results, r.queryType ≠ queryType) ∧
    ∀ result, latestByType results queryType = some result → IsLatest results queryType result := by
  induction results using List.reverseRecOn with
  | nil => exact ⟨fun _ r hr => (by cases hr), fun result h => (by cases h)⟩
  | append_singleton results last ih =>
    obtain ⟨hnone, hsome⟩ := ih
    rw [latestByType_concat]
    split_ifs with hlast
    · obtain ⟨htype, hall⟩ := hlast
      refine ⟨fun h => (by cases h), fun result h => ?_⟩
      cases h
      refine ⟨⟨results, [], rfl, ?_, fun r hr => (by cases hr)⟩, htype.symm⟩
      -- Every earlier result of the type is at most the one found before.
      intro r hr hrtype
      cases hlatest : latestByType results queryType with
      | none => exact absurd hrtype (hnone hlatest r hr)
      | some best =>
        rw [hlatest] at hall
        have hle : best.attempt ≤ last.attempt := of_decide_eq_true hall
        obtain ⟨before, after, rfl, hbefore, hafter⟩ := (hsome best hlatest).split
        rcases List.mem_append.mp hr with hr | hr
        · exact (hbefore r hr hrtype).trans hle
        · rcases List.mem_cons.mp hr with rfl | hr
          · exact hle
          · exact (hafter r hr hrtype).le.trans hle
    · refine ⟨fun h r hr => ?_, fun result h => ?_⟩
      · rcases List.mem_append.mp hr with hr | hr
        · exact hnone h r hr
        · rw [List.mem_singleton.mp hr]
          intro htype
          rw [h] at hlast
          exact hlast ⟨htype.symm, rfl⟩
      · obtain ⟨⟨before, after, rfl, hbefore, hafter⟩, htype⟩ := hsome result h
        refine ⟨⟨before, after ++ [last], by simp, hbefore, ?_⟩, htype⟩
        intro r hr hrtype
        rcases List.mem_append.mp hr with hr | hr
        · exact hafter r hr hrtype
        · rw [List.mem_singleton.mp hr] at hrtype ⊢
          rw [h] at hlast
          by_contra hge
          exact hlast ⟨hrtype.symm, decide_eq_true (by omega)⟩

theorem IsLatest.unique {r r' : Result} (h : IsLatest results queryType r)
    (h' : IsLatest results queryType r') : r = r' := by
  obtain ⟨⟨before, after, hsplit, hbefore, hafter⟩, htype⟩ := h
  obtain ⟨⟨before', after', hsplit', hbefore', hafter'⟩, htype'⟩ := h'
  rw [hsplit] at hsplit'
  rcases List.append_eq_append_iff.mp hsplit' with ⟨w, hw, hrest⟩ | ⟨w, hw, hrest⟩
  · cases w with
    | nil => exact (List.cons.inj hrest).1
    | cons x w =>
      -- The first result stands before the second one.
      obtain ⟨rfl, hafterw⟩ := List.cons.inj hrest
      have hle := hbefore' r (by rw [hw]; simp) htype
      have hlt := hafter r' (by rw [hafterw]; simp) htype'
      omega
  · cases w with
    | nil => exact (List.cons.inj hrest).1.symm
    | cons x w =>
      obtain ⟨rfl, hafterw⟩ := List.cons.inj hrest
      have hle := hbefore r' (by rw [hw]; simp) htype'
      have hlt := hafter' r (by rw [hafterw]; simp) htype
      omega

theorem latestByType_eq_some {result : Result} :
    latestByType results queryType = some result ↔ IsLatest results queryType result := by
  obtain ⟨hnone, hsome⟩ := latestByType_spec queryType results
  refine ⟨hsome result, fun h => ?_⟩
  cases hlatest : latestByType results queryType with
  | none =>
    obtain ⟨before, after, rfl, -⟩ := h.split
    exact absurd h.type (hnone hlatest result (by simp))
  | some best => rw [(hsome best hlatest).unique h]

/-! ### Discrepancies -/

/-- The latest results of a type, where both sides have one, differ in the response
    code, the error code or the set of canonical values. -/
def Differ (queryType : QueryType) : Prop :=
  ∃ l r, IsLatest left queryType l ∧ IsLatest right queryType r ∧
    (l.rcode ≠ r.rcode ∨ l.errorCode ≠ r.errorCode ∨
      ¬ ∀ v, v ∈ canonicalValues tables l.answers queryType ↔
        v ∈ canonicalValues tables r.answers queryType)

theorem compareType_cases (comparison : Comparison) (queryType : QueryType) :
    (Differ tables left right queryType ∧ ∃ reason,
      compareType tables (latestByType left) (latestByType right) comparison queryType =
        comparison.discrepant queryType reason) ∨
    (¬ Differ tables left right queryType ∧
      compareType tables (latestByType left) (latestByType right) comparison queryType = comparison) := by
  unfold compareType Differ
  simp only [← latestByType_eq_some]
  cases hl : latestByType left queryType with
  | none => exact .inr ⟨by simp, rfl⟩
  | some l =>
    cases hr : latestByType right queryType with
    | none => exact .inr ⟨by simp, rfl⟩
    | some r =>
      dsimp only
      split_ifs with hcodes hsets
      · exact .inl ⟨⟨l, r, rfl, rfl, by tauto⟩, _, rfl⟩
      · refine .inl ⟨⟨l, r, rfl, rfl, .inr (.inr ?_)⟩, _, rfl⟩
        rw [← equalAnswerSets_iff, hsets]
        decide
      · refine .inr ⟨?_, rfl⟩
        rintro ⟨l', r', hl', hr', hdiffer⟩
        cases hl'
        cases hr'
        rw [← equalAnswerSets_iff] at hdiffer
        rw [Bool.not_eq_false] at hsets
        tauto

/-- A step of the loop sets the flag of its type when the type differs. -/
theorem compareType_flags (comparison : Comparison) (queryType : QueryType) :
    ((compareType tables (latestByType left) (latestByType right) comparison queryType).discrepancy =
        true ↔ comparison.discrepancy = true ∨ (queryType ≠ .ns ∧ Differ tables left right queryType)) ∧
    ((compareType tables (latestByType left) (latestByType right) comparison queryType).nsDiscrepancy =
        true ↔ comparison.nsDiscrepancy = true ∨ (queryType = .ns ∧ Differ tables left right queryType)) := by
  rcases compareType_cases tables left right comparison queryType with
    ⟨hdiffer, reason, heq⟩ | ⟨hsame, heq⟩
  · rw [heq, Comparison.discrepant]
    split_ifs with hns
    · subst hns
      simp [hdiffer]
    · simp [hns, hdiffer]
  · rw [heq]
    tauto

theorem compare_discrepancy :
    ((compare tables left right).discrepancy = true ↔
      ∃ queryType ∈ [QueryType.a, .aaaa, .cname], Differ tables left right queryType) ∧
    ((compare tables left right).nsDiscrepancy = true ↔ Differ tables left right .ns) := by
  unfold compare queryTypes
  simp only [List.foldl_cons, List.foldl_nil]
  simp only [compareType_flags]
  simp [or_assoc]

/-! ### Symmetry -/

theorem compareType_symm (left right : QueryType → Option Result) :
    compareType tables left right = compareType tables right left := by
  funext comparison queryType
  unfold compareType
  cases left queryType with
  | none => cases right queryType <;> rfl
  | some l =>
    cases right queryType with
    | none => rfl
    | some r =>
      have hsets : equalAnswerSets tables l.answers r.answers queryType =
          equalAnswerSets tables r.answers l.answers queryType := Bool.and_comm _ _
      dsimp only
      simp only [hsets, ne_comm (a := l.rcode), ne_comm (a := l.errorCode)]

theorem compare_symm : compare tables left right = compare tables right left := by
  unfold compare
  rw [compareType_symm]

/-! ### Answers that are written differently -/

/-- Both texts are texts of one IP address, if need be as an IPv4-mapped one. -/
def SameAddress (s t : GoString) : Prop :=
  ∃ a b : NetIP.Addr, NetIP.parseAddr s = some a ∧ NetIP.parseAddr t = some b ∧
    a.zoneless = true ∧ b.zoneless = true ∧ a.unmap = b.unmap

/-- The same answer, written differently. -/
inductive AnswerVariant : Answer → Answer → Prop where
  | ttl (answer : Answer) (ttl : UInt32) : AnswerVariant answer { answer with ttl }
  | letterCase (answer : Answer) {value : GoString}
      (h : answer.value.map lowerByte = value.map lowerByte) :
      AnswerVariant answer { answer with value }
  | trailingDot (answer : Answer) (hspace : Utf8.trimSpace answer.value = answer.value)
      (hdot : answer.value.getLast? ≠ some (byte '.')) :
      AnswerVariant answer { answer with value := answer.value ++ [byte '.'] }
  | address (answer : Answer) {value : GoString} (h : SameAddress answer.value value) :
      AnswerVariant answer { answer with value }

/-- One change to a list of answers. -/
inductive Rewrite : List Answer → List Answer → Prop where
  | permute {l l' : List Answer} (h : l.Perm l') : Rewrite l l'
  | duplicate {l : List Answer} {answer : Answer} (h : answer ∈ l) : Rewrite l (answer :: l)
  | variant (before after : List Answer) {answer answer' : Answer} (h : AnswerVariant answer answer') :
      Rewrite (before ++ answer :: after) (before ++ answer' :: after)

/-- A value as it is looked at: without a trailing dot, in lower case. -/
def foldedValue (value : GoString) : GoString :=
  let value := Utf8.trimSpace value
  let value := if value.getLast? = some (byte '.') then value.dropLast else value
  toLower tables value

theorem canonicalValue_eq (answer : Answer) :
    canonicalValue tables answer =
      (answer.type, ((NetIP.parseAddr (foldedValue tables answer.value)).map
        (fun addr => addr.unmap.text)).getD (foldedValue tables answer.value)) := rfl

theorem foldedValue_map_lowerByte (value : GoString) :
    foldedValue tables (value.map lowerByte) = foldedValue tables value := by
  have hdot : ∀ c, lowerByte c = byte '.' ↔ c = byte '.' := NetIP.lowerByte_eq_iff (.inl rfl)
  have hlast : ((Utf8.trimSpace value).map lowerByte).getLast? = some (byte '.') ↔
      (Utf8.trimSpace value).getLast? = some (byte '.') := by
    rw [List.getLast?_map]
    cases (Utf8.trimSpace value).getLast? <;> simp [hdot]
  unfold foldedValue
  dsimp only
  rw [trimSpace_map_lowerByte]
  simp only [hlast]
  split_ifs
  · rw [← List.map_dropLast, toLower_map_lowerByte]
  · rw [toLower_map_lowerByte]

theorem trimRunes_concat {rs : List Utf8.Rune} {r : Utf8.Rune} (h : Utf8.trimRunes rs = rs)
    (hr : r.isSpace = false) : Utf8.trimRunes (rs ++ [r]) = rs ++ [r] := by
  have hfront : rs.dropWhile Utf8.Rune.isSpace = rs := by
    have hlength := congrArg List.length h
    unfold Utf8.trimRunes at hlength
    rw [List.length_reverse] at hlength
    have hle := (List.dropWhile_sublist (l := (rs.dropWhile Utf8.Rune.isSpace).reverse)
      Utf8.Rune.isSpace).length_le
    rw [List.length_reverse] at hle
    exact (List.dropWhile_sublist Utf8.Rune.isSpace).eq_of_length_le (by omega)
  have hconcat : (rs ++ [r]).dropWhile Utf8.Rune.isSpace = rs ++ [r] := by
    rw [List.dropWhile_append, hfront]
    cases rs with
    | nil => simp [hr]
    | cons x rs => simp
  unfold Utf8.trimRunes
  rw [hconcat, List.reverse_append, List.reverse_singleton, List.singleton_append,
    List.dropWhile_cons_of_neg (by simp [hr]), List.reverse_cons, List.reverse_reverse]

theorem trimSpace_dot {s : GoString} (h : Utf8.trimSpace s = s) :
    Utf8.trimSpace (s ++ [byte '.']) = s ++ [byte '.'] := by
  have hrunes : Utf8.trimRunes (Utf8.decode s) = Utf8.decode s := by
    rw [← Utf8.decode_trimSpace, h]
  have hdecode : Utf8.decode (s ++ [byte '.']) = Utf8.decode s ++ [.char '.'] :=
    Utf8.decode_append_ascii s (c := '.') (by decide) []
  unfold Utf8.trimSpace
  rw [hdecode, trimRunes_concat hrunes (by decide), ← hdecode, Utf8.bytes_decode]

theorem foldedValue_dot {value : GoString} (hspace : Utf8.trimSpace value = value)
    (hdot : value.getLast? ≠ some (byte '.')) :
    foldedValue tables (value ++ [byte '.']) = foldedValue tables value := by
  unfold foldedValue
  dsimp only
  rw [trimSpace_dot hspace, hspace, List.getLast?_concat, if_pos rfl, List.dropLast_concat,
    if_neg hdot]

/-- A text of an address is looked at as a text of the same address. -/
theorem parseAddr_foldedValue {s : GoString} {a : NetIP.Addr} (h : NetIP.parseAddr s = some a)
    (hzone : a.zoneless = true) : NetIP.parseAddr (foldedValue tables s) = some a := by
  obtain ⟨htext, hlower⟩ := NetIP.parseAddr_some h hzone
  have hlast : s.getLast? ≠ some (byte '.') := htext.last
  unfold foldedValue
  dsimp only
  rw [trimSpace_of_solid htext.solid, if_neg hlast, toLower_of_ascii tables htext.solid.ascii]
  exact hlower

theorem AnswerVariant.canonicalValue_eq {answer answer' : Answer} (h : AnswerVariant answer answer')
    (tables : Tables) : canonicalValue tables answer' = canonicalValue tables answer := by
  cases h with
  | ttl ttl => rfl
  | letterCase h =>
    rw [Dnscheck.canonicalValue_eq, Dnscheck.canonicalValue_eq,
      ← foldedValue_map_lowerByte tables answer.value, h, foldedValue_map_lowerByte]
  | trailingDot hspace hdot =>
    rw [Dnscheck.canonicalValue_eq, Dnscheck.canonicalValue_eq, foldedValue_dot tables hspace hdot]
  | address h =>
    obtain ⟨a, b, ha, hb, hzonea, hzoneb, hsame⟩ := h
    rw [Dnscheck.canonicalValue_eq, Dnscheck.canonicalValue_eq,
      parseAddr_foldedValue tables ha hzonea, parseAddr_foldedValue tables hb hzoneb]
    simp only [Option.map_some, Option.getD_some, hsame]

theorem AnswerVariant.type_eq {answer answer' : Answer} (h : AnswerVariant answer answer') :
    answer'.type = answer.type := by
  cases h <;> rfl

/-- A change keeps the set of canonical values. -/
theorem Rewrite.mem_canonicalValues {l l' : List Answer} (h : Rewrite l l') (tables : Tables)
    (queryType : QueryType) (v : QueryType × GoString) :
    v ∈ canonicalValues tables l queryType ↔ v ∈ canonicalValues tables l' queryType := by
  unfold canonicalValues
  simp only [List.mem_map, List.mem_filter]
  cases h with
  | permute h => simp only [h.mem_iff]
  | duplicate h =>
    simp only [List.mem_cons]
    constructor
    · rintro ⟨x, ⟨hx, hkept⟩, rfl⟩
      exact ⟨x, ⟨.inr hx, hkept⟩, rfl⟩
    · rintro ⟨x, ⟨rfl | hx, hkept⟩, rfl⟩
      · exact ⟨x, ⟨h, hkept⟩, rfl⟩
      · exact ⟨x, ⟨hx, hkept⟩, rfl⟩
  | @variant before after answer answer' h =>
    have htype := h.type_eq
    have hvalue := h.canonicalValue_eq tables
    simp only [List.mem_append, List.mem_cons]
    constructor
    · rintro ⟨x, ⟨hx | rfl | hx, hkept⟩, rfl⟩
      · exact ⟨x, ⟨.inl hx, hkept⟩, rfl⟩
      · exact ⟨answer', ⟨.inr (.inl rfl), by rw [htype]; exact hkept⟩, hvalue⟩
      · exact ⟨x, ⟨.inr (.inr hx), hkept⟩, rfl⟩
    · rintro ⟨x, ⟨hx | rfl | hx, hkept⟩, rfl⟩
      · exact ⟨x, ⟨.inl hx, hkept⟩, rfl⟩
      · exact ⟨answer, ⟨.inr (.inl rfl), by rw [← htype]; exact hkept⟩, hvalue.symm⟩
      · exact ⟨x, ⟨.inr (.inr hx), hkept⟩, rfl⟩

/-- Results that differ in how their answers are written. -/
structure Rewritten (r r' : Result) : Prop where
  queryType : r'.queryType = r.queryType
  attempt : r'.attempt = r.attempt
  rcode : r'.rcode = r.rcode
  errorCode : r'.errorCode = r.errorCode
  answers : Relation.EqvGen Rewrite r.answers r'.answers

theorem Rewritten.mem_canonicalValues {r r' : Result} (h : Rewritten r r') (tables : Tables)
    (queryType : QueryType) (v : QueryType × GoString) :
    v ∈ canonicalValues tables r.answers queryType ↔
      v ∈ canonicalValues tables r'.answers queryType := by
  have hanswers := h.answers
  generalize r.answers = l, r'.answers = l' at hanswers ⊢
  induction hanswers with
  | rel l l' h => exact h.mem_canonicalValues tables queryType v
  | refl l => exact Iff.rfl
  | symm l l' _ ih => exact ih.symm
  | trans l l' l'' _ _ ih ih' => exact ih.trans ih'

/-- One result more on both sides of the loop. -/
theorem latest_step_rewritten {latest latest' : QueryType → Option Result}
    (hlatest : ∀ queryType, Option.Rel Rewritten (latest queryType) (latest' queryType))
    {result result' : Result} (h : Rewritten result result') (queryType : QueryType) :
    Option.Rel Rewritten
      (if queryType = result.queryType ∧ (latest queryType).all (fun r => r.attempt ≤ result.attempt)
        then some result else latest queryType)
      (if queryType = result'.queryType ∧ (latest' queryType).all (fun r => r.attempt ≤ result'.attempt)
        then some result' else latest' queryType) := by
  have hall : (latest' queryType).all (fun r => r.attempt ≤ result'.attempt) =
      (latest queryType).all (fun r => r.attempt ≤ result.attempt) := by
    have hrel := hlatest queryType
    generalize latest queryType = found, latest' queryType = found' at hrel ⊢
    cases hrel with
    | none => rfl
    | some hr => simp only [Option.all_some, hr.attempt, h.attempt]
  rw [h.queryType, hall]
  split_ifs
  · exact .some h
  · exact hlatest queryType

theorem latestByType_rewritten {results' : List Result}
    (h : List.Forall₂ Rewritten results results') (queryType : QueryType) :
    Option.Rel Rewritten (latestByType results queryType) (latestByType results' queryType) := by
  suffices hfold : ∀ latest latest' : QueryType → Option Result,
      (∀ queryType, Option.Rel Rewritten (latest queryType) (latest' queryType)) →
      ∀ queryType, Option.Rel Rewritten
        (results.foldl (fun latest result queryType =>
          if queryType = result.queryType ∧ (latest queryType).all (fun r => r.attempt ≤ result.attempt)
          then some result else latest queryType) latest queryType)
        (results'.foldl (fun latest result queryType =>
          if queryType = result.queryType ∧ (latest queryType).all (fun r => r.attempt ≤ result.attempt)
          then some result else latest queryType) latest' queryType) from
    hfold _ _ (fun _ => .none) queryType
  induction h with
  | nil => exact fun latest latest' hlatest => hlatest
  | cons h _ ih =>
    intro latest latest' hlatest
    exact ih _ _ (latest_step_rewritten hlatest h)

theorem compareType_rewritten {left left' right right' : QueryType → Option Result}
    (hleft : ∀ queryType, Option.Rel Rewritten (left queryType) (left' queryType))
    (hright : ∀ queryType, Option.Rel Rewritten (right queryType) (right' queryType)) :
    compareType tables left right = compareType tables left' right' := by
  funext comparison queryType
  have hl := hleft queryType
  have hr := hright queryType
  unfold compareType
  generalize left queryType = found, left' queryType = found' at hl ⊢
  generalize right queryType = other, right' queryType = other' at hr ⊢
  cases hl with
  | none => rfl
  | @some l l' hl =>
    cases hr with
    | none => rfl
    | @some r r' hr =>
      have hsets : equalAnswerSets tables l.answers r.answers queryType =
          equalAnswerSets tables l'.answers r'.answers queryType := by
        rw [Bool.eq_iff_iff, equalAnswerSets_iff, equalAnswerSets_iff]
        simp only [hl.mem_canonicalValues tables, hr.mem_canonicalValues tables]
      dsimp only
      rw [hl.rcode, hl.errorCode, hr.rcode, hr.errorCode, hsets]

theorem compare_rewritten {left left' right right' : List Result}
    (hleft : List.Forall₂ Rewritten left left') (hright : List.Forall₂ Rewritten right right') :
    compare tables left right = compare tables left' right' := by
  unfold compare
  rw [compareType_rewritten tables (latestByType_rewritten hleft) (latestByType_rewritten hright)]

/-! ### The comparison -/

/-- **Comparing resolvers is comparing sets**: the sorted lists of the source are
    compared as sets; the comparison is symmetric; it does not depend on the order, the
    multiplicity and the TTLs of answers, nor on the letter case, the trailing dot and
    the way an address is written; and its flags say which types differ. -/
theorem compare_sets (tables : Tables) :
    (∀ left right queryType, equalAnswerSets tables left right queryType =
      equalLists (sortedValues tables left queryType) (sortedValues tables right queryType)) ∧
    (∀ left right, compare tables left right = compare tables right left) ∧
    (∀ left left' right right', List.Forall₂ Rewritten left left' →
      List.Forall₂ Rewritten right right' →
      compare tables left right = compare tables left' right') ∧
    (∀ left right, ((compare tables left right).discrepancy = true ↔
        ∃ queryType ∈ [QueryType.a, .aaaa, .cname], Differ tables left right queryType) ∧
      ((compare tables left right).nsDiscrepancy = true ↔ Differ tables left right .ns)) :=
  ⟨equalAnswerSets_eq_sorted tables, compare_symm tables, fun _ _ _ _ => compare_rewritten tables,
    compare_discrepancy tables⟩

def sampleAnswer (type : QueryType) (value : String) (ttl : UInt32) : Answer where
  name := lit "example.com."
  type := type
  value := lit value
  ttl := ttl

def sampleResult (answers : List Answer) : Result where
  resolver := .localSystem
  endpoint := lit "system"
  queryName := lit "example.com."
  queryType := .aaaa
  attempt := 1
  rcode := "NOERROR"
  answers := answers
  checkedAt := 0

/-- An alias and an address, against the address written out in full and the alias in
    capital letters with a dot. -/
theorem compare_sets_variants :
    compare asciiTables
        [sampleResult [sampleAnswer .cname "cdn.example.net" 60, sampleAnswer .aaaa "2001:db8::1" 60]]
        [sampleResult [sampleAnswer .cname "cdn.example.net" 60, sampleAnswer .aaaa "2001:db8::1" 60]] =
      compare asciiTables
        [sampleResult [sampleAnswer .cname "cdn.example.net" 60, sampleAnswer .aaaa "2001:db8::1" 60]]
        [sampleResult [sampleAnswer .aaaa "2001:DB8:0:0:0:0:0:1" 60,
          sampleAnswer .cname "CDN.example.net" 60]] := by
  have hkeep : ∀ answers, List.Forall₂ Rewritten [sampleResult answers] [sampleResult answers] :=
    fun answers => .cons ⟨rfl, rfl, rfl, rfl, .refl _⟩ .nil
  refine (compare_sets asciiTables).2.2.1 _ _ _ _ (hkeep _) (.cons ⟨rfl, rfl, rfl, rfl, ?_⟩ .nil)
  have haddress : SameAddress (lit "2001:db8::1") (lit "2001:DB8:0:0:0:0:0:1") :=
    ⟨.v6 [32, 1, 13, 184, 0, 0, 0, 0, 0, 0, 0, 0, 0, 0, 0, 1] [], .v6 _ [], by decide +kernel,
      by decide +kernel, rfl, rfl, rfl⟩
  have hswap : Rewrite
      [sampleAnswer .cname "cdn.example.net" 60, sampleAnswer .aaaa "2001:db8::1" 60]
      [sampleAnswer .aaaa "2001:db8::1" 60, sampleAnswer .cname "cdn.example.net" 60] :=
    .permute (List.Perm.swap _ _ [])
  have hwritten : Rewrite
      [sampleAnswer .aaaa "2001:db8::1" 60, sampleAnswer .cname "cdn.example.net" 60]
      [sampleAnswer .aaaa "2001:DB8:0:0:0:0:0:1" 60, sampleAnswer .cname "cdn.example.net" 60] :=
    Rewrite.variant [] _ (AnswerVariant.address (sampleAnswer .aaaa "2001:db8::1" 60) haddress)
  have hcapital : Rewrite
      [sampleAnswer .aaaa "2001:DB8:0:0:0:0:0:1" 60, sampleAnswer .cname "cdn.example.net" 60]
      [sampleAnswer .aaaa "2001:DB8:0:0:0:0:0:1" 60, sampleAnswer .cname "CDN.example.net" 60] :=
    Rewrite.variant [sampleAnswer .aaaa "2001:DB8:0:0:0:0:0:1" 60] []
      (AnswerVariant.letterCase (sampleAnswer .cname "cdn.example.net" 60) (by decide +kernel))
  exact .trans _ _ _ (.rel _ _ hswap) (.trans _ _ _ (.rel _ _ hwritten) (.rel _ _ hcapital))

end DomainMonitor.Dnscheck
