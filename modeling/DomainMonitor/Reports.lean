import DomainMonitor.Lib.KeyedTable
import DomainMonitor.Lib.RowLock
import DomainMonitor.Lib.Strings
import DomainMonitor.Config

/-! # Creating reports (`internal/report/service.go`)

    `Create` looks for a report of the same user with the same idempotency key
    outside any transaction, renders a new one if there is none, and inserts it
    under a unique index over both. Calls run side by side: an `INSERT` waits for
    a transaction that has entered the same key, and fails once that key is
    committed. At most one report is stored for a key, but the error of the
    `INSERT` is returned to the caller, where `previewSnapshot` of the imports
    looks up the winner and returns it.
-/

namespace DomainMonitor.Reports

open Utf8 Strings RowLock

/-! ### Reports -/

inductive Format where
  | json | csv | pdf
  deriving DecidableEq, Repr

def Format.text : Format → GoString
  | .json => lit "json"
  | .csv => lit "csv"
  | .pdf => lit "pdf"

variable (tables : Tables) (sha256 : List UInt8 → List UInt8)

/-- The format an argument names, after `strings.ToLower` and `TrimSpace`. -/
def Format.ofText? (value : GoString) : Option Format :=
  let value := toLower tables (trimSpace value)
  [Format.json, .csv, .pdf].find? (fun f => f.text = value)

def Format.contentType : Format → GoString
  | .json => lit "application/json"
  | .csv => lit "text/csv"
  | .pdf => lit "application/pdf"

/-- `report_type`. -/
def Format.reportType : Format → GoString
  | .pdf => lit "dashboard"
  | _ => lit "summary"

/-- `Record`, without the columns that are the same for every report. -/
structure Record where
  id : UUID
  reportType : GoString
  format : Format
  reportingCurrency : GoString
  snapshotAt : Int
  policyVersion : GoString
  completenessWarnings : List GoString
  sha256 : List UInt8
  requestedBy : UUID
  requestedAt : Int
  deriving DecidableEq

/-- A row of `reports`. -/
structure Report where
  record : Record
  idempotencyKey : GoString
  deriving DecidableEq

/-- What `reports_requester_idempotency_idx` is over. -/
def Report.index (r : Report) : UUID × GoString := (r.record.requestedBy, r.idempotencyKey)

/-- A row of `report_payloads`. -/
structure Payload where
  reportID : UUID
  contentType : GoString
  content : List UInt8
  deriving DecidableEq

/-! ### `Create` -/

/-- The arguments of a call. -/
structure Call where
  user : UUID
  idempotencyKey : GoString
  format : GoString

/-- The key as it is stored. -/
def Call.key (c : Call) : GoString := trimSpace c.idempotencyKey

def Call.index (c : Call) : UUID × GoString := (c.user, c.key)

inductive Error where
  | validation (field : String)
  /-- SQLSTATE 23505. -/
  | uniqueViolation
  deriving DecidableEq, Repr

/-- A key of 8 to 200 bytes, and one of the formats. -/
structure Call.Valid (c : Call) (format : Format) : Prop where
  key : 8 ≤ c.key.length ∧ c.key.length ≤ 200
  format : Format.ofText? tables c.format = some format

/-- `SELECT ... WHERE requested_by = $1 AND idempotency_key = $2`. -/
def existing (reports : List Report) (c : Call) : Option Report :=
  reports.find? (fun r => r.index = c.index)

/-- The part of `Create` before it renders: an answer, or the format to render. -/
def Call.begin (reports : List Report) (c : Call) : Except Error (Record ⊕ Format) :=
  if c.key.length < 8 ∨ 200 < c.key.length then .error (.validation "idempotency key")
  else
    match existing reports c with
    | some report => .ok (.inl report.record)
    | none =>
      match Format.ofText? tables c.format with
      | none => .error (.validation "format")
      | some format => .ok (.inr format)

/-- What `Summary` or `Dashboard` and the renderer return. -/
structure Rendered where
  content : List UInt8
  generatedAt : Int
  reportingCurrency : GoString
  completenessWarnings : List GoString
  policyVersion : GoString

/-- The record `Create` builds; `id` and `now` are what `uuid.New` and the clock
    return. -/
def newRecord (c : Call) (format : Format) (rendered : Rendered) (id : UUID) (now : Int) :
    Record where
  id := id
  reportType := format.reportType
  format := format
  reportingCurrency := rendered.reportingCurrency
  snapshotAt := rendered.generatedAt
  policyVersion := rendered.policyVersion
  completenessWarnings := rendered.completenessWarnings
  sha256 := sha256 rendered.content
  requestedBy := c.user
  requestedAt := now

/-! ### Calls side by side -/

/-- A call between its check and its `INSERT`, or between its `INSERT` and its
    commit. -/
inductive Txn where
  | checked (call : Call) (format : Format)
  | inserted (call : Call) (report : Report) (payload : Payload)

inductive Outcome where
  | returned (record : Record)
  | error (e : Error)
  /-- Cut off by a failure of the infrastructure. -/
  | failed
  deriving DecidableEq

structure Answer where
  call : Call
  outcome : Outcome

structure Store where
  reports : List Report
  payloads : List Payload
  answers : List Answer

abbrev State : Type := Sessions Store Txn

def answering (s : State) (call : Call) (outcome : Outcome) : State :=
  { s with db := { s.db with answers := s.db.answers ++ [⟨call, outcome⟩] } }

/-- A transaction has entered this key and not ended. -/
def Entered (s : State) (index : UUID × GoString) : Prop :=
  ∃ i call report payload, s.txns i = some (.inserted call report payload) ∧ report.index = index

inductive Label where
  | check (i : Nat) (call : Call)
  | insert (i : Nat)
  | commit (i : Nat)
  | fail (i : Nat)

inductive Step : State → Label → State → Prop where
  | refused {s : State} {i : Nat} {call : Call} {e : Error} (hidle : s.txns i = none)
      (h : call.begin tables s.db.reports = .error e) :
      Step s (.check i call) (answering s call (.error e))
  | found {s : State} {i : Nat} {call : Call} {record : Record} (hidle : s.txns i = none)
      (h : call.begin tables s.db.reports = .ok (.inl record)) :
      Step s (.check i call) (answering s call (.returned record))
  | checked {s : State} {i : Nat} {call : Call} {format : Format} (hidle : s.txns i = none)
      (h : call.begin tables s.db.reports = .ok (.inr format)) :
      Step s (.check i call) (s.setTxn i (some (.checked call format)))
  /-- No transaction has entered the key, which the `INSERT` would wait for, and it
      is not committed. A new identifier is not in use. -/
  | inserted {s : State} {i : Nat} {call : Call} {format : Format} {rendered : Rendered} {id : UUID}
      {now : Int} (ht : s.txns i = some (.checked call format))
      (hentered : ¬ Entered s call.index) (hnone : existing s.db.reports call = none)
      (hid : ∀ r ∈ s.db.reports, r.record.id ≠ id)
      (hid' : ∀ j c r p, s.txns j = some (.inserted c r p) → r.record.id ≠ id) :
      Step s (.insert i)
        (s.setTxn i (some (.inserted call
          ⟨newRecord sha256 call format rendered id now, call.key⟩
          ⟨id, format.contentType, rendered.content⟩)))
  /-- The key is committed: the `INSERT` fails, and its error is returned. -/
  | violated {s : State} {i : Nat} {call : Call} {format : Format} {report : Report}
      (ht : s.txns i = some (.checked call format)) (hentered : ¬ Entered s call.index)
      (h : existing s.db.reports call = some report) :
      Step s (.insert i)
        (answering (s.setTxn i none) call (.error .uniqueViolation))
  | committed {s : State} {i : Nat} {call : Call} {report : Report} {payload : Payload}
      (ht : s.txns i = some (.inserted call report payload)) :
      Step s (.commit i)
        { (s.setTxn i none) with
          db := ⟨s.db.reports ++ [report], s.db.payloads ++ [payload],
            s.db.answers ++ [⟨call, .returned report.record⟩]⟩ }
  | failedChecked {s : State} {i : Nat} {call : Call} {format : Format}
      (ht : s.txns i = some (.checked call format)) :
      Step s (.fail i) (answering (s.setTxn i none) call .failed)
  | failedInserted {s : State} {i : Nat} {call : Call} {report : Report} {payload : Payload}
      (ht : s.txns i = some (.inserted call report payload)) :
      Step s (.fail i) (answering (s.setTxn i none) call .failed)

/-- No reports and no open calls. -/
def reportSystem : LTS.System State Label where
  init := fun s => s.db.reports = [] ∧ s.db.payloads = [] ∧ s.db.answers = [] ∧
    ∀ i, s.txns i = none
  step := Step tables sha256

/-! ### The invariant -/

/-- What holds of the stored reports and the answers. -/
structure Stored (store : Store) : Prop where
  /-- The unique index. -/
  index : (store.reports.map Report.index).Nodup
  ids : (store.reports.map (fun r => r.record.id)).Nodup
  payloads : store.payloads.map Payload.reportID = store.reports.map (fun r => r.record.id)
  returned : ∀ a ∈ store.answers, ∀ record, a.outcome = .returned record →
    ∃ r ∈ store.reports, r.index = a.call.index ∧ r.record = record

structure Inv (s : State) : Prop where
  stored : Stored s.db
  /-- A report that is about to be committed has an identifier and a key that no
      other report has. -/
  fresh : ∀ i call report payload, s.txns i = some (.inserted call report payload) →
    report.index = call.index ∧ payload.reportID = report.record.id ∧
      ∀ r ∈ s.db.reports, r.index ≠ report.index ∧ r.record.id ≠ report.record.id
  exclusive : ∀ i j c r p c' r' p', s.txns i = some (.inserted c r p) →
    s.txns j = some (.inserted c' r' p') →
    r.index = r'.index ∨ r.record.id = r'.record.id → i = j

section

variable {tables : Tables} {sha256 : List UInt8 → List UInt8} {s s' : State} {i : Nat}

variable {reports : List Report} {c call : Call} {store : Store} {l : Label}

theorem existing_none : existing reports c = none ↔ ∀ r ∈ reports, r.index ≠ c.index := by
  unfold existing
  rw [List.find?_eq_none]
  simp

theorem existing_some {r : Report} (h : existing reports c = some r) :
    r ∈ reports ∧ r.index = c.index :=
  ⟨List.mem_of_find?_eq_some h, by simpa using List.find?_some h⟩

/-- The answers of `Create` before it renders. -/
theorem begin_cases {result : Except Error (Record ⊕ Format)} (h : c.begin tables reports = result) :
    (∃ field, result = .error (.validation field) ∧ ∀ format, ¬ c.Valid tables format) ∨
    (∃ r ∈ reports, r.index = c.index ∧ result = .ok (.inl r.record)) ∨
    ∃ format, result = .ok (.inr format) ∧ existing reports c = none := by
  unfold Call.begin at h
  split_ifs at h with hkey
  · refine .inl ⟨_, h.symm, fun format hvalid => ?_⟩
    have := hvalid.key
    omega
  · cases hexisting : existing reports c with
    | some r =>
      rw [hexisting] at h
      obtain ⟨hmem, hindex⟩ := existing_some hexisting
      exact .inr (.inl ⟨r, hmem, hindex, h.symm⟩)
    | none =>
      rw [hexisting] at h
      cases hformat : Format.ofText? tables c.format with
      | none =>
        rw [hformat] at h
        refine .inl ⟨_, h.symm, fun format hvalid => ?_⟩
        have hsome := hvalid.format
        rw [hformat] at hsome
        cases hsome
      | some format =>
        rw [hformat] at h
        exact .inr (.inr ⟨format, h.symm, rfl⟩)

/-- An answer that returns nothing, or a stored report. -/
theorem Stored.answer (h : Stored store) {outcome : Outcome}
    (hreturned : ∀ record, outcome = .returned record →
      ∃ r ∈ store.reports, r.index = call.index ∧ r.record = record) :
    Stored { store with answers := store.answers ++ [⟨call, outcome⟩] } := by
  refine ⟨h.index, h.ids, h.payloads, ?_⟩
  intro a ha
  obtain ha | ha := List.mem_append.mp ha
  · exact h.returned a ha
  · rw [List.mem_singleton.mp ha]
    exact hreturned

/-- The reports stay, and every report that is about to be committed was already. -/
theorem Inv.keep (h : Inv s) (hstored : Stored s'.db) (hreports : s'.db.reports = s.db.reports)
    (htxns : ∀ j c r p, s'.txns j = some (.inserted c r p) → s.txns j = some (.inserted c r p)) :
    Inv s' where
  stored := hstored
  fresh j c r p hj := by
    rw [hreports]
    exact h.fresh j c r p (htxns j c r p hj)
  exclusive j k c r p c' r' p' hj hk := h.exclusive j k c r p c' r' p' (htxns _ _ _ _ hj) (htxns _ _ _ _ hk)

/-- A call ends with an answer, and the reports stay. -/
theorem Inv.answer (h : Inv s) {outcome : Outcome}
    (hreturned : ∀ record, outcome = .returned record →
      ∃ r ∈ s.db.reports, r.index = call.index ∧ r.record = record) :
    Inv (answering (s.setTxn i none) call outcome) := by
  refine h.keep (h.stored.answer hreturned) rfl ?_
  intro j c r p hj
  exact (Sessions.of_setTxn_none hj).2

/-- The commit of a fresh report. -/
theorem Stored.commit (h : Stored store) {report : Report} {payload : Payload}
    (hindex : report.index = call.index) (hpayload : payload.reportID = report.record.id)
    (hfresh : ∀ r ∈ store.reports, r.index ≠ report.index ∧ r.record.id ≠ report.record.id) :
    Stored ⟨store.reports ++ [report], store.payloads ++ [payload],
      store.answers ++ [⟨call, .returned report.record⟩]⟩ := by
  have hnodup : ∀ {β : Type} (f : Report → β), (store.reports.map f).Nodup →
      (∀ r ∈ store.reports, f r ≠ f report) → ((store.reports ++ [report]).map f).Nodup := by
    intro β f hf hne
    rw [List.map_append, List.nodup_append]
    refine ⟨hf, List.pairwise_singleton .., ?_⟩
    intro x hx y hy
    obtain ⟨r, hr, rfl⟩ := List.mem_map.mp hx
    rw [List.mem_singleton.mp hy]
    exact hne r hr
  refine ⟨hnodup _ h.index (fun r hr => (hfresh r hr).1), hnodup _ h.ids (fun r hr => (hfresh r hr).2),
    ?_, ?_⟩
  · simp [h.payloads, hpayload]
  · intro a ha record hrecord
    obtain ha | ha := List.mem_append.mp ha
    · obtain ⟨r, hr, hsame⟩ := h.returned a ha record hrecord
      exact ⟨r, List.mem_append_left _ hr, hsame⟩
    · rw [List.mem_singleton.mp ha] at hrecord ⊢
      exact ⟨report, by simp, hindex, Outcome.returned.inj hrecord⟩

/-- **Step lemma**. -/
theorem Inv.step (h : Inv s) (hstep : Step tables sha256 s l s') : Inv s' := by
  cases hstep with
  | refused hidle hbegin =>
    exact h.keep (h.stored.answer (fun _ hr => nomatch hr)) rfl (fun _ _ _ _ hj => hj)
  | found hidle hbegin =>
    refine h.keep (h.stored.answer ?_) rfl (fun _ _ _ _ hj => hj)
    intro record hrecord
    obtain ⟨_, hresult, -⟩ | ⟨r, hr, hindex, hresult⟩ | ⟨_, hresult, -⟩ := begin_cases hbegin
    · cases hresult
    · cases hresult
      cases hrecord
      exact ⟨r, hr, hindex, rfl⟩
    · cases hresult
  | checked hidle hbegin =>
    refine h.keep h.stored rfl ?_
    intro j c r p hj
    obtain ⟨-, hj⟩ | ⟨-, hj⟩ := Sessions.setTxn_cases hj
    · exact hj
    · cases hj
  | @inserted i call format rendered id now ht hentered hnone hid hid' =>
    -- The new entry differs from the committed reports and from the other entries.
    have hother : ∀ j c r p, j ≠ i → s.txns j = some (.inserted c r p) →
        r.index ≠ call.index ∧ r.record.id ≠ id := by
      intro j c r p _ hj
      exact ⟨fun hindex => hentered ⟨j, c, r, p, hj, hindex⟩, hid' j c r p hj⟩
    refine ⟨h.stored, ?_, ?_⟩
    · intro j c r p hj
      obtain ⟨-, hj⟩ | ⟨-, hj⟩ := Sessions.setTxn_cases hj
      · exact h.fresh j c r p hj
      · cases hj
        refine ⟨rfl, rfl, ?_⟩
        intro r hr
        exact ⟨existing_none.mp hnone r hr, hid r hr⟩
    · intro j k c r p c' r' p' hj hk hsame
      obtain ⟨hji, hj⟩ | ⟨hji, hj⟩ := Sessions.setTxn_cases hj <;>
        obtain ⟨hki, hk⟩ | ⟨hki, hk⟩ := Sessions.setTxn_cases hk
      · exact h.exclusive j k c r p c' r' p' hj hk hsame
      · cases hk
        obtain ⟨hindex, hne⟩ := hother j c r p hji hj
        exact absurd hsame (not_or.mpr ⟨hindex, hne⟩)
      · cases hj
        obtain ⟨hindex, hne⟩ := hother k c' r' p' hki hk
        exact absurd hsame (not_or.mpr ⟨hindex.symm, hne.symm⟩)
      · rw [hji, hki]
  | violated ht hentered hexisting => exact h.answer (fun _ hr => nomatch hr)
  | @committed i call report payload ht =>
    obtain ⟨hindex, hpayload, hfresh⟩ := h.fresh i call report payload ht
    refine ⟨h.stored.commit hindex hpayload hfresh, ?_, ?_⟩
    · intro j c r p hj
      obtain ⟨hji, hj⟩ := Sessions.of_setTxn_none hj
      obtain ⟨hindex', hpayload', hfresh'⟩ := h.fresh j c r p hj
      refine ⟨hindex', hpayload', ?_⟩
      intro r' hr'
      obtain hr' | hr' := List.mem_append.mp hr'
      · exact hfresh' r' hr'
      · rw [List.mem_singleton.mp hr']
        -- Two open transactions never have the same key or identifier.
        rw [← not_or]
        intro hsame
        exact hji (h.exclusive i j call report payload c r p ht hj hsame).symm
    · intro j k c r p c' r' p' hj hk
      exact h.exclusive j k c r p c' r' p' (Sessions.of_setTxn_none hj).2 (Sessions.of_setTxn_none hk).2
  | failedChecked | failedInserted => exact h.answer (fun _ hr => nomatch hr)

theorem inv_reachable (h : (reportSystem tables sha256).Reachable s) : Inv s := by
  refine LTS.System.invariant (P := Inv) ?_ (fun _ _ _ hinv hstep => hinv.step hstep) h
  intro s ⟨hreports, hpayloads, hanswers, hidle⟩
  have hnot : ∀ i t, s.txns i ≠ some t := by
    intro i t ht
    rw [hidle i] at ht
    cases ht
  refine ⟨⟨?_, ?_, ?_, ?_⟩, ?_, ?_⟩
  · simp [hreports]
  · simp [hreports]
  · simp [hreports, hpayloads]
  · simp [hanswers]
  · intro i c r p hi
    exact absurd hi (hnot i _)
  · intro i j c r p c' r' p' hi
    exact absurd hi (hnot i _)

/-! ### One report for a key -/

/-- The call was answered with the only report that is stored under its key, and
    this report has one payload. -/
def Returned (store : Store) (a : Answer) : Prop :=
  ∃ r, store.reports.filter (fun r => r.index = a.call.index) = [r] ∧
    (store.payloads.filter (fun p => p.reportID = r.record.id)).length = 1 ∧
    a.outcome = .returned r.record

theorem Stored.returned_of_mem (h : Stored store) {a : Answer} (ha : a ∈ store.answers)
    {record : Record} (hrecord : a.outcome = .returned record) : Returned store a := by
  obtain ⟨r, hr, hindex, rfl⟩ := h.returned a ha record hrecord
  refine ⟨r, ?_, ?_, hrecord⟩
  · rw [← hindex]
    exact KeyedTable.filter_key h.index hr
  · have hid : r.record.id ∈ store.payloads.map Payload.reportID := by
      rw [h.payloads]
      exact List.mem_map_of_mem hr
    obtain ⟨p, hp, hpid⟩ := List.mem_map.mp hid
    have hnodup : (store.payloads.map Payload.reportID).Nodup := by
      rw [h.payloads]
      exact h.ids
    rw [← hpid, KeyedTable.filter_key hnodup hp]
    rfl

/-- The answers a call with valid arguments may get. -/
def Allowed (tables : Tables) (violation : Prop) (a : Answer) : Prop :=
  (∃ record, a.outcome = .returned record) ∨ a.outcome = .failed ∨
    (∃ field, a.outcome = .error (.validation field) ∧ ∀ format, ¬ a.call.Valid tables format) ∨
    (a.outcome = .error .uniqueViolation ∧ violation)

theorem Allowed.imp {violation violation' : Prop} {a : Answer} (h : Allowed tables violation a)
    (himp : violation → violation') : Allowed tables violation' a :=
  Or.imp_right (Or.imp_right (Or.imp_right (And.imp_right himp))) h

/-- What a step adds to the answers. -/
theorem Step.answers (h : Step tables sha256 s l s') :
    ∀ a ∈ s'.db.answers, a ∈ s.db.answers ∨
      Allowed tables (∃ i format, l = .insert i ∧ s.txns i = some (.checked a.call format) ∧
        (existing s.db.reports a.call).isSome) a := by
  have hnew : ∀ {call outcome} {P : Answer → Prop}, P ⟨call, outcome⟩ →
      ∀ a ∈ s.db.answers ++ [⟨call, outcome⟩], a ∈ s.db.answers ∨ P a := by
    intro call outcome P hP a ha
    obtain ha | ha := List.mem_append.mp ha
    · exact .inl ha
    · rw [List.mem_singleton.mp ha]
      exact .inr hP
  cases h with
  | refused hidle hbegin =>
    refine hnew ?_
    obtain ⟨field, hresult, hinvalid⟩ | ⟨_, _, _, hresult⟩ | ⟨_, hresult, -⟩ := begin_cases hbegin
    · cases hresult
      exact .inr (.inr (.inl ⟨field, rfl, hinvalid⟩))
    · cases hresult
    · cases hresult
  | found hidle hbegin => exact hnew (.inl ⟨_, rfl⟩)
  | checked | inserted => exact fun a ha => .inl ha
  | violated ht hentered hexisting =>
    refine hnew (.inr (.inr (.inr ⟨rfl, _, _, rfl, ht, ?_⟩)))
    rw [hexisting]
    rfl
  | committed ht => exact hnew (.inl ⟨_, rfl⟩)
  | failedChecked | failedInserted => exact hnew (.inr (.inl rfl))

theorem answers_allowed (h : (reportSystem tables sha256).Reachable s) :
    ∀ a ∈ s.db.answers, Allowed tables True a := by
  refine LTS.System.invariant (P := fun s => ∀ a ∈ s.db.answers, Allowed tables True a) ?_ ?_ h
  · intro s ⟨_, _, hanswers, _⟩ a ha
    rw [hanswers] at ha
    cases ha
  · intro s l s' hs hstep a ha
    obtain ha | hallowed := Step.answers hstep a ha
    · exact hs a ha
    · exact hallowed.imp (fun _ => trivial)

/-- A call commits only while no other call with its user and key is between its
    check and its `INSERT`. -/
def NotOvertaking (s : State) (l : Label) : Prop :=
  ∀ i call report payload, l = .commit i → s.txns i = some (.inserted call report payload) →
    ∀ j c format, s.txns j = some (.checked c format) → c.index ≠ report.index

/-- No call is between its check and its `INSERT` while its key is committed. -/
def NoneOvertaken (s : State) : Prop :=
  ∀ j c format, s.txns j = some (.checked c format) → existing s.db.reports c = none

theorem NoneOvertaken.step (h : NoneOvertaken s) (hl : NotOvertaking s l)
    (hstep : Step tables sha256 s l s') : NoneOvertaken s' := by
  -- The calls that wait are those that waited, unless one has just checked.
  have hkeep : ∀ {i t}, (∀ c format, t ≠ some (.checked c format)) →
      ∀ j c format, (s.setTxn i t).txns j = some (.checked c format) →
        existing s.db.reports c = none := by
    intro i t ht j c format hj
    obtain ⟨-, hj⟩ | ⟨-, hj⟩ := Sessions.setTxn_cases hj
    · exact h j c format hj
    · exact absurd hj (ht c format)
  cases hstep with
  | refused hidle hbegin => exact h
  | found hidle hbegin => exact h
  | checked hidle hbegin =>
    intro j c format hj
    obtain ⟨-, hj⟩ | ⟨-, hj⟩ := Sessions.setTxn_cases hj
    · exact h j c format hj
    · cases hj
      obtain ⟨_, hresult, -⟩ | ⟨_, _, _, hresult⟩ | ⟨_, -, hnone⟩ := begin_cases hbegin
      · cases hresult
      · cases hresult
      · exact hnone
  | inserted ht hentered hnone hid hid' => exact hkeep (by simp)
  | violated ht hentered hexisting => exact hkeep (by simp)
  | @committed i call report payload ht =>
    intro j c format hj
    obtain ⟨-, hj⟩ := Sessions.of_setTxn_none hj
    rw [existing_none]
    intro r hr
    obtain hr | hr := List.mem_append.mp hr
    · exact existing_none.mp (h j c format hj) r hr
    · rw [List.mem_singleton.mp hr]
      exact (hl i call report payload rfl ht j c format hj).symm
  | failedChecked | failedInserted => exact hkeep (by simp)

theorem noneOvertaken_reachable
    (h : ((reportSystem tables sha256).restrict NotOvertaking).Reachable s) : NoneOvertaken s := by
  refine LTS.System.invariant (P := NoneOvertaken) ?_ ?_ h
  · intro s ⟨_, _, _, hidle⟩ j c format hj
    rw [hidle j] at hj
    cases hj
  · intro s l s' hs hstep
    exact hs.step hstep.1 hstep.2

theorem answers_allowed_restricted
    (h : ((reportSystem tables sha256).restrict NotOvertaking).Reachable s) :
    ∀ a ∈ s.db.answers, Allowed tables False a := by
  refine LTS.System.invariant_under (Q := NoneOvertaken)
    (P := fun s => ∀ a ∈ s.db.answers, Allowed tables False a)
    (fun _ hr => noneOvertaken_reachable hr) ?_ ?_ h
  · intro s ⟨_, _, hanswers, _⟩ a ha
    rw [hanswers] at ha
    cases ha
  · intro s l s' hnone hs hstep a ha
    obtain ha | hallowed := Step.answers hstep.2 a ha
    · exact hs a ha
    · refine hallowed.imp (fun ⟨i, format, _, ht, hsome⟩ => ?_)
      rw [hnone i a.call format ht] at hsome
      cases hsome

end

def sampleCall : Call := ⟨1, lit "report-2026", lit "JSON"⟩

def sampleReport : Report :=
  ⟨newRecord id sampleCall .json ⟨[], 0, lit "USD", [], lit "v1"⟩ 7 0, lit "report-2026"⟩

def samplePayload : Payload := ⟨7, lit "application/json", []⟩

def emptyState : State := ⟨⟨[], [], []⟩, fun _ => none⟩

/-- The first call, after its check and its `INSERT`. -/
def oneChecked : State := emptyState.setTxn 1 (some (.checked sampleCall .json))

def oneInserted (s : State) : State :=
  s.setTxn 1 (some (.inserted sampleCall sampleReport samplePayload))

def oneCommitted (s : State) : State :=
  ⟨⟨[sampleReport], [samplePayload], [⟨sampleCall, .returned sampleReport.record⟩]⟩,
    (s.setTxn 1 none).txns⟩

theorem sampleCall_begin : sampleCall.begin asciiTables [] = .ok (.inr .json) := by
  decide +kernel

variable {s : State}

/-- The first call inserts and commits, wherever the others are that have not inserted. -/
theorem oneInserted_step (hdb : s.db = emptyState.db)
    (ht : s.txns 1 = some (.checked sampleCall .json))
    (hnot : ∀ j c r p, s.txns j ≠ some (.inserted c r p)) :
    Step asciiTables id s (.insert 1) (oneInserted s) := by
  refine @Step.inserted asciiTables id s 1 sampleCall .json ⟨[], 0, lit "USD", [], lit "v1"⟩ 7 0 ht
    ?_ ?_ ?_ ?_
  · intro ⟨j, c, r, p, hj, _⟩
    exact hnot j c r p hj
  · rw [hdb]
    rfl
  · rw [hdb]
    nofun
  · intro j c r p hj
    exact absurd hj (hnot j c r p)

theorem oneCommitted_step (hdb : s.db = emptyState.db) :
    Step asciiTables id (oneInserted s) (.commit 1) (oneCommitted s) := by
  have hstep : Step asciiTables id (oneInserted s) (.commit 1) _ :=
    .committed (Sessions.setTxn_self ..)
  have htarget : oneCommitted s = { ((oneInserted s).setTxn 1 none) with
      db := ⟨s.db.reports ++ [sampleReport], s.db.payloads ++ [samplePayload],
        s.db.answers ++ [⟨sampleCall, .returned sampleReport.record⟩]⟩ } := by
    rw [hdb]
    simp only [oneCommitted, oneInserted, Sessions.setTxn, Sessions.mk.injEq]
    refine ⟨rfl, ?_⟩
    funext j
    split <;> rfl
  rw [htarget]
  exact hstep

/-- Only calls that wait. -/
theorem not_inserted (h : ∀ j, s.txns j = none ∨ s.txns j = some (.checked sampleCall .json)) :
    ∀ j c r p, s.txns j ≠ some (.inserted c r p) := by
  intro j c r p hj
  obtain h | h := h j <;> rw [hj] at h <;> cases h

end DomainMonitor.Reports
