import DomainMonitor.Lib.Transition
import DomainMonitor.Queue.Outbox

/-! # The dispatch protocol

    Any number of dispatchers run `RunOnce` against one outbox and one Redis server.
    A claim and each mark is one transaction; between them, and outside any
    transaction, the event is added to its stream. A dispatcher can stop at any
    point, and its lease can expire while it is still at work.

    Besides the outbox and the stream, a state remembers every `XADD` call and, for
    a failed one that was recorded, whose lease the recording statement found.
-/

namespace DomainMonitor.Queue

/-! ### States and steps -/

/-- Where a call of `RunOnce` stands: with events still to dispatch, after an
    `XADD` that succeeded, or after one that returned an error. -/
inductive Phase where
  | ready (events : List Event)
  | added (event : Event) (rest : List Event)
  | refused (event : Event) (call : Nat) (dispatchErr : GoString) (rest : List Event)

/-- The events it still has in memory. -/
def Phase.events : Phase → List Event
  | .ready events => events
  | .added event rest => event :: rest
  | .refused event _ _ rest => event :: rest

structure XaddCall where
  dispatcher : Nat
  event : UUID
  ok : Bool
  /-- `locked_by` of the row when the failure was recorded. -/
  recordedFor : Option WorkerID := none
  deriving DecidableEq, Repr

/-- A call that was just made. -/
def newCall (i : Nat) (id : UUID) (ok : Bool) : XaddCall where
  dispatcher := i
  event := id
  ok := ok

def XaddCall.record (holder : Option WorkerID) (c : XaddCall) : XaddCall :=
  { c with recordedFor := holder }

structure State where
  outbox : Outbox
  /-- Every entry ever added to a stream. -/
  stream : List StreamEntry
  calls : List XaddCall
  phases : Nat → Option Phase

def State.setPhase (s : State) (i : Nat) (p : Option Phase) : State :=
  { s with phases := fun j => if j = i then p else s.phases j }

inductive Action where
  | enqueue
  | claim (i : Nat) (now : Int)
  | xadd (i : Nat)
  | markDispatched (i : Nat)
  | markFailure (i : Nat)
  | stop (i : Nat)

/-- The dispatchers. Their settings may differ in everything but `maxAttempts`. -/
structure Fleet where
  settings : Nat → Dispatcher
  worker : Nat → WorkerID
  maxAttempts : Int
  same : ∀ i, (settings i).maxAttempts = maxAttempts
  positive : 1 ≤ maxAttempts

variable (F : Fleet)

inductive Step : State → Action → State → Prop where
  | enqueue {s : State} {event : Event} {outbox' : Outbox}
      (h : enqueueTx event s.outbox = some outbox') : Step s .enqueue { s with outbox := outbox' }
  -- `RETURNING` has no order of its own.
  | claim {s : State} {i : Nat} {call : ClaimCall} {events : List Event} (hidle : s.phases i = none)
      (horder : events.Perm (claim (F.settings i) (F.worker i) call s.outbox).2) :
      Step s (.claim i call.now)
        { (s.setPhase i (some (.ready events))) with
          outbox := (claim (F.settings i) (F.worker i) call s.outbox).1 }
  | xaddOk {s : State} {i : Nat} {event : Event} {rest : List Event}
      (hphase : s.phases i = some (.ready (event :: rest))) :
      Step s (.xadd i)
        { (s.setPhase i (some (.added event rest))) with
          stream := s.stream ++ [event.entry]
          calls := s.calls ++ [newCall i event.id true] }
  -- The entry may have been added although the reply was lost.
  | xaddError {s : State} {i : Nat} {event : Event} {rest : List Event} {dispatchErr : GoString}
      (wasAdded : Bool) (hphase : s.phases i = some (.ready (event :: rest))) :
      Step s (.xadd i)
        { (s.setPhase i (some (.refused event s.calls.length dispatchErr rest))) with
          stream := s.stream ++ (if wasAdded then [event.entry] else [])
          calls := s.calls ++ [newCall i event.id false] }
  | markDispatched {s : State} {i : Nat} {event : Event} {rest : List Event} {now : Int}
      {outbox' : Outbox} (hphase : s.phases i = some (.added event rest))
      (h : markDispatched (F.worker i) event.id now s.outbox = some outbox') :
      Step s (.markDispatched i)
        { (s.setPhase i (some (.ready rest))) with outbox := outbox' }
  | markFailure {s : State} {i n : Nat} {event : Event} {rest : List Event} {call : FailureCall}
      {outbox' : Outbox} (hphase : s.phases i = some (.refused event n call.dispatchErr rest))
      (h : markFailure (F.settings i) (F.worker i) event.id call s.outbox = some outbox') :
      Step s (.markFailure i)
        { (s.setPhase i (some (.ready rest))) with
          outbox := outbox'
          calls := s.calls.modify n
            (XaddCall.record ((s.outbox.get? event.id).bind OutboxRow.lockedBy)) }
  -- The end of the loop, an error return (`lease lost`, a refused statement), a crash.
  | stop {s : State} {i : Nat} : Step s (.stop i) (s.setPhase i none)

def IsInitial (s : State) : Prop :=
  s.outbox.rows = [] ∧ s.stream = [] ∧ s.calls = [] ∧ ∀ i, s.phases i = none

def system : LTS.System State Action where
  init := IsInitial
  step := Step F

variable {F} {s s' : State} {a : Action}

/-! ### What a step does to a row -/

/-- The rows a step may change, and how. -/
inductive RowStep (F : Fleet) :
    Action → OutboxRow → OutboxRow → Prop where
  | same {a : Action} {row : OutboxRow} : RowStep F a row row
  | claimed {i : Nat} {now : Int} {row row' : OutboxRow}
      (h : Claimed (F.settings i) (F.worker i) now row row') : RowStep F (.claim i now) row row'
  | dispatched {i : Nat} {now : Int} {row : OutboxRow} (hstatus : row.status = .dispatching)
      (hby : row.lockedBy = some (F.worker i)) :
      RowStep F (.markDispatched i) row (row.complete now)
  | failed {i : Nat} {call : FailureCall} {row : OutboxRow} (hstatus : row.status = .dispatching)
      (hby : row.lockedBy = some (F.worker i)) :
      RowStep F (.markFailure i) row (row.fail (F.settings i) call)

/-- What became of the row under an id: rows are inserted by `EnqueueTx` only, and
    never removed. -/
def RowMoves (F : Fleet) (a : Action) (old new : Option OutboxRow)
    (id : UUID) : Prop :=
  (∃ row row', old = some row ∧ new = some row' ∧ RowStep F a row row') ∨
    old = none ∧ (new = none ∨ ∃ event, event.id = id ∧ new = some (newRow event))

theorem RowMoves.refl (F : Fleet) (a : Action)
    (old : Option OutboxRow) (id : UUID) : RowMoves F a old old id := by
  cases old with
  | none => exact .inr ⟨rfl, .inl rfl⟩
  | some row => exact .inl ⟨row, row, rfl, rfl, .same⟩

theorem step_rows (h : Step F s a s') (id : UUID) :
    RowMoves F a (s.outbox.get? id) (s'.outbox.get? id) id := by
  cases h with
  | @enqueue event outbox' h =>
    obtain ⟨hnone, hget⟩ := get?_enqueueTx h id
    dsimp only
    rw [hget]
    by_cases hid : id = event.id
    · rw [if_pos hid, hid, hnone]
      exact .inr ⟨rfl, .inr ⟨event, rfl, rfl⟩⟩
    · rw [if_neg hid]
      exact .refl ..
  | @claim i call events hidle horder =>
    cases hrow : s.outbox.get? id with
    | none => exact .inr ⟨rfl, .inl (claim_get?_none (F.settings i) (F.worker i) call hrow)⟩
    | some row =>
      obtain ⟨row', hrow', hclaimed⟩ := get?_claim (F.settings i) (F.worker i) call hrow
      exact .inl ⟨row, row', rfl, hrow', .claimed hclaimed⟩
  | xaddOk | xaddError | stop => exact .refl ..
  | @markDispatched i event rest now outbox' hphase h =>
    obtain ⟨row, hrow, hstatus, hby, rfl⟩ := markDispatched_some h
    dsimp only
    rw [KeyedTable.get?_modify]
    by_cases hid : id = event.id
    · rw [if_pos hid, hid, hrow]
      exact .inl ⟨row, _, rfl, rfl, .dispatched hstatus hby⟩
    · rw [if_neg hid]
      exact .refl ..
  | @markFailure i n event rest call outbox' hphase h =>
    obtain ⟨row, hrow, hstatus, hby, rfl⟩ := markFailure_some h
    dsimp only
    rw [KeyedTable.get?_modify]
    by_cases hid : id = event.id
    · rw [if_pos hid, hid, hrow]
      exact .inl ⟨row, _, rfl, rfl, .failed hstatus hby⟩
    · rw [if_neg hid]
      exact .refl ..

theorem step_row (h : Step F s a s') {id : UUID} {row : OutboxRow}
    (hrow : s.outbox.get? id = some row) :
    ∃ row', s'.outbox.get? id = some row' ∧ RowStep F a row row' := by
  have hmoves := step_rows h id
  rw [hrow] at hmoves
  rcases hmoves with ⟨_, row', heq, hrow', hstep⟩ | ⟨hnone, -⟩
  · cases heq
    exact ⟨row', hrow', hstep⟩
  · cases hnone

section RowStep

variable {row row' : OutboxRow}

theorem RowStep.event (h : RowStep F a row row') : row'.event = row.event := by
  cases h with
  | claimed h => cases h <;> rfl
  | _ => rfl

theorem status_of_isStale {d : Dispatcher} {now : Int} (h : row.isStale d now = true) : row.status = .dispatching := by
  simp only [OutboxRow.isStale, Bool.and_eq_true, decide_eq_true_eq] at h
  exact h.1

/-- Only pending and dispatching rows change. -/
theorem RowStep.terminal (h : RowStep F a row row')
    (hterminal : row.status = .dispatched ∨ row.status = .failed) : row' = row := by
  have hpending : row.status ≠ .pending := by rcases hterminal with h | h <;> simp [h]
  have hdispatching : row.status ≠ .dispatching := by rcases hterminal with h | h <;> simp [h]
  cases h with
  | same => rfl
  | claimed h =>
    cases h with
    | left => rfl
    | requeued h => exact absurd (status_of_isStale h) hdispatching
    | taken h => exact absurd h hpending
    | retaken h => exact absurd (status_of_isStale h) hdispatching
  | dispatched hstatus => exact absurd hstatus hdispatching
  | failed hstatus => exact absurd hstatus hdispatching

/-- The dispatcher that takes a step. -/
def Action.dispatcher : Action → Option Nat
  | .enqueue => none
  | .claim i _ | .xadd i | .markDispatched i | .markFailure i | .stop i => some i

/-- A dispatcher leaves alone what another one holds, unless it finds the lease
    expired when it claims. -/
theorem RowStep.foreign {i : Nat} (h : RowStep F a row row')
    (ha : a.dispatcher = some i) (hstatus : row.status = .dispatching)
    (hby : row.lockedBy ≠ some (F.worker i))
    (hlease : ∀ now, a = .claim i now → row.isStale (F.settings i) now = false) : row' = row := by
  cases h with
  | same => rfl
  | claimed h =>
    cases ha
    have hfresh := hlease _ rfl
    cases h with
    | left => rfl
    | requeued h => rw [hfresh] at h; cases h
    | taken h => rw [hstatus] at h; cases h
    | retaken h => rw [hfresh] at h; cases h
  | dispatched _ hby' => cases ha; exact absurd hby' hby
  | failed _ hby' => cases ha; exact absurd hby' hby

end RowStep

/-! ### The invariant -/

/-- How many failures of an event were recorded. -/
def recorded (calls : List XaddCall) (id : UUID) : Nat :=
  calls.countP (fun c => c.event = id && c.recordedFor.isSome)

/-- What `RunOnce` knows in a phase. -/
def PhaseOk (s : State) (i : Nat) : Phase → Prop
  | .ready _ => True
  | .added event _ => event.entry ∈ s.stream
  | .refused event n _ _ =>
    s.calls[n]? = some (newCall i event.id false)

structure Inv (F : Fleet) (s : State) : Prop where
  attempts : ∀ {id row}, s.outbox.get? id = some row → (recorded s.calls id : Int) = row.attempts ∧
    if row.status = .failed then row.attempts = F.maxAttempts else row.attempts < F.maxAttempts
  added : ∀ {id row}, s.outbox.get? id = some row → row.status = .dispatched →
    row.event.entry ∈ s.stream
  known : ∀ c ∈ s.calls, (s.outbox.get? c.event).isSome = true
  holder : ∀ c ∈ s.calls, ∀ w ∈ c.recordedFor, c.ok = false ∧ w = F.worker c.dispatcher
  memory : ∀ {i p}, s.phases i = some p → ∀ event ∈ p.events,
    ∃ row, s.outbox.get? event.id = some row ∧ row.event = event
  phase : ∀ {i p}, s.phases i = some p → PhaseOk s i p

/-! ### Recording a failure -/

variable {n i : Nat} {c : XaddCall} {p : Phase} {event : Event} {row' : OutboxRow}

theorem mem_modify {α : Type} {l : List α} {f : α → α} {x y : α} (hn : l[n]? = some x)
    (h : y ∈ l.modify n f) : y ∈ l ∨ y = f x := by
  obtain ⟨m, hm⟩ := List.mem_iff_getElem?.mp h
  rw [List.getElem?_modify] at hm
  by_cases hmn : n = m
  · subst hmn
    simp only [hn, if_true, Option.map_eq_map, Option.map_some, Option.some.injEq] at hm
    exact .inr hm.symm
  · simp only [hmn, if_false, Option.map_eq_map, Option.map_id_fun', id_eq] at hm
    exact .inl (List.mem_of_getElem? hm)

theorem recorded_record {calls : List XaddCall} (w : WorkerID) (hn : calls[n]? = some c)
    (hnone : c.recordedFor = none) (id : UUID) :
    recorded (calls.modify n (XaddCall.record (some w))) id =
      recorded calls id + if c.event = id then 1 else 0 := by
  induction calls generalizing n with
  | nil => cases hn
  | cons c' calls ih =>
    cases n with
    | zero =>
      cases hn
      simp only [recorded, List.modify_zero_cons, List.countP_cons, XaddCall.record, hnone]
      simp
    | succ n =>
      have h := ih (n := n) hn
      simp only [recorded, List.modify_succ_cons, List.countP_cons] at h ⊢
      omega

theorem recorded_append (calls : List XaddCall) (h : c.recordedFor = none) (id : UUID) :
    recorded (calls ++ [c]) id = recorded calls id := by
  simp [recorded, h]

/-! ### Steps keep the invariant -/

/-- An event in memory still has its row. -/
theorem Inv.event_row (hinv : Inv F s) (hstep : Step F s a s') (hphase : s.phases i = some p)
    (hevent : event ∈ p.events) :
    ∃ row, s'.outbox.get? event.id = some row ∧ row.event = event := by
  obtain ⟨row, hrow, hrowevent⟩ := hinv.memory hphase event hevent
  obtain ⟨row', hrow', hrowstep⟩ := step_row hstep hrow
  exact ⟨row', hrow', hrowstep.event.trans hrowevent⟩

theorem Inv.known_step (hinv : Inv F s) (hstep : Step F s a s') (hc : c ∈ s.calls) :
    (s'.outbox.get? c.event).isSome = true := by
  obtain ⟨row, hrow⟩ := Option.isSome_iff_exists.mp (hinv.known c hc)
  obtain ⟨row', hrow', -⟩ := step_row hstep hrow
  rw [hrow']
  rfl

/-- What a step does to the attempts of a row that is not being marked. -/
theorem RowStep.attempts_eq {row : OutboxRow} (h : RowStep F a row row')
    (ha : ∀ i, a ≠ .markFailure i) (hrow : if row.status = .failed then row.attempts = F.maxAttempts
      else row.attempts < F.maxAttempts) :
    row'.attempts = row.attempts ∧ if row'.status = .failed then row'.attempts = F.maxAttempts
      else row'.attempts < F.maxAttempts := by
  cases h with
  | same => exact ⟨rfl, hrow⟩
  | claimed h =>
    cases h with
    | left => exact ⟨rfl, hrow⟩
    | requeued h =>
      rw [if_neg (by rw [status_of_isStale h]; decide)] at hrow
      exact ⟨rfl, by simpa [OutboxRow.requeue] using hrow⟩
    | taken _ hattempts => exact ⟨rfl, by simpa [OutboxRow.hold, F.same] using hattempts⟩
    | retaken _ hattempts => exact ⟨rfl, by simpa [OutboxRow.hold, OutboxRow.requeue, F.same] using hattempts⟩
  | dispatched hstatus =>
    rw [if_neg (by rw [hstatus]; decide)] at hrow
    exact ⟨rfl, by simpa [OutboxRow.complete] using hrow⟩
  | failed => exact absurd rfl (ha _)

/-- A dispatched row was dispatched before, or is being marked. -/
theorem RowStep.dispatched_of {row : OutboxRow} (h : RowStep F a row row')
    (ha : ∀ i, a ≠ .markDispatched i) (hstatus : row'.status = .dispatched) :
    row.status = .dispatched := by
  cases h with
  | same => exact hstatus
  | claimed h =>
    cases h with
    | left => exact hstatus
    | _ => cases hstatus
  | dispatched => exact absurd rfl (ha _)
  | failed =>
    simp only [OutboxRow.fail] at hstatus
    split at hstatus <;> cases hstatus

/-- Steps that record nothing. -/
theorem Inv.attempts_step (hinv : Inv F s) (hstep : Step F s a s') (ha : ∀ i, a ≠ .markFailure i)
    (hcalls : ∀ id, recorded s'.calls id = recorded s.calls id) {id : UUID}
    (hrow' : s'.outbox.get? id = some row') : (recorded s'.calls id : Int) = row'.attempts ∧
      if row'.status = .failed then row'.attempts = F.maxAttempts
      else row'.attempts < F.maxAttempts := by
  rw [hcalls]
  rcases step_rows hstep id with ⟨row, _, hrow, heq, hrowstep⟩ | ⟨hnone, hnew | ⟨event, rfl, hnew⟩⟩
  · rw [heq] at hrow'
    cases hrow'
    obtain ⟨hcount, hbound⟩ := hinv.attempts hrow
    obtain ⟨hattempts, hbound'⟩ := hrowstep.attempts_eq ha hbound
    exact ⟨hcount.trans hattempts.symm, hbound'⟩
  · rw [hnew] at hrow'
    cases hrow'
  · rw [hnew] at hrow'
    cases hrow'
    -- No call was made for an event that was not there.
    have hzero : recorded s.calls event.id = 0 := by
      rw [recorded, List.countP_eq_zero]
      intro c hc hevent
      simp only [Bool.and_eq_true, decide_eq_true_eq] at hevent
      have hknown := hinv.known c hc
      rw [hevent.1, hnone] at hknown
      cases hknown
    rw [hzero]
    refine ⟨rfl, ?_⟩
    have hpositive := F.positive
    rw [if_neg (by simp [newRow])]
    change 0 < F.maxAttempts
    omega

theorem Inv.added_step (hinv : Inv F s) (hstep : Step F s a s') (ha : ∀ i, a ≠ .markDispatched i)
    (hstream : s.stream ⊆ s'.stream) {id : UUID} (hrow' : s'.outbox.get? id = some row')
    (hstatus : row'.status = .dispatched) : row'.event.entry ∈ s'.stream := by
  rcases step_rows hstep id with ⟨row, _, hrow, heq, hrowstep⟩ | ⟨-, hnew | ⟨event, -, hnew⟩⟩
  · rw [heq] at hrow'
    cases hrow'
    rw [hrowstep.event]
    exact hstream (hinv.added hrow (hrowstep.dispatched_of ha hstatus))
  · rw [hnew] at hrow'
    cases hrow'
  · rw [hnew] at hrow'
    cases hrow'
    cases hstatus

theorem phaseOk_mono (h : PhaseOk s i p) (hstream : s.stream ⊆ s'.stream)
    (hcalls : ∀ (n : Nat) id, s.calls[n]? = some (newCall i id false) →
      s'.calls[n]? = some (newCall i id false)) : PhaseOk s' i p := by
  cases p with
  | ready => exact h
  | added => exact hstream h
  | refused event n => exact hcalls n event.id h

/-- A step of dispatcher `i` that brings it to phase `q`. -/
theorem Inv.phases_step (hinv : Inv F s) (hstep : Step F s a s') {q : Option Phase}
    (hphases : s'.phases = (s.setPhase i q).phases) (hstream : s.stream ⊆ s'.stream)
    (hcalls : ∀ j (n : Nat) id, j ≠ i → s.calls[n]? = some (newCall j id false) →
      s'.calls[n]? = some (newCall j id false))
    (hq : ∀ p, q = some p → PhaseOk s' i p ∧ ∀ event ∈ p.events,
      ∃ row, s'.outbox.get? event.id = some row ∧ row.event = event) (j : Nat) (p : Phase)
    (hp : s'.phases j = some p) :
    PhaseOk s' j p ∧
      ∀ event ∈ p.events, ∃ row, s'.outbox.get? event.id = some row ∧ row.event = event := by
  rw [hphases] at hp
  simp only [State.setPhase] at hp
  by_cases hji : j = i
  · subst hji
    rw [if_pos rfl] at hp
    exact hq p hp
  · rw [if_neg hji] at hp
    exact ⟨phaseOk_mono (hinv.phase hp) hstream (fun n id => hcalls j n id hji),
      fun event hevent => hinv.event_row hstep hp hevent⟩

/-- An `XADD` call with either outcome: its event is in memory. -/
theorem Inv.xadd (hinv : Inv F s) {rest : List Event} {entries : List StreamEntry}
    (hphase : s.phases i = some (.ready (event :: rest))) (hstep : Step F s (.xadd i)
      { (s.setPhase i (some p)) with stream := s.stream ++ entries, calls := s.calls ++ [c] })
    (hc : c.event = event.id ∧ c.recordedFor = none) (hevents : p.events = event :: rest)
    (hp : PhaseOk { (s.setPhase i (some p)) with
      stream := s.stream ++ entries, calls := s.calls ++ [c] } i p) :
    Inv F
      { (s.setPhase i (some p)) with stream := s.stream ++ entries, calls := s.calls ++ [c] } := by
  have hstream : s.stream ⊆ s.stream ++ entries := List.subset_append_left ..
  have hphases := hinv.phases_step hstep rfl hstream
    (fun j n id _ h => by
      dsimp only
      rw [List.getElem?_append_left (List.getElem?_eq_some_iff.mp h).1]
      exact h)
    (fun q hq => by
      cases hq
      refine ⟨hp, fun e he => ?_⟩
      rw [hevents] at he
      exact hinv.event_row hstep hphase he)
  constructor
  · exact hinv.attempts_step hstep (by simp) (fun id => recorded_append _ hc.2 id)
  · exact hinv.added_step hstep (by simp) hstream
  · intro x hx
    rcases List.mem_append.mp hx with hx | hx
    · exact hinv.known_step hstep hx
    · rw [List.mem_singleton.mp hx, hc.1]
      obtain ⟨row, hrow, -⟩ := hinv.event_row hstep hphase (List.mem_cons_self ..)
      rw [hrow]
      rfl
  · intro x hx w hw
    rcases List.mem_append.mp hx with hx | hx
    · exact hinv.holder x hx w hw
    · rw [List.mem_singleton.mp hx, hc.2] at hw
      cases hw
  · exact fun h => (hphases _ _ h).2
  · exact fun h => (hphases _ _ h).1

/-- Steps that leave the calls and the stream alone. -/
theorem Inv.quiet (hinv : Inv F s)
    (hstep : Step F s a s') (hcalls : s'.calls = s.calls)
    (ha : ∀ i, a ≠ .markFailure i)
    (hadded : ∀ {id row}, s'.outbox.get? id = some row → row.status = .dispatched →
      row.event.entry ∈ s'.stream)
    (hphases : ∀ j p, s'.phases j = some p → PhaseOk s' j p ∧
      ∀ event ∈ p.events, ∃ row, s'.outbox.get? event.id = some row ∧ row.event = event) :
    Inv F s' := by
  constructor
  · exact hinv.attempts_step hstep ha (fun id => by rw [hcalls])
  · exact hadded
  · intro c hc
    rw [hcalls] at hc
    exact hinv.known_step hstep hc
  · intro c hc
    rw [hcalls] at hc
    exact hinv.holder c hc
  · exact fun h => (hphases _ _ h).2
  · exact fun h => (hphases _ _ h).1

/-- A recorded failure adds one to the attempts of its event. -/
theorem Inv.markFailure (hinv : Inv F s) {rest : List Event} {call : FailureCall} {outbox' : Outbox}
    (hphase : s.phases i = some (.refused event n call.dispatchErr rest))
    (h : markFailure (F.settings i) (F.worker i) event.id call s.outbox = some outbox') :
    Inv F
      { (s.setPhase i (some (.ready rest))) with
        outbox := outbox'
        calls := s.calls.modify n
          (XaddCall.record ((s.outbox.get? event.id).bind OutboxRow.lockedBy)) } := by
  have hstep := Step.markFailure hphase h
  obtain ⟨row, hrow, hstatus, hby, rfl⟩ := markFailure_some h
  have hcall : s.calls[n]? = some (newCall i event.id false) := hinv.phase hphase
  have hholder : (s.outbox.get? event.id).bind OutboxRow.lockedBy = some (F.worker i) := by
    rw [hrow]
    exact hby
  rw [hholder] at hstep ⊢
  -- The entries of other dispatchers are at other places.
  have hphases := hinv.phases_step hstep rfl (List.Subset.refl _)
    (fun j m id hji hm => by
      have hmn : n ≠ m := by
        rintro rfl
        rw [hcall] at hm
        exact hji (congrArg XaddCall.dispatcher (Option.some.inj hm)).symm
      dsimp only
      simpa [List.getElem?_modify, hmn] using hm)
    (fun p hp => by
      cases hp
      exact ⟨trivial, fun e he => hinv.event_row hstep hphase (List.mem_cons_of_mem _ he)⟩)
  constructor
  · intro id row' hrow'
    dsimp only at hrow' ⊢
    rw [recorded_record (F.worker i) hcall rfl]
    rcases KeyedTable.get?_modify_cases hrow hrow' with ⟨hid, rfl⟩ | ⟨hid, hrow'⟩
    · obtain ⟨hcount, hbound⟩ := hinv.attempts hrow
      rw [if_neg (by rw [hstatus]; decide)] at hbound
      rw [hid, Nat.cast_add, hcount]
      simp only [newCall, if_true, Nat.cast_one, OutboxRow.fail, F.same]
      refine ⟨trivial, ?_⟩
      by_cases hlast : row.attempts + 1 ≥ F.maxAttempts
      · simp only [hlast, if_true]
        omega
      · simp only [hlast, if_false, reduceCtorEq]
        omega
    · rw [if_neg (fun h => hid h.symm), Nat.add_zero]
      exact hinv.attempts hrow'
  · intro id row' hrow' hdispatched
    exact hinv.added_step hstep (by simp) (List.Subset.refl _) hrow' hdispatched
  · intro c hc
    rcases mem_modify hcall hc with hc | rfl
    · exact hinv.known_step hstep hc
    · have hknown := hinv.known_step hstep (List.mem_of_getElem? hcall)
      exact hknown
  · intro c hc w hw
    rcases mem_modify hcall hc with hc | rfl
    · exact hinv.holder c hc w hw
    · cases hw
      exact ⟨rfl, rfl⟩
  · exact fun h => (hphases _ _ h).2
  · exact fun h => (hphases _ _ h).1

/-- **Step lemma**. -/
theorem Inv.step (hinv : Inv F s)
    (hstep : Step F s a s') : Inv F s' := by
  have hstep' := hstep
  cases hstep with
  | enqueue h =>
    exact hinv.quiet hstep' rfl (by simp)
      (hinv.added_step hstep' (by simp) (List.Subset.refl _))
      (fun _ _ hp => ⟨phaseOk_mono (hinv.phase hp) (List.Subset.refl _) (fun _ _ h => h),
        fun event hevent => hinv.event_row hstep' hp hevent⟩)
  | claim hidle horder =>
    exact hinv.quiet hstep' rfl (by simp)
      (hinv.added_step hstep' (by simp) (List.Subset.refl _))
      (hinv.phases_step hstep' rfl (List.Subset.refl _) (fun _ _ _ _ h => h) (fun p hp => by
        cases hp
        exact ⟨trivial, fun event hevent => mem_claim (horder.subset hevent)⟩))
  | xaddOk hphase =>
    exact hinv.xadd hphase hstep' ⟨rfl, rfl⟩ rfl
      (List.mem_append_right _ (List.mem_singleton_self _))
  | xaddError wasAdded hphase =>
    exact hinv.xadd hphase hstep' ⟨rfl, rfl⟩ rfl List.getElem?_concat_length
  | @markDispatched i event rest now outbox' hphase h =>
    refine hinv.quiet hstep' rfl (by simp) ?_
      (hinv.phases_step hstep' rfl (List.Subset.refl _) (fun _ _ _ _ h => h) (fun p hp => by
        cases hp
        exact ⟨trivial, fun e he => hinv.event_row hstep' hphase (List.mem_cons_of_mem _ he)⟩))
    -- The marked row carries the event that was added.
    intro id row' hrow' hstatus
    obtain ⟨row, hrow, -, -, rfl⟩ := markDispatched_some h
    dsimp only at hrow'
    rcases KeyedTable.get?_modify_cases hrow hrow' with ⟨-, rfl⟩ | ⟨-, hrow'⟩
    · obtain ⟨_, hrow₁, hevent⟩ := hinv.memory hphase event (List.mem_cons_self ..)
      rw [hrow] at hrow₁
      cases hrow₁
      change row.event.entry ∈ s.stream
      rw [hevent]
      exact hinv.phase hphase
    · exact hinv.added hrow' hstatus
  | markFailure hphase h => exact hinv.markFailure hphase h
  | stop =>
    exact hinv.quiet hstep' rfl (by simp)
      (hinv.added_step hstep' (by simp) (List.Subset.refl _))
      (hinv.phases_step hstep' rfl (List.Subset.refl _) (fun _ _ _ _ h => h) (fun p hp => by cases hp))

/-- **Run lemma**. -/
theorem inv_reachable (h : (system F).Reachable s) : Inv F s := by
  induction h with
  | init hinit =>
    obtain ⟨houtbox, -, hcalls, hphases⟩ := hinit
    have hnone : ∀ {t : State}, t.outbox.rows = [] → ∀ id, t.outbox.get? id = none := by
      intro t ht id
      rw [KeyedTable.get?, ht]
      rfl
    constructor
    · intro id row hrow
      rw [hnone houtbox] at hrow
      cases hrow
    · intro id row hrow
      rw [hnone houtbox] at hrow
      cases hrow
    · simp [hcalls]
    · simp [hcalls]
    · intro i p hp
      rw [hphases] at hp
      cases hp
    · intro i p hp
      rw [hphases] at hp
      cases hp
  | step a _ hstep ih => exact ih.step hstep

/-! ### The protocol -/

/-- **Outbox protocol**: in every reachable state a dispatched event is in its stream,
    a failed event has had exactly `maxAttempts` failed `XADD` calls recorded, each
    by the dispatcher whose lease it was, and no event has more attempts. No step
    changes a dispatched or failed event, and no step of a dispatcher changes an
    event that another one holds, unless it claims and finds the lease expired. -/
theorem outbox_protocol (h : (system F).Reachable s) :
    (∀ id row, s.outbox.get? id = some row →
      (row.status = .dispatched → row.event.entry ∈ s.stream) ∧
      (row.status = .failed → (recorded s.calls id : Int) = F.maxAttempts) ∧
      row.attempts ≤ F.maxAttempts) ∧
    (∀ c ∈ s.calls, ∀ holder ∈ c.recordedFor, c.ok = false ∧ holder = F.worker c.dispatcher) ∧
    ∀ a s', (system F).step s a s' → ∀ id row, s.outbox.get? id = some row →
      (row.status = .dispatched ∨ row.status = .failed → s'.outbox.get? id = some row) ∧
      ∀ i, a.dispatcher = some i → row.status = .dispatching →
        row.lockedBy ≠ some (F.worker i) →
        (∀ now, a = .claim i now → row.isStale (F.settings i) now = false) →
        s'.outbox.get? id = some row := by
  have hinv := inv_reachable h
  refine ⟨?_, hinv.holder, ?_⟩
  · intro id row hrow
    obtain ⟨hcount, hbound⟩ := hinv.attempts hrow
    refine ⟨hinv.added hrow, ?_, ?_⟩
    · intro hfailed
      rw [if_pos hfailed] at hbound
      exact hcount.trans hbound
    · split at hbound
      · exact le_of_eq hbound
      · exact le_of_lt hbound
  · intro a s' hstep id row hrow
    obtain ⟨row', hrow', hrowstep⟩ := step_row hstep hrow
    constructor
    · intro hterminal
      rw [hrow', hrowstep.terminal hterminal]
    · intro i ha hstatus hby hlease
      rw [hrow', hrowstep.foreign ha hstatus hby hlease]

/-! ### Two dispatchers and one event -/

def sampleFleet : Fleet where
  settings _ := { batchSize := 100, lease := 30 * second, maxAttempts := 1 }
  worker i := i
  maxAttempts := 1
  same _ := rfl
  positive := by decide

def sampleEvent : Event where
  id := 5
  idempotencyKey := lit "outbox:monitor"
  type := lit "monitoring.run"
  stream := lit "jobs"
  payload := .obj []
  createdAt := 0

def sampleClaim (now : Int) : ClaimCall where
  now := now
  isUnseen := fun _ => false
  isLocked := fun _ => false

def sampleFailure : FailureCall where
  dispatchErr := lit "XADD jobs: connection refused"
  now := 32 * second
  jitterMilliseconds := 0

/-- The event, enqueued. -/
def sampleOutbox : Outbox := { rows := [newRow sampleEvent], nodup := by decide }

/-- After dispatcher 0 and, 31 seconds later, dispatcher 1 claimed it. -/
def sampleOutboxTaken : Outbox :=
  (claim (sampleFleet.settings 1) 1 (sampleClaim (31 * second))
    (claim (sampleFleet.settings 0) 0 (sampleClaim 0) sampleOutbox).1).1

def sampleOutboxFailed : Outbox :=
  (markFailure (sampleFleet.settings 1) 1 5 sampleFailure sampleOutboxTaken).getD .empty

def sampleState : State where
  outbox := .empty
  stream := []
  calls := []
  phases := fun _ => none

/-- Dispatcher 0 adds the event after it lost its lease; dispatcher 1 fails. -/
theorem sampleFleet_reaches : ∃ s row, (system sampleFleet).Reachable s ∧
    s.outbox.get? 5 = some row ∧ row.status = .failed ∧ s.stream = [sampleEvent.entry] := by
  have henqueue : enqueueTx sampleEvent .empty = some sampleOutbox := by
    rw [enqueueTx, if_neg (by decide +kernel), if_neg (by decide)]
    rfl
  have hfail : markFailure (sampleFleet.settings 1) 1 5 sampleFailure sampleOutboxTaken =
      some sampleOutboxFailed := by
    have hsome : (markFailure (sampleFleet.settings 1) 1 5 sampleFailure
        sampleOutboxTaken).isSome = true := by decide +kernel
    obtain ⟨outbox, heq⟩ := Option.isSome_iff_exists.mp hsome
    rw [sampleOutboxFailed, heq]
    rfl
  have hfailed : (sampleOutboxFailed.get? 5).map OutboxRow.status = some .failed := by
    decide +kernel
  obtain ⟨row, hrow, hstatus⟩ := Option.map_eq_some_iff.mp hfailed
  let s₁ : State := { sampleState with outbox := sampleOutbox }
  let s₂ : State := { (s₁.setPhase 0 (some (.ready [sampleEvent]))) with
    outbox := (claim (sampleFleet.settings 0) 0 (sampleClaim 0) sampleOutbox).1 }
  let s₃ : State := { (s₂.setPhase 1 (some (.ready [sampleEvent]))) with
    outbox := sampleOutboxTaken }
  let s₄ : State := { (s₃.setPhase 0 (some (.added sampleEvent []))) with
    stream := [sampleEvent.entry]
    calls := [newCall 0 5 true] }
  let s₅ : State := { (s₄.setPhase 1 (some (.refused sampleEvent 1 sampleFailure.dispatchErr []))) with
    stream := [sampleEvent.entry]
    calls := [newCall 0 5 true, newCall 1 5 false] }
  have h₁ : Step sampleFleet sampleState .enqueue s₁ := .enqueue henqueue
  have h₂ : Step sampleFleet s₁ (.claim 0 0) s₂ :=
    @Step.claim sampleFleet s₁ 0 (sampleClaim 0) [sampleEvent] rfl (.refl _)
  have h₃ : Step sampleFleet s₂ (.claim 1 (31 * second)) s₃ :=
    @Step.claim sampleFleet s₂ 1 (sampleClaim (31 * second)) [sampleEvent] rfl (.refl _)
  have h₄ : Step sampleFleet s₃ (.xadd 0) s₄ := .xaddOk rfl
  have h₅ : Step sampleFleet s₄ (.xadd 1) s₅ := .xaddError false rfl
  have h₆ :=
    @Step.markFailure sampleFleet s₅ 1 1 sampleEvent [] sampleFailure sampleOutboxFailed rfl hfail
  exact ⟨_, row, .step _ (.step _ (.step _ (.step _ (.step _ (.step _
    (.init ⟨rfl, rfl, rfl, fun _ => rfl⟩) h₁) h₂) h₃) h₄) h₅) h₆, hrow, hstatus, rfl⟩

theorem outbox_protocol_lost_lease : ∃ s row, (system sampleFleet).Reachable s ∧
    s.outbox.get? 5 = some row ∧ row.status = .failed ∧ s.stream = [sampleEvent.entry] ∧
    recorded s.calls 5 = 1 := by
  obtain ⟨s, row, h, hrow, hfailed, hstream⟩ := sampleFleet_reaches
  obtain ⟨hrows, -⟩ := outbox_protocol h
  have hrecorded : (recorded s.calls 5 : Int) = 1 := (hrows 5 row hrow).2.1 hfailed
  exact ⟨s, row, h, hrow, hfailed, hstream, by omega⟩

end DomainMonitor.Queue
