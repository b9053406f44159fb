import DomainMonitor.Httpcheck.Checker

/-! # The RDAP client (`internal/rdap/client.go`)

    `get` sends a request and, after a failure that may pass, a second one. Between
    the two it waits: as long as a `Retry-After` header asks for, up to a bound, or a
    tenth of a second after a server error. What is sent and what comes back is
    arbitrary; the waits are part of what a call does.
-/

namespace DomainMonitor.Rdap

open Httpcheck (atoi?)

/-- `http.ParseTime`. -/
abbrev ParseTime := GoString → Option Int

variable (parseTime : ParseTime) (config : Config)

/-- `retryAfter`. -/
def retryAfter (raw : GoString) (now maximum : Int) : Int :=
  let raw := Utf8.trimSpace raw
  if raw = [] then 0
  else match atoi? raw with
    | some seconds => min (wrap64 (seconds * second)) maximum
    | none =>
      match parseTime raw with
      | some time => min (max (timeSub time now) 0) maximum
      | none => 0

/-! ### `get` -/

/-- The part of `Config` that `get` reads; `NewClient` fills in the defaults. -/
structure Config where
  maxBytes : Int
  retryMaxDelay : Int
  deriving DecidableEq, Repr

/-- `NewClient`. -/
def newConfig : Config where
  maxBytes := if config.maxBytes ≤ 0 then 1048576 else config.maxBytes
  retryMaxDelay := if config.retryMaxDelay ≤ 0 then 2 * second else config.retryMaxDelay

structure Response where
  status : Nat
  retryAfter : GoString
  /-- The body, unless reading it failed. -/
  body : Option (List UInt8)

/-- What an attempt meets: a response, unless the request failed, the clock, and
    whether a wait after it ran to its end. -/
structure Exchange where
  response : Option Response
  now : Int
  waitOk : Bool

inductive Failure where
  | rateLimited | unavailable
  deriving DecidableEq, Repr

/-- An attempt ends the call, or another one follows, after a wait if there is one. -/
inductive Attempted where
  | done (waited : Option Int) (result : Except Failure Response)
  | again (waited : Option Int)

/-- A wait, and what follows it. -/
def waitThen (delay : Int) (waitOk : Bool) (result : Except Failure Response) : Attempted :=
  if waitOk then .again (some delay) else .done (some delay) result

/-- An iteration of the loop in `get`. -/
def attempt (exchange : Exchange) (first : Bool) : Attempted :=
  match exchange.response with
  | none => if first then .again none else .done none (.error .unavailable)
  | some response =>
    match response.body with
    | none => .done none (.error .unavailable)
    | some body =>
      if (body.length : Int) > config.maxBytes then .done none (.error .unavailable)
      else if response.status = 429 then
        let delay := retryAfter parseTime response.retryAfter exchange.now config.retryMaxDelay
        if first ∧ delay > 0 then waitThen delay exchange.waitOk (.error .rateLimited)
        else .done none (.error .rateLimited)
      else if response.status = 304 ∨ (200 ≤ response.status ∧ response.status < 300) then
        .done none (.ok response)
      else if 500 ≤ response.status ∧ first then
        waitThen (100 * millisecond) exchange.waitOk (.error .unavailable)
      else .done none (.error .unavailable)

/-- The loop of `get`: its waits, and what it returns. -/
def get (exchange : Nat → Exchange) : List Int × Except Failure Response :=
  match attempt parseTime config (exchange 0) true with
  | .done waited result => (waited.toList, result)
  | .again waited =>
    match attempt parseTime config (exchange 1) false with
    | .done waited' result => (waited.toList ++ waited'.toList, result)
    | .again waited' => (waited.toList ++ waited'.toList, .error .unavailable)

/-- The wait of an attempt. -/
def Attempted.waited : Attempted → Option Int
  | .done waited _ => waited
  | .again waited => waited

theorem waited_waitThen (delay : Int) (waitOk : Bool) (result : Except Failure Response) :
    (waitThen delay waitOk result).waited = some delay := by
  unfold waitThen
  split_ifs <;> rfl

/-- Every wait is positive. -/
theorem attempt_waited (exchange : Exchange) (first : Bool) {delay : Int}
    (h : (attempt parseTime config exchange first).waited = some delay) : 0 < delay := by
  unfold attempt at h
  split at h
  · split_ifs at h <;> cases h
  · split at h
    · cases h
    · dsimp only at h
      split_ifs at h with hsize hlimited hdelay hok herror
      · cases h
      · rw [waited_waitThen] at h
        cases h
        exact hdelay.2
      · cases h
      · cases h
      · rw [waited_waitThen] at h
        cases h
        decide
      · cases h

theorem get_waits (exchange : Nat → Exchange) :
    ∀ delay ∈ (get parseTime config exchange).1, 0 < delay := by
  have hattempt : ∀ (i : Nat) (first : Bool) (waited : Option Int),
      (attempt parseTime config (exchange i) first).waited = waited → ∀ delay ∈ waited.toList, 0 < delay := by
    intro i first waited h delay hdelay
    rw [Option.mem_toList] at hdelay
    exact attempt_waited parseTime config (exchange i) first (h.trans hdelay)
  unfold get
  cases hfirst : attempt parseTime config (exchange 0) true with
  | done waited result => exact hattempt 0 true waited (by rw [hfirst]; rfl)
  | again waited =>
    have hw := hattempt 0 true waited (by rw [hfirst]; rfl)
    cases hsecond : attempt parseTime config (exchange 1) false with
    | done waited' result =>
      exact List.forall_mem_append.mpr ⟨hw, hattempt 1 false waited' (by rw [hsecond]; rfl)⟩
    | again waited' =>
      exact List.forall_mem_append.mpr ⟨hw, hattempt 1 false waited' (by rw [hsecond]; rfl)⟩

end DomainMonitor.Rdap
