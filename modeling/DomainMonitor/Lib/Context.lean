import Mathlib.Order.Defs.LinearOrder
import Mathlib.Algebra.Order.Group.Int

/-! # Contexts with deadlines

    A context is done once it is cancelled or its deadline has passed, whichever
    comes first, and keeps the cause it had then. A derived context has the
    earlier of its own deadline and its parent's, so the cause alone does not
    tell which of the two has passed.
-/

/-- A context: when it is cancelled, and its deadline. -/
structure Context where
  canceledAt : Option Int
  deadline : Option Int

namespace Context

inductive Cause where
  | canceled | deadlineExceeded
  deriving DecidableEq, Repr

/-- Why the context is done at time `t`, if it is. -/
def cause (c : Context) (t : Int) : Option Cause :=
  match c.deadline, c.canceledAt with
  | none, none => none
  | none, some x => if x ≤ t then some .canceled else none
  | some d, none => if d ≤ t then some .deadlineExceeded else none
  | some d, some x =>
    if d ≤ t ∧ d ≤ x then some .deadlineExceeded
    else if x ≤ t then some .canceled else none

/-- `WithDeadline`: an earlier deadline of the parent is kept. -/
def withDeadline (c : Context) (d : Int) : Context :=
  { c with deadline := some (match c.deadline with
      | none => d
      | some d' => if d ≤ d' then d else d') }

/-- A context that is done stays done, with the same cause. -/
theorem cause_mono {c : Context} {t t' : Int} {e : Cause} (h : c.cause t = some e) (hle : t ≤ t') :
    c.cause t' = some e := by
  unfold cause at h ⊢
  cases hd : c.deadline with
  | none =>
    cases hx : c.canceledAt with
    | none => simp [hd, hx] at h
    | some x =>
      simp only [hd, hx] at h ⊢
      split_ifs at h with hxt
      rw [if_pos (by omega)]
      exact h
  | some d =>
    cases hx : c.canceledAt with
    | none =>
      simp only [hd, hx] at h ⊢
      split_ifs at h with hdt
      rw [if_pos (by omega)]
      exact h
    | some x =>
      simp only [hd, hx] at h ⊢
      split_ifs at h with hdt hxt
      · rw [if_pos (by omega)]
        exact h
      · -- Cancelled first: the deadline cannot overtake it any more.
        rw [if_neg (by omega), if_pos (by omega)]
        exact h

/-- A context derived from one whose deadline has passed is done with the same
    cause, whatever its own deadline. -/
theorem withDeadline_cause {c : Context} {t : Int} (h : c.cause t = some .deadlineExceeded)
    (d : Int) : (c.withDeadline d).cause t = some .deadlineExceeded := by
  unfold cause at h
  unfold cause withDeadline
  cases hd : c.deadline with
  | none =>
    cases hx : c.canceledAt with
    | none => simp [hd, hx] at h
    | some x =>
      simp only [hd, hx] at h
      split_ifs at h
      cases h
  | some d' =>
    cases hx : c.canceledAt with
    | none =>
      simp only [hd, hx] at h ⊢
      split_ifs at h with hdt
      split_ifs <;> first | rfl | omega
    | some x =>
      simp only [hd, hx] at h ⊢
      split_ifs at h with hdt hxt
      · split_ifs <;> first | rfl | omega
      · cases h

end Context
