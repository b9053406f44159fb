import Mathlib.Tactic.Common

/-! # Logs of changes

    A value that changes over time, and a log with one entry per change that
    records the value before and after. The log is sound when it can be replayed:
    the first entry starts from the initial value, every entry starts from where
    the one before it ended, no entry records a change to the same value, and the
    last entry ends in the value held now.
-/

namespace ChangeLog

variable {α ε : Type} (before : ε → Option α) (after : ε → α)

/-- `Replays before after a log b`: the log leads from `a` to `b`. -/
def Replays : α → List ε → α → Prop
  | a, [], b => a = b
  | a, e :: log, b => before e = some a ∧ after e ≠ a ∧ Replays (after e) log b

variable {before after}

theorem Replays.nil (a : α) : Replays before after a [] a := rfl

/-- A log read in two parts. -/
theorem replays_append {a c : α} {log log' : List ε} :
    Replays before after a (log ++ log') c ↔
      ∃ b, Replays before after a log b ∧ Replays before after b log' c := by
  induction log generalizing a with
  | nil =>
    constructor
    · intro h
      exact ⟨a, rfl, h⟩
    · rintro ⟨b, rfl, h⟩
      exact h
  | cons e log ih =>
    rw [List.cons_append, Replays, ih]
    constructor
    · rintro ⟨hbefore, hne, b, hlog, hlog'⟩
      exact ⟨b, ⟨hbefore, hne, hlog⟩, hlog'⟩
    · rintro ⟨b, ⟨hbefore, hne, hlog⟩, hlog'⟩
      exact ⟨hbefore, hne, b, hlog, hlog'⟩

/-- **Step lemma**: recording a change of the current value keeps the log sound. -/
theorem Replays.record {a b : α} {log : List ε} (h : Replays before after a log b) {e : ε}
    (hbefore : before e = some b) (hne : after e ≠ b) :
    Replays before after a (log ++ [e]) (after e) :=
  replays_append.mpr ⟨b, h, hbefore, hne, rfl⟩

end ChangeLog
