import Mathlib.Algebra.Order.Group.Int
import Mathlib.Data.Int.Interval

/-! # Integrals of step functions

    A step function over discrete time is given by a start and a list of later
    changes, each an instant with the value that holds from there on. `latest` is
    the change in force at an instant, `duration` the time a property holds in a
    window. `tally` walks the list once and adds up how long a value holds; each
    interval counts up to a limit. It equals the duration of the corresponding
    property.
-/

namespace StepFunction

variable {α : Type}

/-! ### Durations -/

/-- The instants of the window `[a, b)`. -/
abbrev window {τ : Type} [LinearOrder τ] [LocallyFiniteOrder τ] (a b : τ) : Finset τ :=
  Finset.Ico a b

/-- How many instants of the window have the property. -/
def duration (p : Int → Prop) [DecidablePred p] (a b : Int) : Nat :=
  ((window a b).filter p).card

section Duration

variable {p q : Int → Prop} [DecidablePred p] [DecidablePred q] {a b c : Int}

theorem duration_congr (h : ∀ t, a ≤ t → t < b → (p t ↔ q t)) : duration p a b = duration q a b := by
  unfold duration
  congr 1
  apply Finset.filter_congr
  intro t ht
  exact h t (Finset.mem_Ico.mp ht).1 (Finset.mem_Ico.mp ht).2

/-- Adjacent windows. -/
theorem duration_add (hab : a ≤ b) (hbc : b ≤ c) :
    duration p a c = duration p a b + duration p b c := by
  unfold duration window
  rw [← Finset.Ico_union_Ico_eq_Ico hab hbc, Finset.filter_union,
    Finset.card_union_of_disjoint]
  exact Finset.disjoint_filter_filter (Finset.Ico_disjoint_Ico_consecutive a b c)

theorem duration_of_forall (h : ∀ t, a ≤ t → t < b → p t) : duration p a b = (b - a).toNat := by
  unfold duration
  rw [Finset.filter_true_of_mem, Int.card_Ico]
  intro t ht
  exact h t (Finset.mem_Ico.mp ht).1 (Finset.mem_Ico.mp ht).2

theorem duration_eq_zero_iff : duration p a b = 0 ↔ ∀ t, a ≤ t → t < b → ¬ p t := by
  simp only [duration, Finset.card_eq_zero, Finset.filter_eq_empty_iff, Finset.mem_Ico, and_imp]

/-- The first `limit` instants of a window. -/
theorem duration_first (limit : Int) (hab : a ≤ b) :
    (duration (fun t => t - a < limit) a b : Int) = max 0 (min limit (b - a)) := by
  have hset : (window a b).filter (fun t => t - a < limit) = window a (min b (a + limit)) := by
    ext t
    simp only [Finset.mem_filter, Finset.mem_Ico]
    omega
  rw [duration, hset, Int.card_Ico]
  omega

/-- A property splits into the part another one shares and the rest. -/
theorem duration_split (p q : Int → Prop) [DecidablePred p] [DecidablePred q] (a b : Int) :
    duration p a b = duration (fun t => p t ∧ q t) a b + duration (fun t => p t ∧ ¬ q t) a b := by
  unfold duration
  rw [← Finset.filter_filter, ← Finset.filter_filter, Finset.card_filter_add_card_filter_not]

/-- Alternatives that exclude each other. -/
theorem duration_or {r : Int → Prop} [DecidablePred r] (h : ∀ t, p t ↔ q t ∨ r t)
    (hex : ∀ t, q t → ¬ r t) : duration p a b = duration q a b + duration r a b := by
  rw [duration_split p q]
  congr 1
  · apply duration_congr
    intro t _ _
    rw [h t]
    exact ⟨And.right, fun hq => ⟨.inl hq, hq⟩⟩
  · apply duration_congr
    intro t _ _
    rw [h t]
    exact ⟨fun hp => hp.1.resolve_left hp.2, fun hr => ⟨.inr hr, fun hq => hex t hq hr⟩⟩

theorem duration_eq_length_iff : duration p a b = (b - a).toNat ↔ ∀ t, a ≤ t → t < b → p t := by
  constructor
  · intro h t hat htb
    by_contra hnot
    have hcompl : duration (fun _ => True) a b = duration p a b + duration (fun t => ¬ p t) a b :=
      duration_or (fun t => by simp [em]) (fun t hp hn => hn hp)
    rw [duration_of_forall (fun _ _ _ => trivial)] at hcompl
    have hzero : duration (fun t => ¬ p t) a b = 0 := by omega
    exact duration_eq_zero_iff.mp hzero t hat htb hnot
  · exact duration_of_forall

/-- Two properties hold equally long if and only if each one holds alone as long as
    the other. -/
theorem duration_eq_iff : duration p a b = duration q a b ↔
    duration (fun t => p t ∧ ¬ q t) a b = duration (fun t => q t ∧ ¬ p t) a b := by
  have hp := duration_split p q a b
  have hq := duration_split q p a b
  have hboth : duration (fun t => p t ∧ q t) a b = duration (fun t => q t ∧ p t) a b :=
    duration_congr (fun t _ _ => and_comm)
  omega

end Duration

/-! ### Step functions -/

/-- The change in force at `t`: the last one up to `t`, or the start. -/
def latest (start : Int × α) (changes : List (Int × α)) (t : Int) : Int × α :=
  (changes.filter (fun c => c.1 ≤ t)).getLast?.getD start

/-- Changes in order of time. -/
def Chronological (changes : List (Int × α)) : Prop :=
  changes.Pairwise (fun c c' => c.1 ≤ c'.1)

variable {start c : Int × α} {changes : List (Int × α)} {limit stop : Int} {v : α}

theorem latest_cons_of_le {t : Int} (h : c.1 ≤ t) :
    latest start (c :: changes) t = latest c changes t := by
  rw [latest, List.filter_cons_of_pos (by simpa using h), List.getLast?_cons]
  rfl

/-- Before the first change the start is in force. -/
theorem latest_cons_of_lt {t : Int} (hsorted : Chronological (c :: changes)) (h : t < c.1) :
    latest start (c :: changes) t = start := by
  have hnone : (c :: changes).filter (fun c => c.1 ≤ t) = [] := by
    rw [List.filter_eq_nil_iff]
    intro d hd
    have hle : c.1 ≤ d.1 := by
      rcases List.mem_cons.mp hd with rfl | hd
      · exact le_refl _
      · exact (List.pairwise_cons.mp hsorted).1 d hd
    simp only [decide_eq_true_eq]
    omega
  rw [latest, hnone]
  rfl

/-! ### The loop -/

variable [DecidableEq α]

/-- What an interval adds to the value `v` while `state` holds. -/
def share (limit : Int) (v state : α) (length : Int) : Int :=
  if state = v then max 0 (min limit length) else 0

/-- One pass over the changes up to `stop`. -/
def tally (limit : Int) (v : α) (start : Int × α) : List (Int × α) → Int → Int
  | [], stop => share limit v start.2 (stop - start.1)
  | c :: changes, stop => share limit v start.2 (c.1 - start.1) + tally limit v c changes stop

/-- A change that is not after the start replaces it. -/
theorem tally_cons_of_le (h : c.1 ≤ start.1) :
    tally limit v start (c :: changes) stop = tally limit v c changes stop := by
  have hshare : share limit v start.2 (c.1 - start.1) = 0 := by
    unfold share
    split
    · omega
    · rfl
  rw [tally, hshare, zero_add]

/-- `v` is in force at `t`, for less than `limit` so far. -/
def Counts (limit : Int) (v : α) (start : Int × α) (changes : List (Int × α)) (t : Int) : Prop :=
  (latest start changes t).2 = v ∧ t - (latest start changes t).1 < limit

instance (limit : Int) (v : α) (start : Int × α) (changes : List (Int × α)) :
    DecidablePred (Counts limit v start changes) :=
  fun _ => inferInstanceAs (Decidable (_ ∧ _))

/-- While nothing changes. -/
theorem duration_share (h : start.1 ≤ stop) :
    share limit v start.2 (stop - start.1) =
      duration (fun t => start.2 = v ∧ t - start.1 < limit) start.1 stop := by
  unfold share
  split
  case isTrue hv =>
    rw [← duration_first limit h]
    congr 1
    apply duration_congr
    intro t _ _
    simp [hv]
  case isFalse hv =>
    have hzero : duration (fun t => start.2 = v ∧ t - start.1 < limit) start.1 stop = 0 := by
      rw [duration_eq_zero_iff]
      exact fun t _ _ ht => hv ht.1
    rw [hzero]
    rfl

/-- The pass adds up the time the value is in force. -/
theorem tally_eq_duration (hsorted : Chronological (start :: changes))
    (hstop : ∀ c ∈ start :: changes, c.1 ≤ stop) :
    tally limit v start changes stop =
      duration (Counts limit v start changes) start.1 stop := by
  induction changes generalizing start with
  | nil => exact duration_share (hstop start (List.mem_cons_self ..))
  | cons c changes ih =>
    have htail : Chronological (c :: changes) := (List.pairwise_cons.mp hsorted).2
    have hle : start.1 ≤ c.1 := (List.pairwise_cons.mp hsorted).1 c (List.mem_cons_self ..)
    have hc : c.1 ≤ stop := hstop c (by simp)
    -- The window splits at the first change.
    have hbefore : duration (Counts limit v start (c :: changes)) start.1 c.1 =
        duration (fun t => start.2 = v ∧ t - start.1 < limit) start.1 c.1 := by
      apply duration_congr
      intro t _ ht
      rw [Counts, latest_cons_of_lt htail ht]
    have hafter : duration (Counts limit v start (c :: changes)) c.1 stop =
        duration (Counts limit v c changes) c.1 stop := by
      apply duration_congr
      intro t ht _
      rw [Counts, Counts, latest_cons_of_le ht]
    rw [duration_add hle hc, hbefore, hafter, Nat.cast_add, ← duration_share hle,
      ← ih htail (fun d hd => hstop d (List.mem_cons_of_mem _ hd))]
    rfl

end StepFunction
