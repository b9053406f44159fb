import Mathlib.Data.List.Nodup

/-! # Bounded retry

    A numbered attempt is made; after each attempt but the last allowed one a
    decision is taken whether to make another. The loop collects what the
    attempts returned.

    Nothing here mentions a particular kind of attempt.
-/

namespace Retry

variable {α : Type}

/-- The loop with `remaining` attempts left, about to make attempt number `n`. -/
def loop (run : Nat → α) (again : Nat → Bool) : Nat → Nat → List α
  | 0, _ => []
  | remaining + 1, n =>
    run n :: (if again n then loop run again remaining (n + 1) else [])

/-- At most `limit` attempts, numbered from `1`. -/
def attempts (limit : Nat) (run : Nat → α) (again : Nat → Bool) : List α :=
  loop run again limit 1

/-- Attempt `n` takes place: it is within the limit, and every attempt before it
    led to another. -/
def Attempted (limit : Nat) (again : Nat → Bool) (n : Nat) : Prop :=
  1 ≤ n ∧ n ≤ limit ∧ ∀ m, 1 ≤ m → m < n → again m = true

variable {run : Nat → α} {again : Nat → Bool} {limit : Nat}

/-- The loop makes a run of consecutive attempts: all but the last led to another,
    and the last was the last allowed one or did not. -/
theorem loop_eq_map (run : Nat → α) (again : Nat → Bool) (remaining : Nat) : ∀ start, ∃ n, 1 ≤ n ∧
    n ≤ remaining + 1 ∧ loop run again (remaining + 1) start = (List.range' start n).map run ∧
    (∀ m, start ≤ m → m + 1 < start + n → again m = true) ∧
    (n = remaining + 1 ∨ again (start + n - 1) = false) := by
  induction remaining with
  | zero =>
    intro start
    refine ⟨1, by omega, by omega, ?_, fun m h1 h2 => by omega, .inl rfl⟩
    rw [loop]
    split_ifs <;> rfl
  | succ remaining ih =>
    intro start
    rw [loop]
    by_cases hagain : again start = true
    · obtain ⟨n, h1, h2, heq, hbefore, hlast⟩ := ih (start + 1)
      refine ⟨n + 1, by omega, by omega, ?_, ?_, ?_⟩
      · rw [if_pos hagain, heq, List.range'_succ, List.map_cons]
      · intro m hm hlt
        by_cases hstart : m = start
        · rw [hstart, hagain]
        · exact hbefore m (by omega) (by omega)
      · have hnumber : start + 1 + n - 1 = start + (n + 1) - 1 := by omega
        rw [← hnumber]
        exact hlast.imp (fun h => by omega) id
    · refine ⟨1, by omega, by omega, ?_, fun m h1 h2 => by omega, .inr (by simpa using hagain)⟩
      rw [if_neg hagain]
      rfl

/-- The attempts are numbered `1` to `n`, and attempt `n` is the last to take place. -/
theorem attempts_eq_map (hlimit : 1 ≤ limit) (run : Nat → α) (again : Nat → Bool) :
    ∃ n, Attempted limit again n ∧ (n = limit ∨ again n = false) ∧
      attempts limit run again = (List.range' 1 n).map run := by
  obtain ⟨remaining, rfl⟩ : ∃ k, limit = k + 1 := ⟨limit - 1, by omega⟩
  obtain ⟨n, h1, h2, heq, hbefore, hlast⟩ := loop_eq_map run again remaining 1
  have hnumber : 1 + n - 1 = n := by omega
  rw [hnumber] at hlast
  exact ⟨n, ⟨h1, h2, fun m hm hlt => hbefore m hm (by omega)⟩, hlast, heq⟩

/-- No attempt takes place after one that was not followed. -/
theorem Attempted.le {m n : Nat} (hm : Attempted limit again m) (hn : 1 ≤ n)
    (hlast : n = limit ∨ again n = false) : m ≤ n := by
  by_contra hlt
  obtain ⟨-, hmax, hall⟩ := hm
  rcases hlast with heq | hfalse
  · omega
  · have htrue := hall n hn (by omega)
    rw [hfalse] at htrue
    cases htrue

/-- What the loop returns is what the attempts that took place returned. -/
theorem mem_attempts_iff {a : α} :
    a ∈ attempts limit run again ↔ ∃ n, Attempted limit again n ∧ a = run n := by
  cases limit with
  | zero =>
    constructor
    · intro h
      cases h
    · rintro ⟨n, ⟨h1, h2, -⟩, -⟩
      omega
  | succ limit =>
    obtain ⟨n, hn, hlast, heq⟩ := attempts_eq_map (Nat.le_add_left 1 limit) run again
    rw [heq, List.mem_map]
    constructor
    · rintro ⟨m, hm, rfl⟩
      obtain ⟨h1, h2⟩ := List.mem_range'_1.mp hm
      obtain ⟨-, hmax, hbefore⟩ := hn
      exact ⟨m, ⟨h1, by omega, fun i hi hlt => hbefore i hi (by omega)⟩, rfl⟩
    · rintro ⟨m, hm, rfl⟩
      have hle := hm.le hn.1 hlast
      exact ⟨m, List.mem_range'_1.mpr ⟨hm.1, by omega⟩, rfl⟩

/-- A key that tells the attempt numbers apart is never repeated. -/
theorem attempts_nodup {κ : Type} {key : α → κ} (hkey : ∀ n m, key (run n) = key (run m) → n = m) :
    ((attempts limit run again).map key).Nodup := by
  cases limit with
  | zero => exact List.nodup_nil
  | succ limit =>
    obtain ⟨n, -, -, heq⟩ := attempts_eq_map (Nat.le_add_left 1 limit) run again
    have hrange : (List.range' 1 n).Nodup := List.nodup_range'
    rw [heq, List.map_map]
    exact hrange.map hkey

/-- A list of attempts as the discipline has it: numbered from `1` within the limit,
    all but the last worth another, and cut short only for a reason. -/
structure Disciplined (limit : Nat) (number : α → Nat) (retryable stopped : α → Prop)
    (list : List α) : Prop where
  count : 1 ≤ list.length ∧ list.length ≤ limit
  numbers : list.map number = List.range' 1 list.length
  retried : ∀ a ∈ list.dropLast, retryable a
  stop : list.length < limit → ∀ a, list.getLast? = some a → stopped a

theorem attempts_disciplined {number : α → Nat} {retryable stopped : α → Prop} (hlimit : 1 ≤ limit)
    (hnumber : ∀ n, number (run n) = n) (hretried : ∀ n, again n = true → retryable (run n))
    (hstop : ∀ n, again n = false → stopped (run n)) :
    Disciplined limit number retryable stopped (attempts limit run again) := by
  obtain ⟨n, ⟨h1, hmax, hbefore⟩, hlast, heq⟩ := attempts_eq_map hlimit run again
  obtain ⟨k, rfl⟩ : ∃ k, n = k + 1 := ⟨n - 1, by omega⟩
  rw [heq]
  refine ⟨by simpa using hmax, ?_, ?_, ?_⟩
  · rw [List.map_map, List.length_map, List.length_range']
    exact (List.map_congr_left (fun n _ => hnumber n)).trans (List.map_id _)
  · intro a ha
    rw [List.range'_1_concat, List.map_append, List.map_singleton, List.dropLast_concat] at ha
    obtain ⟨m, hm, rfl⟩ := List.mem_map.mp ha
    obtain ⟨hlow, hhigh⟩ := List.mem_range'_1.mp hm
    exact hretried m (hbefore m hlow (by omega))
  · intro hlt a ha
    rw [List.length_map, List.length_range'] at hlt
    rw [List.range'_1_concat, List.map_append, List.map_singleton, List.getLast?_concat,
      Nat.add_comm 1 k] at ha
    cases ha
    exact hstop _ (hlast.resolve_left (by omega))

/-- One attempt without a successor. -/
theorem singleton_disciplined {number : α → Nat} {retryable stopped : α → Prop} (hlimit : 1 ≤ limit)
    {a : α} (hnumber : number a = 1) (hstop : stopped a) :
    Disciplined limit number retryable stopped [a] where
  count := ⟨Nat.le_refl 1, hlimit⟩
  numbers := by simp [hnumber]
  retried := fun b hb => absurd hb List.not_mem_nil
  stop := fun _ b hb => by
    cases hb
    exact hstop

/-- The last element comes from the last attempt that takes place. -/
theorem attempts_getLast (hlimit : 1 ≤ limit) (run : Nat → α) (again : Nat → Bool) :
    ∃ n, Attempted limit again n ∧ (∀ m, Attempted limit again m → m ≤ n) ∧
      (attempts limit run again).getLast? = some (run n) := by
  obtain ⟨n, hn, hlast, heq⟩ := attempts_eq_map hlimit run again
  refine ⟨n, hn, fun m hm => hm.le hn.1 hlast, ?_⟩
  obtain ⟨k, rfl⟩ : ∃ k, n = k + 1 := ⟨n - 1, by have := hn.1; omega⟩
  rw [heq, List.range'_1_concat, List.map_append, List.map_singleton, List.getLast?_concat,
    Nat.add_comm 1 k]

end Retry
