import Mathlib.Data.Option.Basic

/-! # Loops that end

    A loop whose body either returns or goes on with a new state. The states a
    run visits are described by a relation, so that a property of the result can
    be proved from an invariant of the visited states; a rank that decreases
    with every iteration bounds the number of iterations.
-/

namespace Loop

variable {σ α : Type}

/-- The outcome of one iteration. -/
inductive Next (σ α : Type) where
  | done (a : α)
  | next (s : σ)

/-- The result satisfies `Q`, or the next state satisfies `P`. -/
def Next.Holds (P : σ → Prop) (Q : α → Prop) : Next σ α → Prop
  | .done a => Q a
  | .next s => P s

variable (fuel : Nat) (step : Nat → σ → Next σ α)

/-- The loop, for at most `fuel` iterations, the first of them numbered `k`. -/
def run : Nat → Nat → σ → Option α
  | 0, _, _ => none
  | fuel + 1, k, s =>
    match step k s with
    | .done a => some a
    | .next s' => run fuel (k + 1) s'

/-- Iteration `k` of the loop started in `s₀` begins in `s`. -/
inductive Visits (s₀ : σ) : Nat → σ → Prop where
  | start : Visits s₀ 0 s₀
  | next {k : Nat} {s s' : σ} (h : Visits s₀ k s) (hstep : step k s = .next s') :
      Visits s₀ (k + 1) s'

/-- What the iterations of a run emit, in order. -/
def emitted {β : Type} (step : Nat → σ → Next σ α) (emit : Nat → σ → List β) :
    Nat → Nat → σ → List β
  | 0, _, _ => []
  | fuel + 1, k, s =>
    emit k s ++ match step k s with
      | .done _ => []
      | .next s' => emitted step emit fuel (k + 1) s'

variable {step : Nat → σ → Next σ α} {s₀ : σ}

variable {k : Nat} {s s' : σ} {a : α} {β : Type}

theorem Visits.unique (h : Visits step s₀ k s) (h' : Visits step s₀ k s') : s = s' := by
  induction h generalizing s' with
  | start =>
    cases h'
    rfl
  | next h hstep ih =>
    cases h' with
    | next h' hstep' =>
      rw [ih h', hstep'] at hstep
      exact (Next.next.inj hstep).symm

/-- What holds at the start and is kept by an iteration holds in every visited
    state. -/
theorem Visits.invariant {P : Nat → σ → Prop} (hstart : P 0 s₀)
    (hnext : ∀ k s s', P k s → step k s = .next s' → P (k + 1) s') (h : Visits step s₀ k s) :
    P k s := by
  induction h with
  | start => exact hstart
  | next h hstep ih => exact hnext _ _ _ ih hstep

/-- The result of a run was returned in a visited state. -/
theorem run_visits : ∀ {k : Nat} {s : σ}, Visits step s₀ k s →
    run step fuel k s = some a → ∃ n t, Visits step s₀ n t ∧ step n t = .done a := by
  induction fuel with
  | zero =>
    intro k s _ hrun
    cases hrun
  | succ fuel ih =>
    intro k s hvisits hrun
    rw [run] at hrun
    split at hrun
    · rename_i b hstep
      cases hrun
      exact ⟨k, s, hvisits, hstep⟩
    · rename_i s' hstep
      exact ih (hvisits.next hstep) hrun

variable {emit : Nat → σ → List β} {P : σ → Prop} {xs : List β}

theorem emitted_done (h : step k s = .done a) : emitted step emit (fuel + 1) k s = emit k s := by
  rw [emitted, h, List.append_nil]

theorem emitted_next (h : step k s = .next s') :
    emitted step emit (fuel + 1) k s = emit k s ++ emitted step emit fuel (k + 1) s' := by
  rw [emitted, h]

/-- What is emitted comes from a visited state. -/
theorem mem_emitted {b : β} :
    ∀ {k : Nat} {s : σ}, Visits step s₀ k s → b ∈ emitted step emit fuel k s →
      ∃ n t, Visits step s₀ n t ∧ b ∈ emit n t := by
  induction fuel with
  | zero =>
    intro k s _ hb
    cases hb
  | succ fuel ih =>
    intro k s hvisits hb
    rw [emitted, List.mem_append] at hb
    rcases hb with hb | hb
    · exact ⟨k, s, hvisits, hb⟩
    · split at hb
      · cases hb
      · rename_i s' hstep
        exact ih (hvisits.next hstep) hb

/-- Nothing is visited after the iteration that returns. -/
theorem Visits.le_of_done {n : Nat} {t : σ} (hs : Visits step s₀ k s) (hdone : step k s = .done a)
    (ht : Visits step s₀ n t) : n ≤ k := by
  induction ht with
  | start => exact Nat.zero_le k
  | @next m t t' ht hstep ih =>
    have hne : m ≠ k := by
      intro hmk
      subst hmk
      rw [ht.unique hs, hdone] at hstep
      cases hstep
    omega

/-- A rank that decreases bounds the number of iterations. -/
theorem run_isSome {rank : σ → Nat} (hrank : ∀ k s s', step k s = .next s' → rank s' < rank s)
    (fuel : Nat) : ∀ {k : Nat} {s : σ}, rank s < fuel → (run step fuel k s).isSome = true := by
  induction fuel with
  | zero =>
    intro k s h
    omega
  | succ fuel ih =>
    intro k s h
    rw [run]
    split
    · rfl
    · rename_i s' hstep
      have := hrank k s s' hstep
      exact ih (by omega)

/-! ### Loops over a list -/

/-- A loop over a list whose body may fail keeps what every turn keeps. -/
theorem foldlM_invariant {body : σ → β → Option σ}
    (hbody : ∀ s x s', x ∈ xs → P s → body s x = some s' → P s') (hs : P s)
    (h : xs.foldlM body s = some s') : P s' := by
  induction xs generalizing s with
  | nil =>
    cases h
    exact hs
  | cons x xs ih =>
    rw [List.foldlM_cons, Option.bind_eq_bind, Option.bind_eq_some_iff] at h
    obtain ⟨s₁, hone, hrest⟩ := h
    have hs₁ := hbody s x s₁ List.mem_cons_self hs hone
    exact ih (fun s y s' hy => hbody s y s' (List.mem_cons_of_mem x hy)) hs₁ hrest

/-- The same for a loop that can fail with an error. -/
theorem foldlM_ok_invariant {ε : Type} {body : σ → β → Except ε σ}
    (hbody : ∀ s x s', x ∈ xs → P s → body s x = .ok s' → P s') (hs : P s)
    (h : xs.foldlM body s = .ok s') : P s' := by
  induction xs generalizing s with
  | nil =>
    cases h
    exact hs
  | cons x xs ih =>
    rw [List.foldlM_cons] at h
    cases hone : body s x with
    | error e =>
      rw [hone] at h
      cases h
    | ok s₁ =>
      rw [hone] at h
      have hs₁ := hbody s x s₁ List.mem_cons_self hs hone
      exact ih (fun s y s' hy => hbody s y s' (List.mem_cons_of_mem x hy)) hs₁ h

end Loop
