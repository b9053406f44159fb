import DomainMonitor.Lib.Transition

/-! # Fan-out with a semaphore

    A fixed number of tasks run concurrently, at most `capacity` of them holding a
    permit at a time; a task may also start without a permit. Each task writes its
    own result, and the caller collects the results when every task is done. The
    outcome does not depend on the schedule.

    Nothing here mentions a particular kind of task.
-/

namespace FanOut

variable {β : Type}

/-- What one task is doing. -/
inductive Status (β : Type) where
  | waiting
  | running (permit : Bool)
  | done (result : β)

def Status.holdsPermit : Status β → Bool
  | .running permit => permit
  | _ => false

def Status.result? : Status β → Option β
  | .done result => some result
  | _ => none

/-- The tasks, by index. -/
abbrev State (β : Type) : Type := Nat → Status β

inductive Label where
  | acquire (i : Nat)
  | bypass (i : Nat)
  | finish (i : Nat)

variable (n capacity : Nat) (f : Nat → β) (s : State β)

def set (i : Nat) (status : Status β) : State β :=
  fun j => if j = i then status else s j

@[simp] theorem set_self (i : Nat) (status : Status β) :
    set s i status i = status := if_pos rfl

@[simp] theorem set_ne {i j : Nat} (status : Status β) (h : j ≠ i) :
    set s i status j = s j := if_neg h

/-- One step of one of `n` tasks, the `i`-th of which computes `f i`. -/
inductive Step : State β → Label → State β → Prop where
  | acquire {s : State β} {i : Nat} (hi : i < n) (hwaiting : s i = .waiting)
      (hfree : (List.range n).countP (fun j => (s j).holdsPermit) < capacity) :
      Step s (.acquire i) (set s i (.running true))
  | bypass {s : State β} {i : Nat} (hi : i < n) (hwaiting : s i = .waiting) :
      Step s (.bypass i) (set s i (.running false))
  | finish {s : State β} {i : Nat} {permit : Bool} (hi : i < n) (hrunning : s i = .running permit) :
      Step s (.finish i) (set s i (.done (f i)))

def system : LTS.System (State β) Label where
  init s := s = fun _ => .waiting
  step := Step n capacity f

/-- The results in the order of the tasks, once all are done. -/
def collect : Option (List β) :=
  (List.range n).mapM (fun i => (s i).result?)

/-- The caller can come to see `results`. -/
def Returns (results : List β) : Prop :=
  ∃ s, (system n capacity f).Reachable s ∧ collect n s = some results

variable {n capacity : Nat} {f : Nat → β} {s s' : State β}

/-! ### Any schedule -/

theorem set_eq_done {i j : Nat} {status : Status β} {result : β}
    (h : set s j status i = .done result) :
    i = j ∧ status = .done result ∨ s i = .done result := by
  by_cases hij : i = j
  · subst hij
    rw [set_self] at h
    exact .inl ⟨rfl, h⟩
  · rw [set_ne _ _ hij] at h
    exact .inr h

/-- A task that is done has its own result. -/
theorem result_eq (h : (system n capacity f).Reachable s) {i : Nat} {result : β}
    (hi : s i = .done result) : result = f i := by
  refine LTS.System.invariant (P := fun s => ∀ i result, s i = .done result → result = f i)
    ?_ ?_ h i result hi
  · intro s hinit i result hi
    rw [hinit] at hi
    cases hi
  · intro s l s' hs hstep i result hi
    cases hstep with
    | acquire | bypass =>
      rcases set_eq_done hi with ⟨-, hstatus⟩ | hold
      · cases hstatus
      · exact hs i result hold
    | finish =>
      rcases set_eq_done hi with ⟨rfl, hstatus⟩ | hold
      · cases hstatus
        rfl
      · exact hs i result hold

/-- Collecting own results in the order of `l`. -/
theorem mapM_result (h : ∀ i result, s i = .done result → result = f i) (l : List Nat) :
    ∀ results, l.mapM (fun i => (s i).result?) = some results → results = l.map f := by
  induction l with
  | nil =>
    intro results hcollect
    cases hcollect
    rfl
  | cons i l ih =>
    intro results hcollect
    rw [List.mapM_cons, Option.bind_eq_bind, Option.bind_eq_some_iff] at hcollect
    obtain ⟨result, hresult, hcollect⟩ := hcollect
    rw [Option.bind_eq_bind, Option.bind_eq_some_iff] at hcollect
    obtain ⟨rest, hrest, hcons⟩ := hcollect
    cases hcons
    have hdone : s i = .done result := by
      cases hstatus : s i with
      | waiting => rw [hstatus] at hresult; cases hresult
      | running permit => rw [hstatus] at hresult; cases hresult
      | done r => rw [hstatus] at hresult; cases hresult; rfl
    rw [List.map_cons, h i result hdone, ih rest hrest]

/-! ### One schedule that finishes -/

/-- The first `k` tasks are done and the others wait. -/
def firstDone (f : Nat → β) (k : Nat) : State β :=
  fun j => if j < k then .done (f j) else .waiting

theorem firstDone_holdsPermit (k j : Nat) : (firstDone f k j).holdsPermit = false := by
  unfold firstDone
  split <;> rfl

/-- Running the tasks one after the other. -/
theorem firstDone_reachable (hcapacity : 1 ≤ capacity) :
    ∀ k, k ≤ n → (system n capacity f).Reachable (firstDone f k) := by
  intro k
  induction k with
  | zero =>
    intro _
    apply LTS.System.Reachable.init
    funext j
    simp [firstDone]
  | succ k ih =>
    intro hk
    have hwaiting : firstDone f k k = .waiting := by simp [firstDone]
    have hfree : (List.range n).countP (fun j => (firstDone f k j).holdsPermit) < capacity := by
      simp only [firstDone_holdsPermit, List.countP_false]
      exact hcapacity
    have hacquire : Step n capacity f (firstDone f k) (.acquire k)
        (set (firstDone f k) k (.running true)) := .acquire (by omega) hwaiting hfree
    have hfinish : Step n capacity f (set (firstDone f k) k (.running true)) (.finish k) _ :=
      .finish (by omega) (set_self _ _ _)
    have hnext : set (set (firstDone f k) k (.running true)) k (.done (f k)) =
        firstDone f (k + 1) := by
      funext j
      by_cases hj : j = k
      · subst hj
        simp [firstDone]
      · rw [set_ne _ _ hj, set_ne _ _ hj]
        unfold firstDone
        by_cases hlt : j < k
        · rw [if_pos hlt, if_pos (by omega)]
        · rw [if_neg hlt, if_neg (by omega)]
    rw [hnext] at hfinish
    exact .step _ (.step _ (ih (by omega)) hacquire) hfinish

theorem mapM_firstDone (k : Nat) (l : List Nat) (h : ∀ i ∈ l, i < k) :
    l.mapM (fun i => (firstDone f k i).result?) = some (l.map f) := by
  induction l with
  | nil => rfl
  | cons i l ih =>
    have hi : (firstDone f k i).result? = some (f i) := by
      unfold firstDone
      rw [if_pos (h i List.mem_cons_self)]
      rfl
    rw [List.mapM_cons, hi, ih (fun j hj => h j (List.mem_cons_of_mem _ hj))]
    rfl

/-- **Fan-out**: the caller gets the results of all tasks, in order, and nothing else. -/
theorem returns_iff (hcapacity : 1 ≤ capacity) {results : List β} :
    Returns n capacity f results ↔ results = (List.range n).map f := by
  constructor
  · rintro ⟨s, hreach, hcollect⟩
    exact mapM_result (fun i result hi => result_eq hreach hi) _ results hcollect
  · rintro rfl
    exact ⟨firstDone f n, firstDone_reachable hcapacity n (Nat.le_refl n),
      mapM_firstDone n _ (fun i hi => List.mem_range.mp hi)⟩

end FanOut
