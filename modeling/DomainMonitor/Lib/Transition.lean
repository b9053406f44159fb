import Mathlib.Tactic.Common

/-! # Labelled transition systems

    A small framework for labelled transition systems: systems given by an
    initial predicate and a labelled step relation, finite runs as lists of
    labels, reachable states, and the invariant rules that turn a fact about
    one step into a fact about whole runs.

    Nothing here mentions a particular protocol.
-/

namespace LTS

variable {State Label : Type}

/-! ### Systems and runs -/

/-- A labelled transition system. -/
structure System (State Label : Type) where
  /-- The states a run may start in. -/
  init : State → Prop
  /-- `step s l s'`: the system moves from `s` to `s'` under label `l`. -/
  step : State → Label → State → Prop

/-- `sys.Steps s ls s'`: the finite run with labels `ls` leads from `s` to `s'`. -/
inductive System.Steps (sys : System State Label) : State → List Label → State → Prop where
  | nil : ∀ s, sys.Steps s [] s
  | cons : ∀ {s s' s''} l ls, sys.step s l s' → sys.Steps s' ls s'' → sys.Steps s (l :: ls) s''

/-- A state that some finite run from an initial state ends in. -/
inductive System.Reachable (sys : System State Label) : State → Prop where
  | init : ∀ {s}, sys.init s → sys.Reachable s
  | step : ∀ {s s'} l, sys.Reachable s → sys.step s l s' → sys.Reachable s'

/-- The same system, with only those steps that `A` allows. -/
def System.restrict (sys : System State Label) (A : State → Label → Prop) : System State Label where
  init := sys.init
  step := fun s l s' => A s l ∧ sys.step s l s'

variable {sys : System State Label}

theorem System.Steps.single {s s' : State} {l : Label} (h : sys.step s l s') :
    sys.Steps s [l] s' :=
  .cons l [] h (.nil s')

theorem System.Steps.append {s s' s'' : State} {ls ls' : List Label}
    (h : sys.Steps s ls s') (h' : sys.Steps s' ls' s'') : sys.Steps s (ls ++ ls') s'' := by
  induction h with
  | nil s => exact h'
  | cons l ls hstep _ ih => exact .cons l (ls ++ ls') hstep (ih h')

theorem System.Reachable.steps {s s' : State} {ls : List Label}
    (hr : sys.Reachable s) (h : sys.Steps s ls s') : sys.Reachable s' := by
  induction h with
  | nil s => exact hr
  | cons l ls hstep _ ih => exact ih (.step l hr hstep)

theorem System.Reachable.of_restrict {A : State → Label → Prop} {s : State}
    (h : (sys.restrict A).Reachable s) : sys.Reachable s := by
  induction h with
  | init hs => exact .init hs
  | step l _ hl ih => exact .step l ih hl.2

/-! ### Invariant rules -/

/-- A predicate kept by every step whose label is allowed is kept by every finite
    run along such labels. -/
theorem System.Steps.preserves_along {A : Label → Prop} {P : State → Prop}
    (hstep : ∀ s l s', A l → P s → sys.step s l s' → P s')
    {s s' : State} {ls : List Label} (h : sys.Steps s ls s') (hls : ∀ l ∈ ls, A l)
    (hs : P s) : P s' := by
  induction h with
  | nil s => exact hs
  | cons l ls hl _ ih =>
    have hnext := hstep _ l _ (hls l List.mem_cons_self) hs hl
    exact ih (fun l' hl' => hls l' (List.mem_cons_of_mem l hl')) hnext

/-- A predicate kept by every step is kept by every finite run. -/
theorem System.Steps.preserves {P : State → Prop}
    (hstep : ∀ s l s', P s → sys.step s l s' → P s')
    {s s' : State} {ls : List Label} (h : sys.Steps s ls s') (hs : P s) : P s' :=
  h.preserves_along (A := fun _ => True) (fun s l s' _ => hstep s l s') (fun _ _ => trivial) hs

/-- **Invariance**: a predicate that holds initially and is kept by every step
    holds in every reachable state. -/
theorem System.invariant {P : State → Prop}
    (hinit : ∀ s, sys.init s → P s)
    (hstep : ∀ s l s', P s → sys.step s l s' → P s')
    {s : State} (h : sys.Reachable s) : P s := by
  induction h with
  | init hs => exact hinit _ hs
  | step l _ hl ih => exact hstep _ l _ ih hl

/-- **Relative invariance**: the step may use an invariant `Q` already proved of
    every reachable state. -/
theorem System.invariant_under {P Q : State → Prop}
    (hQ : ∀ s, sys.Reachable s → Q s)
    (hinit : ∀ s, sys.init s → P s)
    (hstep : ∀ s l s', Q s → P s → sys.step s l s' → P s')
    {s : State} (h : sys.Reachable s) : P s := by
  induction h with
  | init hs => exact hinit _ hs
  | step l hr hl ih => exact hstep _ l _ (hQ _ hr) ih hl

end LTS
