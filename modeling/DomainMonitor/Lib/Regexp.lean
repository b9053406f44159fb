import Mathlib.Algebra.GroupWithZero.Nat
import Mathlib.Data.List.Infix

/-! # Regular expressions with priorities

    Patterns over an arbitrary alphabet and the match a backtracking matcher
    finds first, which is the match that Go's `regexp` package returns: the
    leftmost one, and among those the one preferred by the order of alternatives
    and by the greediness of repetitions. Repetition is of single letters, which
    is all that is needed here and keeps the matcher structurally recursive.
-/

namespace Regexp

variable {α β : Type}

/-! ### Patterns and the matcher -/

inductive Pattern (α : Type) where
  | empty
  | one (p : α → Bool)
  | many (p : α → Bool) (greedy : Bool)
  | seq (a b : Pattern α)
  | alt (a b : Pattern α)
  | group (n : Nat) (a : Pattern α)

/-- The groups matched so far with their text, the latest first. -/
abbrev Captures (α : Type) : Type := List (Nat × List α)

/-- Any number of letters, then `k`; the order of the two tries is the greediness. -/
def runMany (p : α → Bool) (greedy : Bool) (k : List α → Option β) : List α → Option β
  | [] => k []
  | x :: s =>
    if p x then
      if greedy then (runMany p greedy k s).or (k (x :: s))
      else (k (x :: s)).or (runMany p greedy k s)
    else k (x :: s)

/-- Matches a pattern at the front of `s` and hands the rest to `k`; a failure of
    `k` makes the matcher try its next choice. -/
def Pattern.run : Pattern α → Captures α → List α → (Captures α → List α → Option β) → Option β
  | .empty, c, s, k => k c s
  | .one p, c, s, k =>
    match s with
    | [] => none
    | x :: s => if p x then k c s else none
  | .many p greedy, c, s, k => runMany p greedy (k c) s
  | .seq a b, c, s, k => a.run c s (fun c s => b.run c s k)
  | .alt a b, c, s, k => (a.run c s k).or (b.run c s k)
  | .group n a, c, s, k =>
    a.run c s (fun c rest => k ((n, s.take (s.length - rest.length)) :: c) rest)

theorem Pattern.run_seq (a b : Pattern α) (c : Captures α) (s : List α)
    (k : Captures α → List α → Option β) :
    (Pattern.seq a b).run c s k = a.run c s (fun c s => b.run c s k) := rfl

/-- A match: what precedes it, its text, what follows, and its groups. -/
structure Match (α : Type) where
  before : List α
  text : List α
  rest : List α
  captures : Captures α

/-- The text of a group; empty when it took no part in the match. -/
def Match.group (m : Match α) (n : Nat) : List α := (m.captures.lookup n).getD []

def Pattern.matchAt (pat : Pattern α) (s : List α) : Option (Match α) :=
  pat.run [] s (fun captures rest =>
    some { before := [], text := s.take (s.length - rest.length), rest, captures })

/-- The leftmost match. -/
def Pattern.find (pat : Pattern α) : List α → Option (Match α)
  | [] => pat.matchAt []
  | x :: s =>
    match pat.matchAt (x :: s) with
    | some m => some m
    | none => (pat.find s).map (fun m => { m with before := x :: m.before })

def Pattern.allFuel (pat : Pattern α) : Nat → List α → List (Match α)
  | 0, _ => []
  | n + 1, s =>
    match pat.find s with
    | none => []
    | some m => m :: pat.allFuel n m.rest

/-- The matches one after the other, for a pattern that matches no empty text:
    each match then consumes a letter. -/
def Pattern.all (pat : Pattern α) (s : List α) : List (Match α) := pat.allFuel s.length s

def Pattern.replaceFuel (pat : Pattern α) (f : Match α → List α) : Nat → List α → List α
  | 0, s => s
  | n + 1, s =>
    match pat.find s with
    | none => s
    | some m => m.before ++ (f m ++ pat.replaceFuel f n m.rest)

/-- Every match replaced, for a pattern that matches no empty text. -/
def Pattern.replaceAll (pat : Pattern α) (f : Match α → List α) (s : List α) : List α :=
  pat.replaceFuel f s.length s

/-! ### Soundness of the matcher -/

variable {b : β} {pat : Pattern α} {s : List α} {m : Match α}

theorem runMany_matches {p : α → Bool} {greedy : Bool} {k : List α → Option β} (s : List α)
    (h : runMany p greedy k s = some b) :
    ∃ u rest, s = u ++ rest ∧ (∀ x ∈ u, p x = true) ∧ k rest = some b := by
  induction s with
  | nil => exact ⟨[], [], rfl, by simp, h⟩
  | cons x s ih =>
    -- Either the repetition stops here, or it takes `x` and goes on.
    have hcases : k (x :: s) = some b ∨ p x = true ∧ runMany p greedy k s = some b := by
      simp only [runMany] at h
      split_ifs at h with hp hg
      · rcases Option.or_eq_some_iff.mp h with h | ⟨-, h⟩
        · exact .inr ⟨hp, h⟩
        · exact .inl h
      · rcases Option.or_eq_some_iff.mp h with h | ⟨-, h⟩
        · exact .inl h
        · exact .inr ⟨hp, h⟩
      · exact .inl h
    rcases hcases with hk | ⟨hp, hmore⟩
    · exact ⟨[], x :: s, rfl, by simp, hk⟩
    · obtain ⟨u, rest, hs, hu, hk⟩ := ih hmore
      exact ⟨x :: u, rest, by rw [hs, List.cons_append], List.forall_mem_cons.mpr ⟨hp, hu⟩, hk⟩

/-- What a run consumed: a piece `u` of the front, and groups inside `s`. -/
theorem Pattern.run_sound (pat : Pattern α) : ∀ (c : Captures α) (s : List α)
    (k : Captures α → List α → Option β), pat.run c s k = some b →
    ∃ u rest new, s = u ++ rest ∧ (∀ e ∈ new, e.2 <:+: s) ∧ k (new ++ c) rest = some b := by
  induction pat with
  | empty =>
    intro c s k h
    exact ⟨[], s, [], rfl, by simp, h⟩
  | one p =>
    intro c s k h
    cases s with
    | nil => simp [Pattern.run] at h
    | cons x s =>
      simp only [Pattern.run] at h
      split_ifs at h
      exact ⟨[x], s, [], rfl, by simp, h⟩
  | many p greedy =>
    intro c s k h
    obtain ⟨u, rest, hs, -, hk⟩ := runMany_matches s h
    exact ⟨u, rest, [], hs, by simp, hk⟩
  | seq a b iha ihb =>
    intro c s k h
    obtain ⟨u, middle, new, rfl, hnew, h⟩ := iha c s _ h
    obtain ⟨v, rest, new', rfl, hnew', h⟩ := ihb _ middle k h
    refine ⟨u ++ v, rest, new' ++ new, by simp, ?_, by simpa using h⟩
    intro e he
    rcases List.mem_append.mp he with he | he
    · exact (hnew' e he).trans (List.suffix_append _ _).isInfix
    · exact hnew e he
  | alt a b iha ihb =>
    intro c s k h
    rcases Option.or_eq_some_iff.mp h with h | ⟨-, h⟩
    · exact iha c s k h
    · exact ihb c s k h
  | group n a ih =>
    intro c s k h
    obtain ⟨u, rest, new, hs, hnew, h⟩ := ih c s _ h
    refine ⟨u, rest, (n, s.take (s.length - rest.length)) :: new, hs, ?_, h⟩
    intro e he
    rcases List.mem_cons.mp he with rfl | he
    · exact (List.take_prefix _ _).isInfix
    · exact hnew e he

/-- A match splits the input, and its groups are pieces of the input. -/
structure Match.SplitOf (m : Match α) (s : List α) : Prop where
  eq : s = m.before ++ (m.text ++ m.rest)
  captures : ∀ e ∈ m.captures, e.2 <:+: s

theorem Pattern.matchAt_split (h : pat.matchAt s = some m) : m.SplitOf s ∧ m.before = [] := by
  obtain ⟨u, rest, new, hs, hnew, hm⟩ := pat.run_sound [] s _ h
  cases hm
  refine ⟨⟨?_, by simpa using hnew⟩, rfl⟩
  have hlength : s.length - rest.length = u.length := by simp [hs]
  simp only [List.nil_append, hlength]
  rw [hs, List.take_left]

theorem Pattern.find_split (s : List α) : ∀ {m : Match α},
    pat.find s = some m → m.SplitOf s := by
  induction s with
  | nil =>
    intro m h
    exact (Pattern.matchAt_split h).1
  | cons x s ih =>
    intro m h
    rw [Pattern.find] at h
    split at h
    · rename_i m' hm
      cases h
      exact (Pattern.matchAt_split hm).1
    · obtain ⟨m', hm', rfl⟩ := Option.map_eq_some_iff.mp h
      obtain ⟨heq, hcaptures⟩ := ih hm'
      exact ⟨by simp [← heq], fun e he => (hcaptures e he).trans (List.suffix_cons x s).isInfix⟩

theorem Match.SplitOf.group_contained (h : m.SplitOf s) (n : Nat) : m.group n <:+: s := by
  unfold Match.group
  cases hl : m.captures.lookup n with
  | none => exact List.nil_infix
  | some u =>
    obtain ⟨front, back, hcaptures, -⟩ := List.lookup_eq_some_iff.mp hl
    exact h.captures (n, u) (by simp [hcaptures])

/-! ### The language of a pattern -/

/-- The texts that a pattern describes, whatever its priorities. -/
def Pattern.Matches : Pattern α → List α → Prop
  | .empty, u => u = []
  | .one p, u => ∃ x, u = [x] ∧ p x = true
  | .many p _, u => ∀ x ∈ u, p x = true
  | .seq a b, u => ∃ v w, u = v ++ w ∧ a.Matches v ∧ b.Matches w
  | .alt a b, u => a.Matches u ∨ b.Matches u
  | .group _ a, u => a.Matches u

/-! ### Three groups in a row -/

/-- No group inside. -/
def Pattern.groupless : Pattern α → Bool
  | .empty | .one _ | .many _ _ => true
  | .seq a b | .alt a b => a.groupless && b.groupless
  | .group _ _ => false

theorem Pattern.run_matches : ∀ (c : Captures α) (s : List α)
    (k : Captures α → List α → Option β), pat.groupless = true → pat.run c s k = some b →
    ∃ u rest, s = u ++ rest ∧ pat.Matches u ∧ k c rest = some b := by
  induction pat with
  | empty =>
    intro c s k _ h
    exact ⟨[], s, rfl, rfl, h⟩
  | one p =>
    intro c s k _ h
    cases s with
    | nil => simp [Pattern.run] at h
    | cons x s =>
      simp only [Pattern.run] at h
      split_ifs at h with hx
      exact ⟨[x], s, rfl, ⟨x, rfl, hx⟩, h⟩
  | many p greedy =>
    intro c s k _ h
    exact runMany_matches s h
  | seq a b iha ihb =>
    intro c s k hgroupless h
    obtain ⟨ha, hb⟩ := Bool.and_eq_true_iff.mp hgroupless
    obtain ⟨u, middle, hs, hu, hmiddle⟩ := iha c s _ ha h
    obtain ⟨v, rest, hm, hv, hrest⟩ := ihb c middle k hb hmiddle
    exact ⟨u ++ v, rest, by rw [hs, hm, List.append_assoc], ⟨u, v, rfl, hu, hv⟩, hrest⟩
  | alt a b iha ihb =>
    intro c s k hgroupless h
    obtain ⟨ha, hb⟩ := Bool.and_eq_true_iff.mp hgroupless
    rcases Option.or_eq_some_iff.mp h with h | ⟨-, h⟩
    · obtain ⟨u, rest, hs, hu, hk⟩ := iha c s k ha h
      exact ⟨u, rest, hs, .inl hu, hk⟩
    · obtain ⟨u, rest, hs, hu, hk⟩ := ihb c s k hb h
      exact ⟨u, rest, hs, .inr hu, hk⟩
  | group n a ih =>
    intro c s k hgroupless h
    cases hgroupless

theorem Pattern.run_group (hpat : pat.groupless = true) {n : Nat} {c : Captures α}
    {k : Captures α → List α → Option β} (h : (Pattern.group n pat).run c s k = some b) :
    ∃ u rest, s = u ++ rest ∧ k ((n, u) :: c) rest = some b := by
  obtain ⟨u, rest, hs, -, h⟩ := Pattern.run_matches c s _ hpat h
  have hlength : s.length - rest.length = u.length := by simp [hs]
  rw [hlength, hs, List.take_left] at h
  exact ⟨u, rest, hs, h⟩

/-- A leftmost match is a match at some position. -/
theorem Pattern.find_matchAt (s : List α) : ∀ {m : Match α},
    pat.find s = some m →
    ∃ s' m', pat.matchAt s' = some m' ∧ m.text = m'.text ∧ m.captures = m'.captures := by
  induction s with
  | nil =>
    intro m h
    exact ⟨[], m, h, rfl, rfl⟩
  | cons x s ih =>
    intro m h
    rw [Pattern.find] at h
    split at h
    · rename_i found hfound
      cases h
      exact ⟨x :: s, m, hfound, rfl, rfl⟩
    · obtain ⟨later, hlater, rfl⟩ := Option.map_eq_some_iff.mp h
      obtain ⟨s', m', hmatch, htext, hcaptures⟩ := ih hlater
      exact ⟨s', m', hmatch, htext, hcaptures⟩

/-- When three groups make up the pattern, their texts make up the match. -/
theorem Pattern.find_three_groups {a b c : Pattern α} (ha : a.groupless = true)
    (hb : b.groupless = true) (hc : c.groupless = true)
    (h : (Pattern.seq (.group 1 a) (.seq (.group 2 b) (.group 3 c))).find s = some m) :
    m.text = m.group 1 ++ (m.group 2 ++ m.group 3) := by
  obtain ⟨s', m', hmatch, htext, hcaptures⟩ := Pattern.find_matchAt s h
  rw [Pattern.matchAt, Pattern.run_seq] at hmatch
  obtain ⟨u, rest1, rfl, hsecond⟩ := Pattern.run_group ha hmatch
  rw [Pattern.run_seq] at hsecond
  obtain ⟨v, rest2, rfl, hthird⟩ := Pattern.run_group hb hsecond
  obtain ⟨w, rest, rfl, hdone⟩ := Pattern.run_group hc hthird
  cases hdone
  unfold Match.group
  rw [htext, hcaptures]
  have hlength : (u ++ (v ++ (w ++ rest))).length - rest.length = (u ++ (v ++ w)).length := by
    simp only [List.length_append]
    omega
  have hassoc : u ++ (v ++ (w ++ rest)) = (u ++ (v ++ w)) ++ rest := by simp
  simp only [hlength]
  rw [hassoc, List.take_left]
  simp [List.lookup_cons]

/-! ### Replacement -/

theorem Pattern.allFuel_find (n : Nat) : ∀ s, ∀ m ∈ pat.allFuel n s,
    ∃ s', pat.find s' = some m := by
  induction n with
  | zero =>
    intro s m hm
    simp [Pattern.allFuel] at hm
  | succ n ih =>
    intro s m hm
    simp only [Pattern.allFuel] at hm
    cases hfind : pat.find s with
    | none => simp [hfind] at hm
    | some found =>
      rw [hfind] at hm
      rcases List.mem_cons.mp hm with rfl | hm
      · exact ⟨s, hfind⟩
      · exact ih found.rest m hm

/-- An additive size of a replaced text: the texts of the matches go, the
    replacements come. -/
theorem Pattern.size_replaceFuel (pat : Pattern α) (f : Match α → List α) (size : List α → Nat)
    (hsize : ∀ xs ys, size (xs ++ ys) = size xs + size ys) (n : Nat) : ∀ s,
    size (pat.replaceFuel f n s) + ((pat.allFuel n s).map (fun m => size m.text)).sum =
      size s + ((pat.allFuel n s).map (fun m => size (f m))).sum := by
  induction n with
  | zero =>
    intro s
    simp [Pattern.replaceFuel, Pattern.allFuel]
  | succ n ih =>
    intro s
    simp only [Pattern.replaceFuel, Pattern.allFuel]
    cases hm : pat.find s with
    | none => simp
    | some m =>
      have hs := (Pattern.find_split s hm).eq
      have hrest := ih m.rest
      have hsplit : size s = size m.before + (size m.text + size m.rest) := by
        rw [hs, hsize, hsize]
      simp only [List.map_cons, List.sum_cons, hsize, hsplit]
      omega

/-- A property of texts that survives cutting off the front, and replacing a match in
    front of a text that has it, survives replacing every match. -/
theorem Pattern.replaceFuel_preserves {f : Match α → List α} {P : List α → Prop}
    (hright : ∀ xs ys, P (xs ++ ys) → P ys)
    (hreplace : ∀ s m ys, pat.find s = some m → P s → P ys → P (m.before ++ (f m ++ ys))) (n : Nat) :
    ∀ s, P s → P (pat.replaceFuel f n s) := by
  induction n with
  | zero =>
    intro s hs
    exact hs
  | succ n ih =>
    intro s hs
    simp only [Pattern.replaceFuel]
    cases hm : pat.find s with
    | none => exact hs
    | some m =>
      have hrest := hs
      rw [(Pattern.find_split s hm).eq] at hrest
      exact hreplace s m _ hm hs (ih m.rest (hright _ _ (hright _ _ hrest)))

end Regexp
