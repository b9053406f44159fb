import Mathlib.Logic.Relation
import DomainMonitor.Lib.OrderBy

/-! # Hash chains

    A log whose entries each carry the hash of an earlier entry.

    - `Chained pick`: every entry carries what `pick` chooses from the entries that
      were appended before it.
    - `Chained tip` is a linear chain: every entry names the one right before it. No
      entry is named twice, and following the links from the last entry visits them
      all.
    - Where the named entry is selected by a key instead (`greatest`), the chain is
      linear exactly when the entries were appended in the order of that key, the
      last entry apart.
-/

namespace HashChain

variable {α β κ : Type} (hash prev : α → β) (genesis : β)

/-- Every entry carries what `pick` chooses from the entries before it. -/
def Chained (pick : List α → β) (l : List α) : Prop :=
  ∀ before e after, l = before ++ e :: after → prev e = pick before

/-- The hash of the last entry. -/
def tip (l : List α) : β := (l.getLast?.map hash).getD genesis

/-- The hash of the entry with the greatest key. -/
def greatest [LinearOrder κ] (key : α → κ) (l : List α) : β := ((l.argmax key).map hash).getD genesis

/-- One link: `a` names `b`, an entry of the log. -/
def Names (l : List α) (a b : α) : Prop := b ∈ l ∧ prev a = hash b

variable {hash prev genesis} {l : List α}

theorem chained_nil (pick : List α → β) : Chained prev pick [] := by
  intro before e after h
  have hlength := congrArg List.length h
  simp at hlength

/-- Appending one entry. -/
theorem chained_concat {pick : List α → β} {e : α} :
    Chained prev pick (l ++ [e]) ↔ Chained prev pick l ∧ prev e = pick l := by
  constructor
  · intro h
    refine ⟨?_, h l e [] rfl⟩
    intro before e' after hl
    exact h before e' (after ++ [e]) (by rw [hl]; simp)
  · rintro ⟨hl, he⟩ before e' after h
    -- The split is at the new entry or before it.
    rcases List.eq_nil_or_concat after with rfl | ⟨after, x, rfl⟩
    · obtain ⟨hbefore, hlast⟩ := List.append_inj' h rfl
      obtain rfl : e = e' := by simpa using hlast
      rw [← hbefore]
      exact he
    · rw [List.concat_eq_append, ← List.cons_append, ← List.append_assoc] at h
      obtain ⟨hsplit, -⟩ := List.append_inj' h rfl
      exact hl before e' after hsplit

@[simp] theorem tip_concat (l : List α) (e : α) : tip hash genesis (l ++ [e]) = hash e := by
  simp [tip]

/-! ### Linear chains -/

/-- What is named, and the last hash, are the genesis value and all hashes. -/
theorem Chained.map_prev (h : Chained prev (tip hash genesis) l) :
    l.map prev ++ [tip hash genesis l] = genesis :: l.map hash := by
  induction l using List.reverseRecOn with
  | nil => rfl
  | append_singleton l e ih =>
    obtain ⟨hl, he⟩ := chained_concat.mp h
    rw [List.map_append, List.map_singleton, he, ih hl, tip_concat, List.map_append]
    rfl

/-- No two entries of a linear chain name the same one. -/
theorem Chained.nodup_prev (h : Chained prev (tip hash genesis) l) (hnodup : (l.map hash).Nodup)
    (hgenesis : ∀ e ∈ l, hash e ≠ genesis) : (l.map prev).Nodup := by
  have hall : (genesis :: l.map hash).Nodup := by
    refine List.nodup_cons.mpr ⟨?_, hnodup⟩
    intro hmem
    obtain ⟨e, he, heq⟩ := List.mem_map.mp hmem
    exact hgenesis e he heq
  rw [← h.map_prev] at hall
  exact hall.sublist (List.sublist_append_left _ _)

/-- Following the links of a linear chain from its last entry visits all of it. -/
theorem Chained.reaches (h : Chained prev (tip hash genesis) l) {last : α}
    (hlast : l.getLast? = some last) : ∀ e ∈ l, Relation.ReflTransGen (Names hash prev l) last e := by
  induction l using List.reverseRecOn generalizing last with
  | nil => cases hlast
  | append_singleton l x ih =>
    obtain rfl : x = last := by simpa using hlast
    obtain ⟨hl, hx⟩ := chained_concat.mp h
    intro e he
    rcases List.mem_append.mp he with he | he
    · cases hbefore : l.getLast? with
      | none =>
        rw [List.getLast?_eq_none_iff.mp hbefore] at he
        cases he
      | some y =>
        -- One link to the entry before, then on as in the shorter log.
        have hy : y ∈ l := List.mem_of_getLast? hbefore
        have hlink : Names hash prev (l ++ [x]) x y := by
          refine ⟨List.mem_append_left [x] hy, ?_⟩
          rw [hx, tip, hbefore]
          rfl
        have hrest := ih hl hbefore e he
        have hlonger : Names hash prev l ≤ Names hash prev (l ++ [x]) :=
          fun a b hab => ⟨List.mem_append_left [x] hab.1, hab.2⟩
        exact .head hlink (Relation.ReflTransGen.mono hlonger _ _ hrest)
    · rw [List.mem_singleton.mp he]

/-! ### Chains by key -/

variable [LinearOrder κ] {key : α → κ}

/-- The last entry has the greatest key. -/
theorem greatest_eq_tip {e : α} (hnodup : ((l ++ [e]).map hash).Nodup)
    (hkey : OrderBy.Distinguishes key (l ++ [e])) :
    greatest hash genesis key (l ++ [e]) = tip hash genesis (l ++ [e]) ↔ ∀ x ∈ l, key x ≤ key e := by
  have hmax : greatest hash genesis key (l ++ [e]) = hash e ↔
      (l ++ [e]).argmax key = some e := by
    unfold greatest
    cases harg : (l ++ [e]).argmax key with
    | none =>
      have hnil := List.argmax_eq_none.mp harg
      simp at hnil
    | some m =>
      simp only [Option.map_some, Option.getD_some, Option.some.injEq]
      constructor
      · exact List.inj_on_of_nodup_map hnodup (List.argmax_mem harg) (by simp)
      · intro heq
        rw [heq]
  rw [tip_concat, hmax, show (l ++ [e]).argmax key = some e ↔ _ from OrderBy.lastBy_eq_some hkey]
  constructor
  · intro h x hx
    exact h.2 x (List.mem_append_left [e] hx)
  · intro h
    exact ⟨by simp, List.forall_mem_append.mpr ⟨h, List.forall_mem_singleton.mpr le_rfl⟩⟩

/-- **Linear by key**: where every entry names the one with the greatest key, the
    chain is linear if and only if the keys of all entries but the last ascend. -/
theorem linear_iff_ascending (h : Chained prev (greatest hash genesis key) l)
    (hnodup : (l.map hash).Nodup) (hkey : OrderBy.Distinguishes key l) :
    Chained prev (tip hash genesis) l ↔ l.dropLast.Pairwise (fun a b => key a ≤ key b) := by
  induction l using List.reverseRecOn with
  | nil => simp [chained_nil]
  | append_singleton l e ih =>
    obtain ⟨hl, he⟩ := chained_concat.mp h
    have hsub : l ⊆ l ++ [e] := List.subset_append_left l [e]
    have ih := ih hl (hnodup.sublist ((List.sublist_append_left l [e]).map hash))
      (hkey.subset hsub)
    rw [chained_concat, ih, he, List.dropLast_concat]
    rcases List.eq_nil_or_concat l with rfl | ⟨l, x, rfl⟩
    · simp [greatest, tip]
    · rw [List.concat_eq_append] at *
      rw [greatest_eq_tip (hnodup.sublist ((List.sublist_append_left _ [e]).map hash))
        (hkey.subset hsub), List.dropLast_concat,
        List.pairwise_append]
      simp

end HashChain
