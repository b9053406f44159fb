import Mathlib.Data.List.Dedup
import Mathlib.Data.List.MinMax
import Mathlib.Data.List.Sort

/-! # Ordered queries

    `ORDER BY key` sorts the selected rows, and `ORDER BY key DESC LIMIT 1` takes
    the row with the greatest key (`List.argmax`). Where the key tells rows apart,
    the greatest row depends only on which rows there are.
-/

namespace OrderBy

variable {α β : Type} [LinearOrder β] {key : α → β} {l l' : List α}

/-- The key tells the rows apart. -/
def Distinguishes (key : α → β) (l : List α) : Prop :=
  ∀ a ∈ l, ∀ b ∈ l, key a = key b → a = b

omit [LinearOrder β] in
theorem Distinguishes.subset (h : Distinguishes key l') (hsub : l ⊆ l') : Distinguishes key l :=
  fun a ha b hb => h a (hsub ha) b (hsub hb)

/-- `ORDER BY key`. -/
def orderBy (key : α → β) (l : List α) : List α := l.insertionSort (fun a b => key a ≤ key b)

theorem mem_orderBy {a : α} : a ∈ orderBy key l ↔ a ∈ l := List.mem_insertionSort _

theorem perm_orderBy (key : α → β) (l : List α) : (orderBy key l).Perm l := List.perm_insertionSort _ l

theorem length_orderBy : (orderBy key l).length = l.length := List.length_insertionSort _ _

theorem orderBy_eq_self (h : l.Pairwise (fun a b => key a ≤ key b)) : orderBy key l = l :=
  h.insertionSort_eq

theorem sorted_orderBy (key : α → β) (l : List α) :
    (orderBy key l).Pairwise (fun a b => key a ≤ key b) :=
  haveI : Std.Total (fun a b : α => key a ≤ key b) := ⟨fun a b => le_total (key a) (key b)⟩
  haveI : IsTrans α (fun a b => key a ≤ key b) := ⟨fun _ _ _ => le_trans⟩
  List.pairwise_insertionSort _ l

section Distinct

variable [DecidableEq α]

/-- The members of a list in ascending order, each once. -/
def distinctBy (key : α → β) (l : List α) : List α := orderBy key l.dedup

theorem mem_distinctBy {a : α} : a ∈ distinctBy key l ↔ a ∈ l := mem_orderBy.trans List.mem_dedup

theorem nodup_distinctBy (key : α → β) (l : List α) : (distinctBy key l).Nodup :=
  (perm_orderBy key l.dedup).nodup_iff.mpr (List.nodup_dedup l)

/-- Ascending lists without repetitions are equal when they have the same members. -/
theorem distinctBy_eq_iff (hkey : Function.Injective key) :
    distinctBy key l = distinctBy key l' ↔ ∀ a, a ∈ l ↔ a ∈ l' := by
  constructor
  · intro h a
    have ha : a ∈ distinctBy key l ↔ a ∈ distinctBy key l' := by rw [h]
    rwa [mem_distinctBy, mem_distinctBy] at ha
  · intro h
    have hperm : (distinctBy key l).Perm (distinctBy key l') := by
      rw [List.perm_ext_iff_of_nodup (nodup_distinctBy key l) (nodup_distinctBy key l')]
      intro a
      rw [mem_distinctBy, mem_distinctBy, h]
    exact hperm.eq_of_pairwise (fun a b _ _ hab hba => hkey (le_antisymm hab hba))
      (sorted_orderBy key l.dedup) (sorted_orderBy key l'.dedup)

end Distinct

/-- `ORDER BY key DESC LIMIT 1`. -/
abbrev lastBy (key : α → β) (l : List α) : Option α := l.argmax key

/-- What the query may return when the key does not tell the rows apart. -/
def MayReturn (key : α → β) (l : List α) : Option α → Prop
  | none => l = []
  | some m => m ∈ l ∧ ∀ a ∈ l, key a ≤ key m

theorem mayReturn_lastBy (key : α → β) (l : List α) : MayReturn key l (lastBy key l) := by
  cases hl : lastBy key l with
  | none => exact List.argmax_eq_none.mp hl
  | some m => exact ⟨List.argmax_mem hl, fun a ha => List.le_of_mem_argmax ha hl⟩

/-- The row with the greatest key. -/
theorem lastBy_eq_some (h : Distinguishes key l) {m : α} :
    lastBy key l = some m ↔ m ∈ l ∧ ∀ a ∈ l, key a ≤ key m := by
  constructor
  · intro hm
    have hlast := mayReturn_lastBy key l
    rwa [hm] at hlast
  · rintro ⟨hm, hmax⟩
    cases hl : lastBy key l with
    | none =>
      rw [List.argmax_eq_none.mp hl] at hm
      cases hm
    | some m' =>
      have hm' : m' ∈ l := List.argmax_mem hl
      have heq : key m' = key m := le_antisymm (hmax m' hm') (List.le_of_mem_argmax hm hl)
      rw [h m' hm' m hm heq]

theorem lastBy_congr (h : Distinguishes key l) (hmem : ∀ a, a ∈ l ↔ a ∈ l') :
    lastBy key l = lastBy key l' := by
  have h' : Distinguishes key l' := h.subset (fun a ha => (hmem a).mpr ha)
  ext m
  rw [lastBy_eq_some h, lastBy_eq_some h', hmem m]
  simp only [hmem]

/-- The last of the rows in ascending order. -/
theorem lastBy_eq_getLast? (h : Distinguishes key l)
    (hsorted : l.Pairwise (fun a b => key a ≤ key b)) : lastBy key l = l.getLast? := by
  induction l using List.reverseRecOn with
  | nil => rfl
  | append_singleton l a _ =>
    rw [List.getLast?_concat, lastBy_eq_some h]
    refine ⟨by simp, List.forall_mem_append.mpr ⟨?_, List.forall_mem_singleton.mpr le_rfl⟩⟩
    exact fun b hb => (List.pairwise_append.mp hsorted).2.2 b hb a (List.mem_singleton_self a)

/-- Rows that all come later. -/
theorem lastBy_append (h : Distinguishes key (l ++ l'))
    (hlater : ∀ a ∈ l, ∀ b ∈ l', key a ≤ key b) :
    lastBy key (l ++ l') = (lastBy key l').or (lastBy key l) := by
  cases hl' : lastBy key l' with
  | none =>
    rw [List.argmax_eq_none.mp hl', List.append_nil]
    rfl
  | some m =>
    have hm := (lastBy_eq_some (h.subset (List.subset_append_right l l'))).mp hl'
    exact (lastBy_eq_some h).mpr ⟨List.mem_append_right l hm.1,
      List.forall_mem_append.mpr ⟨fun a ha => hlater a ha m hm.1, hm.2⟩⟩

end OrderBy
