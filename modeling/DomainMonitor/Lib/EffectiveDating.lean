import Mathlib.Data.Prod.Lex

/-! # Effective-dated rows

    Rows of several kinds, each valid from a day on and, once it is closed, up to a
    day. New rows are written at the end of the table, and a writer may close
    earlier rows of the same kind when it adds one.

    `Superseded` says what a writer has to see to: a closed row is followed by a row
    that takes over at the latest on the day after. Then, on every day, the greatest
    of the rows that are valid is the greatest of all rows that have started
    (`Superseded.selected_greatest`), whatever was closed in between.
-/

namespace EffectiveDating

/-- The columns of a table of effective-dated rows. -/
structure Columns (ρ κ τ : Type) where
  kind : ρ → κ
  start : ρ → Int
  finish : ρ → Option Int
  stamp : ρ → τ

variable {ρ κ τ : Type} [LinearOrder τ] {t : Columns ρ κ τ} {day : Int} {c : ρ} {l : List ρ}

namespace Columns

/-- Rows are ordered by their first day, then by the time of writing. -/
def key (t : Columns ρ κ τ) (c : ρ) : Int ×ₗ τ := toLex (t.start c, t.stamp c)

def InEffect (t : Columns ρ κ τ) (day : Int) (c : ρ) : Prop :=
  t.start c ≤ day ∧ ∀ last ∈ t.finish c, day ≤ last

/-- `next` is there when `c` ends with the day `last`. -/
structure TakesOver (t : Columns ρ κ τ) (next : ρ) (last : Int) (c : ρ) : Prop where
  kind : t.kind next = t.kind c
  valid : t.start c ≤ last
  start : t.start next ≤ last + 1
  later : t.key c ≤ t.key next

/-- Every closed row is followed by one that takes over. -/
def Superseded (t : Columns ρ κ τ) : List ρ → Prop
  | [] => True
  | c :: later => (∀ last ∈ t.finish c, ∃ next ∈ later, t.TakesOver next last c) ∧ t.Superseded later

end Columns

open Columns

namespace Columns.Superseded

/-- A closed row is valid on one day at least. -/
theorem start_le_finish (h : t.Superseded l) (hc : c ∈ l) {last : Int} (hlast : last ∈ t.finish c) :
    t.start c ≤ last := by
  induction l with
  | nil => cases hc
  | cons d later ih =>
    rcases List.mem_cons.mp hc with rfl | hc
    · obtain ⟨next, -, htakes⟩ := h.1 last hlast
      exact htakes.valid
    · exact ih h.2 hc

/-- Once a row of a kind has started, the greatest such row is valid. -/
theorem exists_inEffect {k : κ} (h : t.Superseded l) (hc : c ∈ l) (hkind : t.kind c = k)
    (hstart : t.start c ≤ day) :
    ∃ m ∈ l, t.kind m = k ∧ t.InEffect day m ∧
      ∀ c' ∈ l, t.kind c' = k → t.start c' ≤ day → t.key c' ≤ t.key m := by
  induction l generalizing c with
  | nil => cases hc
  | cons d later ih =>
    by_cases hlast : t.kind d = k ∧ t.start d ≤ day ∧
        ∀ m ∈ later, t.kind m = k → t.start m ≤ day → t.key m < t.key d
    · obtain ⟨hdkind, hdstart, hgreater⟩ := hlast
      refine ⟨d, List.mem_cons_self, hdkind, ⟨hdstart, ?_⟩, ?_⟩
      · -- Whatever takes over from `d` has not started by this day.
        intro last hfinish
        by_contra hover
        obtain ⟨next, hnext, htakes⟩ := h.1 last hfinish
        have hstarted : t.start next ≤ day := htakes.start.trans (by omega)
        exact absurd htakes.later (not_le.mpr (hgreater next hnext (htakes.kind.trans hdkind) hstarted))
      · intro c' hc' hkind' hstart'
        rcases List.mem_cons.mp hc' with rfl | hc'
        · exact le_rfl
        · exact (hgreater c' hc' hkind' hstart').le
    · -- Some later row is at least as great, so the greatest of the later rows is the greatest.
      obtain ⟨m₀, hm₀, hkind₀, hstart₀, hfirst⟩ : ∃ m ∈ later, t.kind m = k ∧ t.start m ≤ day ∧
          (t.kind d = k → t.start d ≤ day → t.key d ≤ t.key m) := by
        by_cases hd : t.kind d = k ∧ t.start d ≤ day
        · push Not at hlast
          obtain ⟨m, hm, hmkind, hmstart, hle⟩ := hlast hd.1 hd.2
          exact ⟨m, hm, hmkind, hmstart, fun _ _ => hle⟩
        · rcases List.mem_cons.mp hc with rfl | hc
          · exact absurd ⟨hkind, hstart⟩ hd
          · exact ⟨c, hc, hkind, hstart, fun hdkind hdstart => absurd ⟨hdkind, hdstart⟩ hd⟩
      obtain ⟨m, hm, hmkind, heffect, hgreatest⟩ := ih h.2 hm₀ hkind₀ hstart₀
      refine ⟨m, List.mem_cons_of_mem d hm, hmkind, heffect, ?_⟩
      intro c' hc' hkind' hstart'
      rcases List.mem_cons.mp hc' with rfl | hc'
      · exact (hfirst hkind' hstart').trans (hgreatest m₀ hm₀ hkind₀ hstart₀)
      · exact hgreatest c' hc' hkind' hstart'

/-- The greatest of the valid rows is the greatest of all that have started. -/
theorem selected_greatest {k : κ} {m : ρ} (h : t.Superseded l)
    (hmax : ∀ c ∈ l, t.kind c = k → t.InEffect day c → t.key c ≤ t.key m) (hc : c ∈ l)
    (hkind : t.kind c = k) (hstart : t.start c ≤ day) : t.key c ≤ t.key m := by
  obtain ⟨m', hm', hkind', heffect, hgreatest⟩ := h.exists_inEffect hc hkind hstart
  exact (hgreatest c hc hkind hstart).trans (hmax m' hm' hkind' heffect)

/-- A writer closes rows and adds one that takes over from each of them. -/
theorem replace {p : ρ → Bool} {close : ρ → ρ} {new : ρ} (h : t.Superseded l)
    (hkind : ∀ c, t.kind (close c) = t.kind c) (hkey : ∀ c, t.key (close c) = t.key c)
    (hclose : ∀ c ∈ l, p c = true → ∀ last ∈ t.finish (close c), t.TakesOver new last c)
    (hnew : t.finish new = none) :
    t.Superseded (l.map (fun c => if p c then close c else c) ++ [new]) := by
  have hstart : ∀ c, t.start (close c) = t.start c := fun c => congrArg (fun k => (ofLex k).1) (hkey c)
  induction l with
  | nil => simp [Superseded, hnew]
  | cons d later ih =>
    rw [List.map_cons, List.cons_append]
    refine ⟨?_, ih h.2 (fun c hc => hclose c (List.mem_cons_of_mem d hc))⟩
    intro last hlast
    by_cases hd : p d = true
    · rw [if_pos hd] at hlast ⊢
      obtain ⟨hkind', hvalid, hnext, hlater⟩ := hclose d List.mem_cons_self hd last hlast
      refine ⟨new, by simp, ?_⟩
      exact ⟨hkind'.trans (hkind d).symm, (hstart d).le.trans hvalid, hnext, (hkey d).le.trans hlater⟩
    · rw [if_neg hd] at hlast ⊢
      obtain ⟨next, hmem, hkind', hvalid, hnext, hlater⟩ := h.1 last hlast
      refine ⟨if p next then close next else next,
        List.mem_append_left _ (List.mem_map_of_mem hmem), ?_⟩
      split
      · exact ⟨(hkind next).trans hkind', hvalid, (hstart next).le.trans hnext,
          hlater.trans (hkey next).ge⟩
      · exact ⟨hkind', hvalid, hnext, hlater⟩

end Columns.Superseded

end EffectiveDating
