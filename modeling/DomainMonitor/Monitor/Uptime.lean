import DomainMonitor.Monitor.History

/-! # Uptime as an integral

    At every instant the newest availability entry of a domain is in force. The
    seconds that `GetHistory` returns are a tally over the rows its two queries
    see, and are compared here with the time each value is in force.
-/

namespace DomainMonitor.Monitor

open Classification OrderBy StepFunction

/-! ### What is in force -/

variable (entries : List HistoryEntry) (since until_ : Int)

/-- The newest availability entry at `t`, by `effective_at`, then `id`. -/
def latestEntry (t : Int) : Option HistoryEntry :=
  lastBy HistoryEntry.key
    (entries.filter (fun e => e.dimension = .availability && e.effectiveAt ≤ t))

/-- The rows `latestEntry` chooses from. -/
def effectiveBy (t : Int) : List HistoryEntry :=
  entries.filter (fun e => e.dimension = .availability && e.effectiveAt ≤ t)

def inForce (t : Int) : StatusValue := valueOf (latestEntry entries t)

/-- How long (in nanoseconds) `v` is in force in the window. -/
def heldFor (v : Availability) (since until_ : Int) : Nat :=
  duration (fun t => inForce entries t = .availability v) since until_

def isKnown : StatusValue → Bool
  | .availability .active | .availability .degraded | .availability .unavailable => true
  | _ => false

def unknownFor : Nat :=
  duration (fun t => isKnown (inForce entries t) = false) since until_

/-- The aggregate is the integral of the effective availability. -/
structure Exact (aggregate : HistoryAggregate) (entries : List HistoryEntry)
    (since until_ : Int) : Prop where
  active : aggregate.activeSeconds = seconds (heldFor entries .active since until_)
  degraded : aggregate.degradedSeconds = seconds (heldFor entries .degraded since until_)
  unavailable : aggregate.unavailableSeconds = seconds (heldFor entries .unavailable since until_)
  total : aggregate.activeSeconds + aggregate.degradedSeconds +
    aggregate.unavailableSeconds + seconds (unknownFor entries since until_) =
      seconds (until_ - since)

/-- The rows the two queries have to choose from: those before the window and the
    selected timeline. -/
def seen : List HistoryEntry :=
  entries.filter (beforeWindow since) ++ selectTimeline entries since until_

/-- Where the loop's cursor stands at `t`. -/
def cursorAt (timeline : List HistoryEntry) (since t : Int) : Int :=
  ((latestEntry timeline t).map (·.effectiveAt)).getD since

/-- The instants `GetHistory` counts for `v`: the seen rows give `v`, the instant is
    in the window or after an entry of the timeline, and the interval is no
    longer than a `Duration` so far. -/
def Counted (v : Availability) (t : Int) : Prop :=
  (since ≤ t ∨ (latestEntry (selectTimeline entries since until_) t).isSome = true) ∧
  inForce (seen entries since until_) t = .availability v ∧
  t - cursorAt (selectTimeline entries since until_) since t < maxDuration

instance (entries : List HistoryEntry) (since until_ : Int) (v : Availability) :
    DecidablePred (Counted entries since until_ v) :=
  fun _ => inferInstanceAs (Decidable (_ ∧ _))

/-- `v` is in force at an instant of the window. -/
def Held (v : Availability) (t : Int) : Prop :=
  since ≤ t ∧ inForce entries t = .availability v

instance (entries : List HistoryEntry) (since : Int) (v : Availability) :
    DecidablePred (Held entries since v) :=
  fun _ => inferInstanceAs (Decidable (_ ∧ _))

/-! ### The loop is a tally -/

@[simp] theorem seconds_zero : seconds 0 = 0 := by simp [seconds]

theorem seconds_add (a b : Int) : seconds (a + b) = seconds a + seconds b := by
  unfold seconds
  push_cast
  ring

theorem seconds_inj {a b : Int} : seconds a = seconds b ↔ a = b := by
  unfold seconds
  rw [div_left_inj' (by norm_num)]
  exact Int.cast_inj

theorem seconds_nonpos {d : Int} : seconds d ≤ 0 ↔ d ≤ 0 := by
  unfold seconds
  rw [div_le_iff₀ (by norm_num), zero_mul]
  exact Int.cast_nonpos

def HistoryAggregate.secondsOf (a : HistoryAggregate) : Availability → ℚ
  | .active => a.activeSeconds
  | .degraded => a.degradedSeconds
  | .unavailable => a.unavailableSeconds
  | .unknown => 0

theorem secondsOf_unavailable (a : HistoryAggregate) :
    a.secondsOf .unavailable = a.unavailableSeconds := rfl

variable {v : Availability}

/-- The seconds of an interval count for the state they were spent in. -/
theorem secondsOf_accumulateState_pos (hv : v ≠ .unknown) (a : HistoryAggregate) (s : StatusValue)
    {secs : ℚ} (hpos : ¬ secs ≤ 0) :
    (accumulateState a s secs).secondsOf v =
      a.secondsOf v + if s = .availability v then secs else 0 := by
  unfold accumulateState
  rw [if_neg hpos]
  cases s with
  | availability w => cases v <;> cases w <;> simp [HistoryAggregate.secondsOf] at hv ⊢
  | _ => simp

theorem secondsOf_accumulateState (hv : v ≠ .unknown) (a : HistoryAggregate) (s : StatusValue)
    (t u : Int) :
    (accumulateState a s (seconds (timeSub t u))).secondsOf v =
      a.secondsOf v + seconds (share maxDuration (.availability v) s (t - u)) := by
  unfold share
  by_cases hle : t - u ≤ 0
  · -- Nothing is added for an interval that ends before it starts.
    have hsub : timeSub t u ≤ 0 := by
      unfold timeSub minDuration maxDuration
      omega
    unfold accumulateState
    rw [if_pos (seconds_nonpos.mpr hsub), max_eq_left (by omega), ite_self, seconds_zero, add_zero]
  · have hsub : timeSub t u = max 0 (min maxDuration (t - u)) := by
      unfold timeSub minDuration maxDuration
      omega
    have hpos : ¬ timeSub t u ≤ 0 := by
      rw [hsub]
      unfold maxDuration
      omega
    rw [secondsOf_accumulateState_pos hv a s (fun h => hpos (seconds_nonpos.mp h)), hsub]
    by_cases hs : s = .availability v
    · rw [if_pos hs, if_pos hs]
    · rw [if_neg hs, if_neg hs, seconds_zero]

/-- The availability entries of a timeline as changes of a step function. -/
def changesOf (timeline : List HistoryEntry) : List (Int × StatusValue) :=
  (timeline.filter (fun e => e.dimension = .availability)).map
    (fun e => (e.effectiveAt, e.currentValue))

theorem secondsOf_foldl_visit (hv : v ≠ .unknown) (until_ : Int) (timeline : List HistoryEntry)
    (w : Walk) :
    let w' := timeline.foldl Walk.visit w
    (accumulateState w'.aggregate w'.state (seconds (timeSub until_ w'.cursor))).secondsOf v =
      w.aggregate.secondsOf v +
        seconds (tally maxDuration (.availability v) (w.cursor, w.state) (changesOf timeline)
          until_) := by
  induction timeline generalizing w with
  | nil => exact secondsOf_accumulateState hv ..
  | cons e timeline ih =>
    dsimp only at ih ⊢
    rw [List.foldl_cons, ih]
    by_cases he : e.dimension = .availability
    · simp only [Walk.visit, changesOf, he, ne_eq, not_true_eq_false, if_false,
        List.filter_cons_of_pos, decide_true, List.map_cons, tally,
        secondsOf_accumulateState hv, seconds_add, add_assoc]
    · simp only [Walk.visit, changesOf, he, ne_eq, not_false_eq_true, if_true,
        List.filter_cons_of_neg, decide_false, Bool.false_eq_true]

/-- What `GetHistory` returns for one value. -/
theorem secondsOf_calculateHistoryAggregate (hv : v ≠ .unknown) (db : DB)
    (entries timeline : List HistoryEntry) (d : UUID) (since until_ : Int) :
    (calculateHistoryAggregate db entries timeline d since until_).secondsOf v =
      seconds (tally maxDuration (.availability v) (since, initialState entries since)
        (changesOf timeline) until_) := by
  have h := secondsOf_foldl_visit hv until_ timeline
    { aggregate := { windowStart := since, windowEnd := until_ }, cursor := since,
      state := initialState entries since, changes := 0 }
  have hstart : ({ windowStart := since, windowEnd := until_ } : HistoryAggregate).secondsOf v = 0 := by
    cases v <;> rfl
  dsimp only at h
  rw [hstart, zero_add] at h
  rw [← h]
  cases v <;> rfl

theorem uptimePercentage_eq (db : DB) (entries timeline : List HistoryEntry) (d : UUID)
    (since until_ : Int) :
    let aggregate := calculateHistoryAggregate db entries timeline d since until_
    let known := aggregate.secondsOf .active + aggregate.secondsOf .degraded +
      aggregate.secondsOf .unavailable
    aggregate.uptimePercentage =
      if known > 0 then some (roundTo (aggregate.secondsOf .active / known * 100) 4) else none :=
  rfl

/-! ### The rows the queries see -/

theorem StoredHistory.distinguishes {db : DB} (stored : StoredHistory db) (d : UUID) :
    Distinguishes HistoryEntry.key (stored.ofDomain d) := by
  intro a ha b hb h
  have hid : a.id = b.id := congrArg (fun k => (ofLex k).2) h
  exact stored.entries.eq_of_key_eq (List.mem_filter.mp ha).1 (List.mem_filter.mp hb).1 hid

theorem StoredHistory.precise {db : DB} (stored : StoredHistory db) (d : UUID) :
    ∀ e ∈ stored.ofDomain d, timestamptz e.effectiveAt = e.effectiveAt :=
  fun e he => stored.precision e (List.mem_filter.mp he).1

section Seen

variable {entries : List HistoryEntry} {since until_ t : Int} {e : HistoryEntry}

theorem mem_selectTimeline (h : e ∈ selectTimeline entries since until_) :
    e ∈ entries ∧ timestamptz since ≤ e.effectiveAt ∧ e.effectiveAt ≤ timestamptz until_ := by
  simpa [inWindow] using List.mem_filter.mp (mem_orderBy.mp (List.mem_of_mem_take h))

theorem mem_effectiveBy :
    e ∈ effectiveBy entries t ↔ e ∈ entries ∧ e.dimension = .availability ∧ e.effectiveAt ≤ t := by
  simp [effectiveBy]

theorem sorted_selectTimeline (entries : List HistoryEntry) (since until_ : Int) :
    (selectTimeline entries since until_).Pairwise (fun a b => a.key ≤ b.key) :=
  (sorted_orderBy HistoryEntry.key _).sublist (List.take_sublist ..)

theorem effectiveAt_le_of_key_le {a b : HistoryEntry} (h : a.key ≤ b.key) :
    a.effectiveAt ≤ b.effectiveAt := by
  rcases Prod.Lex.le_iff.mp h with h | h
  · exact le_of_lt h
  · exact le_of_eq h.1

theorem key_le_of_effectiveAt_lt {a b : HistoryEntry} (h : a.effectiveAt < b.effectiveAt) :
    a.key ≤ b.key :=
  Prod.Lex.le_iff.mpr (.inl h)

theorem latestEntry_some (h : latestEntry entries t = some e) :
    e ∈ entries ∧ e.dimension = .availability ∧ e.effectiveAt ≤ t :=
  mem_effectiveBy.mp (List.argmax_mem h)

/-- The step function of the timeline is given by its newest entry. -/
theorem latest_changesOf {timeline : List HistoryEntry} (hdist : Distinguishes HistoryEntry.key timeline)
    (hsorted : timeline.Pairwise (fun a b => a.key ≤ b.key)) (initial : StatusValue) (t : Int) :
    latest (since, initial) (changesOf timeline) t =
      (cursorAt timeline since t, ((latestEntry timeline t).map (·.currentValue)).getD initial) := by
  have hlast : latestEntry timeline t = (effectiveBy timeline t).getLast? :=
    lastBy_eq_getLast? (hdist.subset (List.filter_subset_self _)) (hsorted.sublist List.filter_sublist)
  have hfilter : (changesOf timeline).filter (fun c => c.1 ≤ t) =
      (effectiveBy timeline t).map (fun e => (e.effectiveAt, e.currentValue)) := by
    rw [changesOf, List.filter_map, List.filter_filter]
    congr 1
    apply List.filter_congr
    intro e _
    exact Bool.and_comm ..
  rw [latest, hfilter, List.getLast?_map, cursorAt, ← hlast]
  cases latestEntry timeline t <;> rfl

/-- Before the timeline the initial state is in force. -/
theorem inForce_seen (hdist : Distinguishes HistoryEntry.key entries) (ht : timestamptz since ≤ t) :
    inForce (seen entries since until_) t =
      ((latestEntry (selectTimeline entries since until_) t).map (·.currentValue)).getD
        (initialState entries since) := by
  have hprior : effectiveBy (entries.filter (beforeWindow since)) t =
      entries.filter (beforeWindow since) := by
    rw [effectiveBy, List.filter_eq_self]
    intro e he
    have hb := (List.mem_filter.mp he).2
    simp only [beforeWindow, Bool.and_eq_true, decide_eq_true_eq] at hb ⊢
    exact ⟨hb.1, by omega⟩
  have hsub : Distinguishes HistoryEntry.key (entries.filter (beforeWindow since) ++
      effectiveBy (selectTimeline entries since until_) t) := by
    refine hdist.subset (List.append_subset.mpr ⟨List.filter_subset_self _, fun e he => ?_⟩)
    exact (mem_selectTimeline (List.mem_filter.mp he).1).1
  have hlater : ∀ a ∈ entries.filter (beforeWindow since),
      ∀ b ∈ effectiveBy (selectTimeline entries since until_) t, a.key ≤ b.key := by
    intro a ha b hb
    have ha' := (List.mem_filter.mp ha).2
    have hb' := (mem_selectTimeline (List.mem_filter.mp hb).1).2
    simp only [beforeWindow, Bool.and_eq_true, decide_eq_true_eq] at ha'
    exact key_le_of_effectiveAt_lt (by omega)
  rw [inForce, seen, latestEntry, List.filter_append, ← effectiveBy, hprior, ← effectiveBy,
    lastBy_append hsub hlater]
  change valueOf ((latestEntry (selectTimeline entries since until_) t).or _) = _
  cases latestEntry (selectTimeline entries since until_) t <;> rfl

theorem mem_changesOf {c : Int × StatusValue}
    (h : c ∈ changesOf (selectTimeline entries since until_)) :
    ∃ e ∈ selectTimeline entries since until_, e.dimension = .availability ∧
      c = (e.effectiveAt, e.currentValue) ∧
      timestamptz since ≤ e.effectiveAt ∧ e.effectiveAt ≤ until_ := by
  obtain ⟨e, he, rfl⟩ := List.mem_map.mp h
  obtain ⟨he, hdim⟩ := List.mem_filter.mp he
  obtain ⟨-, hge, hle⟩ := mem_selectTimeline he
  exact ⟨e, he, by simpa using hdim, rfl, hge, le_trans hle (timestamptz_le until_)⟩

theorem chronological_changesOf (entries : List HistoryEntry) (since until_ : Int) :
    Chronological (changesOf (selectTimeline entries since until_)) := by
  unfold Chronological changesOf
  rw [List.pairwise_map]
  apply List.Pairwise.imp effectiveAt_le_of_key_le
  exact (sorted_selectTimeline entries since until_).sublist List.filter_sublist

/-- An instant before the window and before the timeline is not counted. -/
theorem not_counted {v : Availability} (ht : t < since)
    (hbefore : ∀ c ∈ changesOf (selectTimeline entries since until_), t < c.1) :
    ¬ Counted entries since until_ v t := by
  rintro ⟨hin | hsome, -⟩
  · omega
  · obtain ⟨e, he⟩ := Option.isSome_iff_exists.mp hsome
    obtain ⟨hmem, hdim, hle⟩ := latestEntry_some he
    have hc : (e.effectiveAt, e.currentValue) ∈
        changesOf (selectTimeline entries since until_) :=
      List.mem_map.mpr ⟨e, List.mem_filter.mpr ⟨hmem, by simpa using hdim⟩, rfl⟩
    have := hbefore _ hc
    dsimp only at this
    omega

/-- The tally of the loop is the number of counted instants. -/
theorem tally_eq_counted (hdist : Distinguishes HistoryEntry.key entries) (hwindow : since ≤ until_)
    (v : Availability) :
    tally maxDuration (.availability v) (since, initialState entries since)
        (changesOf (selectTimeline entries since until_)) until_ =
      duration (Counted entries since until_ v) (timestamptz since) until_ := by
  have hfloor : timestamptz since ≤ since := timestamptz_le since
  have hchron := chronological_changesOf entries since until_
  -- From the start of the step function on, the two predicates agree.
  have hcounts : ∀ t, timestamptz since ≤ t →
      (since ≤ t ∨ ∃ c ∈ changesOf (selectTimeline entries since until_), c.1 ≤ t) →
      (Counts maxDuration (.availability v) (since, initialState entries since)
        (changesOf (selectTimeline entries since until_)) t ↔ Counted entries since until_ v t) := by
    intro t ht hstart
    have hsome : since ≤ t ∨
        (latestEntry (selectTimeline entries since until_) t).isSome = true := by
      rcases hstart with h | ⟨c, hc, hct⟩
      · exact .inl h
      · obtain ⟨e, he, hdim, rfl, -⟩ := mem_changesOf hc
        right
        cases hl : latestEntry (selectTimeline entries since until_) t with
        | some => rfl
        | none =>
          have hmem : e ∈ effectiveBy _ t := mem_effectiveBy.mpr ⟨he, hdim, hct⟩
          rw [effectiveBy, List.argmax_eq_none.mp hl] at hmem
          cases hmem
    rw [Counts, Counted, latest_changesOf (hdist.subset fun e he => (mem_selectTimeline he).1)
      (sorted_selectTimeline ..), inForce_seen hdist ht, and_iff_right hsome]
  have hstop : ∀ c ∈ changesOf (selectTimeline entries since until_),
      timestamptz since ≤ c.1 ∧ c.1 ≤ until_ := by
    intro c hc
    obtain ⟨e, -, -, rfl, hin⟩ := mem_changesOf hc
    exact hin
  -- What lies before `start` is not counted.
  have hfrom : ∀ start, timestamptz since ≤ start → start ≤ until_ → start ≤ since →
      (∀ c ∈ changesOf (selectTimeline entries since until_), start ≤ c.1) →
      duration (Counted entries since until_ v) (timestamptz since) until_ =
        duration (Counted entries since until_ v) start until_ := by
    intro start hge hle hsince hfirst
    rw [duration_add hge hle, duration_eq_zero_iff.mpr, zero_add]
    intro t _ ht
    exact not_counted (by omega) (fun c hc => lt_of_lt_of_le ht (hfirst c hc))
  by_cases hearly : ∃ c ∈ changesOf (selectTimeline entries since until_), c.1 < since
  · -- Only entries within the microsecond of `since` precede it.
    cases hchanges : changesOf (selectTimeline entries since until_) with
    | nil =>
      obtain ⟨c, hc, -⟩ := hearly
      rw [hchanges] at hc
      cases hc
    | cons c changes =>
      rw [hchanges] at hcounts hchron hearly hstop hfrom
      have hfirst : ∀ d ∈ c :: changes, c.1 ≤ d.1 :=
        List.forall_mem_cons.mpr ⟨le_refl _, (List.pairwise_cons.mp hchron).1⟩
      obtain ⟨d, hd, hlt⟩ := hearly
      have hc := hstop c (List.mem_cons_self ..)
      have hcs : c.1 ≤ since := le_trans (hfirst d hd) (le_of_lt hlt)
      rw [tally_cons_of_le hcs, tally_eq_duration hchron (fun d hd => (hstop d hd).2),
        hfrom c.1 hc.1 hc.2 hcs hfirst]
      congr 1
      apply duration_congr
      intro t ht _
      rw [← hcounts t (le_trans hc.1 ht) (.inr ⟨c, List.mem_cons_self .., ht⟩), Counts, Counts,
        latest_cons_of_le ht]
  · have hlate : ∀ c ∈ changesOf (selectTimeline entries since until_), since ≤ c.1 :=
      fun c hc => not_lt.mp (fun hlt => hearly ⟨c, hc, hlt⟩)
    rw [tally_eq_duration (List.pairwise_cons.mpr ⟨hlate, hchron⟩), hfrom since hfloor hwindow
      (le_refl _) hlate]
    · congr 1
      apply duration_congr
      intro t ht _
      exact hcounts t (le_trans hfloor ht) (.inl ht)
    · exact List.forall_mem_cons.mpr ⟨hwindow, fun c hc => (hstop c hc).2⟩

/-! ### Rows the queries drop -/

theorem inForce_congr {entries' : List HistoryEntry}
    (hdist : Distinguishes HistoryEntry.key entries)
    (h : ∀ e, e.dimension = .availability → e.effectiveAt ≤ t → (e ∈ entries ↔ e ∈ entries')) :
    inForce entries t = inForce entries' t := by
  unfold inForce latestEntry
  rw [lastBy_congr (hdist.subset (List.filter_subset_self _))]
  intro e
  rw [← effectiveBy, ← effectiveBy, mem_effectiveBy, mem_effectiveBy]
  exact and_congr_left fun hin => h e hin.1 hin.2

/-- The rows of the window beyond the first 5000. -/
def dropped (entries : List HistoryEntry) (since until_ : Int) : List HistoryEntry :=
  (orderBy HistoryEntry.key (entries.filter (inWindow since until_))).drop 5000

/-- An availability row up to an instant of the window is seen or dropped. -/
theorem mem_seen_or_dropped (hprec : ∀ e ∈ entries, timestamptz e.effectiveAt = e.effectiveAt)
    (he : e ∈ entries) (hdim : e.dimension = .availability) (hle : e.effectiveAt ≤ t)
    (ht : t < until_) : e ∈ seen entries since until_ ∨ e ∈ dropped entries since until_ := by
  by_cases hb : e.effectiveAt < timestamptz since
  · left
    exact List.mem_append_left _ (List.mem_filter.mpr ⟨he, by simp [beforeWindow, hdim, hb]⟩)
  · have hupto : e.effectiveAt ≤ timestamptz until_ := by
      rw [← hprec e he]
      exact timestamptz_mono (by omega)
    have hin : e ∈ orderBy HistoryEntry.key (entries.filter (inWindow since until_)) := by
      rw [mem_orderBy, List.mem_filter]
      refine ⟨he, ?_⟩
      simp only [inWindow, Bool.and_eq_true, decide_eq_true_eq]
      exact ⟨by omega, hupto⟩
    rw [← List.take_append_drop 5000 (orderBy HistoryEntry.key _)] at hin
    rcases List.mem_append.mp hin with h | h
    · exact .inl (List.mem_append_right _ h)
    · exact .inr h

theorem mem_of_mem_seen (h : e ∈ seen entries since until_) : e ∈ entries := by
  rcases List.mem_append.mp h with h | h
  · exact (List.mem_filter.mp h).1
  · exact (mem_selectTimeline h).1

/-- Until the first dropped row the seen rows decide, from there on they give one
    value. -/
theorem seen_cut (hdist : Distinguishes HistoryEntry.key entries)
    (hprec : ∀ e ∈ entries, timestamptz e.effectiveAt = e.effectiveAt)
    (hsince : timestamptz since = since) (hwindow : since ≤ until_) :
    ∃ cut, since ≤ cut ∧ cut ≤ until_ ∧ (dropped entries since until_ = [] → cut = until_) ∧
      (∀ t, t < cut → inForce (seen entries since until_) t = inForce entries t) ∧
      ∃ s, ∀ t, cut ≤ t → t < until_ → inForce (seen entries since until_) t = s := by
  have hdist' : Distinguishes HistoryEntry.key (seen entries since until_) :=
    hdist.subset (fun e he => mem_of_mem_seen he)
  -- Up to `cut` no dropped row is in force.
  have hbefore : ∀ cut, cut ≤ until_ → (∀ e ∈ dropped entries since until_, cut ≤ e.effectiveAt) →
      ∀ t, t < cut → inForce (seen entries since until_) t = inForce entries t := by
    intro cut hcut hdropped t ht
    apply inForce_congr hdist'
    intro e hdim hle
    refine ⟨mem_of_mem_seen, fun he => ?_⟩
    rcases mem_seen_or_dropped hprec he hdim hle (lt_of_lt_of_le ht hcut) with h | h
    · exact h
    · have := hdropped e h
      omega
  have hsorted := sorted_orderBy HistoryEntry.key (entries.filter (inWindow since until_))
  rw [← List.take_append_drop 5000 (orderBy HistoryEntry.key _)] at hsorted
  obtain ⟨-, hrest, hlater⟩ := List.pairwise_append.mp hsorted
  cases hdropped : dropped entries since until_ with
  | nil =>
    refine ⟨until_, hwindow, le_refl _, fun _ => rfl, hbefore until_ (le_refl _) ?_,
      .availability .unknown, fun t hge hlt => absurd hlt (by omega)⟩
    simp [hdropped]
  | cons e₀ rest =>
    have he₀ : e₀ ∈ dropped entries since until_ := by rw [hdropped]; exact List.mem_cons_self ..
    have hin := (List.mem_filter.mp (mem_orderBy.mp (List.mem_of_mem_drop he₀))).2
    simp only [inWindow, Bool.and_eq_true, decide_eq_true_eq] at hin
    have hle : e₀.effectiveAt ≤ until_ := le_trans hin.2 (timestamptz_le until_)
    refine ⟨e₀.effectiveAt, by omega, hle, (fun h => by cases h), hbefore _ hle ?_,
      inForce (seen entries since until_) e₀.effectiveAt, ?_⟩
    · change (dropped entries since until_).Pairwise _ at hrest
      rw [hdropped] at hrest ⊢
      exact List.forall_mem_cons.mpr ⟨le_refl _, fun e he =>
        effectiveAt_le_of_key_le ((List.pairwise_cons.mp hrest).1 e he)⟩
    · -- Every seen row is in effect by then.
      have hall : ∀ e ∈ seen entries since until_, e.effectiveAt ≤ e₀.effectiveAt := by
        intro e he
        rcases List.mem_append.mp he with he | he
        · have hb := (List.mem_filter.mp he).2
          simp only [beforeWindow, Bool.and_eq_true, decide_eq_true_eq] at hb
          omega
        · exact effectiveAt_le_of_key_le (hlater e he e₀ he₀)
      intro t ht _
      unfold inForce latestEntry
      congr 2
      apply List.filter_congr
      intro e he
      have := hall e he
      rw [decide_eq_true this, decide_eq_true (le_trans this ht)]

end Seen

/-! ### Exactness -/

section Exact

variable {db : DB} {stored : StoredHistory db} {d : UUID} {since until_ : Int}

theorem heldFor_eq_duration (hwindow : since ≤ until_) (v : Availability) :
    heldFor entries v since until_ = duration (Held entries since v) (timestamptz since) until_ := by
  rw [duration_add (timestamptz_le since) hwindow, duration_eq_zero_iff.mpr, zero_add]
  · apply duration_congr
    intro t ht _
    exact (and_iff_right ht).symm
  · intro t _ ht hheld
    exact absurd hheld.1 (by omega)

/-- Each instant of the window counts for one of the three values or as unknown. -/
theorem heldFor_total (hwindow : since ≤ until_) :
    ((heldFor entries .active since until_ + heldFor entries .degraded since until_ +
      heldFor entries .unavailable since until_ + unknownFor entries since until_ : Nat) : Int) =
        until_ - since := by
  have hall : duration (fun _ => True) since until_ =
      duration (fun t => isKnown (inForce entries t) = true) since until_ +
        unknownFor entries since until_ :=
    duration_or (fun t => by cases isKnown (inForce entries t) <;> simp) (by simp)
  have hknown : duration (fun t => isKnown (inForce entries t) = true) since until_ =
      heldFor entries .active since until_ + duration (fun t =>
        inForce entries t = .availability .degraded ∨
        inForce entries t = .availability .unavailable) since until_ := by
    apply duration_or
    · intro t
      unfold isKnown
      split <;> simp_all
    · intro t h
      simp [h]
  have hdown : duration (fun t => inForce entries t = .availability .degraded ∨
        inForce entries t = .availability .unavailable) since until_ =
      heldFor entries .degraded since until_ + heldFor entries .unavailable since until_ :=
    duration_or (fun t => Iff.rfl) (fun t h => by simp [h])
  rw [duration_of_forall (fun _ _ _ => trivial)] at hall
  omega

/-- The sum to the length of the window adds nothing to the three values. -/
theorem exact_iff {entries : List HistoryEntry} (aggregate : HistoryAggregate)
    (hwindow : since ≤ until_) :
    Exact aggregate entries since until_ ↔
      ∀ v, v ≠ .unknown → aggregate.secondsOf v = seconds (heldFor entries v since until_) := by
  constructor
  · intro h v hv
    cases v with
    | active => exact h.active
    | degraded => exact h.degraded
    | unavailable => exact h.unavailable
    | unknown => exact absurd rfl hv
  · intro h
    have hactive := h .active (by decide)
    have hdegraded := h .degraded (by decide)
    have hunavailable := h .unavailable (by decide)
    refine ⟨hactive, hdegraded, hunavailable, ?_⟩
    change aggregate.secondsOf .active + aggregate.secondsOf .degraded +
      aggregate.secondsOf .unavailable + _ = _
    rw [hactive, hdegraded, hunavailable, ← seconds_add, ← seconds_add, ← seconds_add,
      ← heldFor_total entries hwindow]
    push_cast
    rfl

/-- The seconds of one value are right if and only if it is counted as long as it
    is held. -/
theorem secondsOf_exact_iff (hwindow : since ≤ until_) {v : Availability} (hv : v ≠ .unknown) :
    (calculateHistoryAggregate db (stored.ofDomain d)
        (selectTimeline (stored.ofDomain d) since until_) d since until_).secondsOf v =
      seconds (heldFor (stored.ofDomain d) v since until_) ↔
    duration (Counted (stored.ofDomain d) since until_ v) (timestamptz since) until_ =
      duration (Held (stored.ofDomain d) since v) (timestamptz since) until_ := by
  rw [secondsOf_calculateHistoryAggregate hv, tally_eq_counted (stored.distinguishes d) hwindow,
    heldFor_eq_duration _ hwindow, seconds_inj, Nat.cast_inj]

/-- In a window of whole microseconds that fits a `Duration`, an instant is
    counted for what the seen rows give. -/
theorem counted_iff {entries : List HistoryEntry} (hsince : timestamptz since = since)
    (hlength : until_ - since ≤ maxDuration) {v : Availability} {t : Int} (ht : since ≤ t)
    (hlt : t < until_) :
    Counted entries since until_ v t ↔ inForce (seen entries since until_) t = .availability v := by
  have hcursor : since ≤ cursorAt (selectTimeline entries since until_) since t := by
    unfold cursorAt
    cases hl : latestEntry (selectTimeline entries since until_) t with
    | none => exact le_refl _
    | some e =>
      have hw := (mem_selectTimeline (latestEntry_some hl).1).2
      change since ≤ e.effectiveAt
      omega
  have hshort : t - cursorAt (selectTimeline entries since until_) since t < maxDuration := by omega
  unfold Counted
  simp [ht, hshort]

/-- In such a window the aggregate is exact if and only if no dropped row matters. -/
theorem exact_iff_seen (hsince : timestamptz since = since)
    (hlength : until_ - since ≤ maxDuration) (hwindow : since ≤ until_) :
    Exact (calculateHistoryAggregate db (stored.ofDomain d)
        (selectTimeline (stored.ofDomain d) since until_) d since until_)
        (stored.ofDomain d) since until_ ↔
      ∀ t, since ≤ t → t < until_ → ∀ v, v ≠ .unknown →
        (inForce (seen (stored.ofDomain d) since until_) t = .availability v ↔
          inForce (stored.ofDomain d) t = .availability v) := by
  have hcounted : ∀ v, v ≠ .unknown →
      ((calculateHistoryAggregate db (stored.ofDomain d)
        (selectTimeline (stored.ofDomain d) since until_) d since until_).secondsOf v =
          seconds (heldFor (stored.ofDomain d) v since until_) ↔
        duration (fun t => inForce (seen (stored.ofDomain d) since until_) t = .availability v)
          since until_ = heldFor (stored.ofDomain d) v since until_) := by
    intro v hv
    rw [secondsOf_exact_iff hwindow hv, ← heldFor_eq_duration _ hwindow, hsince]
    rw [duration_congr (fun t ht hlt => counted_iff hsince hlength ht hlt)]
  rw [exact_iff _ hwindow]
  constructor
  · intro h
    obtain ⟨cut, hge, hle, -, hbefore, s, hafter⟩ :=
      seen_cut (stored.distinguishes d) (stored.precise d) hsince hwindow
    intro t ht hlt v hv
    by_cases hcut : t < cut
    · rw [hbefore t hcut]
    · -- After the cut the seen rows give `v` always or never.
      have heq := (hcounted v hv).mp (h v hv)
      rw [heldFor, duration_add hge hle, duration_add hge hle,
        duration_congr (fun t _ ht => by rw [hbefore t ht]), Nat.add_left_cancel_iff] at heq
      rw [hafter t (not_lt.mp hcut) hlt]
      by_cases hs : s = .availability v
      · rw [duration_of_forall (fun t ht hlt => (hafter t ht hlt).trans hs)] at heq
        exact ⟨fun _ => duration_eq_length_iff.mp heq.symm t (not_lt.mp hcut) hlt, fun _ => hs⟩
      · rw [duration_eq_zero_iff.mpr (fun t ht hlt h => hs ((hafter t ht hlt).symm.trans h))] at heq
        exact ⟨fun h => absurd h hs, fun h => absurd h
          (duration_eq_zero_iff.mp heq.symm t (not_lt.mp hcut) hlt)⟩
  · intro h v hv
    exact (hcounted v hv).mpr (duration_congr (fun t ht hlt => h t ht hlt v hv))

/-- With at most 5000 rows in the window nothing is dropped. -/
theorem seen_of_length_le (hsince : timestamptz since = since) (hwindow : since ≤ until_)
    (hrows : ((stored.ofDomain d).filter (inWindow since until_)).length ≤ 5000) {t : Int}
    (hlt : t < until_) :
    inForce (seen (stored.ofDomain d) since until_) t = inForce (stored.ofDomain d) t := by
  have hnone : dropped (stored.ofDomain d) since until_ = [] := by
    unfold dropped
    rw [List.drop_eq_nil_iff, length_orderBy]
    exact hrows
  obtain ⟨cut, -, -, hcut, hbefore, -⟩ :=
    seen_cut (stored.distinguishes d) (stored.precise d) hsince hwindow
  exact hbefore t (by rw [hcut hnone]; exact hlt)

theorem getHistory_ok (hdomain : (db.domains.get? d).isSome = true) (hwindow : since < until_) :
    getHistory db stored d since until_ =
      .ok { domainId := d, timeline := selectTimeline (stored.ofDomain d) since until_,
            aggregate := calculateHistoryAggregate db (stored.ofDomain d)
              (selectTimeline (stored.ofDomain d) since until_) d since until_ } := by
  unfold getHistory
  rw [if_neg (by omega), if_neg (by simp [Option.isSome_iff_ne_none.mp hdomain])]

end Exact

/-- An entry about domain 1. -/
def entryOf (id : UUID) (dimension : Dimension) (previous current : StatusValue)
    (effectiveAt : Int) : HistoryEntry where
  id := id
  domainId := 1
  dimension := dimension
  previousValue := some previous
  currentValue := current
  confidence := 90
  policyVersion := "v1"
  reasonCodes := []
  supportingRunIds := []
  effectiveAt := effectiveAt

def upEntry : HistoryEntry :=
  entryOf 0 .availability (.availability .unknown) (.availability .active) (-hour)

/-- Up for ten seconds, then down. -/
def outageRows : List HistoryEntry :=
  [upEntry, entryOf 1 .availability (.availability .active) (.availability .unavailable)
    (10 * second)]

def outageDB : DB := { sampleDB with history := outageRows.map HistoryEntry.toHistoryRow }

def outageHistory : StoredHistory outageDB where
  entries := { rows := outageRows, nodup := by decide }
  stored := rfl
  precision := by decide

/-- The resolver of the domain fails in every other run, every 15 minutes. -/
def flappingEntry (i : Nat) : HistoryEntry :=
  if i % 2 = 0 then entryOf (i + 1) .dns (.dns .ok) (.dns .timeout) (i * (15 * minute))
  else entryOf (i + 1) .dns (.dns .timeout) (.dns .ok) (i * (15 * minute))

/-- The outage begins after 60 days. -/
def downEntry : HistoryEntry :=
  entryOf 5001 .availability (.availability .active) (.availability .unavailable) (60 * 24 * hour)

theorem flappingEntry_id (i : Nat) : (flappingEntry i).id = i + 1 := by
  unfold flappingEntry; split <;> rfl

theorem flappingEntry_domainId (i : Nat) : (flappingEntry i).domainId = 1 := by
  unfold flappingEntry; split <;> rfl

theorem flappingEntry_dimension (i : Nat) : (flappingEntry i).dimension = .dns := by
  unfold flappingEntry; split <;> rfl

theorem flappingEntry_effectiveAt (i : Nat) :
    (flappingEntry i).effectiveAt = i * 900000000000 := by
  unfold flappingEntry; split <;> rfl

/-- The rows after the first, in the order of the query. -/
def windowRows : List HistoryEntry := (List.range 5000).map flappingEntry ++ [downEntry]

theorem mem_windowRows {e : HistoryEntry} (h : e ∈ windowRows) :
    (∃ i < 5000, e = flappingEntry i) ∨ e = downEntry := by
  rcases List.mem_append.mp h with h | h
  · obtain ⟨i, hi, rfl⟩ := List.mem_map.mp h
    exact .inl ⟨i, List.mem_range.mp hi, rfl⟩
  · exact .inr (List.mem_singleton.mp h)

theorem consecutive_nodup (n : Nat) : (0 :: ((List.range n).map (· + 1) ++ [n + 1])).Nodup := by
  have h : 0 :: ((List.range n).map (· + 1) ++ [n + 1]) = List.range (n + 2) := by
    rw [List.range_succ_eq_map, List.range_succ]
    simp
  rw [h]
  exact List.nodup_range

def flappingDB : DB :=
  { sampleDB with history := (upEntry :: windowRows).map HistoryEntry.toHistoryRow }

def flappingHistory : StoredHistory flappingDB where
  entries :=
    { rows := upEntry :: windowRows
      nodup := by
        have hid : HistoryEntry.id ∘ flappingEntry = (· + 1) := funext flappingEntry_id
        rw [List.map_cons, windowRows, List.map_append, List.map_map, hid]
        exact consecutive_nodup 5000 }
  stored := rfl
  precision := by
    intro e he
    rcases List.mem_cons.mp he with rfl | he
    · rfl
    rcases mem_windowRows he with ⟨i, -, rfl⟩ | rfl
    · rw [flappingEntry_effectiveAt]
      unfold timestamptz microsecond
      omega
    · rfl

theorem flapping_ofDomain : flappingHistory.ofDomain 1 = upEntry :: windowRows := by
  change (upEntry :: windowRows).filter (fun e => e.domainId = 1) = upEntry :: windowRows
  rw [List.filter_eq_self]
  intro e he
  rcases List.mem_cons.mp he with rfl | he
  · rfl
  rcases mem_windowRows he with ⟨i, -, rfl⟩ | rfl
  · simp [flappingEntry_domainId]
  · rfl

/-- The 5000 rows of the other dimension fill the timeline. -/
theorem flapping_timeline :
    selectTimeline (upEntry :: windowRows) 0 (90 * 24 * hour) =
      (List.range 5000).map flappingEntry := by
  have hwindow : (upEntry :: windowRows).filter (inWindow 0 (90 * 24 * hour)) = windowRows := by
    rw [List.filter_cons_of_neg (by decide), List.filter_eq_self]
    intro e he
    rcases mem_windowRows he with ⟨i, hi, rfl⟩ | rfl
    · simp only [inWindow, flappingEntry_effectiveAt, Bool.and_eq_true, decide_eq_true_eq,
        timestamptz, microsecond, hour, minute, second]
      omega
    · decide
  have hsorted : windowRows.Pairwise (fun a b => a.key ≤ b.key) := by
    refine List.pairwise_append.mpr ⟨?_, List.pairwise_singleton .., ?_⟩
    · rw [List.pairwise_map]
      apply List.pairwise_lt_range.imp
      intro i j hij
      apply key_le_of_effectiveAt_lt
      rw [flappingEntry_effectiveAt, flappingEntry_effectiveAt]
      omega
    · intro a ha b hb
      obtain ⟨i, hi, rfl⟩ := List.mem_map.mp ha
      rw [List.mem_singleton.mp hb]
      apply key_le_of_effectiveAt_lt
      have := List.mem_range.mp hi
      rw [flappingEntry_effectiveAt]
      change (i : Int) * 900000000000 < 60 * 24 * (60 * (60 * 1000000000))
      omega
  rw [selectTimeline, hwindow, orderBy_eq_self hsorted, windowRows,
    List.take_left' (by simp)]

/-- From the 60th day on the outage is in force. -/
theorem flapping_inForce {t : Int} (ht : 0 ≤ t) :
    inForce (upEntry :: windowRows) t =
      if 60 * 24 * hour ≤ t then .availability .unavailable else .availability .active := by
  have havail : (upEntry :: windowRows).filter
      (fun e => e.dimension = .availability && e.effectiveAt ≤ t) =
        if 60 * 24 * hour ≤ t then [upEntry, downEntry] else [upEntry] := by
    have hup : upEntry.effectiveAt ≤ t := le_trans (by decide) ht
    have hnone : ((List.range 5000).map flappingEntry).filter
        (fun e => e.dimension = .availability && e.effectiveAt ≤ t) = [] := by
      rw [List.filter_eq_nil_iff]
      intro e he
      obtain ⟨i, -, rfl⟩ := List.mem_map.mp he
      simp [flappingEntry_dimension]
    have hdown : downEntry.effectiveAt = 60 * 24 * hour := rfl
    rw [windowRows, List.filter_cons, decide_eq_true hup, List.filter_append, hnone,
      List.nil_append, List.filter_cons, hdown]
    by_cases h : 60 * 24 * hour ≤ t
    · rw [decide_eq_true h, if_pos h]
      rfl
    · rw [decide_eq_false h, if_neg h]
      rfl
  rw [inForce, latestEntry, havail]
  split <;> rfl

theorem flapping_heldFor :
    heldFor (upEntry :: windowRows) .unavailable 0 (90 * 24 * hour) = (30 * 24 * hour).toNat := by
  have hzero : duration (fun t => inForce (upEntry :: windowRows) t = .availability .unavailable)
      0 (60 * 24 * hour) = 0 := by
    rw [duration_eq_zero_iff]
    intro t ht hlt
    rw [flapping_inForce ht, if_neg (by omega)]
    simp
  have hrest : duration (fun t => inForce (upEntry :: windowRows) t = .availability .unavailable)
      (60 * 24 * hour) (90 * 24 * hour) = (90 * 24 * hour - 60 * 24 * hour).toNat := by
    apply duration_of_forall
    intro t ht _
    rw [flapping_inForce (le_trans (by decide) ht), if_pos ht]
  have hlength : 90 * 24 * hour - 60 * 24 * hour = 30 * 24 * hour := by decide
  have hsum : heldFor (upEntry :: windowRows) .unavailable 0 (90 * 24 * hour) = _ + _ :=
    duration_add (b := 60 * 24 * hour) (by decide) (by decide)
  omega

/-- No change is in the timeline, so the initial state lasts to the end. -/
theorem flapping_secondsOf {v : Availability} (hv : v ≠ .unknown) :
    (calculateHistoryAggregate flappingDB (upEntry :: windowRows)
        (selectTimeline (upEntry :: windowRows) 0 (90 * 24 * hour)) 1 0
        (90 * 24 * hour)).secondsOf v = if v = .active then 7776000 else 0 := by
  have hchanges : changesOf ((List.range 5000).map flappingEntry) = [] := by
    rw [changesOf, List.map_eq_nil_iff, List.filter_eq_nil_iff]
    intro e he
    obtain ⟨i, -, rfl⟩ := List.mem_map.mp he
    simp [flappingEntry_dimension]
  have hinitial : initialState (upEntry :: windowRows) 0 = .availability .active := by
    have hbefore : windowRows.filter (beforeWindow 0) = [] := by
      rw [List.filter_eq_nil_iff]
      intro e he
      rcases mem_windowRows he with ⟨i, -, rfl⟩ | rfl
      · simp [beforeWindow, flappingEntry_dimension]
      · decide
    rw [initialState, List.filter_cons_of_pos (by decide), hbefore]
    rfl
  have htally : tally maxDuration (StatusValue.availability v) (0, .availability .active) []
      (90 * 24 * hour) = if v = .active then 7776000000000000 else 0 := by
    cases v <;> decide
  rw [secondsOf_calculateHistoryAggregate hv, flapping_timeline, hchanges, hinitial, htally]
  split <;> norm_num [seconds]

end DomainMonitor.Monitor
