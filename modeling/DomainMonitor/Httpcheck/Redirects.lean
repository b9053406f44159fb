import Mathlib.Data.List.Chain
import DomainMonitor.Httpcheck.Outcome

/-! # The redirect walk of an attempt

    A server may answer with any redirects, also with a chain that never ends. The
    loop of `checkAttempt` keeps a set of canonical URLs it has requested and a list of
    hops; what it can do with a redirect is said once, and everything about the walk
    follows from that.
-/

namespace DomainMonitor.Httpcheck

open Loop

variable {lib : Library} {config : Config} {mode : ContentMode} {server : Server} {initial : URL}
  {n k : Nat} {st : ChainState} {response : Response} {duration : Int}

/-! ### What a redirect leads to -/

/-- An iteration that goes on. -/
theorem checkStep_follows {st' : ChainState} (h : checkStep lib config mode server k st = .next st') :
    ∃ response hop, HopFrom lib st hop ∧ hop.resolvedTarget = st'.current.text lib.url ∧
      hop.errorCode = none ∧ MayFollow st.current st'.current ∧
      canonicalURL lib st'.current ∉ st.seen ∧
      st'.seen = canonicalURL lib st'.current :: st.seen ∧
      st'.attempt = (observed server k st response).attempt.addHop hop := by
  obtain ⟨response, -, -, hfollow⟩ := checkStep_next h
  cases hfollow with
  | followed _ hfrom _ _ _ htarget herror hmay hfresh =>
    exact ⟨response, _, ⟨by rw [hfrom.number, observed_redirects], hfrom.source⟩, htarget, herror, hmay,
      hfresh, rfl, rfl⟩

/-! ### The requests -/

/-- The URLs that an attempt requests, in order. -/
def requests (lib : Library) (config : Config) (mode : ContentMode) (initial : URL) (server : Server)
    (attemptNumber : Nat) : List URL :=
  emitted (checkStep lib config mode server) (fun _ st => [st.current])
    (config.maxRedirects.toNat + 1) 0 (initialState lib initial server attemptNumber)

/-- The requests of a run from a state: each goes on from the one before, and none
    repeats what was seen. -/
structure RequestsFrom (lib : Library) (st : ChainState) (urls : List URL) : Prop where
  start : ∀ u, urls.head? = some u → u = st.current
  followed : urls.IsChain MayFollow
  distinct : (urls.map (canonicalURL lib)).Nodup
  unseen : ∀ u ∈ urls.tail, canonicalURL lib u ∉ st.seen

theorem emitted_requests (lib : Library) (config : Config) (mode : ContentMode) (server : Server)
    (fuel : Nat) : ∀ (k : Nat) (st : ChainState),
    canonicalURL lib st.current ∈ st.seen →
    RequestsFrom lib st (emitted (checkStep lib config mode server) (fun _ st => [st.current])
      fuel k st) ∧
    (emitted (checkStep lib config mode server) (fun _ st => [st.current]) fuel k st).length ≤
      fuel := by
  induction fuel with
  | zero =>
    intro k st _
    exact ⟨⟨by simp [emitted], by simp [emitted], by simp [emitted], by simp [emitted]⟩, Nat.le_refl 0⟩
  | succ fuel ih =>
    intro k st hcurrent
    cases hstep : checkStep lib config mode server k st with
    | done a =>
      rw [emitted_done fuel hstep]
      exact ⟨⟨by simp, by simp, by simp, by simp⟩, by simp⟩
    | next st' =>
      rw [emitted_next fuel hstep]
      obtain ⟨response, hop, -, -, -, hmay, hfresh, hseen, -⟩ := checkStep_follows hstep
      obtain ⟨hrest, hlength⟩ := ih (k + 1) st' (by rw [hseen]; exact List.mem_cons_self)
      generalize emitted (checkStep lib config mode server) (fun _ st => [st.current]) fuel (k + 1)
        st' = urls at hrest hlength ⊢
      -- No later request is one that was seen when this state was entered.
      have hlater : ∀ u ∈ urls, canonicalURL lib u ∉ st.seen := by
        intro u hu hmem
        cases urls with
        | nil => cases hu
        | cons v urls =>
          rcases List.mem_cons.mp hu with rfl | hu
          · rw [hrest.start u rfl] at hmem
            exact hfresh hmem
          · exact hrest.unseen u hu (by rw [hseen]; exact List.mem_cons_of_mem _ hmem)
      refine ⟨⟨fun u hu => ?_, ?_, ?_, hlater⟩, ?_⟩
      · exact (Option.some.inj hu).symm
      · refine List.isChain_cons.mpr ⟨fun u hu => ?_, hrest.followed⟩
        rw [hrest.start u hu]
        exact hmay
      · refine List.nodup_cons.mpr ⟨fun hmem => ?_, hrest.distinct⟩
        obtain ⟨u, hu, heq⟩ := List.mem_map.mp hmem
        exact hlater u hu (by rw [heq]; exact hcurrent)
      · simpa using hlength

/-! ### The hops -/

/-- The hops of a list, each leading to the source of the next; the walk starts at
    `initial`. -/
structure HopsFrom (lib : Library) (initial : URL) (hops : List RedirectHop) : Prop where
  source : ∀ hop, hops.head? = some hop → hop.sourceURL = initial.text lib.url
  linked : hops.IsChain (fun hop next => hop.resolvedTarget = next.sourceURL)

/-- What holds at the start of an iteration: no hop carries an error, and the last one
    leads to the current URL. -/
structure HopsAt (lib : Library) (initial : URL) (st : ChainState) : Prop where
  hops : HopsFrom lib initial st.attempt.redirects
  errors : ∀ hop ∈ st.attempt.redirects, hop.errorCode = none
  arrived : (st.attempt.redirects.getLast?.map RedirectHop.resolvedTarget).getD
    (initial.text lib.url) = st.current.text lib.url

theorem HopsAt.addHop (h : HopsAt lib initial st) {hop : RedirectHop}
    (hsource : hop.sourceURL = st.current.text lib.url) :
    HopsFrom lib initial (st.attempt.redirects ++ [hop]) := by
  have harrived := h.arrived
  rw [← hsource] at harrived
  refine ⟨?_, ?_⟩
  · intro first hfirst
    cases hhops : st.attempt.redirects with
    | nil =>
      rw [hhops] at hfirst harrived
      cases hfirst
      exact harrived.symm
    | cons head tail =>
      rw [hhops] at hfirst
      cases hfirst
      exact h.hops.source first (by rw [hhops]; rfl)
  · refine List.isChain_append.mpr ⟨h.hops.linked, List.isChain_singleton hop, ?_⟩
    intro last hlast next hnext
    rw [Option.mem_def] at hlast
    rw [hlast] at harrived
    cases hnext
    exact harrived

theorem visits_hopsAt
    (h : Reaches lib config mode initial server n k st) :
    HopsAt lib initial st := by
  refine Visits.invariant (P := fun _ st => HopsAt lib initial st) ?_ ?_ h
  · exact ⟨⟨fun hop hhop => (by cases hhop), List.isChain_nil⟩, fun hop hhop => (by cases hhop), rfl⟩
  · intro k st st' hst hstep
    obtain ⟨response, hop, hhop, htarget, herror, -, -, -, hattempt⟩ := checkStep_follows hstep
    have hredirects : st'.attempt.redirects = st.attempt.redirects ++ [hop] := by
      rw [hattempt]
      exact congrArg (· ++ [hop]) (observed_redirects ..)
    refine ⟨?_, ?_, ?_⟩
    · rw [hredirects]
      exact hst.addHop hhop.source
    · rw [hredirects, List.forall_mem_append]
      exact ⟨hst.errors, by simpa using herror⟩
    · rw [hredirects, List.getLast?_concat]
      exact htarget

/-- The hops of a finished attempt: only the last can carry an error. -/
theorem checkAttempt_hops (lib : Library) (config : Config) (mode : ContentMode) (initial : URL)
    (server : Server) (n : Nat) :
    HopsFrom lib initial (checkAttempt lib config mode initial server n).redirects ∧
      ∀ hop ∈ (checkAttempt lib config mode initial server n).redirects.dropLast,
        hop.errorCode = none := by
  obtain ⟨k, st, hvisits, hdone⟩ := checkAttempt_visits lib config mode initial server n
  generalize checkAttempt lib config mode initial server n = a at hdone ⊢
  have hst := visits_hopsAt hvisits
  -- Either the hops are those of the state, or one more is recorded.
  have hredirects : a.redirects = st.attempt.redirects ∨
      ∃ hop, hop.sourceURL = st.current.text lib.url ∧
        a.redirects = st.attempt.redirects ++ [hop] := by
    cases hresult : (server.exchange k).result with
    | error err =>
      rw [checkStep_error hresult] at hdone
      rw [← Next.done.inj hdone]
      exact .inl rfl
    | ok response =>
      have hobserved := observed_redirects server k st response
      cases hredirect : isRedirect response.statusCode with
      | true =>
        have hfollow := followRedirect_redirected lib config server (observed server k st response)
          response (server.exchange k).timing.total
        rw [← checkStep_redirect lib config mode st hresult hredirect, hdone] at hfollow
        cases hfollow with
        | beyond => exact .inl hobserved
        | @refused hop _ _ _ _ _ hfrom =>
          exact .inr ⟨hop, hfrom.source, congrArg (· ++ [hop]) hobserved⟩
      | false =>
        rw [checkStep_final lib config mode st hresult hredirect] at hdone
        rw [← Next.done.inj hdone, (finishAttempt_finishOf ..).redirects]
        exact .inl hobserved
  rcases hredirects with heq | ⟨hop, hsource, heq⟩
  · rw [heq]
    exact ⟨hst.hops, fun hop hhop => hst.errors hop (List.mem_of_mem_dropLast hhop)⟩
  · rw [heq, List.dropLast_concat]
    exact ⟨hst.addHop hsource, hst.errors⟩

theorem checkAttempt_final (lib : Library) (mode : ContentMode) (initial : URL) (server : Server)
    (n : Nat) (hmax : 0 ≤ config.maxRedirects) :
    isRedirect (checkAttempt lib config mode initial server n).finalStatusCode = false := by
  rcases checkAttempt_cases hmax with ⟨response, st, -, -, hredirect, k, heq⟩ | ⟨-, h⟩
  · rw [heq, (finishAttempt_finishOf ..).final]
    exact hredirect
  · rw [h.final]
    rfl

/-! ### The walk -/

/-- Everything about the redirects of an attempt: the URLs it requests, and the hops it
    records. -/
structure Walk (lib : Library) (maxRedirects : Int) (initial : URL) (urls : List URL)
    (a : Attempt) : Prop where
  count : (urls.length : Int) ≤ maxRedirects + 1
  first : urls.head? = some initial
  distinct : (urls.map (canonicalURL lib)).Nodup
  followed : urls.IsChain MayFollow
  numbers : a.redirects.map RedirectHop.hop = List.range a.redirects.length
  hops : HopsFrom lib initial a.redirects
  errors : ∀ hop ∈ a.redirects.dropLast, hop.errorCode = none
  final : isRedirect a.finalStatusCode = false

/-- **The redirect walk**: whatever the servers answer, the loop returns after at most
    `MaxRedirects + 1` requests, and its requests and hops form a walk. -/
theorem redirect_walk (lib : Library) (config : Config) (mode : ContentMode) (initial : URL)
    (server : Server) (attemptNumber : Nat) :
    run (checkStep lib (normalizeConfig config) mode server)
        ((normalizeConfig config).maxRedirects.toNat + 1) 0
        (initialState lib initial server attemptNumber) =
      some (checkAttempt lib (normalizeConfig config) mode initial server attemptNumber) ∧
    Walk lib (normalizeConfig config).maxRedirects initial
      (requests lib (normalizeConfig config) mode initial server attemptNumber)
      (checkAttempt lib (normalizeConfig config) mode initial server attemptNumber) := by
  have hmax := (normalizeConfig_bounds config).1
  generalize normalizeConfig config = config at hmax
  obtain ⟨hrequests, hlength⟩ := emitted_requests lib config mode server (config.maxRedirects.toNat + 1) 0
    (initialState lib initial server attemptNumber) (List.mem_singleton_self _)
  obtain ⟨-, hnumbers, -⟩ := checkAttempt_redirects lib mode initial server attemptNumber hmax
  obtain ⟨hhops, herrors⟩ := checkAttempt_hops lib config mode initial server attemptNumber
  refine ⟨(Option.some_get _).symm, ?_⟩
  exact
    { count := by unfold requests; omega
      first := by unfold requests; rw [emitted]; rfl
      distinct := hrequests.distinct
      followed := hrequests.followed
      numbers := hnumbers
      hops := hhops
      errors := herrors
      final := checkAttempt_final lib mode initial server attemptNumber hmax }

end DomainMonitor.Httpcheck
