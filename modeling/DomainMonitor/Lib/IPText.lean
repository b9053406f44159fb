import DomainMonitor.Lib.NetIP

/-! # An address is read back from its text

    `netip.ParseAddr` returns the address that `Addr.String` has written, for
    every valid address that is not IPv4-mapped. The zone is copied as it is, so
    this holds for any bytes in it.
-/

namespace NetIP

open Strings Utf8

/-- `Addr.IsValid`. The zero `Addr` is the one without bytes. -/
def Addr.isValid : Addr → Bool
  | .v4 bytes => bytes.length = 4
  | .v6 bytes _ => bytes.length = 16

/-! ### Dotted decimal -/

theorem octet?_decimal (b : UInt8) : octet? (decimal b) = some b :=
  forall_byte (P := fun b => octet? (decimal b) = some b) (by decide +kernel) b

variable {c sep : UInt8} {bytes s : List UInt8} {n : Nat}

theorem isDigit_of_mem_decimal {b : UInt8} (h : c ∈ decimal b) : isDigit c = true := by
  have hall : (decimal b).all isDigit = true :=
    forall_byte (P := fun b => (decimal b).all isDigit = true) (by decide +kernel) b
  exact List.all_eq_true.mp hall c h

theorem join_eq_intercalate (sep : UInt8) (parts : List (List UInt8)) :
    join sep parts = [sep].intercalate parts := by
  fun_induction join sep parts with
  | case1 => rfl
  | case2 part => simp
  | case3 part parts hne ih =>
    cases parts with
    | nil => exact absurd rfl hne
    | cons next parts => simp [ih]

theorem mem_join {parts : List (List UInt8)} (h : c ∈ join sep parts) :
    c = sep ∨ ∃ part ∈ parts, c ∈ part := by
  fun_induction join sep parts with
  | case1 => cases h
  | case2 part => exact .inr ⟨part, List.mem_cons_self, h⟩
  | case3 part parts hne ih =>
    rw [List.mem_append, List.mem_cons] at h
    obtain h | h | h := h
    · exact .inr ⟨part, List.mem_cons_self, h⟩
    · exact .inl h
    · obtain hsep | ⟨other, hother, hc⟩ := ih h
      · exact .inl hsep
      · exact .inr ⟨other, List.mem_cons_of_mem part hother, hc⟩

theorem mem_dotted (h : c ∈ dotted bytes) : isDigit c = true ∨ c = 46 := by
  obtain hsep | ⟨part, hpart, hc⟩ := mem_join h
  · exact .inr hsep
  · obtain ⟨b, -, rfl⟩ := List.mem_map.mp hpart
    exact .inl (isDigit_of_mem_decimal hc)

theorem parseIPv4_dotted (h : bytes.length = 4) : parseIPv4 (dotted bytes) = some bytes := by
  match bytes, h with
  | [a, b, c, d], _ =>
    have hsplit : (dotted [a, b, c, d]).splitOn 46 = [a, b, c, d].map decimal := by
      unfold dotted
      rw [join_eq_intercalate]
      refine List.splitOn_intercalate 46 ?_ (by simp)
      intro part hpart hdot
      obtain ⟨x, -, rfl⟩ := List.mem_map.mp hpart
      exact absurd (isDigit_of_mem_decimal hdot) (by decide)
    simp only [parseIPv4, hsplit, List.map_cons, List.map_nil]
    simp [octet?_decimal]

/-! ### Groups -/

theorem hexDigit?_digit {d : Nat} (h : d < 16) : hexDigit? (digit d) = some d := by
  have hall : ∀ d < 16, hexDigit? (digit d) = some d := by decide
  exact hall d h

/-- The value of hexadecimal digits, as the parser accumulates it. -/
def hexFold (s : List UInt8) : Nat := s.foldl (fun n c => n * 16 + (hexDigit? c).getD 0) 0

/-- What the parser sees of a group. -/
structure Group (s : List UInt8) (n : Nat) : Prop where
  digits : ∀ c ∈ s, (hexDigit? c).isSome = true
  nonempty : s ≠ []
  length : s.length ≤ 4
  value : hexFold s = n

/-- A group is written with one to four digits that have its value. -/
theorem group_hexGroup (h : n < 65536) : Group (hexGroup n) n where
  digits := by
    intro c hc
    have hdigit : ∃ d < 16, c = digit d := by
      simp only [hexGroup, List.mem_append, List.mem_ite_nil_right, List.mem_singleton] at hc
      obtain ((⟨-, rfl⟩ | ⟨-, rfl⟩) | ⟨-, rfl⟩) | rfl := hc
      all_goals exact ⟨_, Nat.mod_lt _ (by decide), rfl⟩
    obtain ⟨d, hd, rfl⟩ := hdigit
    rw [hexDigit?_digit hd]
    rfl
  nonempty := by simp [hexGroup]
  length := by
    unfold hexGroup
    split_ifs <;> simp
  value := by
    have hdigit : ∀ m, (hexDigit? (digit (m % 16))).getD 0 = m % 16 := by
      intro m
      rw [hexDigit?_digit (Nat.mod_lt _ (by decide))]
      rfl
    -- One case for each number of digits.
    unfold hexFold hexGroup
    split_ifs <;> simp only [List.nil_append, List.cons_append, List.foldl_cons, List.foldl_nil, hdigit] <;>
      omega

/-- The two bytes of a group. -/
def groupBytes (n : Nat) : List UInt8 := [UInt8.ofNat (n / 256), UInt8.ofNat (n % 256)]

theorem takeWhile_group (h : Group s n) (rest : List UInt8)
    (hrest : ∀ c ∈ rest.head?, (hexDigit? c).isSome = false) :
    (s ++ rest).takeWhile (fun c => (hexDigit? c).isSome) = s := by
  rw [List.takeWhile_append_of_pos h.digits]
  cases rest with
  | nil => simp
  | cons c rest => simp [hrest c rfl]

theorem colon_not_hexDigit {rest : List UInt8} :
    ∀ c ∈ (58 :: rest).head?, (hexDigit? c).isSome = false := by
  intro c hc
  cases hc
  decide

/-- A group at the end of the text. -/
theorem parseGroups_last (h : Group s n) (fuel : Nat) (ip : List UInt8) (ellipsis : Option Nat) :
    parseGroups (fuel + 1) ip ellipsis s = some (ip ++ groupBytes n, ellipsis) := by
  have htake : s.takeWhile (fun c => (hexDigit? c).isSome) = s := by
    have := takeWhile_group h [] (by simp)
    rwa [List.append_nil] at this
  have hvalue := h.value
  unfold hexFold at hvalue
  simp only [parseGroups, htake, hvalue]
  rw [if_neg (by simpa [not_or] using ⟨h.nonempty, h.length⟩), List.drop_length]
  rfl

/-- A group and a colon. -/
theorem parseGroups_colon (h : Group s n) (fuel : Nat) (ip : List UInt8) (ellipsis : Option Nat)
    (hc : c ≠ 58) (rest : List UInt8) :
    parseGroups (fuel + 1) ip ellipsis (s ++ 58 :: c :: rest) =
      parseGroups fuel (ip ++ groupBytes n) ellipsis (c :: rest) := by
  have htake := takeWhile_group h (58 :: c :: rest) colon_not_hexDigit
  have hvalue := h.value
  unfold hexFold at hvalue
  simp only [parseGroups, htake, hvalue]
  rw [if_neg (by simpa [not_or] using ⟨h.nonempty, h.length⟩), List.drop_left]
  simp only [show (58 : UInt8) ≠ 46 by decide, if_false, ne_eq, not_true_eq_false]
  rw [if_pos hc]
  rfl

/-- A group and two colons. -/
theorem parseGroups_ellipsis (h : Group s n) (fuel : Nat) (ip : List UInt8) (rest : List UInt8) :
    parseGroups (fuel + 1) ip none (s ++ 58 :: 58 :: rest) =
      if rest = [] then some (ip ++ groupBytes n, some (ip ++ groupBytes n).length)
      else parseGroups fuel (ip ++ groupBytes n) (some (ip ++ groupBytes n).length) rest := by
  have htake := takeWhile_group h (58 :: 58 :: rest) colon_not_hexDigit
  have hvalue := h.value
  unfold hexFold at hvalue
  simp only [parseGroups, htake, hvalue]
  rw [if_neg (by simpa [not_or] using ⟨h.nonempty, h.length⟩), List.drop_left]
  simp only [show (58 : UInt8) ≠ 46 by decide, if_false, ne_eq, not_true_eq_false]
  rfl

/-! ### Several groups -/

/-- Groups with a colon between them. -/
def groupText (gs : List Nat) : List UInt8 := join 58 (gs.map hexGroup)

theorem groupText_cons_cons (g g' : Nat) (gs : List Nat) :
    groupText (g :: g' :: gs) = hexGroup g ++ 58 :: groupText (g' :: gs) := rfl

/-- The text of groups starts with a digit. -/
theorem groupText_head {g : Nat} (hg : g < 65536) (gs : List Nat) :
    ∃ c rest, groupText (g :: gs) = c :: rest ∧ (hexDigit? c).isSome = true := by
  have hgroup := group_hexGroup hg
  have happend : ∃ rest, groupText (g :: gs) = hexGroup g ++ rest := by
    cases gs with
    | nil => exact ⟨[], (List.append_nil _).symm⟩
    | cons g' gs => exact ⟨_, groupText_cons_cons g g' gs⟩
  obtain ⟨rest, hrest⟩ := happend
  cases hs : hexGroup g with
  | nil => exact absurd hs hgroup.nonempty
  | cons c s =>
    refine ⟨c, s ++ rest, by rw [hrest, hs]; rfl, hgroup.digits c ?_⟩
    rw [hs]
    exact List.mem_cons_self

theorem ne_colon_of_hexDigit (h : (hexDigit? c).isSome = true) : c ≠ 58 := by
  rintro rfl
  exact absurd h (by decide)

variable {gs : List Nat}

theorem groupText_eq_nil (hgs : ∀ g ∈ gs, g < 65536) : groupText gs = [] ↔ gs = [] := by
  refine ⟨fun h => ?_, fun h => by rw [h]; rfl⟩
  cases gs with
  | nil => rfl
  | cons g gs =>
    obtain ⟨c, rest, hhead, -⟩ := groupText_head (hgs g List.mem_cons_self) gs
    rw [hhead] at h
    cases h

/-- A text that starts with a group does not start with a colon. -/
theorem take_groupText_ne (hgs : ∀ g ∈ gs, g < 65536) (hne : gs ≠ []) (rest : List UInt8) :
    (groupText gs ++ rest).take 2 ≠ [58, 58] := by
  cases gs with
  | nil => exact absurd rfl hne
  | cons g gs =>
    obtain ⟨c, tail, hhead, hc⟩ := groupText_head (hgs g List.mem_cons_self) gs
    rw [hhead, List.cons_append, List.take_succ_cons]
    intro h
    exact ne_colon_of_hexDigit hc (List.cons.inj h).1

theorem mem_groupText (hgs : ∀ g ∈ gs, g < 65536) (hc : c ∈ groupText gs) :
    (hexDigit? c).isSome = true ∨ c = 58 := by
  obtain hsep | ⟨part, hpart, hc⟩ := mem_join hc
  · exact .inr hsep
  · obtain ⟨g, hg, rfl⟩ := List.mem_map.mp hpart
    exact .inl ((group_hexGroup (hgs g hg)).digits c hc)

theorem parseGroups_groupText (hgs : ∀ g ∈ gs, g < 65536) (hne : gs ≠ []) (ellipsis : Option Nat) :
    ∀ {fuel : Nat} (ip : List UInt8), gs.length ≤ fuel →
      parseGroups fuel ip ellipsis (groupText gs) = some (ip ++ gs.flatMap groupBytes, ellipsis) := by
  induction gs with
  | nil => exact absurd rfl hne
  | cons g gs ih =>
    intro fuel ip hfuel
    have hg := group_hexGroup (hgs g List.mem_cons_self)
    obtain ⟨fuel, rfl⟩ : ∃ f, fuel = f + 1 := ⟨fuel - 1, by simp at hfuel; omega⟩
    cases gs with
    | nil => simpa [groupText, join] using parseGroups_last hg fuel ip ellipsis
    | cons g' gs =>
      obtain ⟨c, rest, hhead, hc⟩ := groupText_head (hgs g' (by simp)) gs
      rw [groupText_cons_cons, hhead, parseGroups_colon hg fuel ip ellipsis (ne_colon_of_hexDigit hc),
        ← hhead, ih (fun x hx => hgs x (List.mem_cons_of_mem g hx)) (by simp) _
          (by simp at hfuel ⊢; omega)]
      simp

theorem parseGroups_groupText_ellipsis (hgs : ∀ g ∈ gs, g < 65536) (hne : gs ≠ [])
    (rest : List UInt8) : ∀ {fuel : Nat} (ip : List UInt8), gs.length ≤ fuel →
      parseGroups fuel ip none (groupText gs ++ 58 :: 58 :: rest) =
        if rest = [] then
          some (ip ++ gs.flatMap groupBytes, some (ip ++ gs.flatMap groupBytes).length)
        else parseGroups (fuel - gs.length) (ip ++ gs.flatMap groupBytes)
          (some (ip ++ gs.flatMap groupBytes).length) rest := by
  induction gs with
  | nil => exact absurd rfl hne
  | cons g gs ih =>
    intro fuel ip hfuel
    have hg := group_hexGroup (hgs g List.mem_cons_self)
    obtain ⟨fuel, rfl⟩ : ∃ f, fuel = f + 1 := ⟨fuel - 1, by simp at hfuel; omega⟩
    cases gs with
    | nil => simpa [groupText, join] using parseGroups_ellipsis hg fuel ip rest
    | cons g' gs =>
      obtain ⟨c, tail, hhead, hc⟩ := groupText_head (hgs g' (by simp)) gs
      rw [groupText_cons_cons, List.append_assoc, List.cons_append, hhead, List.cons_append,
        parseGroups_colon hg fuel ip none (ne_colon_of_hexDigit hc), ← List.cons_append, ← hhead,
        ih (fun x hx => hgs x (List.mem_cons_of_mem g hx)) (by simp) _
          (by simp at hfuel ⊢; omega)]
      simp

/-! ### The run of zeros -/

/-- A run that `zeroRun` may choose: at least two groups, all of them zero. -/
structure ZeroRun (gs : List Nat) (start stop : Nat) : Prop where
  split : gs = gs.take start ++ List.replicate (stop - start) 0 ++ gs.drop stop
  length : start + 2 ≤ stop
  bound : stop ≤ gs.length

theorem zeroRun_spec {start stop : Nat} (h : zeroRun gs = some (start, stop)) :
    ZeroRun gs start stop := by
  -- Every candidate the loop keeps is such a run.
  suffices hinv : ∀ r ∈ zeroRun gs, ZeroRun gs r.1 r.2 by
    exact hinv (start, stop) h
  unfold zeroRun
  refine List.foldlRecOn (motive := fun best : Option (Nat × Nat) => ∀ r ∈ best, ZeroRun gs r.1 r.2)
    _ _ (by simp) ?_
  intro best hbest i _
  dsimp only
  split_ifs with hlong
  · intro r hr
    cases hr
    have hzeros : (gs.drop i).takeWhile (· == 0) =
        List.replicate ((gs.drop i).takeWhile (· == 0)).length 0 := by
      refine List.eq_replicate_iff.mpr ⟨rfl, fun b hb => ?_⟩
      simpa using List.mem_takeWhile_imp hb
    have hlength : ((gs.drop i).takeWhile (· == 0)).length ≤ (gs.drop i).length :=
      (List.takeWhile_sublist _).length_le
    rw [List.length_drop] at hlength
    refine ⟨?_, by omega, by dsimp only; omega⟩
    have hdrop := List.takeWhile_append_dropWhile (l := gs.drop i) (p := (· == 0))
    have hwhile : (gs.drop i).dropWhile (· == 0) =
        gs.drop (i + ((gs.drop i).takeWhile (· == 0)).length) := by
      rw [← List.drop_drop]
      exact (List.drop_left' rfl).symm.trans (congrArg (List.drop _) hdrop)
    dsimp only
    rw [Nat.add_sub_cancel_left, ← hzeros, ← hwhile, List.append_assoc, hdrop,
      List.take_append_drop]
  · exact hbest

/-! ### Sixteen bytes -/

theorem groups_lt : ∀ g ∈ groups bytes, g < 65536 := by
  fun_induction groups bytes with
  | case1 high low rest ih =>
    intro g hg
    have hhigh := high.toNat_lt
    have hlow := low.toNat_lt
    rcases List.mem_cons.mp hg with rfl | hg
    · omega
    · exact ih g hg
  | case2 bytes hshort =>
    intro g hg
    cases hg

theorem groupBytes_group (high low : UInt8) :
    groupBytes (high.toNat * 256 + low.toNat) = [high, low] := by
  have hlow := low.toNat_lt
  unfold groupBytes
  rw [show (high.toNat * 256 + low.toNat) / 256 = high.toNat by omega,
    show (high.toNat * 256 + low.toNat) % 256 = low.toNat by omega]
  simp

theorem flatMap_groupBytes_groups : ∀ {bytes : List UInt8}, bytes.length = 2 * n →
    (groups bytes).flatMap groupBytes = bytes ∧ (groups bytes).length = n := by
  induction n with
  | zero =>
    intro bytes h
    rw [List.length_eq_zero_iff.mp h]
    exact ⟨rfl, rfl⟩
  | succ n ih =>
    intro bytes h
    match bytes, h with
    | high :: low :: rest, h =>
      have hrest : rest.length = 2 * n := by
        simp only [List.length_cons] at h
        omega
      obtain ⟨hflat, hlength⟩ := ih hrest
      simp only [groups, List.flatMap_cons, groupBytes_group, hflat, List.length_cons, hlength,
        and_true]
      rfl

theorem flatMap_replicate_zero (n : Nat) :
    (List.replicate n 0).flatMap groupBytes = List.replicate (2 * n) 0 := by
  induction n with
  | zero => rfl
  | succ n ih =>
    rw [List.replicate_succ, List.flatMap_cons, ih, show 2 * (n + 1) = 2 * n + 2 by omega,
      List.replicate_add, ← List.replicate_add, Nat.add_comm, List.replicate_add]
    rfl

theorem length_flatMap_groupBytes (gs : List Nat) : (gs.flatMap groupBytes).length = 2 * gs.length := by
  induction gs with
  | nil => rfl
  | cons g gs ih =>
    rw [List.flatMap_cons, List.length_append, ih, List.length_cons]
    simp only [groupBytes, List.length_cons, List.length_nil]
    omega

/-- The part of `parseIPv6` that reads the bytes. -/
def parseBytes (s : List UInt8) : Option (List UInt8) :=
  if s.take 2 = [58, 58] then
    if s.drop 2 = [] then some (List.replicate 16 0)
    else (parseGroups 8 [] (some 0) (s.drop 2)).bind expand
  else (parseGroups 8 [] none s).bind expand

theorem parseBytes_colons (s : List UInt8) :
    parseBytes (58 :: 58 :: s) =
      if s = [] then some (List.replicate 16 0)
      else (parseGroups 8 [] (some 0) s).bind expand := by
  simp [parseBytes]

/-- The zeros that stand for the `::` are those that were left out. -/
theorem expand_run (hbytes : bytes.length = 16) {start stop : Nat}
    (hrun : ZeroRun (groups bytes) start stop) {front back : List UInt8}
    (hfront : front = ((groups bytes).take start).flatMap groupBytes)
    (hback : back = ((groups bytes).drop stop).flatMap groupBytes) :
    expand (front ++ back, some front.length) = some bytes := by
  obtain ⟨hflat, hlength⟩ := flatMap_groupBytes_groups (n := 8) hbytes
  have hbound := hrun.bound
  have hlong := hrun.length
  have hlfront : front.length = 2 * start := by
    rw [hfront, length_flatMap_groupBytes, List.length_take]
    omega
  have hlback : back.length = 2 * (8 - stop) := by
    rw [hback, length_flatMap_groupBytes, List.length_drop, hlength]
  have hsplit : bytes = front ++ List.replicate (2 * (stop - start)) 0 ++ back := by
    calc bytes = (groups bytes).flatMap groupBytes := hflat.symm
      _ = _ := by
        rw [hrun.split, List.flatMap_append, List.flatMap_append, flatMap_replicate_zero,
          hfront, hback]
  rw [expand, if_pos (by rw [List.length_append]; omega), List.take_left, List.drop_left,
    List.length_append, show 16 - (front.length + back.length) = 2 * (stop - start) by omega,
    ← hsplit]

theorem parseBytes_colonHex (hbytes : bytes.length = 16) :
    parseBytes (colonHex (groups bytes)) = some bytes := by
  obtain ⟨hflat, hlength⟩ := flatMap_groupBytes_groups (n := 8) hbytes
  have hlt : ∀ g ∈ groups bytes, g < 65536 := groups_lt
  unfold colonHex
  cases hrun : zeroRun (groups bytes) with
  | none =>
    have hne : groups bytes ≠ [] := by
      intro hnil
      rw [hnil] at hlength
      cases hlength
    have htext := take_groupText_ne hlt hne []
    rw [List.append_nil] at htext
    show parseBytes (groupText (groups bytes)) = some bytes
    rw [parseBytes, if_neg htext, parseGroups_groupText hlt hne none [] (by omega), Option.bind_some,
      hflat, List.nil_append, expand, if_pos hbytes]
  | some run =>
    obtain ⟨start, stop⟩ := run
    have hspec := zeroRun_spec hrun
    have hbound := hspec.bound
    have hlong := hspec.length
    have hback : ∀ g ∈ (groups bytes).drop stop, g < 65536 :=
      fun g hg => hlt g (List.mem_of_mem_drop hg)
    have hfront : ∀ g ∈ (groups bytes).take start, g < 65536 :=
      fun g hg => hlt g (List.mem_of_mem_take hg)
    have hexpand := expand_run hbytes hspec rfl rfl
    show parseBytes (groupText ((groups bytes).take start) ++ [58, 58]
      ++ groupText ((groups bytes).drop stop)) = some bytes
    have hbackText := groupText_eq_nil hback
    by_cases hstart : (groups bytes).take start = []
    · -- The text starts with the two colons.
      rw [hstart] at hexpand ⊢
      show parseBytes (58 :: 58 :: groupText ((groups bytes).drop stop)) = some bytes
      rw [parseBytes_colons]
      by_cases hstop : (groups bytes).drop stop = []
      · rw [hstop] at hexpand ⊢
        exact hexpand
      · rw [if_neg (fun h => hstop (hbackText.mp h)),
          parseGroups_groupText hback hstop (some 0) [] (by rw [List.length_drop]; omega)]
        exact hexpand
    · rw [List.append_assoc, parseBytes, if_neg (take_groupText_ne hfront hstart _)]
      show (parseGroups 8 [] none (groupText ((groups bytes).take start)
        ++ 58 :: 58 :: groupText ((groups bytes).drop stop))).bind expand = _
      rw [parseGroups_groupText_ellipsis hfront hstart _ [] (by rw [List.length_take]; omega)]
      by_cases hstop : (groups bytes).drop stop = []
      · rw [if_pos (hbackText.mpr hstop)]
        rw [hstop, List.flatMap_nil, List.append_nil] at hexpand
        exact hexpand
      · rw [if_neg (fun h => hstop (hbackText.mp h)),
          parseGroups_groupText hback hstop _ _
            (by rw [List.length_drop, List.length_take]; omega)]
        exact hexpand

/-! ### Addresses -/

/-- An IPv6 address is written with hexadecimal digits and colons. -/
theorem mem_colonHex (hc : c ∈ colonHex (groups bytes)) : (hexDigit? c).isSome = true ∨ c = 58 := by
  have hlt : ∀ g ∈ groups bytes, g < 65536 := groups_lt
  unfold colonHex at hc
  cases hrun : zeroRun (groups bytes) with
  | none =>
    rw [hrun] at hc
    exact mem_groupText hlt hc
  | some run =>
    simp only [hrun, List.mem_append] at hc
    obtain (hc | hc) | hc := hc
    · exact mem_groupText (fun g hg => hlt g (List.mem_of_mem_take hg)) hc
    · exact .inr (by simpa using hc)
    · exact mem_groupText (fun g hg => hlt g (List.mem_of_mem_drop hg)) hc

theorem colon_mem_colonHex (hbytes : bytes.length = 16) : 58 ∈ colonHex (groups bytes) := by
  obtain ⟨-, hlength⟩ := flatMap_groupBytes_groups (n := 8) hbytes
  unfold colonHex
  cases hrun : zeroRun (groups bytes) with
  | none =>
    match groups bytes, hlength with
    | g :: g' :: gs, _ =>
      show 58 ∈ groupText (g :: g' :: gs)
      rw [groupText_cons_cons]
      simp
  | some run => simp

theorem cut_of_notMem (h : sep ∉ s) : cut sep s = (s, none) := by
  have heq := cut_eq sep s
  cases hafter : (cut sep s).2 with
  | none =>
    rw [hafter] at heq
    simp only [Option.elim_none, List.append_nil] at heq
    exact Prod.ext heq.symm hafter
  | some after =>
    rw [hafter] at heq
    exact absurd (by rw [heq]; simp) h

theorem parseIPv6_text (hbytes : bytes.length = 16) (zone : List UInt8) :
    parseIPv6 (Addr.v6 bytes zone).text = some (.v6 bytes zone) := by
  have hpercent : (37 : UInt8) ∉ colonHex (groups bytes) := by
    intro hmem
    exact absurd (mem_colonHex hmem) (by decide)
  have hbytes' := parseBytes_colonHex hbytes
  unfold parseBytes at hbytes'
  by_cases hzone : zone = []
  · subst hzone
    simp only [Addr.text, if_true, List.append_nil, parseIPv6, cut_of_notMem hpercent, hbytes']
    rfl
  · simp only [Addr.text, if_neg hzone, parseIPv6, cut_append hpercent, Option.some.injEq, hbytes']
    rfl

/-- The first separator of a text whose first part has none. -/
theorem find?_separator (hc : c = 46 ∨ c = 58) (hmem : c ∈ s)
    (hs : ∀ d ∈ s, d = 46 ∨ d = 58 ∨ d = 37 → d = c) (rest : List UInt8) :
    (s ++ rest).find? (fun c => c = 46 || c = 58 || c = 37) = some c := by
  have hfind : s.find? (fun c => c = 46 || c = 58 || c = 37) = some c := by
    cases hfind : s.find? (fun c => c = 46 || c = 58 || c = 37) with
    | none =>
      have hno := List.find?_eq_none.mp hfind c hmem
      obtain rfl | rfl := hc <;> exact absurd rfl hno
    | some d =>
      have hd := List.find?_some hfind
      simp only [Bool.or_eq_true, decide_eq_true_eq, or_assoc] at hd
      rw [hs d (List.mem_of_find?_eq_some hfind) hd]
  rw [List.find?_append, hfind]
  rfl

theorem parseAddr_text {a : Addr} (hvalid : a.isValid = true) : parseAddr a.text = some a := by
  cases a with
  | v4 bytes =>
    have hbytes : bytes.length = 4 := by simpa [Addr.isValid] using hvalid
    have hfind := find?_separator (s := dotted bytes) (.inl rfl) ?_ ?_ []
    · rw [List.append_nil] at hfind
      simp only [parseAddr, Addr.text, hfind, parseIPv4_dotted hbytes, Option.map_some]
    · obtain ⟨a, b, c, d, rfl⟩ := List.length_eq_four.mp hbytes
      simp [dotted, join]
    · intro d hd hsep
      obtain hdigit | hdot := mem_dotted hd
      · obtain rfl | rfl | rfl := hsep <;> exact absurd hdigit (by decide)
      · exact hdot
  | v6 bytes zone =>
    have hbytes : bytes.length = 16 := by simpa [Addr.isValid] using hvalid
    have hfind := find?_separator (s := colonHex (groups bytes)) (.inr rfl)
      (colon_mem_colonHex hbytes) ?_ (if zone = [] then [] else 37 :: zone)
    · have htext : (Addr.v6 bytes zone).text.find? (fun c => c = 46 || c = 58 || c = 37) = some 58 := hfind
      simp only [parseAddr, htext]
      exact parseIPv6_text hbytes zone
    · intro d hd hsep
      obtain hdigit | hcolon := mem_colonHex hd
      · obtain rfl | rfl | rfl := hsep <;> exact absurd hdigit (by decide)
      · exact hcolon

/-! ### Other texts of an address -/

/-- The bytes of an address without a zone. -/
def isAddrByte (c : UInt8) : Bool := (hexDigit? c).isSome || c = 58 || c = 46

/-- What every text of an address without a zone satisfies. -/
structure AddrText (s : List UInt8) : Prop where
  bytes : ∀ c ∈ s, isAddrByte c = true
  last : s.getLast? ≠ some 46

theorem hexDigit?_lowerByte (c : UInt8) : hexDigit? (lowerByte c) = hexDigit? c :=
  forall_byte (P := fun c => hexDigit? (lowerByte c) = hexDigit? c) (by decide +kernel) c

theorem lowerByte_eq_iff (hsep : sep = 46 ∨ sep = 58 ∨ sep = 37) (c : UInt8) :
    lowerByte c = sep ↔ c = sep := by
  rcases hsep with rfl | rfl | rfl
  · exact forall_byte (P := fun c => lowerByte c = 46 ↔ c = 46) (by decide +kernel) c
  · exact forall_byte (P := fun c => lowerByte c = 58 ↔ c = 58) (by decide +kernel) c
  · exact forall_byte (P := fun c => lowerByte c = 37 ↔ c = 37) (by decide +kernel) c

theorem lowerByte_of_isDigit (h : isDigit c = true) : lowerByte c = c :=
  forall_byte (P := fun c => isDigit c = true → lowerByte c = c) (by decide +kernel) c h

theorem hexDigit?_of_isDigit (h : isDigit c = true) : (hexDigit? c).isSome = true := by
  unfold hexDigit?
  rw [if_pos h]
  rfl

theorem octet?_digits {field : List UInt8} {b : UInt8} (h : octet? field = some b) :
    field ≠ [] ∧ ∀ c ∈ field, isDigit c = true := by
  unfold octet? at h
  dsimp only at h
  split_ifs at h with hbad
  simp only [not_or, Bool.not_eq_false] at hbad
  exact ⟨hbad.1, List.all_eq_true.mp hbad.2.1⟩

/-- An IPv4 address is made of digits and dots, and a digit is last. -/
theorem parseIPv4_some (h : parseIPv4 s = some bytes) : AddrText s ∧ s.map lowerByte = s := by
  have hjoin : [(46 : UInt8)].intercalate (s.splitOn 46) = s := List.intercalate_splitOn 46
  unfold parseIPv4 at h
  split at h
  · rename_i a b c d hfields
    rw [hfields] at hjoin
    simp only [List.mapM_cons, List.mapM_nil, Option.pure_def, Option.bind_eq_bind,
      Option.bind_eq_some_iff] at h
    obtain ⟨a', ha, _, ⟨b', hb, _, ⟨c', hc, _, ⟨d', hd, -⟩, -⟩, -⟩, -⟩ := h
    obtain ⟨hdne, hddigits⟩ := octet?_digits hd
    have hall : ∀ x ∈ s, isDigit x = true ∨ x = 46 := by
      intro x hx
      rw [← hjoin, ← join_eq_intercalate] at hx
      obtain hsep | ⟨part, hpart, hmem⟩ := mem_join hx
      · exact .inr hsep
      · simp only [List.mem_cons, List.not_mem_nil, or_false] at hpart
        obtain rfl | rfl | rfl | rfl := hpart
        · exact .inl ((octet?_digits ha).2 x hmem)
        · exact .inl ((octet?_digits hb).2 x hmem)
        · exact .inl ((octet?_digits hc).2 x hmem)
        · exact .inl (hddigits x hmem)
    refine ⟨⟨?_, ?_⟩, ?_⟩
    · intro x hx
      unfold isAddrByte
      rcases hall x hx with h | rfl
      · rw [hexDigit?_of_isDigit h]
        rfl
      · rfl
    · obtain ⟨d, last, rfl⟩ := (List.eq_nil_or_concat' d).resolve_left hdne
      have hlast := hddigits last (by simp)
      have hs : s = a ++ 46 :: (b ++ 46 :: (c ++ 46 :: d)) ++ [last] := by
        rw [← hjoin]
        simp [List.intercalate, List.intersperse]
      rw [hs, List.getLast?_concat]
      intro heq
      rw [Option.some.inj heq] at hlast
      exact absurd hlast (by decide)
    · refine (List.map_congr_left (fun x hx => ?_)).trans (List.map_id s)
      rcases hall x hx with h | rfl
      · exact lowerByte_of_isDigit h
      · rfl
  · cases h

/-- What an iteration reads: a group at the end, before an IPv4 address, before a
    colon, or before two colons. -/
theorem parseGroups_succ {fuel : Nat} {ip : List UInt8} {ellipsis : Option Nat}
    {r : List UInt8 × Option Nat} (h : parseGroups (fuel + 1) ip ellipsis s = some r) :
    ∃ g rest, Group g (hexFold g) ∧ s = g ++ rest ∧
      ((rest = [] ∧ r = (ip ++ groupBytes (hexFold g), ellipsis)) ∨
       (∃ tail bytes, rest = 46 :: tail ∧ ¬ ((ellipsis = none ∧ ip.length ≠ 12) ∨ ip.length > 12) ∧
          parseIPv4 s = some bytes ∧ r = (ip ++ bytes, ellipsis)) ∨
       (∃ c tail, rest = 58 :: c :: tail ∧ c ≠ 58 ∧
          parseGroups fuel (ip ++ groupBytes (hexFold g)) ellipsis (c :: tail) = some r) ∨
       ∃ tail, rest = 58 :: 58 :: tail ∧ ellipsis = none ∧
          (if tail = [] then
            some (ip ++ groupBytes (hexFold g), some (ip ++ groupBytes (hexFold g)).length)
          else parseGroups fuel (ip ++ groupBytes (hexFold g))
            (some (ip ++ groupBytes (hexFold g)).length) tail) = some r) := by
  have hsplit := List.takeWhile_append_dropWhile (p := fun c => (hexDigit? c).isSome) (l := s)
  have hdigits : ∀ c ∈ s.takeWhile (fun c => (hexDigit? c).isSome), (hexDigit? c).isSome = true :=
    fun c hc => List.mem_takeWhile_imp (p := fun c => (hexDigit? c).isSome) hc
  unfold parseGroups at h
  dsimp only at h
  generalize s.takeWhile (fun c => (hexDigit? c).isSome) = g at hsplit hdigits h
  generalize s.dropWhile (fun c => (hexDigit? c).isSome) = rest at hsplit
  have hdrop : s.drop g.length = rest := by rw [← hsplit, List.drop_left]
  rw [hdrop] at h
  by_cases hbad : g = [] ∨ g.length > 4
  · rw [if_pos hbad] at h
    cases h
  rw [if_neg hbad] at h
  obtain ⟨hne, hlength⟩ := not_or.mp hbad
  refine ⟨g, rest, ⟨hdigits, hne, by omega, rfl⟩, hsplit.symm, ?_⟩
  cases rest with
  | nil => exact .inl ⟨rfl, (Option.some.inj h).symm⟩
  | cons c rest =>
    dsimp only at h
    by_cases hdot : c = 46
    · rw [if_pos hdot] at h
      by_cases hroom : (ellipsis = none ∧ ip.length ≠ 12) ∨ ip.length > 12
      · rw [if_pos hroom] at h
        cases h
      · rw [if_neg hroom] at h
        obtain ⟨bytes, hbytes, hr⟩ := Option.map_eq_some_iff.mp h
        exact .inr (.inl ⟨rest, bytes, by rw [hdot], hroom, hbytes, hr.symm⟩)
    · rw [if_neg hdot] at h
      by_cases hcolon : c = 58
      · subst hcolon
        rw [if_neg (by simp)] at h
        cases rest with
        | nil => cases h
        | cons d tail =>
          dsimp only at h
          by_cases hd : d = 58
          · subst hd
            rw [if_neg (by simp)] at h
            cases ellipsis with
            | some position => cases h
            | none => exact .inr (.inr (.inr ⟨tail, rfl, rfl, h⟩))
          · rw [if_pos hd] at h
            exact .inr (.inr (.inl ⟨d, tail, rfl, hd, h⟩))
      · rw [if_pos hcolon] at h
        cases h

theorem hexFold_map_lowerByte (g : List UInt8) : hexFold (g.map lowerByte) = hexFold g := by
  unfold hexFold
  rw [List.foldl_map]
  simp only [hexDigit?_lowerByte]

theorem Group.lower {g : List UInt8} (h : Group g n) : Group (g.map lowerByte) n where
  digits := by
    intro c hc
    obtain ⟨d, hd, rfl⟩ := List.mem_map.mp hc
    rw [hexDigit?_lowerByte]
    exact h.digits d hd
  nonempty := by simpa using h.nonempty
  length := by simpa using h.length
  value := by rw [hexFold_map_lowerByte, h.value]

theorem Group.addrText {g : List UInt8} (h : Group g n) : AddrText g := by
  refine ⟨fun c hc => ?_, fun hlast => ?_⟩
  · unfold isAddrByte
    rw [h.digits c hc]
    rfl
  · exact absurd (h.digits 46 (List.mem_of_getLast? hlast)) (by decide)

theorem AddrText.append {t : List UInt8} (hs : AddrText s) (ht : AddrText t) :
    AddrText (s ++ t) where
  bytes := List.forall_mem_append.mpr ⟨hs.bytes, ht.bytes⟩
  last := by
    rw [List.getLast?_append]
    cases hlast : t.getLast? with
    | none => exact hs.last
    | some c =>
      have := ht.last
      rw [hlast] at this
      exact this

theorem addrText_colon : AddrText [58] := ⟨by decide +kernel, by decide +kernel⟩

/-- The loop reads hexadecimal digits, colons and dots, in either letter case. -/
theorem parseGroups_some (fuel : Nat) : ∀ (ip : List UInt8) (ellipsis : Option Nat)
    (s : List UInt8) (r : List UInt8 × Option Nat), parseGroups fuel ip ellipsis s = some r →
    AddrText s ∧ parseGroups fuel ip ellipsis (s.map lowerByte) = some r := by
  induction fuel with
  | zero =>
    intro ip ellipsis s r h
    unfold parseGroups at h
    split_ifs at h with hs
    subst hs
    exact ⟨⟨fun c hc => (by cases hc), by simp⟩, h⟩
  | succ fuel ih =>
    intro ip ellipsis s r h
    obtain ⟨g, rest, hg, hs, hcases⟩ := parseGroups_succ h
    rcases hcases with ⟨rfl, rfl⟩ | ⟨tail, bytes, rfl, -, hbytes, -⟩ | ⟨c, tail, rfl, hc, hrest⟩ |
      ⟨tail, rfl, rfl, hrest⟩
    · rw [hs, List.append_nil]
      exact ⟨hg.addrText, parseGroups_last hg.lower fuel ip ellipsis⟩
    · -- The rest is an IPv4 address, and so is the whole text.
      obtain ⟨htext, hsame⟩ := parseIPv4_some hbytes
      exact ⟨htext, by rw [hsame]; exact h⟩
    · obtain ⟨htext, hlower⟩ := ih _ _ _ _ hrest
      have hc' : lowerByte c ≠ 58 := fun heq => hc ((lowerByte_eq_iff (.inr (.inl rfl)) c).mp heq)
      refine ⟨?_, ?_⟩
      · rw [hs]
        exact hg.addrText.append (addrText_colon.append htext)
      · rw [hs, List.map_append, List.map_cons, List.map_cons]
        exact (parseGroups_colon hg.lower fuel ip ellipsis hc' _).trans hlower
    · have hlower : (if tail.map lowerByte = [] then
            some (ip ++ groupBytes (hexFold g), some (ip ++ groupBytes (hexFold g)).length)
          else parseGroups fuel (ip ++ groupBytes (hexFold g))
            (some (ip ++ groupBytes (hexFold g)).length) (tail.map lowerByte)) = some r ∧
          AddrText tail := by
        by_cases htail : tail = []
        · subst htail
          exact ⟨hrest, ⟨fun c hc => (by cases hc), by simp⟩⟩
        · rw [if_neg htail] at hrest
          rw [if_neg (by simpa using htail)]
          obtain ⟨htext, hlower⟩ := ih _ _ _ _ hrest
          exact ⟨hlower, htext⟩
      refine ⟨?_, ?_⟩
      · rw [hs]
        exact hg.addrText.append (addrText_colon.append (addrText_colon.append hlower.2))
      · rw [hs, List.map_append, List.map_cons, List.map_cons]
        exact (parseGroups_ellipsis hg.lower fuel ip _).trans hlower.1

theorem parseBytes_some (h : parseBytes s = some bytes) :
    AddrText s ∧ parseBytes (s.map lowerByte) = some bytes := by
  have hcolons : (s.map lowerByte).take 2 = [58, 58] ↔ s.take 2 = [58, 58] := by
    have hcolon : ∀ c, lowerByte c = 58 ↔ c = 58 := lowerByte_eq_iff (.inr (.inl rfl))
    rcases s with _ | ⟨a, _ | ⟨b, s⟩⟩ <;> simp [hcolon]
  unfold parseBytes at h ⊢
  simp only [hcolons, ← List.map_drop, List.map_eq_nil_iff]
  split_ifs at h ⊢ with h2 hempty
  · refine ⟨?_, h⟩
    rw [← List.take_append_drop 2 s, h2, hempty]
    exact addrText_colon.append addrText_colon
  · obtain ⟨r, hr, hexpand⟩ := Option.bind_eq_some_iff.mp h
    obtain ⟨htext, hlower⟩ := parseGroups_some 8 _ _ _ _ hr
    refine ⟨?_, by rw [hlower]; exact hexpand⟩
    rw [← List.take_append_drop 2 s, h2]
    exact (addrText_colon.append addrText_colon).append htext
  · obtain ⟨r, hr, hexpand⟩ := Option.bind_eq_some_iff.mp h
    obtain ⟨htext, hlower⟩ := parseGroups_some 8 _ _ _ _ hr
    exact ⟨htext, by rw [hlower]; exact hexpand⟩

/-- An address that has no zone. -/
def Addr.zoneless : Addr → Bool
  | .v4 _ => true
  | .v6 _ zone => zone = []

/-- A text of an address without a zone is made of digits, colons and dots, does not
    end with a dot, and can be written in either letter case. -/
theorem parseAddr_some {a : Addr} (h : parseAddr s = some a) (hzone : a.zoneless = true) :
    AddrText s ∧ parseAddr (s.map lowerByte) = some a := by
  have hfind : (s.map lowerByte).find? (fun c => c = 46 || c = 58 || c = 37) =
      (s.find? (fun c => c = 46 || c = 58 || c = 37)).map lowerByte := by
    have hsame : (fun c : UInt8 => decide (c = 46) || decide (c = 58) || decide (c = 37)) ∘ lowerByte =
        fun c => decide (c = 46) || decide (c = 58) || decide (c = 37) := by
      funext c
      simp only [Function.comp, lowerByte_eq_iff (.inl rfl), lowerByte_eq_iff (.inr (.inl rfl)),
        lowerByte_eq_iff (.inr (.inr rfl))]
    rw [List.find?_map, hsame]
  unfold parseAddr at h ⊢
  rw [hfind]
  split at h
  · rename_i hdot
    rw [hdot]
    obtain ⟨bytes, hbytes, rfl⟩ := Option.map_eq_some_iff.mp h
    obtain ⟨htext, hsame⟩ := parseIPv4_some hbytes
    refine ⟨htext, ?_⟩
    rw [hsame]
    exact h
  · rename_i hcolon
    rw [hcolon]
    unfold parseIPv6 at h
    dsimp only at h
    by_cases hempty : (cut 37 s).2 = some []
    · rw [if_pos hempty] at h
      cases h
    rw [if_neg hempty] at h
    obtain ⟨bytes, hbytes, rfl⟩ := Option.map_eq_some_iff.mp h
    -- Without a zone there is no percent sign.
    have hnone : (cut 37 s).2 = none := by
      cases hafter : (cut 37 s).2 with
      | none => rfl
      | some zone =>
        rw [hafter] at hempty hzone
        exact absurd (congrArg some (of_decide_eq_true hzone)) hempty
    have hcut : (cut 37 s).1 = s := by
      have heq := cut_eq 37 s
      rw [hnone] at heq
      simpa using heq.symm
    rw [hcut] at hbytes
    obtain ⟨htext, hlower⟩ := parseBytes_some (s := s) hbytes
    refine ⟨htext, ?_⟩
    have hpercent : (37 : UInt8) ∉ s.map lowerByte := by
      intro hmem
      obtain ⟨c, hc, heq⟩ := List.mem_map.mp hmem
      have hbyte := htext.bytes c hc
      rw [(lowerByte_eq_iff (.inr (.inr rfl)) c).mp heq] at hbyte
      exact absurd hbyte (by decide)
    unfold parseBytes at hlower
    show parseIPv6 (s.map lowerByte) = _
    unfold parseIPv6
    rw [cut_of_notMem hpercent, hnone]
    simp only [reduceCtorEq, if_false, Option.getD_none]
    rw [hlower]
    rfl
  · cases h

theorem AddrText.solid (h : AddrText s) : Solid s := by
  intro c hc
  exact forall_byte (P := fun c => isAddrByte c = true → 32 < c.toNat ∧ c.toNat < 127)
    (by decide +kernel) c (h.bytes c hc)

end NetIP
