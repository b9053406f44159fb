import DomainMonitor.Lib.Strings

/-! # IP addresses as text

    What Go's `net.IP.String` writes: dotted decimal for IPv4 and IPv4-mapped
    addresses, and colon-separated hexadecimal groups for IPv6, where the
    longest run of at least two zero groups, the first one if there are several,
    is written as `::`. And what `netip.ParseAddr` reads.
-/

namespace NetIP

open Strings

/-- The digit `d` of a base up to sixteen. -/
def digit (d : Nat) : UInt8 := if d < 10 then UInt8.ofNat (48 + d) else UInt8.ofNat (87 + d)

variable (b : UInt8) (gs : List Nat) (s ip : List UInt8)

/-- A byte in decimal. -/
def decimal : List UInt8 :=
  let n := b.toNat
  if n < 10 then [digit n]
  else if n < 100 then [digit (n / 10), digit (n % 10)]
  else [digit (n / 100), digit (n / 10 % 10), digit (n % 10)]

/-- A 16-bit group in hexadecimal, without leading zeros. -/
def hexGroup (n : Nat) : List UInt8 :=
  (if n ≥ 0x1000 then [digit (n / 4096 % 16)] else [])
    ++ (if n ≥ 0x100 then [digit (n / 256 % 16)] else [])
    ++ (if n ≥ 0x10 then [digit (n / 16 % 16)] else [])
    ++ [digit (n % 16)]

/-- The parts with `sep` between them. -/
def join (sep : UInt8) : List (List UInt8) → List UInt8
  | [] => []
  | [part] => part
  | part :: parts => part ++ sep :: join sep parts

def dotted : List UInt8 := join 46 (ip.map decimal)

/-- The eight groups of sixteen bytes. -/
def groups : List UInt8 → List Nat
  | high :: low :: rest => (high.toNat * 256 + low.toNat) :: groups rest
  | _ => []

/-- Start and end of the run of zero groups that is written as `::`. -/
def zeroRun : Option (Nat × Nat) :=
  (List.range gs.length).foldl (fun best i =>
    let length := ((gs.drop i).takeWhile (· == 0)).length
    let bestLength := match best with
      | some (start, stop) => stop - start
      | none => 0
    if length ≥ 2 ∧ length > bestLength then some (i, i + length) else best) none

def colonHex : List UInt8 :=
  match zeroRun gs with
  | none => join 58 (gs.map hexGroup)
  | some (start, stop) =>
    join 58 ((gs.take start).map hexGroup) ++ [58, 58] ++ join 58 ((gs.drop stop).map hexGroup)

def hexByte : List UInt8 := [digit (b.toNat / 16), digit (b.toNat % 16)]

/-- The first twelve bytes of an IPv4-mapped address. -/
def mappedBytes : List UInt8 := [0, 0, 0, 0, 0, 0, 0, 0, 0, 0, 255, 255]

/-- `net.IP.String`. -/
def text : List UInt8 :=
  if ip.length = 0 then [60, 110, 105, 108, 62]
  else if ip.length = 4 then dotted ip
  else if ip.length = 16 then
    if ip.take 12 = mappedBytes then dotted (ip.drop 12)
    else colonHex (groups ip)
  else 63 :: ip.flatMap hexByte

example : text [32, 1, 13, 184, 0, 0, 0, 0, 0, 1, 0, 0, 0, 0, 0, 1] =
    "2001:db8::1:0:0:1".toList.flatMap String.utf8EncodeChar := by decide

/-! ### Reading an address -/

inductive Addr where
  | v4 (bytes : List UInt8)
  | v6 (bytes zone : List UInt8)
  deriving DecidableEq

def isDigit (c : UInt8) : Bool := 48 ≤ c.toNat && c.toNat ≤ 57

/-- A decimal field from 0 to 255 without leading zeros. -/
def octet? (field : List UInt8) : Option UInt8 :=
  let value := field.foldl (fun n c => n * 10 + (c.toNat - 48)) 0
  if field = [] ∨ field.all isDigit = false ∨ (field.length > 1 ∧ field.head? = some 48)
      ∨ value > 255 then none
  else some (UInt8.ofNat value)

/-- Four decimal fields between dots. -/
def parseIPv4 : Option (List UInt8) :=
  match s.splitOn 46 with
  | [a, b, c, d] => [a, b, c, d].mapM octet?
  | _ => none

def hexDigit? (c : UInt8) : Option Nat :=
  if isDigit c then some (c.toNat - 48)
  else if 97 ≤ c.toNat ∧ c.toNat ≤ 102 then some (c.toNat - 87)
  else if 65 ≤ c.toNat ∧ c.toNat ≤ 70 then some (c.toNat - 55)
  else none

/-- The loop of `parseIPv6` with `fuel` groups left to read: the bytes read so
    far, and where the `::` was. -/
def parseGroups : Nat → List UInt8 → Option Nat → List UInt8 → Option (List UInt8 × Option Nat)
  | 0, ip, ellipsis, s => if s = [] then some (ip, ellipsis) else none
  | fuel + 1, ip, ellipsis, s =>
    let digits := s.takeWhile (fun c => (hexDigit? c).isSome)
    let group := digits.foldl (fun n c => n * 16 + (hexDigit? c).getD 0) 0
    if digits = [] ∨ digits.length > 4 then none
    else
      let next := ip ++ [UInt8.ofNat (group / 256), UInt8.ofNat (group % 256)]
      match s.drop digits.length with
      | [] => some (next, ellipsis)
      | c :: rest =>
        if c = 46 then
          -- The last four bytes may be written as an IPv4 address.
          if (ellipsis = none ∧ ip.length ≠ 12) ∨ ip.length > 12 then none
          else (parseIPv4 s).map (fun bytes => (ip ++ bytes, ellipsis))
        else if c ≠ 58 then none
        else match rest with
          | [] => none
          | d :: rest =>
            if d ≠ 58 then parseGroups fuel next ellipsis (d :: rest)
            else if ellipsis.isSome then none
            else if rest = [] then some (next, some next.length)
            else parseGroups fuel next (some next.length) rest

/-- The sixteen bytes, with zeros in place of the `::`. -/
def expand : List UInt8 × Option Nat → Option (List UInt8)
  | (ip, none) => if ip.length = 16 then some ip else none
  | (ip, some position) =>
    if ip.length < 16 then
      some (ip.take position ++ List.replicate (16 - ip.length) 0 ++ ip.drop position)
    else none

def parseIPv6 : Option Addr :=
  let (s, zone) := cut 37 s
  if zone = some [] then none
  else
    let bytes :=
      if s.take 2 = [58, 58] then
        if s.drop 2 = [] then some (List.replicate 16 0)
        else (parseGroups 8 [] (some 0) (s.drop 2)).bind expand
      else (parseGroups 8 [] none s).bind expand
    bytes.map (fun bytes => .v6 bytes (zone.getD []))

/-- `netip.ParseAddr`: the first of dot, colon and percent sign decides. -/
def parseAddr : Option Addr :=
  match s.find? (fun c => c = 46 || c = 58 || c = 37) with
  | some 46 => (parseIPv4 s).map .v4
  | some 58 => parseIPv6 s
  | _ => none

/-- `Addr.Unmap`. -/
def Addr.unmap : Addr → Addr
  | .v4 bytes => .v4 bytes
  | .v6 bytes zone => if bytes.take 12 = mappedBytes then .v4 (bytes.drop 12) else .v6 bytes zone

/-- `Addr.String`, for an address that is not IPv4-mapped. -/
def Addr.text : Addr → List UInt8
  | .v4 bytes => dotted bytes
  | .v6 bytes zone => colonHex (groups bytes) ++ (if zone = [] then [] else 37 :: zone)

example : (parseAddr (text [32, 1, 13, 184, 0, 0, 0, 0, 0, 1, 0, 0, 0, 0, 0, 1])).map Addr.text =
    some ("2001:db8::1:0:0:1".toList.flatMap String.utf8EncodeChar) := by decide

/-! ### The text is printable -/

theorem printable_digit {d : Nat} (h : d < 16) : 32 ≤ (digit d).toNat ∧ (digit d).toNat ≤ 126 := by
  have hall : ∀ d < 16, 32 ≤ (digit d).toNat ∧ (digit d).toNat ≤ 126 := by decide
  exact hall d h

theorem printable_digits {l : List Nat} (h : ∀ d ∈ l, d < 16) : Printable (l.map digit) := by
  intro b hb
  obtain ⟨d, hd, rfl⟩ := List.mem_map.mp hb
  exact printable_digit (h d hd)

theorem printable_decimal : Printable (decimal b) := by
  have hb := b.toNat_lt
  unfold decimal
  dsimp only
  split
  · exact printable_digits (l := [b.toNat]) (by simp; omega)
  · split
    · exact printable_digits (l := [b.toNat / 10, b.toNat % 10]) (by simp; omega)
    · exact printable_digits (l := [b.toNat / 100, b.toNat / 10 % 10, b.toNat % 10])
        (by simp; omega)

theorem printable_hexGroup (n : Nat) : Printable (hexGroup n) := by
  have hdigit : ∀ m, Printable [digit (m % 16)] :=
    fun m => printable_digits (l := [m % 16]) (by simp; omega)
  have hoptional : ∀ (c : Prop) [Decidable c] (m : Nat),
      Printable (if c then [digit (m % 16)] else []) := by
    intro c _ m
    split
    · exact hdigit m
    · intro b hb
      cases hb
  exact (((hoptional _ _).append (hoptional _ _)).append (hoptional _ _)).append (hdigit n)

theorem printable_join {sep : UInt8} (hsep : Printable [sep]) {parts : List (List UInt8)}
    (h : ∀ p ∈ parts, Printable p) : Printable (join sep parts) := by
  fun_induction join sep parts with
  | case1 =>
    intro b hb
    cases hb
  | case2 part => exact h part List.mem_cons_self
  | case3 part parts hne ih =>
    have hparts := ih (fun p hp => h p (List.mem_cons_of_mem _ hp))
    exact (h part List.mem_cons_self).append (hsep.append hparts)

theorem printable_dotted : Printable (dotted ip) := by
  apply printable_join (by decide)
  intro p hp
  obtain ⟨b, -, rfl⟩ := List.mem_map.mp hp
  exact printable_decimal b

theorem printable_hexGroups : Printable (join 58 (gs.map hexGroup)) := by
  apply printable_join (by decide)
  intro p hp
  obtain ⟨n, -, rfl⟩ := List.mem_map.mp hp
  exact printable_hexGroup n

theorem printable_text : Printable (text ip) := by
  unfold text colonHex
  split_ifs
  · decide
  · exact printable_dotted ip
  · exact printable_dotted _
  · split
    · exact printable_hexGroups _
    · exact ((printable_hexGroups _).append (by decide)).append (printable_hexGroups _)
  · apply Printable.append (s := [63]) (by decide)
    apply Printable.flatMap
    intro b _
    have hb := b.toNat_lt
    exact printable_digits (l := [b.toNat / 16, b.toNat % 16]) (by simp; omega)

end NetIP
