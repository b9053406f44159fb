import DomainMonitor.Lib.IPText

/-! # Kinds of addresses and prefixes (`net/netip`)

    The predicates of `netip.Addr` for an address that is not IPv4-mapped, and
    `Prefix.Contains`. A zone does not count for the ranges of IPv6, but it does
    for a comparison with the unspecified address, and a prefix contains no
    address with a zone.
-/

namespace NetIP

/-- `Addr.IsLoopback`: 127.0.0.0/8 and ::1. -/
def Addr.isLoopback : Addr → Bool
  | .v4 bytes => bytes.head? = some 127
  | .v6 bytes _ => bytes = List.replicate 15 0 ++ [1]

/-- `Addr.IsPrivate`: 10.0.0.0/8, 172.16.0.0/12, 192.168.0.0/16 and fc00::/7. -/
def Addr.isPrivate : Addr → Bool
  | .v4 (a :: b :: _) => a = 10 || (a = 172 && b &&& 0xf0 = 16) || (a = 192 && b = 168)
  | .v4 _ => false
  | .v6 (a :: _) _ => a &&& 0xfe = 0xfc
  | .v6 _ _ => false

/-- `Addr.IsLinkLocalUnicast`: 169.254.0.0/16 and fe80::/10. -/
def Addr.isLinkLocalUnicast : Addr → Bool
  | .v4 (a :: b :: _) => a = 169 && b = 254
  | .v4 _ => false
  | .v6 (a :: b :: _) _ => a = 0xfe && b &&& 0xc0 = 0x80
  | .v6 _ _ => false

/-- `Addr.IsLinkLocalMulticast`: 224.0.0.0/24 and ff02::/16 with any flags. -/
def Addr.isLinkLocalMulticast : Addr → Bool
  | .v4 (a :: b :: c :: _) => a = 224 && b = 0 && c = 0
  | .v4 _ => false
  | .v6 (a :: b :: _) _ => a = 0xff && b &&& 0x0f = 0x02
  | .v6 _ _ => false

/-- `Addr.IsMulticast`: 224.0.0.0/4 and ff00::/8. -/
def Addr.isMulticast : Addr → Bool
  | .v4 (a :: _) => a &&& 0xf0 = 0xe0
  | .v4 _ => false
  | .v6 (a :: _) _ => a = 0xff
  | .v6 _ _ => false

/-- `Addr.IsUnspecified`: 0.0.0.0 and ::, the latter without a zone. -/
def Addr.isUnspecified (a : Addr) : Bool :=
  a = .v4 (List.replicate 4 0) || a = .v6 (List.replicate 16 0) []

/-- `Addr.IsGlobalUnicast`. -/
def Addr.isGlobalUnicast (a : Addr) : Bool :=
  a.isValid && a ≠ .v4 (List.replicate 4 0) && a ≠ .v4 (List.replicate 4 255)
    && a ≠ .v6 (List.replicate 16 0) [] && !a.isLoopback && !a.isMulticast
    && !a.isLinkLocalUnicast

/-- Two byte strings agree in their first `bits` bits. -/
def sameBits : Nat → List UInt8 → List UInt8 → Bool
  | bits, p :: ps, q :: qs =>
    if 8 ≤ bits then p = q && sameBits (bits - 8) ps qs
    else p.toNat / 2 ^ (8 - bits) = q.toNat / 2 ^ (8 - bits)
  | _, _, _ => true

/-- `netip.Prefix`. -/
structure Prefix where
  addr : Addr
  bits : Nat

/-- `Prefix.Contains`. -/
def Prefix.contains (p : Prefix) (ip : Addr) : Bool :=
  match p.addr, ip with
  | .v4 bytes, .v4 ipBytes => p.addr.isValid && ip.isValid && sameBits p.bits bytes ipBytes
  | .v6 bytes _, .v6 ipBytes zone =>
    zone = [] && p.addr.isValid && ip.isValid && sameBits p.bits bytes ipBytes
  | _, _ => false

theorem Prefix.not_contains_zone (p : Prefix) (bytes : List UInt8) {zone : List UInt8}
    (h : zone ≠ []) : p.contains (.v6 bytes zone) = false := by
  obtain ⟨addr, bits⟩ := p
  cases addr with
  | v4 bytes => rfl
  | v6 bytes zone' => simp [Prefix.contains, h]

theorem Prefix.isValid_of_contains {p : Prefix} {a : Addr} (h : p.contains a = true) :
    a.isValid = true := by
  obtain ⟨addr, bits⟩ := p
  unfold Prefix.contains at h
  cases addr <;> cases a <;> simp only [Bool.and_eq_true, Bool.false_eq_true] at h
  · exact h.1.2
  · exact h.1.2

theorem Addr.unmap_unmap (a : Addr) : a.unmap.unmap = a.unmap := by
  cases a with
  | v4 bytes => rfl
  | v6 bytes zone =>
    by_cases hmapped : bytes.take 12 = mappedBytes
    · simp [Addr.unmap, hmapped]
    · simp [Addr.unmap, hmapped]

end NetIP
