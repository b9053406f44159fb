import DomainMonitor.Lib.Strings

/-! # Host and port (`net.SplitHostPort`, `net.JoinHostPort`)

    A host with a colon in it stands in brackets. What `SplitHostPort` accepts of
    a joined text it takes apart into the same host and port.
-/

namespace HostPort

open Strings

/-- The text of a `net.AddrError`. -/
def addrError (hostPort : List UInt8) (message : String) : List UInt8 :=
  let message := message.toList.map byte
  if hostPort = [] then message
  else "address ".toList.map byte ++ hostPort ++ ": ".toList.map byte ++ message

/-- The check for brackets: `j` and `k` are the parts of the text where an
    opening and a closing one would be out of place. -/
def withoutBrackets (hostPort host port j k : List UInt8) :
    Except (List UInt8) (List UInt8 × List UInt8) :=
  if 91 ∈ j then .error (addrError hostPort "unexpected '[' in address")
  else if 93 ∈ k then .error (addrError hostPort "unexpected ']' in address")
  else .ok (host, port)

/-- `net.SplitHostPort`. The port starts after the last colon. -/
def splitHostPort (hostPort : List UInt8) : Except (List UInt8) (List UInt8 × List UInt8) :=
  let missingPort := addrError hostPort "missing port in address"
  let tooManyColons := addrError hostPort "too many colons in address"
  match cutLast 58 hostPort with
  | none => .error missingPort
  | some (front, port) =>
    if hostPort.head? = some 91 then
      -- The first closing bracket has to stand just before the last colon.
      match cut 93 hostPort with
      | (_, none) => .error (addrError hostPort "missing ']' in address")
      | (inside, some after) =>
        if after = [] then .error missingPort
        else if inside.length + 1 = front.length then
          withoutBrackets hostPort (inside.drop 1) port (hostPort.drop 1) after
        else if after.head? = some 58 then .error tooManyColons
        else .error missingPort
    else if 58 ∈ front then .error tooManyColons
    else withoutBrackets hostPort front port hostPort hostPort

/-- `net.JoinHostPort`. -/
def joinHostPort (host port : List UInt8) : List UInt8 :=
  if 58 ∈ host then 91 :: host ++ 93 :: 58 :: port else host ++ 58 :: port

theorem cutLast_append {sep : UInt8} {b : List UInt8} (h : sep ∉ b) (a : List UInt8) :
    cutLast sep (a ++ sep :: b) = some (a, b) := by
  have hreverse : (a ++ sep :: b).reverse = b.reverse ++ sep :: a.reverse := by simp
  unfold cutLast
  rw [hreverse, cut_append (by simpa using h)]
  simp

theorem withoutBrackets_eq_ok {hostPort host port j k h p : List UInt8}
    (hok : withoutBrackets hostPort host port j k = .ok (h, p)) : h = host ∧ p = port := by
  unfold withoutBrackets at hok
  split_ifs at hok
  cases hok
  exact ⟨rfl, rfl⟩

theorem splitHostPort_joinHostPort {host port h p : List UInt8} (hport : 58 ∉ port)
    (hhost : 58 ∈ host ∨ host.head? ≠ some 91)
    (hok : splitHostPort (joinHostPort host port) = .ok (h, p)) : h = host ∧ p = port := by
  unfold joinHostPort at hok
  split_ifs at hok with hcolon
  · -- In brackets: what is cut off at the closing one is as long as the host.
    have hlast : cutLast 58 (91 :: host ++ 93 :: 58 :: port) = some (91 :: host ++ [93], port) := by
      have := cutLast_append hport (91 :: host ++ [93])
      rwa [List.append_assoc] at this
    generalize hs : (91 :: host ++ 93 :: 58 :: port : List UInt8) = s at hok hlast
    have hhead : s.head? = some 91 := by
      rw [← hs]
      rfl
    have heq := cut_eq 93 s
    unfold splitHostPort at hok
    simp only [hlast, hhead, if_true] at hok
    cases hcut : cut 93 s with
    | mk inside after =>
      rw [hcut] at heq hok
      cases after with
      | none => cases hok
      | some after =>
        dsimp only at hok
        split_ifs at hok with hempty hlength
        obtain ⟨rfl, rfl⟩ := withoutBrackets_eq_ok hok
        have hinside : 91 :: host = inside := by
          rw [← hs] at heq
          exact List.append_inj_left heq (by simpa using hlength.symm)
        exact ⟨by rw [← hinside]; rfl, rfl⟩
  · have hhead : (host ++ 58 :: port).head? ≠ some 91 := by
      cases host with
      | nil => simp
      | cons c host => simpa using hhost.resolve_left hcolon
    unfold splitHostPort at hok
    simp only [cutLast_append hport, if_neg hhead, if_neg hcolon] at hok
    exact withoutBrackets_eq_ok hok

end HostPort
