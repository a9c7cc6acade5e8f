import Gatehouse.Text.Digits
import Gatehouse.Text.Quoted
import Gatehouse.Text.Reader

/-!
# IP addresses

Reading and writing of addresses.  A version 4 address is four decimal numbers without leading
zeros; a version 6 address is eight groups of up to four hexadecimal digits, where `::` stands for
one run of zero groups and the last two groups may be a version 4 address.  Written addresses
follow RFC 5952: the longest run of at least two zero groups, the first of equals, becomes `::`.
-/

namespace Gatehouse

/-- A version 4 address. -/
structure Ipv4 where
  a : UInt8
  b : UInt8
  c : UInt8
  d : UInt8
deriving DecidableEq, Repr

/-- A version 6 address: eight groups of sixteen bits. -/
structure Ipv6 where
  groups : List UInt16
  length_eq : groups.length = 8
deriving DecidableEq

/-- An address of either version. -/
inductive IpAddress
  | v4 (address : Ipv4)
  | v6 (address : Ipv6)
deriving DecidableEq

namespace Address

/-! ## Reading -/

open Reader (expect)

/-- Take a number of at most `maxDigits` digits and below `bound`.  A zero in front of other
    digits is refused unless `zeros` allows it. -/
def number (base : Nat) (maxDigits : Option Nat) (zeros : Bool) (bound : Nat) (cs : List Char) :
    Option (Nat × List Char) :=
  let (digits, rest) := Digits.take base cs
  let value := Digits.toNat base digits
  if digits = [] then none
  else if maxDigits.any (· < digits.length) then none
  else if zeros = false ∧ digits.head? = some 0 ∧ 1 < digits.length then none
  else if bound ≤ value then none
  else some (value, rest)

/-- Take one of the four numbers of a version 4 address. -/
def octet (cs : List Char) : Option (UInt8 × List Char) :=
  (number 10 (some 3) false 256 cs).map fun (n, rest) => (UInt8.ofNat n, rest)

/-- Take a version 4 address. -/
def ipv4 (cs : List Char) : Option (Ipv4 × List Char) := do
  let (a, cs) ← octet cs
  let (b, cs) ← octet (← expect '.' cs)
  let (c, cs) ← octet (← expect '.' cs)
  let (d, cs) ← octet (← expect '.' cs)
  pure (⟨a, b, c, d⟩, cs)

/-- Take the colon that stands before every group but the first. -/
def separator (first : Bool) (cs : List Char) : Option (List Char) :=
  if first then some cs else expect ':' cs

/-- Two bytes as a group. -/
def groupOf (high low : UInt8) : UInt16 := UInt16.ofNat (high.toNat * 256 + low.toNat)

/-- Take up to `limit` groups.  A version 4 address counts as two and ends them; the flag says
    that one was there. -/
def groups : (limit : Nat) → (first : Bool) → List Char → List UInt16 × Bool × List Char
  | 0, _, cs => ([], false, cs)
  | limit + 1, first, cs =>
    let embedded := if limit = 0 then none else (separator first cs).bind ipv4
    match embedded with
    | some (v, rest) => ([groupOf v.a v.b, groupOf v.c v.d], true, rest)
    | none =>
      match (separator first cs).bind (number 16 (some 4) true 65536) with
      | none => ([], false, cs)
      | some (g, rest) =>
        let (gs, mixed, after) := groups limit false rest
        (UInt16.ofNat g :: gs, mixed, after)

/-- Eight groups, if there are eight. -/
def ipv6OfGroups (gs : List UInt16) : Option Ipv6 :=
  if h : gs.length = 8 then some ⟨gs, h⟩ else none

/-- Take a version 6 address. -/
def ipv6 (cs : List Char) : Option (Ipv6 × List Char) :=
  let (front, mixed, rest) := groups 8 true cs
  if front.length = 8 then (ipv6OfGroups front).map fun a => (a, rest)
  else if mixed then none
  else do
    let rest ← expect ':' rest
    let rest ← expect ':' rest
    -- two colons stand for at least one group
    let (back, _, after) := groups (7 - front.length) true rest
    let zeros := List.replicate (8 - front.length - back.length) 0
    let a ← ipv6OfGroups (front ++ zeros ++ back)
    pure (a, after)

/-- Take an address of either version. -/
def ip (cs : List Char) : Option (IpAddress × List Char) :=
  match ipv4 cs with
  | some (a, rest) => some (.v4 a, rest)
  | none => (ipv6 cs).map fun (a, rest) => (.v6 a, rest)

end Address

namespace Ipv4

/-- The address in dotted decimal. -/
def text (x : Ipv4) : String :=
  String.intercalate "." ([x.a, x.b, x.c, x.d].map fun o => Nat.repr o.toNat)

end Ipv4

namespace Ipv6

/-- Groups in hexadecimal with colons between them. -/
def groupsText (gs : List UInt16) : String :=
  String.intercalate ":" (gs.map fun g => Quoted.hexDigits g.toNat)

/-- The length of the run of zero groups at the front. -/
def zeroRun (gs : List UInt16) : Nat := (gs.takeWhile (· == 0)).length

/-- Start and length of the longest run of zero groups, the first of equals. -/
def longestZeroRun (gs : List UInt16) : Nat × Nat :=
  (List.range gs.length).foldl (fun best i =>
    let n := zeroRun (gs.drop i)
    if best.2 < n then (i, n) else best) (0, 0)

/-- The address in the form of RFC 5952. -/
def text (x : Ipv6) : String :=
  match x.groups with
  | [0, 0, 0, 0, 0, 0xffff, high, low] =>
    let v4 : Ipv4 := ⟨UInt8.ofNat (high.toNat / 256), UInt8.ofNat (high.toNat % 256),
      UInt8.ofNat (low.toNat / 256), UInt8.ofNat (low.toNat % 256)⟩
    "::ffff:" ++ v4.text
  | gs =>
    let (start, length) := longestZeroRun gs
    if length > 1 then
      groupsText (gs.take start) ++ "::" ++ groupsText (gs.drop (start + length))
    else groupsText gs

end Ipv6

namespace IpAddress

/-- Read an address. -/
def ofText? (s : String) : Option IpAddress := Reader.whole Address.ip s

/-- The address as text. -/
def text : IpAddress → String
  | v4 a => a.text
  | v6 a => a.text

/-- Every interface of the machine, version 4. -/
def unspecified : IpAddress := v4 ⟨0, 0, 0, 0⟩

/-- Is it an address of the machine itself? -/
def isLoopback : IpAddress → Bool
  | v4 a => a.a == 127
  | v6 a => a.groups == [0, 0, 0, 0, 0, 0, 0, 1]

end IpAddress

end Gatehouse
