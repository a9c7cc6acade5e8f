import Gatehouse.Address.Ip

/-!
# Socket addresses

An IP address and a port.  A version 6 address stands in brackets and may carry the number of a
scope inside them.
-/

namespace Gatehouse

/-- An IP address and a port. -/
structure SocketAddress where
  ip : IpAddress
  port : UInt16
  /-- The scope of a version 6 address, zero where there is none. -/
  scope : UInt32 := 0
deriving DecidableEq

namespace Address

open Reader (expect)

/-- Take a colon and a port.  Zeros may stand in front of it. -/
def port (cs : List Char) : Option (UInt16 × List Char) := do
  let (n, rest) ← number 10 none true 65536 (← expect ':' cs)
  pure (UInt16.ofNat n, rest)

/-- Take a percent sign and the number of a scope. -/
def scope (cs : List Char) : Option (UInt32 × List Char) := do
  let (n, rest) ← number 10 none true UInt32.size (← expect '%' cs)
  pure (UInt32.ofNat n, rest)

/-- Take a version 4 address with its port. -/
def socketV4 (cs : List Char) : Option (SocketAddress × List Char) := do
  let (a, cs) ← ipv4 cs
  let (p, cs) ← port cs
  pure (⟨.v4 a, p, 0⟩, cs)

/-- Take a version 6 address in brackets with its port. -/
def socketV6 (cs : List Char) : Option (SocketAddress × List Char) := do
  let (a, cs) ← ipv6 (← expect '[' cs)
  let (s, cs) := (scope cs).getD (0, cs)
  let (p, cs) ← port (← expect ']' cs)
  pure (⟨.v6 a, p, s⟩, cs)

/-- Take a socket address of either version. -/
def socket (cs : List Char) : Option (SocketAddress × List Char) := socketV4 cs <|> socketV6 cs

end Address

namespace SocketAddress

/-- Read a socket address. -/
def ofText? (s : String) : Option SocketAddress := Reader.whole Address.socket s

/-- The socket address as text. -/
def text (x : SocketAddress) : String :=
  let port := ":" ++ Nat.repr x.port.toNat
  match x.ip with
  | .v4 a => a.text ++ port
  | .v6 a =>
    let scope := if x.scope = 0 then "" else "%" ++ Nat.repr x.scope.toNat
    "[" ++ a.text ++ scope ++ "]" ++ port

end SocketAddress

end Gatehouse
