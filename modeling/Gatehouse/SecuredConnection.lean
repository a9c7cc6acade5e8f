import Gatehouse.Address.Socket
import Gatehouse.Handshake.Machine

/-!
# Secured connections

What the handshake leaves on either side: a stream, and a machine that holds the keys for it.
-/

namespace Gatehouse

/-- A connection on which the handshake has been completed. -/
structure SecuredConnection where
  /-- The number of the connection. -/
  id : Nat
  /-- The number of its stream. -/
  stream : Nat
  /-- The address of the other side. -/
  peer : SocketAddress
  /-- The long-term key that the other side has shown to hold. -/
  remoteStatic : PublicKey
  machine : Machine
deriving DecidableEq

end Gatehouse
