import Gatehouse.Config
import Gatehouse.Listener.State

/-!
# Binding a listener

A listener is bound to the address that its section of the configuration names.  What the section
says is looked at before the operating system is asked.
-/

namespace Gatehouse.Listener

/-- Why a text is refused as the host to listen at. -/
def addressError : SystemError := .custom .invalidInput "invalid IP address syntax"

/-- Bind a listener.  `system` binds a socket to an address and gives the address that it got, with
    the port that was chosen if none was asked for. -/
def bind (identity : Identity) (settings : ListenerSection)
    (system : SocketAddress → Except SystemError SocketAddress) : Except Failure Listener :=
  match settings.socketAddress? with
  | none => .error (.bind addressError)
  | some address =>
    match checkCapacity settings.maxHandshakes.toNat with
    | .error e => .error e
    | .ok () =>
      ofRaw identity settings.maxHandshakes.toNat settings.handshakeTimeoutMs.toNat (system address)

end Gatehouse.Listener
