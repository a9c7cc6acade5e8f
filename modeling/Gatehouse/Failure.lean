import Gatehouse.Handshake.Act
import Gatehouse.SystemError

/-!
# Failures

What `accept` and `dial` report in place of a connection: the step that failed, with the cause that
it failed for.
-/

namespace Gatehouse

/-- Why there is no connection. -/
inductive Failure
  /-- The listening socket could not be set up. -/
  | bind (cause : SystemError)
  /-- A raw connection could not be taken. -/
  | accept (cause : SystemError)
  /-- The listener could not be reached. -/
  | connect (cause : SystemError)
  /-- An act did not arrive in time. -/
  | timeout (act : Act)
  /-- The stream ended before an act was complete. -/
  | shortRead (act : Act)
  /-- Reading or writing an act failed. -/
  | io (act : Act) (cause : SystemError)
  /-- An act was refused. -/
  | handshake (cause : HandshakeError)
  /-- The listener has been closed. -/
  | closed
deriving DecidableEq, Repr

/-- The three families of failures. -/
inductive Failure.Family
  /-- The network or a deadline. -/
  | transport
  /-- What the other side sent. -/
  | protocol
  /-- The listener's own end. -/
  | lifecycle
deriving DecidableEq, Repr

/-- The name of a family. -/
def Failure.Family.name : Failure.Family → String
  | .transport => "Transport"
  | .protocol => "Protocol"
  | .lifecycle => "Lifecycle"

namespace Failure

/-- The failure in words. -/
def message : Failure → String
  | bind cause => "failed to bind: " ++ cause.message
  | accept cause => "failed to accept: " ++ cause.message
  | connect cause => "failed to connect: " ++ cause.message
  | timeout act => "timed out waiting for act " ++ act.name
  | shortRead act => "peer closed the connection before completing act " ++ act.name
  | io act cause => "i/o error during act " ++ act.name ++ ": " ++ cause.message
  | handshake cause => "handshake failed: " ++ cause.message
  | closed => "listener closed"

/-- The family that a failure belongs to. -/
def family : Failure → Family
  | bind _ | accept _ | connect _ | timeout _ | io _ _ => .transport
  | shortRead _ | handshake _ => .protocol
  | closed => .lifecycle

/-- The name under which a failure is counted. -/
def label : Failure → String
  | bind _ => "bind"
  | accept _ => "accept"
  | connect _ => "connect"
  | timeout _ => "timeout"
  | shortRead _ => "short_read"
  | io _ _ => "io"
  | handshake _ => "handshake"
  | closed => "closed"

/-- Did an act come too late? -/
def isTimeout : Failure → Bool
  | timeout _ => true
  | _ => false

/-- Has the listener been closed? -/
def isClosed : Failure → Bool
  | closed => true
  | _ => false

/-- The words of the error underneath, if there is one. -/
def cause? : Failure → Option String
  | bind cause | accept cause | connect cause | io _ cause => some cause.message
  | handshake cause => some cause.message
  | timeout _ | shortRead _ | closed => none

/-- The failure of a read of an act: an early end and an expired wait have names of their own. -/
def ofRead (act : Act) (cause : SystemError) : Failure :=
  match cause.kind with
  | .unexpectedEof => shortRead act
  | .timedOut => timeout act
  | _ => io act cause

end Failure

end Gatehouse
