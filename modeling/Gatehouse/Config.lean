import Gatehouse.Address.Socket
import Gatehouse.Listener.TokenPool
import Gatehouse.Span
import Gatehouse.Text.Blank

/-!
# Configurations

What a gate is set up with: the listener, its identity, and how it can be watched.  Every field has a
default.  A configuration is checked as a whole: everything that is wrong with it is reported, each
field at most once.
-/

namespace Gatehouse

/-- How log lines are laid out. -/
inductive LogFormat
  | pretty
  | json
deriving DecidableEq, Repr

/-- The name of a layout. -/
def LogFormat.name : LogFormat → String
  | pretty => "pretty"
  | json => "json"

/-- The section on the listener. -/
structure ListenerSection where
  bindHost : String := "0.0.0.0"
  port : UInt16 := 2448
  /-- How many handshakes may run at a time. -/
  maxHandshakes : UInt64 := 1000
  /-- How long each act may take to arrive, in milliseconds. -/
  handshakeTimeoutMs : UInt64 := 1000
deriving DecidableEq, Repr

namespace ListenerSection

/-- The defaults on another port. -/
def onPort (port : UInt16) : ListenerSection := { port }

/-- The address to listen at. -/
def socketAddress? (s : ListenerSection) : Option SocketAddress :=
  (IpAddress.ofText? s.bindHost).map fun ip => { ip, port := s.port }

/-- How long each act may take to arrive. -/
def handshakeTimeout (s : ListenerSection) : Span := .ofMillis s.handshakeTimeoutMs

/-- How long each act may take to arrive, in nanoseconds. -/
def handshakeTimeoutNanos (s : ListenerSection) : Nat := s.handshakeTimeout.toNanos

end ListenerSection

/-- The section on the identity. -/
structure IdentitySection where
  /-- The key file; without one the identity is drawn anew at every start. -/
  keyPath : Option String := none
deriving DecidableEq, Repr

/-- The section on logs and metrics. -/
structure ObservabilitySection where
  logFilter : String := "handshake_gate=info"
  logFormat : LogFormat := .pretty
  metricsEnabled : Bool := false
  metricsAddress : String := "127.0.0.1:9090"
deriving DecidableEq, Repr

namespace ObservabilitySection

/-- The address to serve metrics at. -/
def metricsSocketAddress? (s : ObservabilitySection) : Option SocketAddress :=
  SocketAddress.ofText? s.metricsAddress

end ObservabilitySection

/-- A configuration. -/
structure Config where
  listener : ListenerSection := {}
  identity : IdentitySection := {}
  observability : ObservabilitySection := {}
deriving DecidableEq, Repr

/-! ## What can be wrong -/

/-- Something that is wrong with a configuration. -/
inductive Violation
  | bindHost (text : String)
  | noHandshakes
  | tooManyHandshakes
  | noTimeout
  | blankKeyPath
  | metricsAddress (text : String)
deriving DecidableEq, Repr

namespace Violation

/-- The field that it is about. -/
def field : Violation → String
  | bindHost _ => "listener.bind_host"
  | noHandshakes => "listener.max_handshakes"
  | tooManyHandshakes => "listener.max_handshakes"
  | noTimeout => "listener.handshake_timeout_ms"
  | blankKeyPath => "identity.key_path"
  | metricsAddress _ => "observability.metrics_address"

/-- What is wrong. -/
def message : Violation → String
  | bindHost text => "'" ++ text ++ "' is not an IP address"
  | noHandshakes => "must be at least 1"
  | tooManyHandshakes => "must not exceed " ++ Nat.repr maxCapacity
  | noTimeout => "must be greater than 0"
  | blankKeyPath => "must not be empty when set"
  | metricsAddress text => "'" ++ text ++ "' is not a socket address"

/-- The field and what is wrong with it. -/
def text (v : Violation) : String := v.field ++ ": " ++ v.message

end Violation

namespace Config

/-- What is wrong with the number of handshakes. -/
def capacityViolation? (maxHandshakes : UInt64) : Option Violation :=
  if maxHandshakes = 0 then some .noHandshakes
  else if maxCapacity < maxHandshakes.toNat then some .tooManyHandshakes
  else none

/-- All that is wrong with a configuration, in the order of its fields. -/
def violations (c : Config) : List Violation :=
  let bindHost :=
    if (IpAddress.ofText? c.listener.bindHost).isNone then [.bindHost c.listener.bindHost] else []
  let capacity := (capacityViolation? c.listener.maxHandshakes).toList
  let timeout := if c.listener.handshakeTimeoutMs = 0 then [.noTimeout] else []
  let keyPath :=
    match c.identity.keyPath with
    | some path => if (Blank.trim path).isEmpty then [.blankKeyPath] else []
    | none => []
  let metrics :=
    if c.observability.metricsEnabled ∧ c.observability.metricsSocketAddress?.isNone then
      [.metricsAddress c.observability.metricsAddress]
    else []
  bindHost ++ capacity ++ timeout ++ keyPath ++ metrics

end Config

end Gatehouse
