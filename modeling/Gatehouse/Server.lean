import Gatehouse.Config.File
import Gatehouse.Dial.Meeting
import Gatehouse.Listener.Bind
import Gatehouse.Log

/-!
# The gate as a server

A gate that is set up from a configuration and then reports every peer: those that have shown their
key, whose connections it closes at once, and those that have not.  When it is told to stop it closes
its listener and waits until nothing is left of it.
-/

namespace Gatehouse

/-- Why a command ends without having done what it was asked to do. -/
inductive CommandError
  | config (cause : ConfigError)
  | key (cause : KeyError)
  /-- The text for the address of metrics is none. -/
  | metricsAddress
  | failure (cause : Failure)
deriving DecidableEq, Repr

/-- The error in words. -/
def CommandError.message : CommandError → String
  | config cause => cause.message
  | key cause => cause.message
  | metricsAddress => "invalid socket address syntax"
  | failure cause => cause.message

/-- A gate that serves. -/
structure Server where
  config : Config
  listener : Listener
  /-- The number of the call to `accept` that waits. -/
  call : Nat := 0
  /-- All that it has reported, in order. -/
  events : List LogEvent := []

namespace Server

/-! ## Events -/

/-- Where the events of the program itself come from. -/
def mainTarget : String := "handshake_gate"

/-- Where the events of the listener come from. -/
def listenerTarget : String := "handshake_gate::net::listener"

/-- The first event. -/
def startingEvent : LogEvent := ⟨.info, mainTarget, "handshake-gate v0.1.0 starting", []⟩

/-- The identity comes from a key file. -/
def keyLoadedEvent (path : String) : LogEvent :=
  ⟨.info, mainTarget, "Identity key loaded", [("path", .text path)]⟩

/-- There is no key file. -/
def noKeyEvent : LogEvent :=
  ⟨.warn, mainTarget, "No identity.key_path configured, using an ephemeral identity key", []⟩

/-- Metrics can be read. -/
def metricsEvent (address : SocketAddress) : LogEvent :=
  ⟨.info, "handshake_gate::observability::metrics", "Metrics endpoint listening",
    [("address", .text address.text)]⟩

/-- The listener is bound. -/
def boundEvent (S : Suite) (l : Listener) : LogEvent :=
  ⟨.info, listenerTarget, "Listener bound",
    [("address", .text l.settings.address.text),
     ("public_key", .text (PublicKey.toHex (l.settings.identity.publicKey S))),
     ("max_handshakes", .number l.settings.capacity),
     ("handshake_timeout_ms", .number l.settings.timeout)]⟩

/-- Peers may come. -/
def listeningEvent (S : Suite) (l : Listener) : LogEvent :=
  ⟨.info, mainTarget, "Listening for authenticated connections",
    [("address", .text l.settings.address.text),
     ("public_key", .text (PublicKey.toHex (l.settings.identity.publicKey S)))]⟩

/-- A peer has shown its key, or has not. -/
def outcomeEvent : Outcome → LogEvent
  | .ok c =>
    ⟨.info, mainTarget, "Peer authenticated",
      [("connection_id", .text ("conn-" ++ Nat.repr c.id)), ("peer", .text c.peer.text),
       ("remote_static", .text (PublicKey.toHex c.remoteStatic))]⟩
  | .error f =>
    ⟨.warn, mainTarget, "Handshake failed",
      [("error", .text f.message), ("kind", .text f.family.name)]⟩

/-- A raw connection could not be taken. -/
def refusedEvent (error : SystemError) : LogEvent :=
  ⟨.warn, listenerTarget, "Failed to accept connection", [("error", .text error.message)]⟩

/-- The gate is told to stop. -/
def signalEvent : LogEvent :=
  ⟨.info, "handshake_gate::lifecycle::signals", "Shutdown signal received", []⟩

/-- The listener is closed. -/
def closedEvent (l : Listener) : LogEvent :=
  ⟨.info, listenerTarget, "Listener closed", [("address", .text l.settings.address.text)]⟩

/-- Something of the listener is still left when the time for it is up. -/
def drainLateEvent (l : Listener) : LogEvent :=
  ⟨.warn, mainTarget, "Timed out waiting for in-flight handshakes",
    [("available_tokens", .number l.availableTokens), ("capacity", .number l.settings.capacity)]⟩

/-- The last event. -/
def completeEvent : LogEvent := ⟨.info, mainTarget, "Shutdown complete", []⟩

/-! ## Setting up -/

/-- The identity of a configuration, with the event that tells where it comes from.  `keyFile` is what
    stands in the key file that the configuration names. -/
def identity (config : Config) (keyFile : String → FileContent) (chance : Chance) :
    Except CommandError (Identity × LogEvent × Chance) :=
  match config.identity.keyPath with
  | some path =>
    match Identity.load (keyFile path) with
    | .error e => .error (.key e)
    | .ok identity => .ok (identity, keyLoadedEvent path, chance)
  | none =>
    let (secret, chance) := chance.takeSecret
    .ok (⟨secret⟩, noKeyEvent, chance)

/-- The address at which metrics can be read, if they are wanted. -/
def metricsAddress (o : ObservabilitySection) : Except CommandError (Option SocketAddress) :=
  if o.metricsEnabled then
    match o.metricsSocketAddress? with
    | none => .error .metricsAddress
    | some address => .ok (some address)
  else .ok none

/-- Set up a gate: what it has reported, and the gate with its first call to `accept`, or why there is
    none. -/
def start (S : Suite) (config : Config) (keyFile : String → FileContent) (chance : Chance)
    (system : SocketAddress → Except SystemError SocketAddress) :
    List LogEvent × Except CommandError Server :=
  match identity config keyFile chance with
  | .error e => ([startingEvent], .error e)
  | .ok (identity, identityEvent, chance) =>
    let events := [startingEvent, identityEvent]
    match metricsAddress config.observability with
    | .error e => (events, .error e)
    | .ok address =>
      let events := events ++ (address.map metricsEvent).toList
      match Listener.bind identity config.listener system with
      | .error f => (events, .error (.failure f))
      | .ok l =>
        let events := events ++ [boundEvent S l, listeningEvent S l]
        (events, .ok { config, listener := { l with chance }.startCall 0, events })

/-! ## Serving -/

/-- Report an event. -/
def report (s : Server) (e : LogEvent) : Server := { s with events := s.events ++ [e] }

/-- Take the answer of the call that waits, if there is one, and call again. -/
def collect (s : Server) : Option Server :=
  let answer : Option Outcome := s.listener.log.findSome? fun
    | .answered n outcome => if n = s.call then some outcome else none
    | _ => none
  match answer with
  | none => none
  | some (.error .closed) => none
  | some outcome =>
    let l := s.listener.dropOutcome outcome
    some ({ s with call := s.call + 1, listener := l.startCall (s.call + 1) }.report
      (outcomeEvent outcome))

/-- Do all there is to do without the clock moving, answering at most `fuel` calls. -/
def settleWithin (S : Suite) : (fuel : Nat) → Server → Server
  | 0, s => s
  | fuel + 1, s =>
    let before := s.listener.log.length
    let s := { s with listener := (Session.settle S { listener := s.listener }).listener }
    let refused := (s.listener.log.take (s.listener.log.length - before)).reverse.filterMap fun
      | .refused e => some (refusedEvent e)
      | _ => none
    let s := { s with events := s.events ++ refused }
    match s.collect with
    | none => s
    | some s => settleWithin S fuel s

/-- Do all there is to do without the clock moving. -/
def settle (S : Suite) (s : Server) : Server :=
  s.settleWithin S (s.listener.tasks.length + s.listener.socket.waiting.length + 2)

/-- How long the gate waits for the listener to drain when it stops: a second more than the deadline of
    an act. -/
def drainLimit? (config : Config) : Option Span :=
  config.listener.handshakeTimeout.add? (.ofSeconds 1)

/-- The gate is told to stop: it closes its listener. -/
def close (S : Suite) (s : Server) : Server :=
  ({ s.report signalEvent with listener := s.listener.close }.report
    (closedEvent s.listener)).settle S

/-- Is nothing left of the listener? -/
def isDrained (s : Server) : Bool :=
  s.listener.loop == .stopped && s.listener.availableTokens == s.listener.settings.capacity

/-- The last thing that a gate reports. -/
def finish (s : Server) : Server :=
  (if s.isDrained then s else s.report (drainLateEvent s.listener)).report completeEvent

/-- A dialer comes to the gate: what comes of that for the dialer. -/
def meet (S : Suite) (s : Server) (dial : Dial) (source : SocketAddress) :
    Option (Except Failure SecuredConnection) × Server :=
  let m := (Meeting.start s.listener dial source).settle S
  (m.dial.result?, { s with listener := m.listener }.settle S)

end Server

end Gatehouse
