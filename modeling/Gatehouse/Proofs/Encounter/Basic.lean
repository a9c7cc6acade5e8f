import Gatehouse.Proofs.Dial.Through
import Gatehouse.Proofs.Listener.Hearing
import Gatehouse.Proofs.Listener.Owners

/-!
# A dialer, a listener and the network between them

The two ends of one connection, each with its own end of the stream and its own clock.  What one end
has written is on its way until the network brings it to the other end, in pieces of any size and at
any time; before that the network takes it in pieces of any size.  While this goes on, anything may
happen to the listener that does not concern the connection.

A `Meeting` is the same without a network: there what one end has written is with the other at once.
-/

namespace Gatehouse

/-- A dialer and a listener with a network between them. -/
structure Encounter where
  listener : Listener
  /-- The dialer with its end of the connection. -/
  line : Dial.Line
  /-- The number that the listener's end of the connection has among its streams. -/
  stream : Nat
  /-- What the network has brought to the listener. -/
  carriedIn : Bytes := []
  /-- What the network has brought to the dialer. -/
  carriedOut : Bytes := []
  /-- What has been sent by whoever dialed, on the connection that came of it. -/
  saidIn : Bytes := []
  /-- What has been sent by whoever was given the connection by the listener. -/
  saidOut : Bytes := []

namespace Encounter

/-- The listener's end of the connection. -/
def wire (m : Encounter) : Wire := (m.listener.wires.find? m.stream).getD {}

/-- Has a call been answered with the connection? -/
def isTaken (m : Encounter) : Bool :=
  m.listener.log.any fun
    | .answered _ (.ok connection) => connection.stream == m.stream
    | _ => false

/-- A dialer reaches a listener: their connection is a new one, and waits in the socket. -/
def start (S : Suite) (listener : Listener) (line : Dial.Line) (stream : Nat)
    (source : SocketAddress) : Encounter where
  listener := listener.run S [.newStream stream, .arrive (.ok ⟨stream, source⟩)]
  line
  stream

/-- What happens to the two. -/
inductive Event
  /-- The dialer's step, if it has one. -/
  | dial
  /-- Time passes for the dialer. -/
  | wait (milliseconds : Nat)
  /-- Something happens to the listener. -/
  | listen (event : Listener.Event)
  /-- The network brings so many bytes to the listener, or those that there are. -/
  | bringIn (count : Nat)
  /-- The network brings so many bytes to the dialer, or those that there are. -/
  | bringOut (count : Nat)
  /-- The network will take so many more bytes from the dialer. -/
  | roomIn (room : Option Nat)
  /-- The network will take so many more bytes from the listener. -/
  | roomOut (room : Option Nat)
  /-- Whoever dialed sends something, once the connection is there. -/
  | sayIn (bytes : Bytes)
  /-- Whoever was given the connection by the listener sends something. -/
  | sayOut (bytes : Bytes)

/-- The two after an event. -/
def apply (S : Suite) (m : Encounter) : Event → Encounter
  | .dial => { m with line := m.line.apply S .step }
  | .wait ms => { m with line := m.line.apply S (.advance ms) }
  | .listen e => { m with listener := m.listener.apply S e }
  | .bringIn count =>
    let bytes := m.line.wire.outward.unread.take count
    { m with
      line := m.line.apply S (.wire (.read count))
      listener := m.listener.apply S (.wire m.stream (.send bytes))
      carriedIn := m.carriedIn ++ bytes }
  | .bringOut count =>
    let bytes := m.wire.outward.unread.take count
    { m with
      listener := m.listener.apply S (.wire m.stream (.read count))
      line := m.line.apply S (.wire (.send bytes))
      carriedOut := m.carriedOut ++ bytes }
  | .roomIn room => { m with line := m.line.apply S (.wire (.roomOutward room)) }
  | .roomOut room =>
    { m with listener := m.listener.apply S (.wire m.stream (.roomOutward room)) }
  | .sayIn bytes =>
    if m.line.dial.phase = .secured then
      let outward := m.line.wire.outward
      { m with
        line := { m.line with wire := { m.line.wire with outward := (outward.write bytes).2 } }
        saidIn := m.saidIn ++ outward.accepted bytes }
    else m
  | .sayOut bytes =>
    if m.isTaken then
      { m with
        listener := m.listener.onWire m.stream fun w =>
          { w with outward := (w.outward.write bytes).2 }
        saidOut := m.saidOut ++ m.wire.outward.accepted bytes }
    else m

/-- The two after a list of events. -/
def run (S : Suite) (m : Encounter) (events : List Event) : Encounter :=
  events.foldl (fun m e => m.apply S e) m

/-- Nothing fires the shutdown or closes the socket, nor does anything happen to the connection that
    neither end nor the network between them does: it meets with no error and no end. -/
def Event.Harmless (stream : Nat) : Event → Prop
  | .listen e => e ≠ .trigger ∧ e ≠ .closeSocket ∧ ¬ e.Names stream
  | _ => True

/-- No act that is waited for on either end is late. -/
structure InTime (m : Encounter) : Prop where
  dialer : Dial.Punctual m.line.now m.line.wire.inward.unread m.line.dial.phase
  gate : ∀ entry ∈ m.listener.tasks, entry.2.stream = m.stream →
    entry.2.phase.Punctual m.listener.now m.wire.inward.unread

instance (m : Encounter) : Decidable m.InTime :=
  decidable_of_iff
    (Dial.Punctual m.line.now m.line.wire.inward.unread m.line.dial.phase ∧
      ∀ entry ∈ m.listener.tasks, entry.2.stream = m.stream →
        entry.2.phase.Punctual m.listener.now m.wire.inward.unread)
    ⟨fun h => ⟨h.1, h.2⟩, fun h => ⟨h.dialer, h.gate⟩⟩

end Encounter

end Gatehouse
