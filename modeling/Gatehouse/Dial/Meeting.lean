import Gatehouse.Dial
import Gatehouse.Session.Basic

/-!
# A dialer and a listener

Both sides of one connection.  They take their steps in any order, and the network may hold back bytes
of either side, so that they arrive in pieces of any size.
-/

namespace Gatehouse

/-- A dialer and the listener that it has reached. -/
structure Meeting where
  listener : Listener
  dial : Dial
  /-- The number of the stream between the two. -/
  stream : Nat := 0

namespace Meeting

/-- The stream, as the listener sees it. -/
def wire (m : Meeting) : Wire := (m.listener.wires.find? m.stream).getD {}

/-- A step of the dialer, if it has one. -/
def stepDial (S : Suite) (m : Meeting) : Option Meeting :=
  match m.dial.step S m.listener.now m.wire.flip with
  | none => none
  | some (dial, wire) =>
    some { m with dial, listener := m.listener.onWire m.stream fun _ => wire.flip }

/-- A dialer reaches a listener: their stream is a new one. -/
def start (listener : Listener) (dial : Dial) (source : SocketAddress) : Meeting :=
  let stream := listener.wires.length
  { dial
    stream
    listener :=
      { listener with
        wires := listener.wires.enter stream {}
        socket := listener.socket.push (.ok ⟨stream, source⟩) } }

/-- What happens to the two. -/
inductive Event
  /-- The dialer's step, if it has one. -/
  | dial
  /-- A step of a party of the listener, if it has one. -/
  | listener (party : Listener.Party)
  /-- Time passes. -/
  | advance (milliseconds : Nat)
  /-- So many more bytes reach the listener before the dialer has to wait. -/
  | roomToListener (room : Option Nat)
  /-- So many more bytes reach the dialer before the listener has to wait. -/
  | roomToDialer (room : Option Nat)

/-- The two after an event. -/
def apply (S : Suite) (m : Meeting) : Event → Meeting
  | .dial => (m.stepDial S).getD m
  | .listener party => { m with listener := m.listener.apply S (.step party) }
  | .advance ms => { m with listener := m.listener.apply S (.advance ms) }
  | .roomToListener room =>
    { m with listener := m.listener.apply S (.wire m.stream (.roomInward room)) }
  | .roomToDialer room =>
    { m with listener := m.listener.apply S (.wire m.stream (.roomOutward room)) }

/-- The two after a list of events. -/
def run (S : Suite) (m : Meeting) (events : List Event) : Meeting :=
  events.foldl (fun m e => m.apply S e) m

/-- The two take turns until neither has anything to do, at most `fuel` of them. -/
def settleWithin (S : Suite) : (fuel : Nat) → Meeting → Meeting
  | 0, m => m
  | fuel + 1, m =>
    match m.stepDial S with
    | some m => settleWithin S fuel m
    | none =>
      let m := { m with listener := (Session.settle S { listener := m.listener }).listener }
      if (m.stepDial S).isSome then settleWithin S fuel m else m

/-- The two take turns until neither has anything to do.  The dialer has four steps that move it on,
    and one for every piece of act two. -/
def settle (S : Suite) (m : Meeting) : Meeting := settleWithin S (2 * (keyActSize + 4)) m

/-- What the listener has answered to a call. -/
def answer? (m : Meeting) (call : Nat) : Option Outcome :=
  m.listener.log.findSome? fun
    | .answered n outcome => if n = call then some outcome else none
    | _ => none

end Meeting

end Gatehouse
