import Gatehouse.Deadline
import Gatehouse.Failure
import Gatehouse.Listener.Wire
import Gatehouse.SecuredConnection

/-!
# Dialing

The initiator's side of a connection that is up: send act one, read act two within the timeout, send
act three.  It is done once, and the first thing that fails is the result.  As on the listener's side
a step goes from one point where there may be something to wait for to the next one, and a step that
finds nothing to do is none.  The connection is seen from the dialer's end.
-/

namespace Gatehouse

/-- How far a dialer has come. -/
inductive DialPhase
  /-- Nothing has been sent; this secret is drawn for the handshake. -/
  | begun (ephemeral : Secret)
  /-- Writing act one: these bytes are left. -/
  | writeOne (left : Bytes)
  /-- Reading act two, until the clock says `due`. -/
  | readTwo (got : Bytes) (due : Nat)
  /-- Writing act three: these bytes are left. -/
  | writeThree (left : Bytes)
  /-- The three acts are over. -/
  | secured
  | failed (failure : Failure)
deriving DecidableEq

/-- A dialer on a connection that is up. -/
structure Dial where
  /-- The address of the listener. -/
  peer : SocketAddress
  /-- The key that the listener is expected to hold. -/
  remoteStatic : PublicKey
  /-- How long act two may take to arrive, in milliseconds. -/
  timeout : Nat
  machine : Machine
  phase : DialPhase
deriving DecidableEq

namespace Dial

/-- A dialer at its beginning. -/
def start (S : Suite) (identity : Identity) (remoteStatic : PublicKey) (peer : SocketAddress)
    (timeout : Nat) (ephemeral : Secret) : Dial where
  peer
  remoteStatic
  timeout
  machine := Machine.initiator S identity remoteStatic
  phase := .begun ephemeral

/-- The acts failed: the stream is closed. -/
def fail (d : Dial) (wire : Wire) (failure : Failure) : Dial × Wire :=
  ({ d with phase := .failed failure }, wire.closeGate)

/-- Write on in an act of which `left` is left. -/
def write (d : Dial) (wire : Wire) (act : Act) (left : Bytes) (more : Bytes → DialPhase)
    (full : DialPhase) : Option (Dial × Wire) :=
  match wire.outward.write left with
  | (.pending, _) => none
  | (.ready (.error e), outward) => some (d.fail { wire with outward } (.io act e))
  | (.ready (.ok []), outward) => some ({ d with phase := full }, { wire with outward })
  | (.ready (.ok rest), outward) => some ({ d with phase := more rest }, { wire with outward })

/-- Act two is there in full: act three is the answer, if the machine accepts it. -/
def takeActTwo (S : Suite) (d : Dial) (wire : Wire) (act : Octets keyActSize) : Dial × Wire :=
  match d.machine.receiveActTwo S act with
  | (.error e, machine) => { d with machine }.fail wire (.handshake e)
  | (.ok (), machine) =>
    match machine.sendActThree S with
    | (.error e, machine) => { d with machine }.fail wire (.handshake e)
    | (.ok answer, machine) => ({ d with machine, phase := .writeThree answer.bytes }, wire)

/-- A step of a dialer on its end of the connection, when the clock says `now`. -/
def step (S : Suite) (now : Nat) (d : Dial) (wire : Wire) : Option (Dial × Wire) :=
  match d.phase with
  | .begun ephemeral =>
    match d.machine.sendActOne S ephemeral with
    | (.error e, machine) => some ({ d with machine }.fail wire (.handshake e))
    | (.ok act, machine) => some ({ d with machine, phase := .writeOne act.bytes }, wire)
  | .writeOne left => d.write wire .one left .writeOne (.readTwo [] (now + d.timeout))
  | .readTwo got due =>
    let (found, inward) := wire.inward.read (keyActSize - got.length)
    match found with
    | .bytes b =>
      match Octets.ofBytes? keyActSize (got ++ b) with
      | some act => some (d.takeActTwo S { wire with inward } act)
      | none => some ({ d with phase := .readTwo (got ++ b) due }, { wire with inward })
    | .fault e => some (d.fail { wire with inward } (Failure.ofRead .two e))
    | .ended => some (d.fail { wire with inward } (Failure.ofRead .two .earlyEnd))
    | .nothing => if expired now due then some (d.fail wire (.timeout .two)) else none
  | .writeThree left => d.write wire .three left .writeThree .secured
  | .secured => none
  | .failed _ => none

/-- What has come of it; none if the dialer is not done. -/
def result? (d : Dial) : Option (Except Failure SecuredConnection) :=
  match d.phase with
  | .secured => some (.ok ⟨0, 0, d.peer, d.remoteStatic, d.machine⟩)
  | .failed failure => some (.error failure)
  | _ => none

/-! ## Runs -/

/-- A dialer with its clock and its end of the connection. -/
structure Line where
  dial : Dial
  wire : Wire := {}
  /-- The clock, in milliseconds. -/
  now : Nat := 0

/-- What happens to a dialer. -/
inductive Event
  /-- The dialer's step, if it has one. -/
  | step
  /-- What the listener and the network do. -/
  | wire (change : Wire.Change)
  /-- Time passes. -/
  | advance (milliseconds : Nat)

/-- The dialer after an event. -/
def Line.apply (S : Suite) (l : Line) : Event → Line
  | .step =>
    match l.dial.step S l.now l.wire with
    | none => l
    | some (dial, wire) => { l with dial, wire }
  | .wire change => { l with wire := l.wire.change change }
  | .advance ms => { l with now := l.now + ms }

/-- The dialer after a list of events. -/
def Line.run (S : Suite) (l : Line) (events : List Event) : Line := events.foldl (fun l e => l.apply S e) l

end Dial

end Gatehouse
