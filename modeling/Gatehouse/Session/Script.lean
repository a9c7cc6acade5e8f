import Gatehouse.Session.Basic

/-!
# Sessions: commands

What peers, callers and the owner of a listener do in a session, and what each of them sees.
-/

namespace Gatehouse.Session

/-- What the end of a stream looks like from the other side. -/
inductive StreamState
  | open_
  | eof
  | reset
deriving DecidableEq, Repr

/-- How a peer disfigures an act before it sends it. -/
structure Tampering where
  /-- Positions, and what to combine the bytes there with. -/
  masks : List (Nat × UInt8) := []
  /-- How many of the bytes to send. -/
  only : Option Nat := none

/-- Apply masks to bytes; positions behind the end are left out. -/
def applyMasks (masks : List (Nat × UInt8)) (b : Bytes) : Bytes :=
  masks.foldl (fun b (at_, mask) => b.modify at_ (· ^^^ mask)) b

/-- The bytes that are sent in place of an act. -/
def Tampering.apply (t : Tampering) (act : Bytes) : Bytes :=
  let b := applyMasks t.masks act
  match t.only with
  | none => b
  | some n => b.take n

/-- What can be done in a session. -/
inductive Command
  /-- A peer connects; the listener may be closed as soon as the connection is taken. -/
  | connect (source : SocketAddress) (closeOnAccept : Bool)
  /-- Taking a connection fails. -/
  | acceptError (error : SystemError)
  /-- A peer begins a handshake with the holder of a key, the listener's if none is given. -/
  | actOne (peer : Nat) (secret : Secret) (remote : Option PublicKey) (tampering : Tampering)
  /-- A peer answers what has arrived as act two. -/
  | actThree (peer : Nat) (tampering : Tampering)
  /-- A peer sends bytes. -/
  | send (peer : Nat) (data : Bytes)
  /-- A peer reads all there is. -/
  | read (peer : Nat)
  /-- A peer hangs up. -/
  | hangup (peer : Nat)
  /-- A peer ends what it sends, and still reads. -/
  | endWrite (peer : Nat)
  /-- Somebody calls `accept`. -/
  | accept
  /-- A call is given up. -/
  | abandon (call : Nat)
  /-- The holder of a connection writes to it. -/
  | appWrite (call : Nat) (data : Bytes)
  /-- The holder of a connection reads from it. -/
  | appRead (call : Nat)
  /-- The holder of a connection drops it. -/
  | appDrop (call : Nat)
  /-- The clock jumps. -/
  | advance (milliseconds : Nat)
  | close
  | waitDrained
  /-- Calls and the last wait are given up, and then the listener is dropped. -/
  | drop

/-- Why a peer could not send act three. -/
inductive PeerError
  /-- What has arrived is not of the size of act two. -/
  | size (need : Nat)
  | handshake (error : HandshakeError)

/-- What a command answers. -/
inductive Reply
  | nothing
  /-- Nobody is there to do it. -/
  | gone
  | connected (value : Bool)
  | queued (value : Bool)
  /-- The bytes sent, and whether they were taken. -/
  | act (bytes : Bytes) (sent : Bool)
  /-- A peer could not begin. -/
  | failed (error : PeerError)
  /-- What had arrived before act three, the stream after it, and the bytes sent with the peer's
      keys or the reason why there are none. -/
  | actThree (arrived : Bytes) (stream : StreamState)
      (result : Except PeerError (Bytes × Bool × Option SessionKeys))
  | sent (value : Bool)
  | read (data : Bytes) (stream : StreamState)
  | call (number : Nat)
  /-- The count of bytes written, if they were taken. -/
  | written (count : Option Nat)
  /-- The bytes read: empty at the end of the stream, none if nothing is there. -/
  | data (value : Option Bytes)
  /-- The machine of a connection that was taken apart. -/
  | machine (value : Option Machine)
  | closed (result : Bool)

/-- Read all that a pipe holds: the bytes, and what comes after them. -/
def readAll (p : Pipe) : Bytes × StreamState × Pipe :=
  let rest := { p with unread := [] }
  match rest.fault with
  | some _ => (p.unread, .reset, { rest with fault := none })
  | none => (p.unread, if p.ended then .eof else .open_, rest)

/-- Do something with a stream. -/
def onWire (s : Session) (stream : Nat) (f : Wire → Wire) : Session :=
  { s with listener := s.listener.onWire stream f }

/-- A stream. -/
def wire (s : Session) (stream : Nat) : Wire := (s.listener.wires.find? stream).getD {}

/-- A peer writes bytes: were they taken?  No bytes at all are taken by any stream that the peer has
    not hung up. -/
def peerWrites (s : Session) (peer : Nat) (data : Bytes) : Bool × Session :=
  let w := s.wire peer
  if data.isEmpty then (w.peerOpen, s)
  else
    let (result, inward) := w.inward.write data
    match result with
    | .ready (.ok _) => (true, (s.onWire peer fun w => { w with inward }).stir peer)
    | _ => (false, s)

/-- A peer reads all there is.  The stream stirs by that as well, for there is room again. -/
def peerReads (s : Session) (peer : Nat) : Bytes × StreamState × Session :=
  let (data, state, outward) := readAll (s.wire peer).outward
  let s := s.onWire peer fun w => { w with outward }
  (data, state, if data.isEmpty then s else s.stir peer)

/-- Change what is known of a peer. -/
def setPeer (s : Session) (peer : Nat) (f : Peer → Peer) : Session :=
  { s with peers := s.peers.modify peer f }

/-- A peer connects. -/
def connect (s : Session) (source : SocketAddress) (closeOnAccept : Bool) : Reply × Session :=
  let stream := s.peers.length
  let taken := s.listener.socket.isOpen
  let l := { s.listener with wires := s.listener.wires.enter stream {} }
  let l := if taken then { l with socket := l.socket.push (.ok ⟨stream, source⟩) }
    else l.onWire stream Wire.closeGate
  let closeOn := if closeOnAccept then s.closeOn ++ [stream] else s.closeOn
  let s : Session := { s with listener := l, peers := s.peers ++ [{}], closeOn }
  (.connected taken, s.stir stream)

/-- A peer begins a handshake. -/
def actOne (S : Suite) (s : Session) (peer : Nat) (secret : Secret) (remote : Option PublicKey)
    (tampering : Tampering) : Reply × Session :=
  let remote := remote.getD (s.listener.settings.identity.publicKey S)
  let (ephemeral, chance) := s.listener.chance.takeSecret
  let s := { s with listener := { s.listener with chance } }
  let (result, machine) := (Machine.initiator S ⟨secret⟩ remote).sendActOne S ephemeral
  let s := s.setPeer peer fun p => { p with machine := some machine }
  match result with
  | .error e => (.failed (.handshake e), s)
  | .ok act =>
    let bytes := tampering.apply act.bytes
    let (sent, s) := s.peerWrites peer bytes
    (.act bytes sent, s)

/-- A peer answers what has arrived as act two. -/
def actThree (S : Suite) (s : Session) (peer : Nat) (tampering : Tampering) : Reply × Session :=
  let (arrived, state, s) := s.peerReads peer
  let fail (e : PeerError) (s : Session) : Reply × Session := (.actThree arrived state (.error e), s)
  match Octets.ofBytes? keyActSize arrived, (s.peers[peer]?).bind (·.machine) with
  | none, _ => fail (.size keyActSize) s
  | _, none => fail (.handshake (.outOfOrder .two .initiator)) s
  | some act, some machine =>
    let (result, machine) := machine.receiveActTwo S act
    let s := s.setPeer peer fun p => { p with machine := some machine }
    match result with
    | .error e => fail (.handshake e) s
    | .ok () =>
      let (result, machine) := machine.sendActThree S
      let s := s.setPeer peer fun p => { p with machine := some machine }
      match result with
      | .error e => fail (.handshake e) s
      | .ok act =>
        let bytes := tampering.apply act.bytes
        let (sent, s) := s.peerWrites peer bytes
        (.actThree arrived state (.ok (bytes, sent, machine.sessionKeys)), s)

/-- The holder of a connection writes to it. -/
def appWrite (s : Session) (call : Nat) (data : Bytes) : Reply × Session :=
  match s.held.find? call with
  | none => (.written none, s)
  | some connection =>
    let (result, outward) := (s.wire connection.stream).outward.write data
    let s := s.onWire connection.stream fun w => { w with outward }
    match result with
    | .ready (.ok rest) => (.written (some (data.length - rest.length)), s)
    | _ => (.written none, s)

/-- How many bytes the holder of a connection reads at a time. -/
def readSize : Nat := 256

/-- The holder of a connection reads from it, if it was noticed that something is there. -/
def appRead (s : Session) (call : Nat) : Reply × Session :=
  match s.held.find? call with
  | none => (.data none, s)
  | some connection =>
    let stream := connection.stream
    if s.noticed.contains stream then
      let (found, inward) := (s.wire stream).inward.read readSize
      let s := s.onWire stream fun w => { w with inward }
      match found with
      | .bytes b => (.data (some b), s)
      | .ended => (.data (some []), s)
      | .fault _ => (.data none, s)
      | .nothing => (.data none, { s with noticed := s.noticed.filter (· != stream) })
    else (.data none, s)

/-- The holder of a connection drops it. -/
def appDrop (s : Session) (call : Nat) : Reply × Session :=
  match s.held.find? call with
  | none => (.machine none, s)
  | some connection =>
    (.machine (some connection.machine),
      { s.onWire connection.stream Wire.closeGate with held := s.held.erase call })

/-- A call is given up, which takes effect when its turn comes. -/
def abandonCall (s : Session) (call : Nat) : Session :=
  if (s.listener.handoff.consumers.find? call).isSome then
    let job := Job.turn (.call call)
    { s with
      givenUp := s.givenUp ++ [call]
      queue := if s.queue.contains job then s.queue else s.queue ++ [job] }
  else s

/-- The number of the wait that began last. -/
def lastWait (s : Session) : Nat := s.waits - 1

/-- Calls and the last wait are given up, that settles, and then the listener is dropped.  A wait
    that began earlier and is not over keeps the listener as it is. -/
def dropListener (S : Suite) (s : Session) : Session :=
  let s := (List.range s.calls).foldl abandonCall s
  let s := { s with listener := s.listener.abandonDrain s.lastWait }.settle S
  let waiting := s.listener.drains.any (·.2 != .done)
  { s with listener := if waiting then s.listener else s.listener.close, dropped := true }

/-- Carry out a command, without anything else that comes of it. -/
def act (S : Suite) (s : Session) : Command → Reply × Session
  | .connect source closeOnAccept => s.connect source closeOnAccept
  | .acceptError error =>
    let queued := s.listener.socket.isOpen
    (.queued queued,
      { s with listener := { s.listener with socket := s.listener.socket.push (.error error) } })
  | .actOne peer secret remote tampering => s.actOne S peer secret remote tampering
  | .actThree peer tampering => s.actThree S peer tampering
  | .send peer data => let (sent, s) := s.peerWrites peer data; (.sent sent, s)
  | .read peer => let (data, state, s) := s.peerReads peer; (.read data state, s)
  | .hangup peer =>
    let s := (s.onWire peer Wire.closePeer).setPeer peer fun p => { p with hungUp := true }
    (.nothing, s.stir peer)
  | .endWrite peer => (.nothing, (s.onWire peer Wire.endPeerWrites).stir peer)
  | .accept =>
    (.call s.calls, { s with
      listener := if s.dropped then s.listener else s.listener.startCall s.calls
      calls := s.calls + 1 })
  | .abandon call => (.nothing, s.abandonCall call)
  | .appWrite call data => s.appWrite call data
  | .appRead call => s.appRead call
  | .appDrop call => s.appDrop call
  | .advance milliseconds => (.nothing, s.advance S milliseconds)
  | .close => if s.dropped then (.gone, s) else (.closed true, { s with listener := s.listener.close })
  | .waitDrained =>
    if s.dropped then (.nothing, s)
    else (.nothing, { s with listener := s.listener.startDrain s.waits, waits := s.waits + 1 })
  | .drop => (.nothing, if s.dropped then s else s.dropListener S)

/-- What is seen of a session after a command. -/
structure View where
  /-- The tokens that nobody holds; none when the listener is dropped. -/
  tokens : Option Nat
  /-- Is the listener closed?  None when it is dropped. -/
  closed : Option Bool
  socketOpen : Bool
  /-- Has the last wait for the listener to drain ended?  None if nobody waits. -/
  drained : Option Bool
  /-- The calls that were answered, by their numbers. -/
  answers : List (Nat × Outcome)
  /-- The states that handshakes have entered, for every connection in order of entry. -/
  states : Roster (List HandshakeState)
  /-- The bounds that jitter was drawn below. -/
  jitterRanges : List UInt64

/-- Group states by connection. -/
def groupStates : List (Nat × HandshakeState) → Roster (List HandshakeState)
  | [] => []
  | (id, state) :: rest =>
    let groups := groupStates rest
    match groups.find? id with
    | none => (id, [state]) :: groups
    | some states => groups.update id (state :: states)

/-- What is seen of a session in which these things have happened. -/
def view (s : Session) (happened : List Happening) : View where
  tokens := if s.dropped then none else some s.listener.availableTokens
  closed := if s.dropped then none else some s.listener.fired
  socketOpen := s.listener.socket.isOpen
  drained :=
    if s.dropped || s.waits = 0 then none
    else some (s.listener.drains.find? s.lastWait == some .done)
  answers :=
    let answers := happened.filterMap fun
      | .answered call outcome => some (call, outcome)
      | _ => none
    answers.mergeSort fun a b => a.1 ≤ b.1
  states := groupStates (happened.filterMap fun
    | .entered id state => some (id, state)
    | _ => none)
  jitterRanges := happened.filterMap fun
    | .jitter range => some range
    | _ => none

/-- Keep the connections that calls were answered with. -/
def keepAnswers (s : Session) (answers : List (Nat × Outcome)) : Session :=
  answers.foldl (fun s (call, outcome) =>
    match outcome with
    | .ok connection => { s with held := s.held.enter call connection }
    | .error _ => s) s

/-- A command with the random choices that go with it.  Unless told otherwise all that comes of it is
    done before anything is looked at. -/
def perform (S : Suite) (s : Session) (chance : Chance) (command : Command) (settling : Bool) :
    Reply × View × Session :=
  let before := s.listener.log.length
  let s := { s with listener := { s.listener with chance } }
  let (reply, s) := s.act S command
  let s := if settling then s.settle S else s.refresh S none
  let happened := (s.listener.log.take (s.listener.log.length - before)).reverse
  let view := s.view happened
  (reply, view, s.keepAnswers view.answers)

/-- A session at its beginning, when the accept loop has had its first turn. -/
def start (S : Suite) (listener : Listener) : Session := { listener : Session }.settle S

/-- What is left for a peer to read, and its stream; none if it has hung up. -/
def leftover (s : Session) (peer : Nat) : Option (Bytes × StreamState) :=
  match s.peers[peer]? with
  | none => none
  | some p =>
    if p.hungUp then none
    else
      let (data, state, _) := readAll (s.wire peer).outward
      some (data, state)

end Gatehouse.Session

namespace Gatehouse.Listener

/-- The listener as it is shown in descriptions. -/
def describe (S : Suite) (l : Listener) : String :=
  "Listener \x7b local_addr: " ++ l.settings.address.text
    ++ ", public_key: " ++ PublicKey.describe (l.settings.identity.publicKey S)
    ++ ", capacity: " ++ Nat.repr l.settings.capacity
    ++ ", available_tokens: " ++ Nat.repr l.availableTokens
    ++ ", closed: " ++ (if l.fired then "true" else "false") ++ " \x7d"

end Gatehouse.Listener
