import Gatehouse.Bytes
import Gatehouse.Poll
import Gatehouse.SystemError

/-!
# Wires

A connection as its two ends see it: one pipe of bytes in each direction.  When an end hangs up, the
other one reads what was sent before, then learns of bytes that the first end left unread as a
connection that was reset, once, and then finds the end of the stream; writing to an end that hung
up is refused.
-/

namespace Gatehouse

/-- One direction of a connection, from its writer to its reader. -/
structure Pipe where
  /-- What has arrived and was not read yet. -/
  unread : Bytes := []
  /-- Nothing more will arrive. -/
  ended : Bool := false
  /-- An error that the reader gets once, after the unread bytes. -/
  fault : Option SystemError := none
  /-- The error that the writer gets, if its bytes are not taken. -/
  refusal : Option SystemError := none
  /-- How many more bytes are taken before the writer has to wait; none if there is no limit. -/
  room : Option Nat := none

namespace Pipe

/-- What the reader finds. -/
inductive Found
  /-- Nothing yet. -/
  | nothing
  /-- Some bytes, at least one. -/
  | bytes (b : Bytes)
  /-- An error. -/
  | fault (error : SystemError)
  /-- The end of the stream. -/
  | ended

/-- Is there anything for the reader to find, be it an error or the end? -/
def isReadable (p : Pipe) : Bool := !p.unread.isEmpty || p.fault.isSome || p.ended

/-- Read up to `count` bytes. -/
def read (p : Pipe) (count : Nat) : Found × Pipe :=
  if p.unread.isEmpty then
    match p.fault with
    | some e => (.fault e, { p with fault := none })
    | none => if p.ended then (.ended, p) else (.nothing, p)
  else (.bytes (p.unread.take count), { p with unread := p.unread.drop count })

/-- Write bytes: those that were not taken come back. -/
def write (p : Pipe) (b : Bytes) : Poll (Except SystemError Bytes) × Pipe :=
  match p.refusal with
  | some e => (.ready (.error e), p)
  | none =>
    match p.room with
    | none => (.ready (.ok []), { p with unread := p.unread ++ b })
    | some 0 => if b.isEmpty then (.ready (.ok []), p) else (.pending, p)
    | some n =>
      (.ready (.ok (b.drop n)),
        { p with unread := p.unread ++ b.take n, room := some (n - b.length) })

/-- The writer is done: the reader will find the end, and writing is refused from now on. -/
def finish (p : Pipe) : Pipe := { p with ended := true, refusal := some .brokenPipe }

/-- The reader is gone: what it left unread is lost, and writing is refused from now on. -/
def abandon (p : Pipe) : Pipe := { p with unread := [], refusal := some .brokenPipe }

/-- The reader finds nothing just where there is nothing to find. -/
theorem read_eq_nothing_iff {p : Pipe} {count : Nat} :
    (p.read count).1 = .nothing ↔ p.isReadable = false := by
  obtain ⟨unread, ended, fault, refusal, room⟩ := p
  cases unread <;> cases fault <;> cases ended <;> simp [read, isReadable]

/-- Reading takes bytes from the front, no more than were asked for. -/
theorem read_eq_bytes {p q : Pipe} {count : Nat} {b : Bytes} (h : p.read count = (.bytes b, q)) :
    b ++ q.unread = p.unread ∧ b.length ≤ count := by
  unfold read at h
  split at h
  · split at h
    · cases h
    · split at h <;> cases h
  · cases h
    exact ⟨List.take_append_drop .., by simp only [List.length_take]; omega⟩

/-- Writing puts the bytes that were taken behind those that are there. -/
theorem write_eq_ok {p q : Pipe} {b rest : Bytes} (h : p.write b = (.ready (.ok rest), q)) :
    ∃ sent, b = sent ++ rest ∧ q.unread = p.unread ++ sent := by
  unfold write at h
  split at h
  · cases h
  · split at h
    · -- there is no limit
      cases h
      exact ⟨b, by simp, rfl⟩
    · -- there is no room
      split at h
      · rename_i he
        cases h
        exact ⟨[], by simpa using he, by simp⟩
      · cases h
    · rename_i n _ _
      cases h
      exact ⟨b.take n, (List.take_append_drop ..).symm, rfl⟩

end Pipe

/-- A connection between the listener's side, the gate, and a peer. -/
structure Wire where
  /-- From the peer to the gate. -/
  inward : Pipe := {}
  /-- From the gate to the peer. -/
  outward : Pipe := {}
  /-- Has the gate's end not hung up? -/
  gateOpen : Bool := true
  /-- Has the peer's end not hung up? -/
  peerOpen : Bool := true

namespace Wire

/-- The error that bytes left unread by the end that hangs up cause at the other one. -/
def resetFor (p : Pipe) : Option SystemError :=
  if p.unread.isEmpty then none else some .connectionReset

/-- The gate hangs up. -/
def closeGate (w : Wire) : Wire :=
  if w.gateOpen then
    -- bytes that the gate has sent can still be read at the other end
    { w with
      inward := w.inward.abandon
      outward := { w.outward.finish with fault := resetFor w.inward }
      gateOpen := false }
  else w

/-- The peer hangs up. -/
def closePeer (w : Wire) : Wire :=
  if w.peerOpen then
    { w with
      inward := { w.inward.finish with fault := resetFor w.outward }
      outward := w.outward.abandon
      peerOpen := false }
  else w

/-- The peer sends no more, but still reads. -/
def endPeerWrites (w : Wire) : Wire := { w with inward := w.inward.finish }

/-- The connection as the peer sees it. -/
def flip (w : Wire) : Wire where
  inward := w.outward
  outward := w.inward
  gateOpen := w.peerOpen
  peerOpen := w.gateOpen

theorem flip_flip (w : Wire) : w.flip.flip = w := rfl

/-- The peer hangs up as the gate does, seen from the other end. -/
theorem closePeer_eq (w : Wire) : w.closePeer = w.flip.closeGate.flip := by
  obtain ⟨inward, outward, gateOpen, peerOpen⟩ := w
  cases peerOpen <;> rfl

/-- What the peer and the network between the two do to a connection. -/
inductive Change
  /-- The peer sends bytes. -/
  | send (bytes : Bytes)
  /-- The peer reads up to so many bytes. -/
  | read (count : Nat)
  /-- The peer sends no more. -/
  | endWrites
  /-- The peer hangs up. -/
  | hangUp
  /-- The gate's next read past what has arrived will fail. -/
  | failRead (error : SystemError)
  /-- The gate's writes fail from now on. -/
  | failWrite (error : SystemError)
  /-- So many more bytes from the gate will be taken before its writes have to wait. -/
  | roomOutward (room : Option Nat)
  /-- So many more bytes from the peer will be taken before its writes have to wait. -/
  | roomInward (room : Option Nat)

/-- The connection after a change. -/
def change (w : Wire) : Change → Wire
  | .send bytes => { w with inward := (w.inward.write bytes).2 }
  | .read count => { w with outward := (w.outward.read count).2 }
  | .endWrites => w.endPeerWrites
  | .hangUp => w.closePeer
  | .failRead error => { w with inward := { w.inward with fault := some error } }
  | .failWrite error => { w with outward := { w.outward with refusal := some error } }
  | .roomOutward room => { w with outward := { w.outward with room } }
  | .roomInward room => { w with inward := { w.inward with room } }

/-- Nothing that the peer or the network does closes the gate's end. -/
theorem gateOpen_change (w : Wire) (c : Change) : (w.change c).gateOpen = w.gateOpen := by
  cases c <;> simp only [change, endPeerWrites]
  simp only [closePeer]
  split <;> rfl

end Wire

end Gatehouse
