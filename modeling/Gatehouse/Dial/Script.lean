import Gatehouse.Dial

/-!
# Dialing a scripted listener

A listener that follows a script, whatever it hears: it waits for as many bytes as act one has, answers
with bytes of its own, and then hangs up or reads on to the end.
-/

namespace Gatehouse.Dial

/-- What a scripted listener does. -/
structure Script where
  /-- What it answers. -/
  reply : Bytes
  /-- Does it hang up after that? -/
  hangsUp : Bool

/-- The dialer takes steps until it has to wait, at most `fuel` of them. -/
def Line.settleWithin (S : Suite) : (fuel : Nat) → Line → Line
  | 0, l => l
  | fuel + 1, l =>
    match l.dial.step S l.now l.wire with
    | none => l
    | some (dial, wire) => settleWithin S fuel { l with dial, wire }

/-- The dialer takes steps until it has to wait.  Every step moves it on in its acts or takes bytes
    that are there. -/
def Line.settle (S : Suite) (l : Line) : Line :=
  l.settleWithin S (l.wire.inward.unread.length + 16)

/-- Dial a scripted listener: what comes of it, and all that the listener has read. -/
def against (S : Suite) (dial : Dial) (script : Script) :
    Option (Except Failure SecuredConnection) × Bytes :=
  let l := Line.settle S { dial }
  let heard := l.wire.outward.unread
  if heard.length < keyActSize then (l.dial.result?, heard)
  else
    let l := (l.apply S (.wire (.read keyActSize))).apply S (.wire (.send script.reply))
    let l := if script.hangsUp then l.apply S (.wire .endWrites) else l
    let l := ((l.settle S).apply S (.advance dial.timeout)).settle S
    (l.dial.result?,
      heard.take keyActSize ++ if script.hangsUp then [] else l.wire.outward.unread)

end Gatehouse.Dial
