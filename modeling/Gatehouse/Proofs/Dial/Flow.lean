import Gatehouse.Proofs.Dial.Progress
import Gatehouse.Proofs.Dial.Tale

/-!
# The bytes on a dialer's connection

All that a dialer puts on its connection are the bytes of acts one and three that its tale tells of,
and all that it takes from there are those of act two: what the other side has collected, with what
is still on its way, is what was there before and those bytes (`Sofar.outward_run`), and what has
arrived, unless the dialer fails and hangs up, is what it has read of act two and what is still there
to be read (`Sofar.inward_run`).
-/

namespace Gatehouse.Dial

/-- The bytes that an event brings to the dialer's end. -/
def Event.brings (w : Wire) : Event → Bytes
  | .wire (.send bytes) => w.inward.accepted bytes
  | _ => []

/-- The bytes that an event takes away of what the dialer has sent: the other side reads them, or
    hangs up on them. -/
def Event.collects (w : Wire) : Event → Bytes
  | .wire (.read count) => w.outward.unread.take count
  | .wire .hangUp => if w.peerOpen then w.outward.unread else []
  | _ => []

/-- The bytes that arrive in a list of events. -/
def Line.arrived (S : Suite) (l : Line) : List Event → Bytes
  | [] => []
  | e :: events => e.brings l.wire ++ (l.apply S e).arrived S events

/-- The bytes of the dialer that are taken away in a list of events. -/
def Line.collected (S : Suite) (l : Line) : List Event → Bytes
  | [] => []
  | e :: events => e.collects l.wire ++ (l.apply S e).collected S events

variable {S : Suite} {own : Identity} {remote : PublicKey} {draw : Secret} {t : Tale} {d d' : Dial}
  {wire wire' : Wire} {now : Nat} {l : Line}

/-! ## One turn -/

/-- What a turn adds to the tale it puts on the connection, or has taken from there. -/
structure Moved (wire wire' : Wire) (t t' : Tale) (failed : Prop) : Prop where
  outward : ∃ put, t'.one ++ t'.three = t.one ++ t.three ++ put ∧
    wire'.outward.unread = wire.outward.unread ++ put
  inward : ¬ failed → ∃ taken, t'.two = t.two ++ taken ∧
    wire.inward.unread = taken ++ wire'.inward.unread

/-- A dialer that has failed, and hung up. -/
def Failed (d : Dial) : Prop := ∃ failure, d.phase = .failed failure

theorem Sofar.moved (sofar : Sofar S own remote draw t d.phase d.machine)
    (stepped : Stepped S now d wire d' wire') :
    Moved wire wire' t (Line.see ⟨d, wire, now⟩ t .step) (Failed d') := by
  obtain ⟨peer, key, timeout, machine, phase⟩ := d
  -- a turn that reads, in whatever way it goes on
  have reads : ∀ (m : Machine) (due : Nat) {got bytes : Bytes} {inward : Pipe},
      wire.inward.read (keyActSize - got.length) = (.bytes bytes, inward) →
      let t' := Line.see ⟨⟨peer, key, timeout, m, .readTwo got due⟩, wire, now⟩ t .step
      t'.one ++ t'.three = t.one ++ t.three ++ [] ∧ t'.two = t.two ++ bytes ∧
        wire.inward.unread = bytes ++ inward.unread := by
    intro m due got bytes inward read
    simp only [Line.see, read, List.append_nil, true_and]
    exact (Pipe.read_eq_bytes read).1.symm
  cases stepped with
  | begins ephemeral act machine' phase_eq sent =>
    obtain rfl : phase = .begun ephemeral := phase_eq
    exact ⟨⟨[], (List.append_nil _).symm, (List.append_nil _).symm⟩,
      fun _ => ⟨[], (List.append_nil _).symm, rfl⟩⟩
  | writesOne left rest outward phase_eq written =>
    obtain rfl : phase = .writeOne left := phase_eq
    have unread := wire.outward.unread_write left
    rw [written] at unread
    cases sofar with
    | writeOne asked sent =>
      refine ⟨⟨wire.outward.accepted left, ?_, unread⟩,
        fun _ => ⟨[], (List.append_nil _).symm, rfl⟩⟩
      simp only [Line.see, List.append_nil]
  | reads got bytes due inward phase_eq read =>
    obtain rfl : phase = .readTwo got due := phase_eq
    obtain ⟨put, two, inward⟩ := reads machine due read
    exact ⟨⟨[], put, (List.append_nil _).symm⟩, fun _ => ⟨bytes, two, inward⟩⟩
  | replies got bytes due inward act answer machine' last phase_eq read =>
    obtain rfl : phase = .readTwo got due := phase_eq
    obtain ⟨put, two, inward⟩ := reads machine due read
    exact ⟨⟨[], put, (List.append_nil _).symm⟩, fun _ => ⟨bytes, two, inward⟩⟩
  | writesThree left rest outward phase_eq written =>
    obtain rfl : phase = .writeThree left := phase_eq
    have unread := wire.outward.unread_write left
    rw [written] at unread
    refine ⟨⟨wire.outward.accepted left, ?_, unread⟩,
      fun _ => ⟨[], (List.append_nil _).symm, rfl⟩⟩
    simp only [Line.see, List.append_assoc]
  | failsOne ephemeral e machine' phase_eq =>
    obtain rfl : phase = .begun ephemeral := phase_eq
    exact ⟨⟨[], (List.append_nil _).symm, by rw [Wire.unread_closeGate, List.append_nil]⟩,
      fun stays => absurd ⟨_, rfl⟩ stays⟩
  | refusesTwo got bytes due inward act e machine' phase_eq read
  | failsThree got bytes due inward act e machine' last phase_eq read =>
    obtain rfl : phase = .readTwo got due := phase_eq
    obtain ⟨put, _, _⟩ := reads machine due read
    exact ⟨⟨[], put, by rw [Wire.unread_closeGate, List.append_nil]⟩,
      fun stays => absurd ⟨_, rfl⟩ stays⟩
  | breaksWriting act left e outward phase_eq written =>
    have nothing := (Pipe.failure?_of_write written).1
    have unread := wire.outward.unread_write left
    rw [written, nothing] at unread
    refine ⟨⟨[], ?_, by rw [Wire.unread_closeGate, unread]⟩, fun stays => absurd ⟨_, rfl⟩ stays⟩
    cases phase with
    | writeOne | writeThree =>
      cases phase_eq
      simp only [Line.see, nothing, List.append_nil]
    | _ => cases phase_eq
  | breaksReading got due e inward phase_eq read =>
    obtain rfl : phase = .readTwo got due := phase_eq
    refine ⟨⟨[], ?_, by rw [Wire.unread_closeGate, List.append_nil]⟩,
      fun stays => absurd ⟨_, rfl⟩ stays⟩
    rcases read with read | ⟨read, _⟩
    all_goals simp only [Line.see, read, List.append_nil]
  | expires got due phase_eq absent elapsed =>
    obtain rfl : phase = .readTwo got due := phase_eq
    refine ⟨⟨[], ?_, by rw [Wire.unread_closeGate, List.append_nil]⟩,
      fun stays => absurd ⟨_, rfl⟩ stays⟩
    simp only [Line.see, absent, elapsed, if_true, List.append_nil]

/-! ## One event, and many -/

theorem not_failed_of_apply {e : Event} (stays : ¬ Failed (l.apply S e).dial) : ¬ Failed l.dial := by
  rintro ⟨failure, phase_eq⟩
  have done : l.dial.result?.isSome = true := by
    rw [result?, phase_eq]
    rfl
  exact stays ⟨failure, by rw [apply_of_done done, phase_eq]⟩

theorem not_failed_of_run {events : List Event} (stays : ¬ Failed (l.run S events).dial) :
    ¬ Failed l.dial := by
  induction events generalizing l with
  | nil => exact stays
  | cons e events ih => exact not_failed_of_apply (ih (l := l.apply S e) stays)

theorem Sofar.outward_apply (sofar : Sofar S own remote draw t l.dial.phase l.dial.machine)
    (e : Event) : ∃ put, (l.see t e).one ++ (l.see t e).three = t.one ++ t.three ++ put ∧
      l.wire.outward.unread ++ put = e.collects l.wire ++ (l.apply S e).wire.outward.unread := by
  cases e with
  | step =>
    cases hstep : l.dial.step S l.now l.wire with
    | none =>
      rw [sofar.see_of_idle hstep, Line.apply, hstep]
      exact ⟨[], (List.append_nil _).symm, List.append_nil _⟩
    | some next =>
      obtain ⟨put, told, unread⟩ := (sofar.moved (step_spec hstep)).outward
      rw [Line.apply, hstep]
      exact ⟨put, told, unread.symm⟩
  | wire change =>
    refine ⟨[], (List.append_nil _).symm, (List.append_nil _).trans ?_⟩
    cases change with
    | read count =>
      show _ = l.wire.outward.unread.take count ++ (l.wire.outward.read count).2.unread
      rw [Pipe.unread_read, List.take_append_drop]
    | hangUp =>
      show l.wire.outward.unread = (if l.wire.peerOpen then l.wire.outward.unread else []) ++
        l.wire.closePeer.outward.unread
      unfold Wire.closePeer
      split
      · exact (List.append_nil _).symm
      · rfl
    | send | endWrites | failRead | failWrite | roomOutward | roomInward => rfl
  | advance milliseconds => exact ⟨[], (List.append_nil _).symm, List.append_nil _⟩

theorem Sofar.inward_apply (sofar : Sofar S own remote draw t l.dial.phase l.dial.machine)
    {e : Event} (stays : ¬ Failed (l.apply S e).dial) : ∃ taken, (l.see t e).two = t.two ++ taken ∧
      l.wire.inward.unread ++ e.brings l.wire = taken ++ (l.apply S e).wire.inward.unread := by
  cases e with
  | step =>
    cases hstep : l.dial.step S l.now l.wire with
    | none =>
      rw [sofar.see_of_idle hstep, Line.apply, hstep]
      exact ⟨[], (List.append_nil _).symm, List.append_nil _⟩
    | some next =>
      rw [Line.apply, hstep] at stays ⊢
      obtain ⟨taken, told, unread⟩ := (sofar.moved (step_spec hstep)).inward stays
      exact ⟨taken, told, (List.append_nil _).trans unread⟩
  | wire change =>
    refine ⟨[], (List.append_nil _).symm, ?_⟩
    cases change with
    | send bytes => exact (l.wire.inward.unread_write bytes).symm
    | hangUp =>
      show l.wire.inward.unread ++ [] = l.wire.closePeer.inward.unread
      unfold Wire.closePeer
      split <;> exact List.append_nil _
    | read | endWrites | failRead | failWrite | roomOutward | roomInward => exact List.append_nil _
  | advance milliseconds => exact ⟨[], (List.append_nil _).symm, List.append_nil _⟩

/-- **What a dialer puts on its connection is what its tale tells of acts one and three.** -/
theorem Sofar.outward_run (sofar : Sofar S own remote draw t l.dial.phase l.dial.machine)
    (events : List Event) :
    ∃ put, (l.tale S events t).one ++ (l.tale S events t).three = t.one ++ t.three ++ put ∧
      l.wire.outward.unread ++ put =
        l.collected S events ++ (l.run S events).wire.outward.unread := by
  induction events generalizing l t with
  | nil => exact ⟨[], (List.append_nil _).symm, List.append_nil _⟩
  | cons e events ih =>
    obtain ⟨put, told, unread⟩ := sofar.outward_apply e
    obtain ⟨more, told', unread'⟩ := ih (sofar.apply e)
    refine ⟨put ++ more, ?_, ?_⟩
    · rw [← List.append_assoc, ← told]
      exact told'
    · rw [← List.append_assoc, unread, List.append_assoc, unread', ← List.append_assoc]
      rfl

/-- **What a dialer takes from its connection is what its tale tells of act two**, and the rest is
    there to be read. -/
theorem Sofar.inward_run (sofar : Sofar S own remote draw t l.dial.phase l.dial.machine)
    {events : List Event} (stays : ¬ Failed (l.run S events).dial) :
    ∃ taken, (l.tale S events t).two = t.two ++ taken ∧
      l.wire.inward.unread ++ l.arrived S events =
        taken ++ (l.run S events).wire.inward.unread := by
  induction events generalizing l t with
  | nil => exact ⟨[], (List.append_nil _).symm, List.append_nil _⟩
  | cons e events ih =>
    obtain ⟨taken, told, unread⟩ := sofar.inward_apply (not_failed_of_run (l := l.apply S e) stays)
    obtain ⟨more, told', unread'⟩ := ih (sofar.apply e) stays
    refine ⟨taken ++ more, ?_, ?_⟩
    · rw [← List.append_assoc, ← told]
      exact told'
    · show _ ++ (e.brings l.wire ++ _) = _
      rw [← List.append_assoc, unread, List.append_assoc, unread', ← List.append_assoc]
      rfl

end Gatehouse.Dial
