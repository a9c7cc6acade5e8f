import Gatehouse.Proofs.Dial.Steps
import Gatehouse.Proofs.Handshake.Acts
import Gatehouse.Proofs.Listener.Schedule
import Gatehouse.Proofs.Listener.Verdict
import Gatehouse.Proofs.Listener.Wire

/-!
# What a dialer meets with, and what it makes of that

A `Tale` is what the turns of a dialer have come to: the bytes that were taken of act one and of act
three, the bytes that were read of act two, and what went wrong with any of it.  The initiator's part
read straight through, as if nothing else went on, makes of it what the dialer has come to
(`Dial.verdict`): the first step that fails is the result.

A dialer between two turns is on the same way (`Dial.Sofar`), whatever the server does and however
its bytes come.
-/

namespace Gatehouse

namespace Pipe

variable {p q : Pipe} {b rest : Bytes} {e : SystemError}

/-- The error that writing comes to, if it does. -/
def failure? (p : Pipe) (b : Bytes) : Option SystemError :=
  match (p.write b).1 with
  | .ready (.error e) => some e
  | _ => none

theorem accepted_of_write (h : p.write b = (.ready (.ok rest), q)) :
    b = p.accepted b ++ rest ∧ p.failure? b = none := by
  obtain ⟨sent, split, _⟩ := write_eq_ok h
  refine ⟨?_, by rw [failure?, h]⟩
  have taken : p.accepted b = sent := by
    rw [accepted, h]
    simp only
    rw [split, List.length_append, Nat.add_sub_cancel, List.take_left]
  rw [taken]
  exact split

theorem failure?_of_write (h : p.write b = (.ready (.error e), q)) :
    p.accepted b = [] ∧ p.failure? b = some e := by
  rw [accepted, failure?, h]
  exact ⟨rfl, rfl⟩

theorem failure?_eq_some : p.failure? b = some e ↔ (p.write b).1 = .ready (.error e) := by
  unfold failure?
  split
  · rename_i e' failed
    rw [failed]
    rw [Option.some.injEq, Poll.ready.injEq, Except.error.injEq]
  · rename_i fine
    exact ⟨nofun, fun h => absurd h (fine e)⟩

end Pipe

namespace Dial

/-! ## Tales -/

/-- Why reading act two came to an end before the act was there. -/
inductive Lapse
  | ended (ending : StreamEnd)
  | late
deriving DecidableEq

/-- What the dialer fails with then. -/
def Lapse.failure : Lapse → Failure
  | ended ending => ending.failure .two
  | late => .timeout .two

theorem Lapse.failure_ne_closed (lapse : Lapse) : lapse.failure ≠ .closed := by
  cases lapse with
  | ended ending => exact ending.failure_ne_closed .two
  | late => exact Failure.noConfusion

/-- What the turns of a dialer have come to. -/
structure Tale where
  /-- What was taken of act one. -/
  one : Bytes := []
  /-- What writing act one has failed with. -/
  oneFault : Option SystemError := none
  /-- What was read of act two. -/
  two : Bytes := []
  lapse : Option Lapse := none
  /-- What was taken of act three. -/
  three : Bytes := []
  /-- What writing act three has failed with. -/
  threeFault : Option SystemError := none
deriving DecidableEq

/-- Add what comes of an event. -/
def Line.see (l : Line) (t : Tale) : Event → Tale
  | .step =>
    match l.dial.phase with
    | .writeOne left =>
      { t with
        one := t.one ++ l.wire.outward.accepted left
        oneFault := l.wire.outward.failure? left }
    | .readTwo got due =>
      match (l.wire.inward.read (keyActSize - got.length)).1 with
      | .bytes b => { t with two := t.two ++ b }
      | .fault e => { t with lapse := some (.ended (.fault e)) }
      | .ended => { t with lapse := some (.ended .eof) }
      | .nothing => if expired l.now due then { t with lapse := some .late } else t
    | .writeThree left =>
      { t with
        three := t.three ++ l.wire.outward.accepted left
        threeFault := l.wire.outward.failure? left }
    | .begun _ | .secured | .failed _ => t
  | .wire _ | .advance _ => t

/-- What the turns of a dialer come to in a list of events. -/
def Line.tale (S : Suite) (l : Line) : List Event → Tale → Tale
  | [], t => t
  | e :: events, t => (l.apply S e).tale S events (l.see t e)

theorem tale_append (S : Suite) (l : Line) (events more : List Event) (t : Tale) :
    l.tale S (events ++ more) t = (l.run S events).tale S more (l.tale S events t) := by
  induction events generalizing l t with
  | nil => rfl
  | cons e events ih => exact ih (l.apply S e) (l.see t e)

/-- What comes to be true of a tale does so at one event. -/
theorem exists_turn {S : Suite} {l : Line} {t : Tale} {events : List Event} (P : Tale → Prop)
    (not_ : ¬ P t) (holds : P (l.tale S events t)) :
    ∃ before e after, events = before ++ e :: after ∧ ¬ P (l.tale S before t) ∧
      P ((l.run S before).see (l.tale S before t) e) := by
  induction events generalizing l t with
  | nil => exact absurd holds not_
  | cons e events ih =>
    by_cases now : P (l.see t e)
    · exact ⟨[], e, events, rfl, not_, now⟩
    · obtain ⟨before, e', after, rfl, still, turns⟩ := ih now holds
      exact ⟨e :: before, e', after, rfl, still, turns⟩

/-- What writing an act has failed with. -/
def Tale.fault (t : Tale) : Act → Option SystemError
  | .one => t.oneFault
  | .two => none
  | .three => t.threeFault

/-- The next turn of a dialer fails at writing an act. -/
def Breaks (l : Line) (act : Act) (e : SystemError) : Prop :=
  ∃ left, l.dial.phase.writing? = some (act, left) ∧
    (l.wire.outward.write left).1 = .ready (.error e)

theorem breaks_of_see {l : Line} {t : Tale} {e : Event} {act : Act} {error : SystemError}
    (not_ : t.fault act ≠ some error) (fault : (l.see t e).fault act = some error) :
    e = .step ∧ Breaks l act error := by
  cases e with
  | step =>
    obtain ⟨⟨peer, key, timeout, machine, phase⟩, wire, now⟩ := l
    refine ⟨rfl, ?_⟩
    cases phase with
    | writeOne left =>
      cases act with
      | one => exact ⟨left, rfl, Pipe.failure?_eq_some.1 fault⟩
      | two | three => exact absurd fault not_
    | writeThree left =>
      cases act with
      | three => exact ⟨left, rfl, Pipe.failure?_eq_some.1 fault⟩
      | one | two => exact absurd fault not_
    | readTwo got due =>
      refine absurd ?_ not_
      rw [← fault]
      simp only [Line.see]
      split
      any_goals rfl
      split <;> rfl
    | begun | secured | failed => exact absurd fault not_
  | wire change => exact absurd fault not_
  | advance milliseconds => exact absurd fault not_

variable (S : Suite)

/-- The initiator's part read straight through. -/
def verdict (own : Identity) (remote : PublicKey) (draw : Secret) (t : Tale) : Course :=
  match (Machine.initiator S own remote).sendActOne S draw with
  | (.error e, _) => .failed (.handshake e)
  | (.ok one, machine) =>
    match t.oneFault with
    | some e => .failed (.io .one e)
    | none =>
      if t.one ≠ one.bytes then .going
      else
        match t.lapse with
        | some lapse => .failed lapse.failure
        | none =>
          match Octets.ofBytes? keyActSize t.two with
          | none => .going
          | some two =>
            match machine.receiveActTwo S two with
            | (.error e, _) => .failed (.handshake e)
            | (.ok (), machine) =>
              match machine.sendActThree S with
              | (.error e, _) => .failed (.handshake e)
              | (.ok three, machine) =>
                match t.threeFault with
                | some e => .failed (.io .three e)
                | none => if t.three ≠ three.bytes then .going else .secured machine remote

/-- What has become of a dialer in a phase. -/
def course (d : Dial) : Course :=
  match d.phase with
  | .secured => .secured d.machine d.remoteStatic
  | .failed failure => .failed failure
  | .begun _ | .writeOne _ | .readTwo _ _ | .writeThree _ => .going

/-! ## Half-way -/

/-- The machine has made act one. -/
def Asked (own : Identity) (remote : PublicKey) (draw : Secret) (one : Octets keyActSize)
    (m : Machine) : Prop :=
  (Machine.initiator S own remote).sendActOne S draw = (.ok one, m)

/-- The machine has accepted act two and made act three. -/
def Replied (m₁ : Machine) (two : Octets keyActSize) (three : Octets staticActSize) (m : Machine) :
    Prop :=
  ∃ m₂, m₁.receiveActTwo S two = (.ok (), m₂) ∧ m₂.sendActThree S = (.ok three, m)

/-- What a dialer with this machine has met with in a phase. -/
inductive Sofar (own : Identity) (remote : PublicKey) (draw : Secret) :
    Tale → DialPhase → Machine → Prop
  | begun : Sofar own remote draw {} (.begun draw) (.initiator S own remote)
  | writeOne {one : Octets keyActSize} {m : Machine} (asked : Asked S own remote draw one m)
      (sent left : Bytes) (split : sent ++ left = one.bytes) (more : left ≠ []) :
    Sofar own remote draw { one := sent } (.writeOne left) m
  | readTwo {one : Octets keyActSize} {m : Machine} (asked : Asked S own remote draw one m)
      (got : Bytes) (due : Nat) (short : got.length < keyActSize) :
    Sofar own remote draw { one := one.bytes, two := got } (.readTwo got due) m
  | writeThree {one two : Octets keyActSize} {three : Octets staticActSize} {m₁ m : Machine}
      (asked : Asked S own remote draw one m₁) (replied : Replied S m₁ two three m)
      (sent left : Bytes) (split : sent ++ left = three.bytes) (more : left ≠ []) :
    Sofar own remote draw { one := one.bytes, two := two.bytes, three := sent } (.writeThree left) m
  | secured {one two : Octets keyActSize} {three : Octets staticActSize} {m₁ m : Machine}
      (asked : Asked S own remote draw one m₁) (replied : Replied S m₁ two three m) :
    Sofar own remote draw { one := one.bytes, two := two.bytes, three := three.bytes } .secured m
  /-- Act one cannot be made. -/
  | unasked {e : HandshakeError} {m m' : Machine}
      (failed : (Machine.initiator S own remote).sendActOne S draw = (.error e, m')) :
    Sofar own remote draw {} (.failed (.handshake e)) m
  /-- Act one cannot be written. -/
  | brokeOne {one : Octets keyActSize} {m₁ m : Machine} (asked : Asked S own remote draw one m₁)
      (sent left : Bytes) (split : sent ++ left = one.bytes) (more : left ≠ []) (e : SystemError) :
    Sofar own remote draw { one := sent, oneFault := some e } (.failed (.io .one e)) m
  /-- Act two does not come. -/
  | lapsed {one : Octets keyActSize} {m₁ m : Machine} (asked : Asked S own remote draw one m₁)
      (got : Bytes) (short : got.length < keyActSize) (lapse : Lapse) :
    Sofar own remote draw { one := one.bytes, two := got, lapse := some lapse }
      (.failed lapse.failure) m
  /-- Act two is refused. -/
  | refused {one two : Octets keyActSize} {m₁ m₂ m : Machine} {e : HandshakeError}
      (asked : Asked S own remote draw one m₁)
      (refused : m₁.receiveActTwo S two = (.error e, m₂)) :
    Sofar own remote draw { one := one.bytes, two := two.bytes } (.failed (.handshake e)) m
  /-- Act three cannot be made. -/
  | unreplied {one two : Octets keyActSize} {m₁ m₂ m₃ m : Machine} {e : HandshakeError}
      (asked : Asked S own remote draw one m₁)
      (accepted : m₁.receiveActTwo S two = (.ok (), m₂))
      (failed : m₂.sendActThree S = (.error e, m₃)) :
    Sofar own remote draw { one := one.bytes, two := two.bytes } (.failed (.handshake e)) m
  /-- Act three cannot be written. -/
  | brokeThree {one two : Octets keyActSize} {three : Octets staticActSize} {m₁ m₃ m : Machine}
      (asked : Asked S own remote draw one m₁) (replied : Replied S m₁ two three m₃)
      (sent left : Bytes) (split : sent ++ left = three.bytes) (more : left ≠ [])
      (e : SystemError) :
    Sofar own remote draw
      { one := one.bytes, two := two.bytes, three := sent, threeFault := some e }
      (.failed (.io .three e)) m

variable {S} {own : Identity} {remote : PublicKey} {draw : Secret} {t : Tale} {d d' : Dial}
  {wire wire' : Wire} {now : Nat} {l : Line}

/-! ## One turn further -/

/-- Somebody who has bytes left to write has not written all of them. -/
theorem ne_of_more {whole sent left : Bytes} (split : sent ++ left = whole) (more : left ≠ []) :
    sent ≠ whole := by
  rintro rfl
  exact more (List.append_right_eq_self.1 split)

/-- **Every turn of a dialer goes on with the reading.** -/
theorem Sofar.step (sofar : Sofar S own remote draw t d.phase d.machine)
    (stepped : Stepped S now d wire d' wire') :
    Sofar S own remote draw (Line.see ⟨d, wire, now⟩ t .step) d'.phase d'.machine := by
  obtain ⟨peer, key, timeout, machine, phase⟩ := d
  cases stepped with
  | begins ephemeral act machine' phase_eq sent =>
    obtain rfl : phase = .begun ephemeral := phase_eq
    cases sofar with
    | begun => exact .writeOne sent [] act.bytes rfl act.bytes_ne_nil
  | writesOne left rest outward phase_eq written =>
    obtain rfl : phase = .writeOne left := phase_eq
    obtain ⟨split', fine⟩ := Pipe.accepted_of_write written
    cases sofar with
    | @writeOne one _ asked sent _ split more =>
      rw [split', ← List.append_assoc] at split
      simp only [Line.see, fine]
      by_cases all : rest = []
      · subst all
        rw [List.append_nil] at split
        rw [if_pos rfl, split]
        exact .readTwo asked [] _ (by decide)
      · rw [if_neg all]
        exact .writeOne asked _ rest split all
  | reads got bytes due inward phase_eq read short =>
    obtain rfl : phase = .readTwo got due := phase_eq
    cases sofar with
    | readTwo asked _ _ less =>
      have length : (got ++ bytes).length ≠ keyActSize := Octets.ofBytes?_eq_none_iff.1 short
      have atMost := (Pipe.read_eq_bytes read).2
      rw [List.length_append] at length
      simp only [Line.see, read]
      exact .readTwo asked (got ++ bytes) due (by rw [List.length_append]; omega)
  | replies got bytes due inward act answer machine' last phase_eq read full accepted sent =>
    obtain rfl : phase = .readTwo got due := phase_eq
    cases sofar with
    | readTwo asked =>
      simp only [Line.see, read]
      rw [Octets.ofBytes?_eq_some_iff.1 full]
      exact .writeThree asked ⟨machine', accepted, sent⟩ [] answer.bytes rfl answer.bytes_ne_nil
  | writesThree left rest outward phase_eq written =>
    obtain rfl : phase = .writeThree left := phase_eq
    obtain ⟨split', fine⟩ := Pipe.accepted_of_write written
    cases sofar with
    | writeThree asked replied sent _ split more =>
      rw [split', ← List.append_assoc] at split
      simp only [Line.see, fine]
      by_cases all : rest = []
      · subst all
        rw [List.append_nil] at split
        rw [if_pos rfl, split]
        exact .secured asked replied
      · rw [if_neg all]
        exact .writeThree asked replied _ rest split all
  | failsOne ephemeral e machine' phase_eq failed =>
    obtain rfl : phase = .begun ephemeral := phase_eq
    cases sofar with
    | begun => exact .unasked failed
  | refusesTwo got bytes due inward act e machine' phase_eq read full refused =>
    obtain rfl : phase = .readTwo got due := phase_eq
    cases sofar with
    | readTwo asked =>
      simp only [Line.see, read]
      rw [Octets.ofBytes?_eq_some_iff.1 full]
      exact .refused asked refused
  | failsThree got bytes due inward act e machine' last phase_eq read full accepted failed =>
    obtain rfl : phase = .readTwo got due := phase_eq
    cases sofar with
    | readTwo asked =>
      simp only [Line.see, read]
      rw [Octets.ofBytes?_eq_some_iff.1 full]
      exact .unreplied asked accepted failed
  | breaksWriting act left e outward phase_eq written =>
    obtain ⟨nothing, broken⟩ := Pipe.failure?_of_write written
    cases sofar with
    | writeOne asked sent _ split more =>
      cases phase_eq
      simp only [Line.see, nothing, broken, List.append_nil]
      exact .brokeOne asked sent left split more e
    | writeThree asked replied sent _ split more =>
      cases phase_eq
      simp only [Line.see, nothing, broken, List.append_nil]
      exact .brokeThree asked replied sent left split more e
    | _ => cases phase_eq
  | breaksReading got due e inward phase_eq read =>
    obtain rfl : phase = .readTwo got due := phase_eq
    cases sofar with
    | readTwo asked _ _ less =>
      rcases read with read | ⟨read, rfl⟩
      · simp only [Line.see, read]
        rw [← StreamEnd.failure_fault]
        exact .lapsed asked got less (.ended (.fault e))
      · simp only [Line.see, read]
        exact .lapsed asked got less (.ended .eof)
  | expires got due phase_eq absent elapsed =>
    obtain rfl : phase = .readTwo got due := phase_eq
    cases sofar with
    | readTwo asked _ _ less =>
      simp only [Line.see, absent, elapsed, if_true]
      exact .lapsed asked got less .late

/-- A turn in which there was nothing to do has come to nothing. -/
theorem Sofar.see_of_idle (sofar : Sofar S own remote draw t l.dial.phase l.dial.machine)
    (idle : l.dial.step S l.now l.wire = none) : l.see t .step = t := by
  obtain ⟨⟨peer, key, timeout, machine, phase⟩, wire, now⟩ := l
  -- whoever is kept waiting has written nothing
  have waits : ∀ {d : Dial} {act left more full}, d.write wire act left more full = none →
      wire.outward.accepted left = [] ∧ wire.outward.failure? left = none := by
    intro d act left more full idle
    unfold write at idle
    split at idle
    · rename_i pending
      rw [Pipe.accepted, Pipe.failure?, pending]
      exact ⟨rfl, rfl⟩
    all_goals cases idle
  cases sofar with
  | begun =>
    simp only [Dial.step] at idle
    split at idle <;> cases idle
  | writeOne asked sent left | writeThree asked replied sent left =>
    obtain ⟨nothing, fine⟩ := waits idle
    simp only [Line.see, nothing, fine, List.append_nil]
  | readTwo asked got due =>
    rcases found : wire.inward.read (keyActSize - got.length) with ⟨sight, inward⟩
    simp only [Dial.step, found] at idle
    simp only [Line.see, found]
    cases sight with
    | bytes b =>
      simp only at idle
      split at idle <;> cases idle
    | fault e => cases idle
    | ended => cases idle
    | nothing =>
      simp only at idle
      split at idle
      · cases idle
      · rename_i early
        exact if_neg early
  | _ => rfl

theorem Sofar.apply (sofar : Sofar S own remote draw t l.dial.phase l.dial.machine) (e : Event) :
    Sofar S own remote draw (l.see t e) (l.apply S e).dial.phase (l.apply S e).dial.machine := by
  cases e with
  | step =>
    cases hstep : l.dial.step S l.now l.wire with
    | none =>
      rw [sofar.see_of_idle hstep, Line.apply, hstep]
      exact sofar
    | some next =>
      rw [Line.apply, hstep]
      exact sofar.step (step_spec hstep)
  | wire change => exact sofar
  | advance milliseconds => exact sofar

/-- **A dialer is on the way of the reading at any time.** -/
theorem Sofar.run (sofar : Sofar S own remote draw t l.dial.phase l.dial.machine)
    (events : List Event) :
    Sofar S own remote draw (l.tale S events t) (l.run S events).dial.phase
      (l.run S events).dial.machine := by
  induction events generalizing l t with
  | nil => exact sofar
  | cons e events ih => exact ih (sofar.apply e)

/-! ## The verdict -/

section Verdict

variable {one two : Octets keyActSize} {three : Octets staticActSize} {m₁ m : Machine}

theorem verdict_of_asked (asked : Asked S own remote draw one m₁) (t : Tale) :
    verdict S own remote draw t =
      match t.oneFault with
      | some e => .failed (.io .one e)
      | none =>
        if t.one ≠ one.bytes then .going
        else
          match t.lapse with
          | some lapse => .failed lapse.failure
          | none =>
            match Octets.ofBytes? keyActSize t.two with
            | none => .going
            | some two =>
              match m₁.receiveActTwo S two with
              | (.error e, _) => .failed (.handshake e)
              | (.ok (), machine) =>
                match machine.sendActThree S with
                | (.error e, _) => .failed (.handshake e)
                | (.ok three, machine) =>
                  match t.threeFault with
                  | some e => .failed (.io .three e)
                  | none => if t.three ≠ three.bytes then .going else .secured machine remote := by
  unfold verdict
  rw [show (Machine.initiator S own remote).sendActOne S draw = (.ok one, m₁) from asked]

theorem verdict_of_replied (asked : Asked S own remote draw one m₁)
    (replied : Replied S m₁ two three m) (sent : Bytes) (fault : Option SystemError) :
    verdict S own remote draw
        { one := one.bytes, two := two.bytes, three := sent, threeFault := fault } =
      match fault with
      | some e => .failed (.io .three e)
      | none => if sent ≠ three.bytes then .going else .secured m remote := by
  obtain ⟨m₂, accepted, made⟩ := replied
  rw [verdict_of_asked asked]
  simp only [ne_eq, not_true_eq_false, if_false, Octets.ofBytes?_bytes, accepted, made]

/-- **What a dialer has come to is what the reading makes of its tale**, once it has begun. -/
theorem Sofar.course_eq (sofar : Sofar S own remote draw t d.phase d.machine)
    (key : d.remoteStatic = remote) (begun : d.phase ≠ .begun draw) :
    d.course = verdict S own remote draw t := by
  obtain ⟨peer, known, timeout, machine, phase⟩ := d
  obtain rfl : known = remote := key
  cases sofar with
  | begun => exact absurd rfl begun
  | writeOne asked sent left split more =>
    rw [verdict_of_asked asked]
    exact (if_pos (ne_of_more split more)).symm
  | readTwo asked got due short =>
    have notYet : Octets.ofBytes? keyActSize got = none :=
      Octets.ofBytes?_eq_none_iff.2 (Nat.ne_of_lt short)
    rw [verdict_of_asked asked]
    simp only [ne_eq, not_true_eq_false, if_false, notYet]
    rfl
  | writeThree asked replied sent left split more =>
    rw [verdict_of_replied asked replied]
    exact (if_pos (ne_of_more split more)).symm
  | secured asked replied =>
    rw [verdict_of_replied asked replied]
    exact (if_neg (not_not_intro rfl)).symm
  | unasked failed =>
    unfold verdict
    simp only [failed]
    rfl
  | brokeOne asked sent left split more e =>
    rw [verdict_of_asked asked]
    rfl
  | lapsed asked got short lapse =>
    rw [verdict_of_asked asked]
    exact (if_neg (not_not_intro rfl)).symm
  | refused asked refused =>
    rw [verdict_of_asked asked]
    simp only [ne_eq, not_true_eq_false, if_false, Octets.ofBytes?_bytes, refused]
    rfl
  | unreplied asked accepted failed =>
    rw [verdict_of_asked asked]
    simp only [ne_eq, not_true_eq_false, if_false, Octets.ofBytes?_bytes, accepted, failed]
    rfl
  | brokeThree asked replied sent left split more e =>
    rw [verdict_of_replied asked replied]
    rfl

end Verdict

end Dial

end Gatehouse
