import Gatehouse.Dial
import Gatehouse.Proofs.Handshake.Invariant

/-!
# The steps of a dialer

What one step of a dialer can do is said once, with one constructor for each way that it can go
(`Stepped`).  A dialer is bound to the key that it was asked for (`Bound`): its machine is an
initiator's for that key, and has completed the handshake before act three goes out.  That holds
along every run, whatever comes from the other side.
-/

namespace Gatehouse

/-- The act that a dialer writes in a phase, with what is left of it. -/
def DialPhase.writing? : DialPhase → Option (Act × Bytes)
  | .writeOne left => some (.one, left)
  | .writeThree left => some (.three, left)
  | _ => none

/-- Does act three go out in this phase, or has it gone? -/
def DialPhase.isLast : DialPhase → Bool
  | .writeThree _ | .secured => true
  | _ => false

namespace Dial

variable {S : Suite} {now : Nat} {d d' : Dial} {wire wire' : Wire}

/-! ## What a step can do -/

/-- The ways that a step of a dialer can go. -/
inductive Stepped (S : Suite) (now : Nat) (d : Dial) (wire : Wire) : Dial → Wire → Prop
  /-- Act one is made. -/
  | begins (ephemeral : Secret) (act : Octets keyActSize) (machine : Machine)
      (phase_eq : d.phase = .begun ephemeral)
      (sent : d.machine.sendActOne S ephemeral = (.ok act, machine)) :
    Stepped S now d wire { d with machine, phase := .writeOne act.bytes } wire
  /-- Some bytes of act one are taken, or all that were left. -/
  | writesOne (left rest : Bytes) (outward : Pipe) (phase_eq : d.phase = .writeOne left)
      (written : wire.outward.write left = (.ready (.ok rest), outward)) :
    Stepped S now d wire
      { d with phase := if rest = [] then .readTwo [] (now + d.timeout) else .writeOne rest }
      { wire with outward }
  /-- Some bytes of act two have arrived. -/
  | reads (got bytes : Bytes) (due : Nat) (inward : Pipe) (phase_eq : d.phase = .readTwo got due)
      (read : wire.inward.read (keyActSize - got.length) = (.bytes bytes, inward))
      (short : Octets.ofBytes? keyActSize (got ++ bytes) = none) :
    Stepped S now d wire { d with phase := .readTwo (got ++ bytes) due } { wire with inward }
  /-- Act two is accepted, and act three is made. -/
  | replies (got bytes : Bytes) (due : Nat) (inward : Pipe) (act : Octets keyActSize)
      (answer : Octets staticActSize) (machine last : Machine)
      (phase_eq : d.phase = .readTwo got due)
      (read : wire.inward.read (keyActSize - got.length) = (.bytes bytes, inward))
      (full : Octets.ofBytes? keyActSize (got ++ bytes) = some act)
      (accepted : d.machine.receiveActTwo S act = (.ok (), machine))
      (sent : machine.sendActThree S = (.ok answer, last)) :
    Stepped S now d wire { d with machine := last, phase := .writeThree answer.bytes }
      { wire with inward }
  /-- Some bytes of act three are taken, or all that were left. -/
  | writesThree (left rest : Bytes) (outward : Pipe) (phase_eq : d.phase = .writeThree left)
      (written : wire.outward.write left = (.ready (.ok rest), outward)) :
    Stepped S now d wire
      { d with phase := if rest = [] then .secured else .writeThree rest } { wire with outward }
  /-- Act one cannot be made. -/
  | failsOne (ephemeral : Secret) (e : HandshakeError) (machine : Machine)
      (phase_eq : d.phase = .begun ephemeral)
      (failed : d.machine.sendActOne S ephemeral = (.error e, machine)) :
    Stepped S now d wire { d with machine, phase := .failed (.handshake e) } wire.closeGate
  /-- Act two is refused. -/
  | refusesTwo (got bytes : Bytes) (due : Nat) (inward : Pipe) (act : Octets keyActSize)
      (e : HandshakeError) (machine : Machine) (phase_eq : d.phase = .readTwo got due)
      (read : wire.inward.read (keyActSize - got.length) = (.bytes bytes, inward))
      (full : Octets.ofBytes? keyActSize (got ++ bytes) = some act)
      (refused : d.machine.receiveActTwo S act = (.error e, machine)) :
    Stepped S now d wire { d with machine, phase := .failed (.handshake e) }
      { wire with inward }.closeGate
  /-- Act two is accepted, but act three cannot be made. -/
  | failsThree (got bytes : Bytes) (due : Nat) (inward : Pipe) (act : Octets keyActSize)
      (e : HandshakeError) (machine last : Machine) (phase_eq : d.phase = .readTwo got due)
      (read : wire.inward.read (keyActSize - got.length) = (.bytes bytes, inward))
      (full : Octets.ofBytes? keyActSize (got ++ bytes) = some act)
      (accepted : d.machine.receiveActTwo S act = (.ok (), machine))
      (failed : machine.sendActThree S = (.error e, last)) :
    Stepped S now d wire { d with machine := last, phase := .failed (.handshake e) }
      { wire with inward }.closeGate
  /-- Writing an act fails. -/
  | breaksWriting (act : Act) (left : Bytes) (e : SystemError) (outward : Pipe)
      (phase_eq : d.phase.writing? = some (act, left))
      (written : wire.outward.write left = (.ready (.error e), outward)) :
    Stepped S now d wire { d with phase := .failed (.io act e) } { wire with outward }.closeGate
  /-- Reading act two fails. -/
  | breaksReading (got : Bytes) (due : Nat) (e : SystemError) (inward : Pipe)
      (phase_eq : d.phase = .readTwo got due)
      (read : wire.inward.read (keyActSize - got.length) = (.fault e, inward) ∨
        wire.inward.read (keyActSize - got.length) = (.ended, inward) ∧ e = .earlyEnd) :
    Stepped S now d wire { d with phase := .failed (Failure.ofRead .two e) }
      { wire with inward }.closeGate
  /-- Act two has not come in time. -/
  | expires (got : Bytes) (due : Nat) (phase_eq : d.phase = .readTwo got due)
      (absent : (wire.inward.read (keyActSize - got.length)).1 = .nothing)
      (elapsed : expired now due = true) :
    Stepped S now d wire { d with phase := .failed (.timeout .two) } wire.closeGate

theorem stepped_write {act : Act} {left : Bytes} {more : Bytes → DialPhase} {full : DialPhase}
    (phase_eq : d.phase.writing? = some (act, left))
    (goesOn : ∀ rest outward, wire.outward.write left = (.ready (.ok rest), outward) →
      Stepped S now d wire { d with phase := if rest = [] then full else more rest }
        { wire with outward })
    (h : d.write wire act left more full = some (d', wire')) : Stepped S now d wire d' wire' := by
  unfold write at h
  split at h
  · cases h
  · rename_i e outward written
    cases h
    exact .breaksWriting act left e outward phase_eq written
  · rename_i outward written
    cases h
    exact goesOn [] outward written
  · rename_i rest outward unfinished written
    cases h
    have hstep := goesOn rest outward written
    rw [if_neg unfinished] at hstep
    exact hstep

theorem stepped_takeActTwo {got bytes : Bytes} {due : Nat} {inward : Pipe}
    {act : Octets keyActSize} (phase_eq : d.phase = .readTwo got due)
    (read : wire.inward.read (keyActSize - got.length) = (.bytes bytes, inward))
    (full : Octets.ofBytes? keyActSize (got ++ bytes) = some act) :
    Stepped S now d wire (d.takeActTwo S { wire with inward } act).1
      (d.takeActTwo S { wire with inward } act).2 := by
  unfold takeActTwo
  split
  · rename_i e machine refused
    exact .refusesTwo got bytes due inward act e machine phase_eq read full refused
  · rename_i machine accepted
    split
    · rename_i e last failed
      exact .failsThree got bytes due inward act e machine last phase_eq read full accepted failed
    · rename_i answer last sent
      exact .replies got bytes due inward act answer machine last phase_eq read full accepted sent

/-- Every step goes one of the ways. -/
theorem step_spec (h : d.step S now wire = some (d', wire')) : Stepped S now d wire d' wire' := by
  unfold step at h
  split at h
  · rename_i ephemeral phase_eq
    split at h
    · rename_i e machine failed
      cases h
      exact .failsOne ephemeral e machine phase_eq failed
    · rename_i act machine sent
      cases h
      exact .begins ephemeral act machine phase_eq sent
  · rename_i left phase_eq
    refine stepped_write ?_ (fun rest outward => .writesOne left rest outward phase_eq) h
    rw [phase_eq]
    rfl
  · rename_i got due phase_eq
    rcases read : wire.inward.read (keyActSize - got.length) with ⟨found, inward⟩
    simp only [read] at h
    split at h
    · rename_i bytes
      split at h
      · rename_i act full
        have hstep : d.takeActTwo S { wire with inward } act = (d', wire') := Option.some.inj h
        have hstepped : Stepped S now d wire (d.takeActTwo S { wire with inward } act).1
            (d.takeActTwo S { wire with inward } act).2 := stepped_takeActTwo phase_eq read full
        rw [hstep] at hstepped
        exact hstepped
      · rename_i short
        cases h
        exact .reads got bytes due inward phase_eq read short
    · rename_i e
      cases h
      exact .breaksReading got due e inward phase_eq (.inl read)
    · cases h
      exact .breaksReading got due .earlyEnd inward phase_eq (.inr ⟨read, rfl⟩)
    · split at h
      · rename_i elapsed
        cases h
        exact .expires got due phase_eq (congrArg (·.1) read) elapsed
      · cases h
  · rename_i left phase_eq
    refine stepped_write ?_ (fun rest outward => .writesThree left rest outward phase_eq) h
    rw [phase_eq]
    rfl
  · cases h
  · cases h

/-! ## What holds of a dialer at any time -/

/-- A dialer that was asked to reach the holder of a key. -/
structure Bound (own : Identity) (remote : PublicKey) (d : Dial) : Prop where
  remoteStatic_eq : d.remoteStatic = remote
  coherent : Machine.Coherent .initiator own remote d.machine
  /-- When act three goes out, all acts are made. -/
  complete : d.phase.isLast = true → d.machine.isComplete = true

variable {own : Identity} {remote : PublicKey}

theorem bound_start (S : Suite) (own : Identity) (remote : PublicKey) (peer : SocketAddress)
    (timeout : Nat) (ephemeral : Secret) :
    Bound own remote (start S own remote peer timeout ephemeral) where
  remoteStatic_eq := rfl
  coherent := Machine.coherent_opening .initiator own remote
  complete := fun h => Bool.noConfusion h

/-- A dialer whose machine has done an operation, and that has no act three to send. -/
theorem Bound.operated (bound : Bound own remote d) (op : Machine.Operation) {phase : DialPhase}
    (early : phase.isLast = false) :
    Bound own remote { d with machine := (d.machine.perform S op).2, phase } where
  remoteStatic_eq := bound.remoteStatic_eq
  coherent := bound.coherent.performed (Machine.perform_spec d.machine op)
  complete := fun h => Bool.noConfusion (early.symm.trans h)

/-- A dialer that goes on to another phase with the machine that it has. -/
theorem Bound.setPhase (bound : Bound own remote d) {phase : DialPhase}
    (same : phase.isLast = true → d.phase.isLast = true) :
    Bound own remote { d with phase } where
  remoteStatic_eq := bound.remoteStatic_eq
  coherent := bound.coherent
  complete := fun h => bound.complete (same h)

theorem Bound.stepped (bound : Bound own remote d) (stepped : Stepped S now d wire d' wire') :
    Bound own remote d' := by
  -- phases before act three are told by their form
  have early : ∀ {phase : DialPhase}, phase.isLast = false →
      phase.isLast = true → d.phase.isLast = true :=
    fun early h => Bool.noConfusion (early.symm.trans h)
  cases stepped with
  | begins ephemeral act machine phase_eq sent =>
    obtain rfl : (d.machine.perform S (.sendOne ephemeral)).2 = machine := congrArg (·.2) sent
    exact bound.operated _ rfl
  | writesOne left rest outward phase_eq written =>
    by_cases hrest : rest = []
    · rw [if_pos hrest]
      exact bound.setPhase (early rfl)
    · rw [if_neg hrest]
      exact bound.setPhase (early rfl)
  | reads got bytes due inward phase_eq read short => exact bound.setPhase (early rfl)
  | replies got bytes due inward act answer machine last phase_eq read full accepted sent =>
    obtain rfl : (d.machine.perform S (.receiveTwo act)).2 = machine := congrArg (·.2) accepted
    obtain rfl : ((d.machine.perform S (.receiveTwo act)).2.perform S .sendThree).2 = last :=
      congrArg (·.2) sent
    have coherent := bound.coherent.performed (Machine.perform_spec (S := S) _ (.receiveTwo act))
    exact ⟨bound.remoteStatic_eq, coherent.performed (Machine.perform_spec _ .sendThree),
      fun _ => Machine.complete_of_sendActThree sent⟩
  | writesThree left rest outward phase_eq written =>
    have last : d.phase.isLast = true := by
      rw [phase_eq]
      rfl
    by_cases hrest : rest = []
    · rw [if_pos hrest]
      exact bound.setPhase fun _ => last
    · rw [if_neg hrest]
      exact bound.setPhase fun _ => last
  | failsOne ephemeral e machine phase_eq failed =>
    obtain rfl : (d.machine.perform S (.sendOne ephemeral)).2 = machine := congrArg (·.2) failed
    exact bound.operated _ rfl
  | refusesTwo got bytes due inward act e machine phase_eq read full refused =>
    obtain rfl : (d.machine.perform S (.receiveTwo act)).2 = machine := congrArg (·.2) refused
    exact bound.operated _ rfl
  | failsThree got bytes due inward act e machine last phase_eq read full accepted failed =>
    obtain rfl : (d.machine.perform S (.receiveTwo act)).2 = machine := congrArg (·.2) accepted
    obtain rfl : ((d.machine.perform S (.receiveTwo act)).2.perform S .sendThree).2 = last :=
      congrArg (·.2) failed
    have received : Bound own remote
        { d with machine := (d.machine.perform S (.receiveTwo act)).2, phase := .readTwo [] 0 } :=
      bound.operated _ rfl
    exact received.operated .sendThree rfl
  | breaksWriting act left e outward phase_eq written => exact bound.setPhase (early rfl)
  | breaksReading got due e inward phase_eq read => exact bound.setPhase (early rfl)
  | expires got due phase_eq absent elapsed => exact bound.setPhase (early rfl)

theorem Bound.apply {line : Line} (bound : Bound own remote line.dial) (e : Event) :
    Bound own remote (line.apply S e).dial := by
  cases e with
  | step =>
    cases hstep : line.dial.step S line.now line.wire with
    | none =>
      rw [Line.apply, hstep]
      exact bound
    | some next =>
      rw [Line.apply, hstep]
      exact bound.stepped (step_spec hstep)
  | wire change => exact bound
  | advance ms => exact bound

/-- Whatever comes from the other side, a dialer remains bound to the key that it was asked for. -/
theorem Bound.run {line : Line} (bound : Bound own remote line.dial) (events : List Event) :
    Bound own remote (line.run S events).dial := by
  induction events generalizing line with
  | nil => exact bound
  | cons e events ih => exact ih (bound.apply e)

end Dial

end Gatehouse
