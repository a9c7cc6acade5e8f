import Gatehouse.Proofs.Dial.Steps
import Gatehouse.Proofs.Handshake.Acts
import Gatehouse.Proofs.Listener.Wire

/-!
# A dialer who is answered honestly

How far a dialer is through the acts of an honest handshake, told by the bytes that it has sent and
read (`Dial.Through`).  On a connection on which nothing goes wrong, and on which nothing comes but
what the honest responder says, every step takes it further (`Through.step`); so it never fails.
-/

namespace Gatehouse.Dial

variable {S : Suite} {i r : Identity} {eᵢ eᵣ eᵣ' : Secret} {A : Acts S i r eᵢ eᵣ} {d d' : Dial}
  {sent got more : Bytes} {now : Nat} {wire wire' : Wire}

/-- A dialer has sent and read so much of an honest handshake. -/
inductive Through (A : Acts S i r eᵢ eᵣ) (d : Dial) : (sent got : Bytes) → Prop
  | begun (phase_eq : d.phase = .begun eᵢ)
      (machine_eq : d.machine = .initiator S i (r.publicKey S)) : Through A d [] []
  | writeOne (sent left : Bytes) (phase_eq : d.phase = .writeOne left)
      (machine_eq : d.machine = A.asking) (split : sent ++ left = A.one.bytes)
      (more : left ≠ []) : Through A d sent []
  | readTwo (got : Bytes) (due : Nat) (phase_eq : d.phase = .readTwo got due)
      (machine_eq : d.machine = A.asking) (short : got.length < keyActSize) :
    Through A d A.one.bytes got
  | writeThree (sent left : Bytes) (phase_eq : d.phase = .writeThree left)
      (machine_eq : d.machine = A.dialed) (split : sent ++ left = A.three.bytes)
      (more : left ≠ []) : Through A d (A.one.bytes ++ sent) A.two.bytes
  | secured (phase_eq : d.phase = .secured) (machine_eq : d.machine = A.dialed) :
    Through A d (A.one.bytes ++ A.three.bytes) A.two.bytes

theorem through_start (A : Acts S i r eᵢ eᵣ) (peer : SocketAddress) (timeout : Nat) :
    Through A (start S i (r.publicKey S) peer timeout eᵢ) [] [] :=
  .begun rfl rfl

/-- The time for act two is not up before it has arrived in full. -/
def Punctual (now : Nat) (unread : Bytes) : DialPhase → Prop
  | .readTwo got due => expired now due = true → keyActSize ≤ got.length + unread.length
  | _ => True

instance (now : Nat) (unread : Bytes) : (phase : DialPhase) → Decidable (Punctual now unread phase)
  | .readTwo _ _ => inferInstanceAs (Decidable (_ → _))
  | .begun _ | .writeOne _ | .writeThree _ | .secured | .failed _ => inferInstanceAs (Decidable True)

namespace Through

/-- What has been sent are the first bytes of acts one and three. -/
theorem sent_prefix (through : Through A d sent got) :
    sent <+: A.one.bytes ++ A.three.bytes := by
  cases through with
  | begun => exact List.nil_prefix
  | writeOne sent left _ _ split =>
    rw [← split, List.append_assoc]
    exact List.prefix_append _ _
  | readTwo => exact List.prefix_append _ _
  | writeThree sent left _ _ split =>
    rw [← split, ← List.append_assoc]
    exact List.prefix_append _ _
  | secured => exact List.prefix_rfl

theorem sent_of_secured (through : Through A d sent got) (secured : d.phase = .secured) :
    sent = A.one.bytes ++ A.three.bytes ∧ got = A.two.bytes ∧ d.machine = A.dialed := by
  cases through with
  | begun phase_eq | writeOne _ _ phase_eq | readTwo _ _ phase_eq | writeThree _ _ phase_eq =>
    cases phase_eq.symm.trans secured
  | secured _ machine_eq => exact ⟨rfl, rfl, machine_eq⟩

/-- When all has been sent the dialer is done. -/
theorem secured_of_sent (through : Through A d (A.one.bytes ++ A.three.bytes) got) :
    d.phase = .secured := by
  generalize hsent : A.one.bytes ++ A.three.bytes = sent at through
  cases through with
  | begun => exact absurd (List.append_eq_nil_iff.1 hsent).2 A.three.bytes_ne_nil
  | writeOne sent left _ _ split =>
    rw [← hsent, List.append_assoc, List.append_right_eq_self] at split
    exact absurd (List.append_eq_nil_iff.1 split).1 A.three.bytes_ne_nil
  | readTwo => exact absurd (List.append_right_eq_self.1 hsent) A.three.bytes_ne_nil
  | writeThree sent left _ _ split more =>
    have whole : sent ++ left = sent ++ [] := by
      rw [split, List.append_nil]
      exact List.append_cancel_left hsent
    exact absurd (List.append_cancel_left whole) more
  | secured phase_eq => exact phase_eq

theorem not_failed (through : Through A d sent got) (failure : Failure) :
    d.result? ≠ some (.error failure) := by
  unfold result?
  cases through with
  | begun phase_eq | writeOne _ _ phase_eq | readTwo _ _ phase_eq | writeThree _ _ phase_eq
  | secured phase_eq =>
    rw [phase_eq]
    exact fun h => by cases h

/-- As long as nothing of act two has been read, it is all the same which secret the responder
    draws. -/
theorem redraw (through : Through A d sent []) (B : Acts S i r eᵢ eᵣ') : Through B d sent [] := by
  obtain ⟨one, asking⟩ := A.one_eq B
  generalize hgot : ([] : Bytes) = got at through
  cases through with
  | begun phase_eq machine_eq => exact .begun phase_eq machine_eq
  | writeOne sent left phase_eq machine_eq split more =>
    exact .writeOne sent left phase_eq (machine_eq.trans asking.symm) (split.trans (by rw [one]))
      more
  | readTwo got due phase_eq machine_eq short =>
    rw [← one]
    exact .readTwo got due phase_eq (machine_eq.trans asking.symm) short
  | writeThree => exact absurd hgot.symm A.two.bytes_ne_nil
  | secured => exact absurd hgot.symm A.two.bytes_ne_nil

/-- **A step of a dialer who is answered honestly.**  It sends and reads more of the handshake, by
    just those bytes that it puts on its connection and takes from it. -/
theorem step (through : Through A d sent got) (stepped : Stepped S now d wire d' wire')
    (clean : wire.Clean) (punctual : Punctual now wire.inward.unread d.phase)
    (heard : got ++ wire.inward.unread <+: A.two.bytes ++ more) :
    ∃ put taken, wire.Used wire' taken put ∧ Through A d' (sent ++ put) (got ++ taken) := by
  -- the phase that is given and the phase that is found are the same
  have clash : ∀ {phase phase' : DialPhase}, d.phase = phase → d.phase = phase' → phase = phase' :=
    fun h h' => h.symm.trans h'
  -- act two is the honest one when it is there in full
  have answer : ∀ {got bytes : Bytes} {count : Nat} {inward : Pipe} {act : Octets keyActSize},
      got ++ wire.inward.unread <+: A.two.bytes ++ more →
      wire.inward.read count = (.bytes bytes, inward) →
      Octets.ofBytes? keyActSize (got ++ bytes) = some act →
      act = A.two ∧ got ++ bytes = A.two.bytes := by
    intro got bytes count inward act heard read full
    have hbytes : got ++ bytes = act.bytes := Octets.ofBytes?_eq_some_iff.1 full
    rw [← (Pipe.read_eq_bytes read).1, ← List.append_assoc, hbytes] at heard
    obtain ⟨rfl, _⟩ := Octets.eq_of_prefix heard
    exact ⟨rfl, hbytes⟩
  cases stepped with
  | begins ephemeral act machine phase_eq made =>
    cases through with
    | begun phase_eq' machine_eq =>
      cases clash phase_eq phase_eq'
      rw [machine_eq] at made
      obtain ⟨hact, rfl⟩ := Prod.mk.inj (made.symm.trans A.sendOne)
      cases hact
      exact ⟨[], [], wire.used_refl, .writeOne [] A.one.bytes rfl rfl rfl A.one.bytes_ne_nil⟩
    | _ => cases clash phase_eq ‹_›
  | writesOne left rest outward phase_eq written =>
    cases through with
    | writeOne sent left' phase_eq' machine_eq split =>
      cases clash phase_eq phase_eq'
      obtain ⟨put, hput, used⟩ := Wire.used_write written
      rw [hput, ← List.append_assoc] at split
      refine ⟨put, [], used, ?_⟩
      by_cases hrest : rest = []
      · subst hrest
        rw [List.append_nil] at split
        rw [split]
        exact .readTwo [] (now + d.timeout) rfl machine_eq (by decide)
      · exact .writeOne (sent ++ put) rest (if_neg hrest) machine_eq split hrest
    | _ => cases clash phase_eq ‹_›
  | reads got bytes due inward phase_eq read short =>
    cases through with
    | readTwo got' due' phase_eq' machine_eq less =>
      cases clash phase_eq phase_eq'
      have length : (got ++ bytes).length ≠ keyActSize := Octets.ofBytes?_eq_none_iff.1 short
      have atMost := (Pipe.read_eq_bytes read).2
      rw [List.length_append] at length
      refine ⟨[], bytes, Wire.used_read read, ?_⟩
      rw [List.append_nil]
      exact .readTwo (got ++ bytes) due rfl machine_eq (by rw [List.length_append]; omega)
    | _ => cases clash phase_eq ‹_›
  | replies got bytes due inward act answer' machine last phase_eq read full accepted made =>
    cases through with
    | readTwo got' due' phase_eq' machine_eq =>
      cases clash phase_eq phase_eq'
      obtain ⟨rfl, whole⟩ := answer heard read full
      rw [machine_eq] at accepted
      obtain ⟨_, rfl⟩ := Prod.mk.inj (accepted.symm.trans A.receiveTwo)
      obtain ⟨hact, rfl⟩ := Prod.mk.inj (made.symm.trans A.sendThree)
      cases hact
      refine ⟨[], bytes, Wire.used_read read, ?_⟩
      rw [whole]
      exact .writeThree [] A.three.bytes rfl rfl rfl A.three.bytes_ne_nil
    | _ => cases clash phase_eq ‹_›
  | writesThree left rest outward phase_eq written =>
    cases through with
    | writeThree sent left' phase_eq' machine_eq split =>
      cases clash phase_eq phase_eq'
      obtain ⟨put, hput, used⟩ := Wire.used_write written
      rw [hput, ← List.append_assoc] at split
      refine ⟨put, [], used, ?_⟩
      rw [List.append_assoc, List.append_nil]
      by_cases hrest : rest = []
      · subst hrest
        rw [List.append_nil] at split
        rw [split]
        exact .secured rfl machine_eq
      · exact .writeThree (sent ++ put) rest (if_neg hrest) machine_eq split hrest
    | _ => cases clash phase_eq ‹_›
  | failsOne ephemeral e machine phase_eq failed =>
    cases through with
    | begun phase_eq' machine_eq =>
      cases clash phase_eq phase_eq'
      rw [machine_eq] at failed
      cases failed.symm.trans A.sendOne
    | _ => cases clash phase_eq ‹_›
  | refusesTwo got bytes due inward act e machine phase_eq read full refused =>
    cases through with
    | readTwo got' due' phase_eq' machine_eq =>
      cases clash phase_eq phase_eq'
      obtain ⟨rfl, _⟩ := answer heard read full
      rw [machine_eq] at refused
      cases refused.symm.trans A.receiveTwo
    | _ => cases clash phase_eq ‹_›
  | failsThree got bytes due inward act e machine last phase_eq read full accepted failed =>
    cases through with
    | readTwo got' due' phase_eq' machine_eq =>
      cases clash phase_eq phase_eq'
      obtain ⟨rfl, _⟩ := answer heard read full
      rw [machine_eq] at accepted
      obtain ⟨_, rfl⟩ := Prod.mk.inj (accepted.symm.trans A.receiveTwo)
      cases failed.symm.trans A.sendThree
    | _ => cases clash phase_eq ‹_›
  | breaksWriting act left e outward phase_eq written =>
    exact absurd (congrArg (·.1) written) (Pipe.write_ne_error clean.willing left e)
  | breaksReading got due e inward phase_eq read =>
    rw [Pipe.read_of_clean clean.faultless clean.unended] at read
    split at read <;> rcases read with read | ⟨read, _⟩ <;> cases read
  | expires got due phase_eq absent elapsed =>
    have enough : keyActSize ≤ got.length + wire.inward.unread.length := by
      rw [phase_eq] at punctual
      exact punctual elapsed
    cases through with
    | readTwo got' due' phase_eq' machine_eq less =>
      cases clash phase_eq phase_eq'
      have empty : wire.inward.unread = [] := by
        rw [Pipe.read_of_clean clean.faultless clean.unended] at absent
        split at absent
        · assumption
        · cases absent
      rw [empty, List.length_nil] at enough
      omega
    | _ => cases clash phase_eq ‹_›

end Through

end Gatehouse.Dial
