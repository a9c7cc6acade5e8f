import Gatehouse.Proofs.Handshake.Acts
import Gatehouse.Proofs.Listener.Outcomes
import Gatehouse.Proofs.Listener.Wire

/-!
# What a handshake hears from an honest initiator

On a stream on which nothing goes wrong (`Wire.Clean`) a handshake takes the bytes that it adds to
what it has met with, and no others, and what it has written goes out behind what is there already
(`hears_stepTask`).  If these bytes are an honest initiator's, as far as they go, the verdict is never
a failure (`verdict_honest`), and the answer is that of an honest handshake (`Told.answer_prefix`).
-/

namespace Gatehouse

/-! ## What comes from an honest initiator -/

section Honest

variable {S : Suite} {i r : Identity} {eᵢ : Secret} {t : Transcript} {more : Bytes}

/-- As long as what is read is an honest initiator's, the acts are under way, or they are all there
    and the connection is secured. -/
theorem verdict_honest (A : Acts S i r eᵢ t.draw)
    (read : t.one ++ t.three <+: A.one.bytes ++ (A.three.bytes ++ more)) (whole : t.cut = none) :
    verdict S r t = .going ∨
      t = { one := A.one.bytes, draw := t.draw, two := A.two.bytes, three := A.three.bytes } ∧
        verdict S r t = .secured A.secured (i.publicKey S) := by
  have open_ : Course.ofCut t.cut = .going := by
    rw [whole]
    rfl
  cases hone : Octets.ofBytes? keyActSize t.one with
  | none =>
    refine .inl ?_
    rw [verdict, hone]
    exact open_
  | some one =>
    have hbytes := Octets.ofBytes?_eq_some_iff.1 hone
    rw [hbytes] at read
    obtain ⟨rfl, hthree⟩ := Octets.eq_of_prefix read
    by_cases htwo : t.two = A.two.bytes
    · cases hlast : Octets.ofBytes? staticActSize t.three with
      | none =>
        refine .inl ?_
        rw [verdict, hone]
        simp only [A.receiveOne, A.sendTwo, hlast]
        rw [if_neg (not_not_intro htwo)]
        exact open_
      | some three =>
        have hbytes' := Octets.ofBytes?_eq_some_iff.1 hlast
        rw [hbytes', ← List.append_nil three.bytes] at hthree
        obtain ⟨rfl, _⟩ := Octets.eq_of_prefix hthree
        refine .inr ⟨?_, ?_⟩
        · obtain ⟨_, _, _, _, _⟩ := t
          simp only at hbytes htwo hbytes' whole
          simp only [hbytes, htwo, hbytes', whole]
        · rw [verdict, hone]
          simp only [A.receiveOne, A.sendTwo, hlast, A.receiveThree, A.remote]
          rw [if_neg (not_not_intro htwo)]
    · refine .inl ?_
      rw [verdict, hone]
      simp only [A.receiveOne, A.sendTwo]
      rw [if_pos htwo]
      exact open_

/-- What has been written in answer to an honest act one is the honest act two, as far as it goes. -/
theorem Sofar.answer_prefix {phase : Phase} (sofar : Sofar S r t phase) (A : Acts S i r eᵢ t.draw)
    (read : t.one ++ t.three <+: A.one.bytes ++ (A.three.bytes ++ more)) :
    t.two <+: A.two.bytes := by
  -- act one is answered as it is in the honest handshake
  have answer : ∀ {one two : Octets keyActSize} {machine : Machine} {three : Bytes},
      one.bytes ++ three <+: A.one.bytes ++ (A.three.bytes ++ more) →
      Answered S r one t.draw two machine → two = A.two := by
    rintro one two machine three read ⟨m, accepted, sent⟩
    obtain ⟨rfl, _⟩ := Octets.eq_of_prefix read
    obtain ⟨_, rfl⟩ := Prod.mk.inj (accepted.symm.trans A.receiveOne)
    exact Except.ok.inj (Prod.mk.inj (sent.symm.trans A.sendTwo)).1
  cases sofar with
  | spawned => exact List.nil_prefix
  | readOne => exact List.nil_prefix
  | writeTwo one draw two machine sent left answered split more =>
    rw [← answer read answered, ← split]
    exact List.prefix_append sent left
  | wroteTwo one draw two machine answered =>
    rw [← answer read answered]
  | readThree one draw two machine got timer answered short =>
    rw [← answer read answered]

end Honest

/-- Where an act is awaited, with so much of it there, and the time for it is up, it has arrived in
    full. -/
def Phase.Punctual (now : Nat) (unread : Bytes) : Phase → Prop
  | .readOne _ got timer =>
    expired now timer.due = true → keyActSize ≤ got.length + unread.length
  | .readThree _ got timer =>
    expired now timer.due = true → staticActSize ≤ got.length + unread.length
  | _ => True

instance (now : Nat) (unread : Bytes) : (phase : Phase) → Decidable (phase.Punctual now unread)
  | .readOne _ _ _ | .readThree _ _ _ => inferInstanceAs (Decidable (_ → _))
  | .spawned | .writeTwo _ _ | .wroteTwo _ | .reporting => inferInstanceAs (Decidable True)

namespace Listener

variable {S : Suite} {l l' : Listener} {id : Nat} {task : HandshakeTask} {t : Transcript}
  {i r : Identity} {eᵢ : Secret} {more : Bytes} {w : Wire}

theorem Told.answer_prefix (told : Told S id l t) (identity : l.settings.identity = r)
    (A : Acts S i r eᵢ t.draw)
    (read : t.one ++ t.three <+: A.one.bytes ++ (A.three.bytes ++ more)) (whole : t.cut = none) :
    t.two <+: A.two.bytes := by
  subst identity
  cases told with
  | untaken _ fresh =>
    have htwo : t.two = [] := congrArg Transcript.two fresh
    rw [htwo]
    exact List.nil_prefix
  | inActs task _ sofar => exact sofar.answer_prefix A read
  | settled course _ _ _ judged done =>
    rcases verdict_honest A read whole with going | ⟨all, _⟩
    · exact absurd (judged.symm.trans going) done
    · have htwo : t.two = A.two.bytes := congrArg Transcript.two all
      rw [htwo]

/-! ## A handshake's own step -/

theorem readingSight_ne_broken {act : Act} {count : Nat} {timer : Timer} {stream : Nat}
    (found : l.wires.find? stream = some w) (clean : w.Clean)
    (punctual : expired l.now timer.due = true → w.inward.unread ≠ []) (failure : Failure) :
    l.readingSight stream act count timer ≠ .broken failure := by
  rw [readingSight, found]
  simp only [Pipe.read_of_clean clean.faultless clean.unended count]
  by_cases empty : w.inward.unread = []
  · rw [if_pos empty]
    simp only
    rw [if_neg fun late => punctual late empty]
    exact Sight.noConfusion
  · rw [if_neg empty]
    exact Sight.noConfusion

/-- On a clean stream, in time and without a shutdown, nothing breaks the acts. -/
theorem sight_ne_broken (sofar : Sofar S l.settings.identity t task.phase)
    (going : l.fired = false) (found : l.wires.find? task.stream = some w) (clean : w.Clean)
    (punctual : task.phase.Punctual l.now w.inward.unread) (failure : Failure) :
    l.sight task ≠ .broken failure := by
  have some_ : ∀ {size : Nat} {got : Bytes}, got.length < size →
      size ≤ got.length + w.inward.unread.length → w.inward.unread ≠ [] := by
    rintro size got short enough empty
    rw [empty, List.length_nil] at enough
    omega
  have unfired : ¬ l.fired = true := Bool.eq_false_iff.1 going
  rw [sight]
  generalize task.phase = phase at sofar punctual
  cases sofar with
  | spawned | wroteTwo =>
    simp only
    rw [if_neg unfired]
    exact Sight.noConfusion
  | readOne got draw timer short =>
    simp only
    rw [if_neg unfired]
    exact readingSight_ne_broken found clean
      (fun late => some_ short (punctual late)) failure
  | writeTwo one draw two machine sent left =>
    simp only
    rw [if_neg unfired, writingSight, found]
    simp only
    have willing := Pipe.write_ne_error clean.willing left
    split
    · exact Sight.noConfusion
    · exact absurd ‹_› (willing _)
    · exact Sight.noConfusion
  | readThree one draw two machine got timer answered short =>
    simp only
    rw [if_neg unfired]
    exact readingSight_ne_broken found clean
      (fun late => some_ short (punctual late)) failure

/-- From one transcript to the next, a handshake takes some bytes from its stream and puts some on
    it. -/
structure Hears (t t' : Transcript) (taken put : Bytes) : Prop where
  read : t'.one ++ t'.three = t.one ++ t.three ++ taken
  written : t'.two = t.two ++ put
  whole : t'.cut = t.cut
  /-- What is drawn for act two may change as long as nothing of it has gone out. -/
  draw : t'.draw = t.draw ∨ t.two = []

theorem hears_refl (t : Transcript) : Hears t t [] [] :=
  ⟨(List.append_nil _).symm, (List.append_nil _).symm, rfl, .inl rfl⟩

/-- An outcome is dropped only if the shutdown has been fired, or nobody can ever take it. -/
theorem delivered_of_open {delivered : Bool} {handoff : Handoff Outcome}
    (isOpen : Handoff.Open l.handoff)
    (polled : l.handoff.pollProducer id = (.ready delivered, handoff)) : delivered = true := by
  have spec := l.handoff.pollProducer_spec id
  rw [polled] at spec
  cases spec with
  | shut _ _ fired => exact absurd (isOpen.going.symm.trans fired) Bool.false_ne_true
  | closed _ _ _ _ _ gone => exact absurd (gone.symm.trans isOpen.receiver) Bool.false_ne_true
  | delivers => rfl

theorem find?_withWire {wire : Wire} {stream : Nat} (found : l.wires.find? stream = some w) :
    (l.withWire stream wire).wires.find? stream = some wire := by
  show (l.wires.update stream wire).find? stream = _
  rw [Roster.find?_update, if_pos rfl, found]
  rfl

/-- Where the verdict is open, a handshake that is there is at the acts. -/
theorem Told.sofar (told : Told S id l t) (held : l.tasks.find? id = some task)
    (going : verdict S l.settings.identity t = .going) :
    Sofar S l.settings.identity t task.phase := by
  cases told with
  | untaken _ _ absent => cases absent.symm.trans held
  | inActs task' unsettled sofar =>
    obtain rfl : task' = task := Option.some.inj (unsettled.held.symm.trans held)
    exact sofar
  | settled _ _ _ _ judged done => exact absurd (judged.symm.trans going) done

theorem Told.reporting (told : Told S id l t)
    (done : verdict S l.settings.identity t ≠ .going) (held : l.tasks.find? id = some task) :
    task.phase = .reporting := by
  cases told with
  | untaken _ _ absent => cases absent.symm.trans held
  | inActs task' unsettled sofar => exact absurd sofar.going done
  | settled _ _ _ _ _ _ rest => exact rest task held

/-- Once its acts are over, a handshake leaves the streams alone.  It goes on reporting, or ends. -/
theorem Told.report_of_open (told : Told S id l t)
    (done : verdict S l.settings.identity t ≠ .going) (held : l.tasks.find? id = some task)
    (isOpen : Handoff.Open l.handoff) (stepped : TaskStepped S l id task (l.sight task) l') :
    l'.wires = l.wires ∧
      (l'.tasks = l.tasks ∨ ∃ handoff, l' = { l with handoff }.endTask id) := by
  have reporting := told.reporting done held
  have hsight : l.sight task = .nothing := by
    rw [sight, reporting]
  have hphase : ∀ {phase : Phase}, task.phase = phase → phase = .reporting :=
    fun h => h.symm.trans reporting
  rw [hsight] at stepped
  cases stepped with
  | holds handoff => exact ⟨rfl, .inl rfl⟩
  | delivers handoff => exact ⟨rfl, .inr ⟨handoff, rfl⟩⟩
  | drops outcome handoff _ _ polled => cases delivered_of_open isOpen polled
  | begins phase_eq => cases hphase phase_eq
  | awaits _ phase_eq => cases hphase phase_eq

/-- **What a handshake hears and says at its own step.**  On a clean stream, in time and without a
    shutdown, it takes from the stream what it adds to what it has read, and puts on it what it adds
    to what it has written; or the machine refuses what came. -/
theorem hears_stepTask (sofar : Sofar S l.settings.identity t task.phase)
    (isOpen : Handoff.Open l.handoff) (found : l.wires.find? task.stream = some w)
    (clean : w.Clean) (punctual : task.phase.Punctual l.now w.inward.unread)
    (stepped : TaskStepped S l id task (l.sight task) l') :
    ∃ taken put, Hears t (t.see l.chance.takeSecret.1 (l.sight task)) taken put ∧
      taken <+: w.inward.unread ∧
      ((∃ failure, verdict S l.settings.identity (t.see l.chance.takeSecret.1 (l.sight task)) =
          .failed failure) ∨
        ∃ w', l'.wires.find? task.stream = some w' ∧ w.Used w' taken put) := by
  have shutless : ∀ {p : Prop}, l.fired = true → p :=
    fun fired => absurd (isOpen.going.symm.trans fired) Bool.false_ne_true
  -- a step that finds nothing and leaves the streams alone
  have still : ∀ {l₁ : Listener}, l₁.wires = l.wires →
      ∃ taken put, Hears t t taken put ∧ taken <+: w.inward.unread ∧
        ((∃ failure, verdict S l.settings.identity t = .failed failure) ∨
          ∃ w', l₁.wires.find? task.stream = some w' ∧ w.Used w' taken put) := by
    intro l₁ wires
    exact ⟨[], [], hears_refl t, List.nil_prefix, .inr ⟨w, by rw [wires]; exact found, w.used_refl⟩⟩
  have unbroken := sight_ne_broken sofar isOpen.going found clean punctual
  generalize hsight : l.sight task = sight at stepped unbroken ⊢
  cases stepped with
  | aborts _ fired => exact shutless fired
  | shut _ fired => exact shutless fired
  | breaks failure wires inActs _ => exact absurd rfl (unbroken failure)
  | begins => exact still rfl
  | awaits => exact still rfl
  | holds handoff reporting => exact absurd reporting sofar.ne_reporting
  | delivers handoff reporting => exact absurd reporting sofar.ne_reporting
  | drops outcome handoff reporting => exact absurd reporting sofar.ne_reporting
  | readsOne machine got bytes timer wire inward phase_eq _ found' read short =>
    obtain rfl : w = wire := Option.some.inj (found.symm.trans found')
    rw [phase_eq] at sofar
    cases sofar with
    | readOne _ draw _ _ =>
      exact ⟨bytes, [], ⟨by simp [Transcript.see], by simp [Transcript.see], rfl, .inr rfl⟩,
        ⟨_, (Pipe.read_eq_bytes read).1⟩,
        .inr ⟨_, find?_withWire found, Wire.used_read read⟩⟩
  | takesOne machine got bytes timer wire inward act phase_eq _ found' read full =>
    obtain rfl : w = wire := Option.some.inj (found.symm.trans found')
    rw [phase_eq] at sofar
    obtain ⟨rfl, hsee⟩ := sofar.complete l.chance.takeSecret.1 full
    have hears : Hears t (t.see l.chance.takeSecret.1 (.read .one bytes)) bytes [] := by
      cases sofar with
      | readOne _ draw _ _ =>
        exact ⟨by simp [Transcript.see], by simp [Transcript.see], rfl, .inr rfl⟩
    refine ⟨bytes, [], hears, ⟨_, (Pipe.read_eq_bytes read).1⟩, ?_⟩
    rw [hsee]
    rcases takeActOne_cases (l.withWire task.stream { w with inward }) id task _ act with
      ⟨e, m, refused, htake⟩ | ⟨m₁, accepted, ⟨e, m₂, failed, htake⟩ | ⟨two, m₂, sent, htake⟩⟩
    · exact .inl ⟨_, verdict_refusedOne refused _⟩
    · exact .inl ⟨_, verdict_unanswered accepted failed⟩
    · rw [htake]
      exact .inr ⟨_, find?_withWire found, Wire.used_read read⟩
  | writes machine left rest wire outward phase_eq _ found' written =>
    obtain rfl : w = wire := Option.some.inj (found.symm.trans found')
    obtain ⟨sent, split, used⟩ := Wire.used_write written
    have hsent : left.take (left.length - rest.length) = sent := by
      rw [split, List.length_append, Nat.add_sub_cancel, List.take_left]
    rw [hsent]
    refine ⟨[], sent, ⟨by simp [Transcript.see], rfl, rfl, .inl rfl⟩, List.nil_prefix,
      .inr ⟨_, find?_withWire found, used⟩⟩
  | readsThree machine got bytes timer wire inward phase_eq _ found' read short =>
    obtain rfl : w = wire := Option.some.inj (found.symm.trans found')
    exact ⟨bytes, [], ⟨by simp [Transcript.see], by simp [Transcript.see], rfl, .inl rfl⟩,
      ⟨_, (Pipe.read_eq_bytes read).1⟩,
      .inr ⟨_, find?_withWire found, Wire.used_read read⟩⟩
  | takesThree machine got bytes timer wire inward act phase_eq _ found' read full =>
    obtain rfl : w = wire := Option.some.inj (found.symm.trans found')
    rw [phase_eq] at sofar
    have judged := sofar.conclude l.chance.takeSecret.1 full
    refine ⟨bytes, [], ⟨by simp [Transcript.see], by simp [Transcript.see], rfl, .inl rfl⟩,
      ⟨_, (Pipe.read_eq_bytes read).1⟩, ?_⟩
    rcases takeActThree_cases (l.withWire task.stream { w with inward }) id task machine act
      with ⟨e, m, refused, htake⟩ | ⟨m, accepted, ⟨hremote, htake⟩ | ⟨remote, hremote, htake⟩⟩
    · rw [refused] at judged
      exact .inl ⟨_, judged⟩
    · simp only [accepted, hremote] at judged
      exact .inl ⟨_, judged⟩
    · rw [htake]
      exact .inr ⟨_, find?_withWire found, Wire.used_read read⟩

end Listener

end Gatehouse
