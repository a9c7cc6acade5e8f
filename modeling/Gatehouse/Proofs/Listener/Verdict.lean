import Gatehouse.Proofs.Handshake.Invariant
import Gatehouse.Proofs.Listener.Steps

/-!
# The verdict on a handshake

The responder's part read straight through, as if nothing else went on: act one is taken in, act two
is made and written, act three is taken in (`verdict`).  It is a function of what the handshake has
met with (`Transcript`): the bytes that came, the bytes that went, the secret that was drawn, and
how all of it was cut short, if it was.

A handshake that takes turns with everything else is on the same way: what it holds between two
turns is what the straight reading has come to (`Sofar`).
-/

namespace Gatehouse

/-- What a handshake has met with. -/
structure Transcript where
  /-- What was read of act one. -/
  one : Bytes := []
  /-- The secret that was drawn for act two. -/
  draw : Secret := Octets.zero 32
  /-- What was written of act two. -/
  two : Bytes := []
  /-- What was read of act three. -/
  three : Bytes := []
  /-- Why reading or writing came to an end before it was done. -/
  cut : Option Failure := none

namespace Transcript

/-- Add what a handshake finds at a turn; `draw` is the secret that it would draw now. -/
def see (t : Transcript) (draw : Secret) : Listener.Sight → Transcript
  | .nothing => t
  | .shut => { t with cut := some .closed }
  | .read .three bytes => { t with three := t.three ++ bytes }
  | .read _ bytes => { t with one := t.one ++ bytes, draw }
  | .written bytes => { t with two := t.two ++ bytes }
  | .broken failure => { t with cut := some failure }

end Transcript

/-- What has become of the acts. -/
inductive Course
  /-- They are under way. -/
  | going
  /-- A step of them has failed. -/
  | failed (failure : Failure)
  /-- The connection is secured. -/
  | secured (machine : Machine) (remote : PublicKey)

namespace Course

/-- Where a step is not done: the acts are under way, unless they were cut short. -/
def ofCut : Option Failure → Course
  | none => .going
  | some failure => .failed failure

theorem ofCut_ne_secured (cut : Option Failure) (machine : Machine) (remote : PublicKey) :
    ofCut cut ≠ .secured machine remote := by
  cases cut <;> exact Course.noConfusion

/-- The outcome of a connection.  One that was cut short by the shutdown has none. -/
def outcome? (connection stream : Nat) (peer : SocketAddress) : Course → Option Outcome
  | .going | .failed .closed => none
  | .failed failure => some (.error failure)
  | .secured machine remote => some (.ok ⟨connection, stream, peer, remote, machine⟩)

theorem outcome?_failed {failure : Failure} (h : failure ≠ .closed) (connection stream : Nat)
    (peer : SocketAddress) :
    outcome? connection stream peer (.failed failure) = some (.error failure) := by
  cases failure with
  | closed => exact absurd rfl h
  | _ => rfl

end Course

variable (S : Suite)

/-- The responder's part read straight through. -/
def verdict (identity : Identity) (t : Transcript) : Course :=
  match Octets.ofBytes? keyActSize t.one with
  | none => .ofCut t.cut
  | some one =>
    match (Machine.responder S identity).receiveActOne S one with
    | (.error e, _) => .failed (.handshake e)
    | (.ok (), machine) =>
      match machine.sendActTwo S t.draw with
      | (.error e, _) => .failed (.handshake e)
      | (.ok two, machine) =>
        if t.two ≠ two.bytes then .ofCut t.cut
        else
          match Octets.ofBytes? staticActSize t.three with
          | none => .ofCut t.cut
          | some three =>
            match machine.receiveActThree S three with
            | (.error e, _) => .failed (.handshake e)
            | (.ok (), machine) =>
              match machine.remoteStatic with
              | none => .failed (.handshake (.invalidKey .three))
              | some remote => .secured machine remote

/-- The machine of a responder has accepted act one, made act two of the draw and accepted act
    three, and act two was written in full. -/
def Accepted (identity : Identity) (t : Transcript) (machine : Machine) : Prop :=
  ∃ (one : Octets keyActSize) (two : Octets keyActSize) (three : Octets staticActSize)
      (m₁ m₂ : Machine),
    t.one = one.bytes ∧ (Machine.responder S identity).receiveActOne S one = (.ok (), m₁) ∧
      m₁.sendActTwo S t.draw = (.ok two, m₂) ∧ t.two = two.bytes ∧
      t.three = three.bytes ∧ m₂.receiveActThree S three = (.ok (), machine)

variable {S}

/-! ## Half-way -/

/-- The machine has accepted act one and made act two, with this to show for it. -/
def Answered (S : Suite) (identity : Identity) (one : Octets keyActSize) (draw : Secret)
    (two : Octets keyActSize) (machine : Machine) : Prop :=
  ∃ m₁, (Machine.responder S identity).receiveActOne S one = (.ok (), m₁) ∧
    m₁.sendActTwo S draw = (.ok two, machine)

/-- What a handshake in this phase has met with, if nothing has failed. -/
inductive Sofar (S : Suite) (identity : Identity) : Transcript → Phase → Prop
  | spawned : Sofar S identity {} .spawned
  | readOne (got : Bytes) (draw : Secret) (timer : Timer) (short : got.length < keyActSize) :
    Sofar S identity { one := got, draw } (.readOne (Machine.responder S identity) got timer)
  | writeTwo (one : Octets keyActSize) (draw : Secret) (two : Octets keyActSize) (machine : Machine)
      (sent left : Bytes) (answered : Answered S identity one draw two machine)
      (split : sent ++ left = two.bytes) (more : left ≠ []) :
    Sofar S identity { one := one.bytes, draw, two := sent } (.writeTwo machine left)
  | wroteTwo (one : Octets keyActSize) (draw : Secret) (two : Octets keyActSize) (machine : Machine)
      (answered : Answered S identity one draw two machine) :
    Sofar S identity { one := one.bytes, draw, two := two.bytes } (.wroteTwo machine)
  | readThree (one : Octets keyActSize) (draw : Secret) (two : Octets keyActSize)
      (machine : Machine) (got : Bytes) (timer : Timer)
      (answered : Answered S identity one draw two machine) (short : got.length < staticActSize) :
    Sofar S identity { one := one.bytes, draw, two := two.bytes, three := got }
      (.readThree machine got timer)

/-- The straight reading goes on behind act two. -/
theorem verdict_of_answered {identity : Identity} {one : Octets keyActSize} {draw : Secret}
    {two : Octets keyActSize} {machine : Machine}
    (answered : Answered S identity one draw two machine) (sent got : Bytes)
    (cut : Option Failure) :
    verdict S identity { one := one.bytes, draw, two := sent, three := got, cut } =
      if sent ≠ two.bytes then .ofCut cut
      else
        match Octets.ofBytes? staticActSize got with
        | none => .ofCut cut
        | some three =>
          match machine.receiveActThree S three with
          | (.error e, _) => .failed (.handshake e)
          | (.ok (), machine) =>
            match machine.remoteStatic with
            | none => .failed (.handshake (.invalidKey .three))
            | some remote => .secured machine remote := by
  obtain ⟨m₁, hone, htwo⟩ := answered
  unfold verdict
  simp only [Octets.ofBytes?_bytes, hone, htwo]

/-- Half-way the verdict is open, but for what cuts the acts short. -/
theorem Sofar.verdict_cut {identity : Identity} {t : Transcript} {phase : Phase}
    (sofar : Sofar S identity t phase) (cut : Option Failure) :
    verdict S identity { t with cut } = .ofCut cut := by
  cases sofar with
  | spawned =>
    have hnone : Octets.ofBytes? keyActSize [] = none := by decide
    unfold verdict
    simp only [hnone]
  | readOne got draw timer short =>
    have hnone : Octets.ofBytes? keyActSize got = none :=
      Octets.ofBytes?_eq_none_iff.2 (by omega)
    unfold verdict
    simp only [hnone]
  | writeTwo one draw two machine sent left answered split more =>
    have hne : sent ≠ two.bytes := by
      intro heq
      have hsame : sent ++ left = sent ++ [] := by
        rw [split, List.append_nil]
        exact heq.symm
      exact more (List.append_cancel_left hsame)
    exact (verdict_of_answered answered sent [] cut).trans (if_pos hne)
  | wroteTwo one draw two machine answered =>
    have hnone : Octets.ofBytes? staticActSize [] = none := by decide
    refine (verdict_of_answered answered two.bytes [] cut).trans ?_
    rw [if_neg (not_not_intro rfl), hnone]
  | readThree one draw two machine got timer answered short =>
    have hnone : Octets.ofBytes? staticActSize got = none :=
      Octets.ofBytes?_eq_none_iff.2 (by omega)
    refine (verdict_of_answered answered two.bytes got cut).trans ?_
    rw [if_neg (not_not_intro rfl), hnone]

/-- As long as nothing has failed, the acts are under way. -/
theorem Sofar.going {identity : Identity} {t : Transcript} {phase : Phase}
    (sofar : Sofar S identity t phase) : verdict S identity t = .going := by
  have hcut := sofar.verdict_cut none
  cases sofar <;> exact hcut

theorem Sofar.ne_reporting {identity : Identity} {t : Transcript} {phase : Phase}
    (sofar : Sofar S identity t phase) : phase ≠ .reporting := by
  rintro rfl
  cases sofar

/-! ## One turn further -/

section Turns

variable {identity : Identity} {t : Transcript} {machine : Machine} {got bytes left rest : Bytes}
  {timer : Timer}

theorem Sofar.begin (sofar : Sofar S identity t .spawned) (timer : Timer) :
    Sofar S identity t (.readOne (Machine.responder S identity) [] timer) := by
  cases sofar with
  | spawned => exact .readOne [] _ timer (by decide)

theorem Sofar.readOn (sofar : Sofar S identity t (.readOne machine got timer)) (draw : Secret)
    (room : bytes.length ≤ keyActSize - got.length)
    (short : Octets.ofBytes? keyActSize (got ++ bytes) = none) :
    Sofar S identity (t.see draw (.read .one bytes)) (.readOne machine (got ++ bytes) timer) := by
  cases sofar with
  | readOne _ _ _ hgot =>
    have hlength : (got ++ bytes).length ≠ keyActSize := Octets.ofBytes?_eq_none_iff.1 short
    rw [List.length_append] at hlength
    have hshort : (got ++ bytes).length < keyActSize := by
      rw [List.length_append]
      omega
    exact .readOne (got ++ bytes) draw timer hshort

/-- Act one is there: the machine is fresh, and the verdict is up to what it makes of the act. -/
theorem Sofar.complete (sofar : Sofar S identity t (.readOne machine got timer)) (draw : Secret)
    {one : Octets keyActSize} (full : Octets.ofBytes? keyActSize (got ++ bytes) = some one) :
    machine = Machine.responder S identity ∧
      t.see draw (.read .one bytes) = { one := one.bytes, draw } := by
  cases sofar with
  | readOne _ _ _ _ =>
    have hbytes : got ++ bytes = one.bytes := Octets.ofBytes?_eq_some_iff.1 full
    refine ⟨rfl, ?_⟩
    rw [← hbytes]
    rfl

theorem verdict_refusedOne {one : Octets keyActSize} {e : HandshakeError} {m : Machine}
    (refused : (Machine.responder S identity).receiveActOne S one = (.error e, m)) (draw : Secret) :
    verdict S identity { one := one.bytes, draw } = .failed (.handshake e) := by
  unfold verdict
  simp only [Octets.ofBytes?_bytes, refused]

theorem verdict_unanswered {one : Octets keyActSize} {e : HandshakeError} {m₁ m₂ : Machine}
    {draw : Secret} (accepted : (Machine.responder S identity).receiveActOne S one = (.ok (), m₁))
    (failed : m₁.sendActTwo S draw = (.error e, m₂)) :
    verdict S identity { one := one.bytes, draw } = .failed (.handshake e) := by
  unfold verdict
  simp only [Octets.ofBytes?_bytes, accepted, failed]

theorem Answered.begin {one two : Octets keyActSize} {draw : Secret}
    (answered : Answered S identity one draw two machine) :
    Sofar S identity { one := one.bytes, draw } (.writeTwo machine two.bytes) := by
  have hsome : two.bytes ≠ [] := by
    intro hnil
    have hlength := two.length_eq
    rw [hnil] at hlength
    cases hlength
  exact .writeTwo one draw two machine [] two.bytes answered rfl hsome

theorem Sofar.writeOn (sofar : Sofar S identity t (.writeTwo machine left)) (draw : Secret)
    {sent : Bytes} (split : left = sent ++ rest) :
    Sofar S identity (t.see draw (.written sent))
      (if rest = [] then .wroteTwo machine else .writeTwo machine rest) := by
  cases sofar with
  | writeTwo one draw two _ before _ answered whole more =>
    have hwhole : (before ++ sent) ++ rest = two.bytes := by
      rw [List.append_assoc, ← split]
      exact whole
    by_cases hrest : rest = []
    · rw [if_pos hrest]
      have hall : before ++ sent = two.bytes := by
        rw [hrest, List.append_nil] at hwhole
        exact hwhole
      show Sofar S identity { one := one.bytes, draw, two := before ++ sent } _
      rw [hall]
      exact .wroteTwo one draw two machine answered
    · rw [if_neg hrest]
      exact .writeTwo one draw two machine (before ++ sent) rest answered hwhole hrest

theorem Sofar.await (sofar : Sofar S identity t (.wroteTwo machine)) (timer : Timer) :
    Sofar S identity t (.readThree machine [] timer) := by
  cases sofar with
  | wroteTwo one draw two _ answered =>
    exact .readThree one draw two machine [] timer answered (by decide)

theorem Sofar.readFurther (sofar : Sofar S identity t (.readThree machine got timer))
    (draw : Secret) (room : bytes.length ≤ staticActSize - got.length)
    (short : Octets.ofBytes? staticActSize (got ++ bytes) = none) :
    Sofar S identity (t.see draw (.read .three bytes)) (.readThree machine (got ++ bytes) timer) := by
  cases sofar with
  | readThree one draw two _ _ _ answered hgot =>
    have hlength : (got ++ bytes).length ≠ staticActSize := Octets.ofBytes?_eq_none_iff.1 short
    rw [List.length_append] at hlength
    have hshort : (got ++ bytes).length < staticActSize := by
      rw [List.length_append]
      omega
    exact .readThree one draw two machine (got ++ bytes) timer answered hshort

/-- Act three is there: the verdict is up to what the machine makes of it. -/
theorem Sofar.conclude (sofar : Sofar S identity t (.readThree machine got timer)) (draw : Secret)
    {three : Octets staticActSize}
    (full : Octets.ofBytes? staticActSize (got ++ bytes) = some three) :
    verdict S identity (t.see draw (.read .three bytes)) =
      match machine.receiveActThree S three with
      | (.error e, _) => .failed (.handshake e)
      | (.ok (), machine) =>
        match machine.remoteStatic with
        | none => .failed (.handshake (.invalidKey .three))
        | some remote => .secured machine remote := by
  cases sofar with
  | readThree one draw two _ _ _ answered _ =>
    refine (verdict_of_answered answered two.bytes (got ++ bytes) none).trans ?_
    rw [if_neg (not_not_intro rfl), full]

end Turns

/-! ## What a secured connection stands for -/

/-- A machine that has accepted act three knows whom it talks to. -/
theorem Machine.remoteStatic_of_receiveActThree {m m' : Machine} {act : Octets staticActSize}
    (accepted : m.receiveActThree S act = (.ok (), m')) : ∃ key, m'.remoteStatic = some key := by
  obtain ⟨_, key, hkey, _⟩ := m.concluded_of_receiveActThree accepted
  exact ⟨key, hkey⟩

theorem Accepted.remoteStatic {identity : Identity} {t : Transcript} {machine : Machine}
    (accepted : Accepted S identity t machine) : ∃ key, machine.remoteStatic = some key := by
  obtain ⟨_, _, _, _, _, _, _, _, _, _, hthree⟩ := accepted
  exact Machine.remoteStatic_of_receiveActThree hthree

/-- The verdict is for a machine just if the machine has accepted what came and its answer went. -/
theorem verdict_eq_secured_iff {identity : Identity} {t : Transcript} {machine : Machine}
    {remote : PublicKey} :
    verdict S identity t = .secured machine remote ↔
      Accepted S identity t machine ∧ machine.remoteStatic = some remote := by
  constructor
  · intro h
    unfold verdict at h
    split at h
    · exact absurd h (Course.ofCut_ne_secured t.cut machine remote)
    rename_i one hone
    split at h
    · cases h
    rename_i m₁ hone'
    split at h
    · cases h
    rename_i two m₂ htwo
    split at h
    · exact absurd h (Course.ofCut_ne_secured t.cut machine remote)
    rename_i hwritten
    split at h
    · exact absurd h (Course.ofCut_ne_secured t.cut machine remote)
    rename_i three hthree
    split at h
    · cases h
    rename_i m₃ hthree'
    split at h
    · cases h
    · rename_i key hkey
      cases h
      exact ⟨⟨one, two, three, m₁, m₂, Octets.ofBytes?_eq_some_iff.1 hone, hone', htwo,
        not_not.1 hwritten, Octets.ofBytes?_eq_some_iff.1 hthree, hthree'⟩, hkey⟩
  · rintro ⟨⟨one, two, three, m₁, m₂, hone, hone', htwo, htwo', hthree, hthree'⟩, hremote⟩
    obtain ⟨_, draw, _, _, cut⟩ := t
    simp only at hone htwo htwo' hthree
    subst hone htwo' hthree
    rw [verdict_of_answered ⟨m₁, hone', htwo⟩, if_neg (not_not_intro rfl)]
    simp only [Octets.ofBytes?_bytes, hthree', hremote]

end Gatehouse
