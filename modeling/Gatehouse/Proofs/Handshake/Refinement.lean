import Gatehouse.Proofs.Handshake.Rules

/-!
# The machine follows the rules of its pattern

Two hand-written operations for each act, with their stages, offsets and counters, do what the
general rules make of the pattern XK.  A machine and a party that stand at the same place
(`Follows`) come through the next message alike: with the same bytes or the same fault
(`Matches`), and to the same next place.  From that the whole handshake follows message by message
(`machine_follows_pattern`).
-/

namespace Gatehouse

open Noise

variable {S : Suite}

/-! ## Machine and party -/

/-- How a machine of this role reports a fault in an act. -/
def Noise.Fault.error (act : Act) (role : Role) : Noise.Fault → HandshakeError
  | .version value => .unknownVersion act value
  | .lowOrder => .invalidKey act
  | .forged => .badTag act
  | .unsealed => .cipher act
  | .misfit => .outOfOrder act role

/-- How a machine reports what came of an act. -/
def Noise.Answer.reply : Noise.Answer → Machine.Reply
  | .wrote message => .act message
  | .took => .accepted

namespace Machine

/-- What machine and party of a role hold at a stage: as much as the rest of the handshake calls
    for. -/
def Holds (S : Suite) (m : Machine) (p : Party) : Role → Stage → Prop
  | .initiator, .actOne => ∃ key, m.remoteStatic = some key ∧ p.rs = some key
  | .responder, .actOne => True
  | .initiator, .actTwo => ∃ secret, m.localEphemeral = some secret ∧ p.e = some secret
  | .responder, .actTwo => ∃ key, m.remoteEphemeral = some key ∧ p.re = some key
  | .initiator, .actThree =>
    p.cipher = some (m.tempKey, 1) ∧ ∃ key, m.remoteEphemeral = some key ∧ p.re = some key
  | .responder, .actThree =>
    p.cipher = some (m.tempKey, 1) ∧ ∃ secret, m.localEphemeral = some secret ∧ p.e = some secret
  | _, .complete => m.sessionKeys = some ⟨(p.split S).1, (p.split S).2⟩

/-- A machine of a role at a stage, and a party at the same place of its pattern. -/
structure Follows (S : Suite) (role : Role) (draw : Secret) (stage : Stage) (m : Machine)
    (p : Party) : Prop where
  roles : m.role = role ∧ p.role = role
  draw_eq : p.draw = draw
  stage_eq : m.stage = stage
  keys_eq : stage ≠ .complete → m.sessionKeys = none
  secret_eq : m.localStatic.secret = p.s
  remote_eq : m.remoteStatic = p.rs
  symmetric_eq : m.symmetric = p.symmetric
  holds : Holds S m p role stage

/-- A machine and a party have come through a message alike: with the same fault, or with the same
    answer and to the same next place. -/
def Matches (S : Suite) (role : Role) (draw : Secret) (act : Act) (next : Stage)
    (incoming : List Bytes) :
    Except HandshakeError Reply × Machine → Except Fault (Answer × Party × List Bytes) → Prop
  | (answer, m), .error fault =>
    answer = .error (fault.error act role) ∧ fault ≠ .misfit ∧
      m.isComplete = false ∧ m.sessionKeys = none
  | (answer, m), .ok (expected, p, rest) =>
    answer = .ok expected.reply ∧ rest = incoming ∧ Follows S role draw next m p

section Steps

variable {m : Machine} {p : Party} {role : Role} {draw : Secret} {stage : Stage}

theorem Follows.owes (h : Follows S role draw stage m p) : m.owes role stage = true := by
  rw [Machine.owes, h.roles.1, h.stage_eq, beq_self_eq_true, beq_self_eq_true]
  rfl

/-- Before the end there are no keys. -/
theorem Follows.unfinished (h : Follows S role draw stage m p) (hstage : stage ≠ .complete) :
    m.isComplete = false ∧ m.sessionKeys = none := by
  refine ⟨?_, h.keys_eq hstage⟩
  rw [isComplete, h.stage_eq]
  exact beq_eq_false_iff_ne.2 hstage

/-! ### Acts one and two -/

/-- Who has a secret never lacks one. -/
theorem receiveKeyAct_ne_noSecret {s t : Symmetric} {secret : Secret} {act : KeyAct} :
    receiveKeyAct S s (some secret) act ≠ .noSecret t := by
  intro h
  unfold receiveKeyAct at h
  split at h
  · cases h
  · simp only at h
    split at h
    · cases h
    · split at h <;> cases h

/-- The initiator sends act one. -/
theorem Follows.sendActOne (h : Follows S .initiator draw .actOne m p) (incoming : List Bytes) :
    Matches S .initiator draw .one .actTwo incoming (m.perform S (.sendOne draw))
      (p.step S ⟨.initiator, [.e, .es]⟩ incoming) := by
  obtain ⟨remote, hremote, htheirs⟩ := h.holds
  have hsides : p.sides .ephemeral .static = (.ephemeral, .static) := by
    rw [Party.sides, h.roles.2]
  have hwrite := Party.write_keyAct (S := S) hsides htheirs
  rw [h.draw_eq] at hwrite
  have hunfinished : m.isComplete = false ∧ m.sessionKeys = none := h.unfinished (by decide)
  rw [Party.step_eq_write h.roles.2.symm]
  simp only [perform, Machine.sendActOne, h.owes, if_true, hremote, h.symmetric_eq, Token.es,
    hwrite]
  cases sendKeyAct S p.symmetric draw remote with
  | lowOrder s => exact ⟨rfl, by simp, hunfinished⟩
  | unsealed s temp => exact ⟨rfl, by simp, hunfinished⟩
  | sent act s temp =>
    exact ⟨rfl, rfl, h.roles, h.draw_eq, rfl, fun _ => hunfinished.2, h.secret_eq, htheirs.symm,
      rfl, draw, rfl, congrArg some h.draw_eq⟩

/-- The responder takes in act one. -/
theorem Follows.receiveActOne (h : Follows S .responder draw .actOne m p) (act : Octets keyActSize)
    (incoming : List Bytes) :
    Matches S .responder draw .one .actTwo incoming (m.perform S (.receiveOne act))
      (p.step S ⟨.initiator, [.e, .es]⟩ (act.bytes :: incoming)) := by
  have hsides : p.sides .ephemeral .static = (.static, .ephemeral) := by
    rw [Party.sides, h.roles.2]
  have hmine : p.mine .static = some p.s := rfl
  have hread := Party.read_keyAct (S := S) act hsides hmine
  have hunfinished : m.isComplete = false ∧ m.sessionKeys = none := h.unfinished (by decide)
  rw [Party.step_eq_read (by rw [h.roles.2]; decide)]
  simp only [perform, Machine.receiveActOne, h.owes, if_true, h.symmetric_eq, h.secret_eq, Token.es,
    hread]
  cases hreceived : receiveKeyAct S p.symmetric (some p.s) (KeyAct.ofOctets act) with
  | unknownVersion v => exact ⟨rfl, by simp, hunfinished⟩
  | noSecret s => exact absurd hreceived receiveKeyAct_ne_noSecret
  | lowOrder s => exact ⟨rfl, by simp, hunfinished⟩
  | badTag s temp => exact ⟨rfl, by simp, hunfinished⟩
  | received key s temp =>
    exact ⟨rfl, rfl, h.roles, h.draw_eq, rfl, fun _ => hunfinished.2, h.secret_eq, h.remote_eq, rfl,
      key, rfl, rfl⟩

/-- The responder sends act two. -/
theorem Follows.sendActTwo (h : Follows S .responder draw .actTwo m p) (incoming : List Bytes) :
    Matches S .responder draw .two .actThree incoming (m.perform S (.sendTwo draw))
      (p.step S ⟨.responder, [.e, .ee]⟩ incoming) := by
  obtain ⟨remote, hremote, htheirs⟩ := h.holds
  have hsides : p.sides .ephemeral .ephemeral = (.ephemeral, .ephemeral) := by
    rw [Party.sides, h.roles.2]
  have hwrite := Party.write_keyAct (S := S) hsides htheirs
  rw [h.draw_eq] at hwrite
  have hunfinished : m.isComplete = false ∧ m.sessionKeys = none := h.unfinished (by decide)
  rw [Party.step_eq_write h.roles.2.symm]
  simp only [perform, Machine.sendActTwo, h.owes, if_true, hremote, h.symmetric_eq, Token.ee,
    hwrite]
  cases sendKeyAct S p.symmetric draw remote with
  | lowOrder s => exact ⟨rfl, by simp, hunfinished⟩
  | unsealed s temp => exact ⟨rfl, by simp, hunfinished⟩
  | sent act s temp =>
    exact ⟨rfl, rfl, h.roles, h.draw_eq, rfl, fun _ => hunfinished.2, h.secret_eq, h.remote_eq,
      rfl, rfl, draw, rfl, congrArg some h.draw_eq⟩

/-- The initiator takes in act two. -/
theorem Follows.receiveActTwo (h : Follows S .initiator draw .actTwo m p) (act : Octets keyActSize)
    (incoming : List Bytes) :
    Matches S .initiator draw .two .actThree incoming (m.perform S (.receiveTwo act))
      (p.step S ⟨.responder, [.e, .ee]⟩ (act.bytes :: incoming)) := by
  obtain ⟨secret, hsecret, hmine⟩ := h.holds
  have hsides : p.sides .ephemeral .ephemeral = (.ephemeral, .ephemeral) := by
    rw [Party.sides, h.roles.2]
  have hread := Party.read_keyAct (S := S) act hsides hmine
  have hunfinished : m.isComplete = false ∧ m.sessionKeys = none := h.unfinished (by decide)
  rw [Party.step_eq_read (by rw [h.roles.2]; decide)]
  simp only [perform, Machine.receiveActTwo, h.owes, if_true, h.symmetric_eq, hsecret, Token.ee,
    hread]
  cases hreceived : receiveKeyAct S p.symmetric (some secret) (KeyAct.ofOctets act) with
  | unknownVersion v => exact ⟨rfl, by simp, hunfinished⟩
  | noSecret s => exact absurd hreceived receiveKeyAct_ne_noSecret
  | lowOrder s => exact ⟨rfl, by simp, hunfinished⟩
  | badTag s temp => exact ⟨rfl, by simp, hunfinished⟩
  | received key s temp =>
    exact ⟨rfl, rfl, h.roles, h.draw_eq, rfl, fun _ => hunfinished.2, h.secret_eq, h.remote_eq,
      rfl, rfl, key, rfl, rfl⟩

/-! ### Act three -/

/-- The initiator sends act three. -/
theorem Follows.sendActThree (h : Follows S .initiator draw .actThree m p) (incoming : List Bytes) :
    Matches S .initiator draw .three .complete incoming (m.perform S .sendThree)
      (p.step S ⟨.initiator, [.s, .se]⟩ incoming) := by
  obtain ⟨hcipher, remote, hremote, htheirs⟩ := h.holds
  have hunfinished : m.isComplete = false ∧ m.sessionKeys = none := h.unfinished (by decide)
  have hsides : p.sides .static .ephemeral = (.static, .ephemeral) := by
    rw [Party.sides, h.roles.2]
  have hpublic : m.localStatic.publicKey S = S.publicKey p.s := by
    rw [Identity.publicKey, h.secret_eq]
  rw [Party.step_eq_write h.roles.2.symm]
  simp only [perform, Machine.sendActThree, h.owes, if_true, hremote, h.symmetric_eq, hpublic,
    h.secret_eq, Token.s, Token.se]
  cases hkey : p.symmetric.sealField S m.tempKey 1 (S.publicKey p.s) with
  | none =>
    have hwrite : p.writeToken S (.key .static) = .error .unsealed :=
      Party.encryptAndHash_of_sealField_none (S.publicKey p.s) hcipher hkey
    rw [Party.write_pair_error hwrite]
    exact ⟨rfl, by simp, hunfinished⟩
  | some sent =>
    obtain ⟨sealedKey, s₁⟩ := sent
    let p₁ := p.moved s₁ m.tempKey 2
    have hwrite : p.writeToken S (.key .static) = .ok (sealedKey.bytes, p₁) :=
      Party.encryptAndHash_of_sealField (S.publicKey p.s) hcipher hkey
    have hmine : p₁.mine .static = some p.s := rfl
    have hsymmetric : p₁.symmetric = s₁ := rfl
    rw [Party.write_pair hwrite hsides hmine htheirs, hsymmetric]
    simp only
    cases S.agree p.s remote with
    | none => exact ⟨rfl, by simp, hunfinished⟩
    | some shared =>
      let s₂ := s₁.mixKey S shared.bytes
      simp only
      cases s₂.1.sealField S s₂.2 0 (Octets.zero 0) with
      | none => exact ⟨rfl, by simp, hunfinished⟩
      | some sent =>
        obtain ⟨tag, s₃⟩ := sent
        have hsplit : (p₁.moved s₃ (s₁.mixKey S shared.bytes).2 1).split S = s₃.split S :=
          Party.split_initiator h.roles.2
        refine ⟨rfl, rfl, h.roles, h.draw_eq, rfl, fun hne => absurd rfl hne, h.secret_eq,
          h.remote_eq, rfl, ?_⟩
        simp only [Holds, hsplit]
        rfl

/-- The responder takes in act three. -/
theorem Follows.receiveActThree (h : Follows S .responder draw .actThree m p)
    (act : Octets staticActSize) (incoming : List Bytes) :
    Matches S .responder draw .three .complete incoming (m.perform S (.receiveThree act))
      (p.step S ⟨.initiator, [.s, .se]⟩ (act.bytes :: incoming)) := by
  obtain ⟨hcipher, own, hown, hmine⟩ := h.holds
  have hunfinished : m.isComplete = false ∧ m.sessionKeys = none := h.unfinished (by decide)
  have hsides : p.sides .static .ephemeral = (.ephemeral, .static) := by
    rw [Party.sides, h.roles.2]
  obtain ⟨fields, rfl⟩ : ∃ fields : StaticAct, act = fields.toOctets :=
    ⟨StaticAct.ofOctets act, (StaticAct.toOctets_ofOctets act).symm⟩
  rw [Party.step_eq_read (by rw [h.roles.2]; decide)]
  simp only [perform, Machine.receiveActThree, h.owes, if_true, StaticAct.ofOctets_toOctets, hown,
    h.symmetric_eq, Token.s, Token.se]
  by_cases hv : fields.version ≠ handshakeVersion
  · have hread : p.read S [.key .static, .agreement .static .ephemeral] fields.toOctets.bytes =
        .error (.version fields.version) := Party.read_version hv
    rw [if_pos hv, hread]
    exact ⟨rfl, by simp, hunfinished⟩
  have hbytes : fields.toOctets.bytes =
      handshakeVersion :: (fields.sealedKey.bytes ++ fields.tag.bytes) := by
    rw [← Decidable.not_not.1 hv]
    rfl
  rw [if_neg hv, hbytes]
  cases hkey : p.symmetric.openField S (n := 32) m.tempKey 1 fields.sealedKey with
  | none =>
    rw [Party.read_pair_error (Party.readToken_static_none hcipher hkey)]
    exact ⟨rfl, by simp, hunfinished⟩
  | some opened =>
    obtain ⟨remote, s₁⟩ := opened
    let p₁ := (p.introduced remote).moved s₁ m.tempKey 2
    have hread : p.readToken S (fields.sealedKey.bytes ++ fields.tag.bytes) (.key .static) =
        .ok (fields.tag.bytes, p₁) := Party.readToken_static hcipher hkey
    have htheirs : p₁.theirs .static = some remote := rfl
    have hsymmetric : p₁.symmetric = s₁ := rfl
    rw [Party.read_pair hread hsides hmine htheirs, hsymmetric]
    simp only
    cases S.agree own remote with
    | none => exact ⟨rfl, by simp, hunfinished⟩
    | some shared =>
      let s₂ := s₁.mixKey S shared.bytes
      simp only
      cases s₂.1.openField S (n := 0) s₂.2 0 fields.tag with
      | none => exact ⟨rfl, by simp, hunfinished⟩
      | some opened =>
        obtain ⟨payload, s₃⟩ := opened
        have hsplit : (p₁.moved s₃ (s₁.mixKey S shared.bytes).2 1).split S =
            ((s₃.split S).2, (s₃.split S).1) := Party.split_responder h.roles.2
        refine ⟨rfl, rfl, h.roles, h.draw_eq, rfl, fun hne => absurd rfl hne, h.secret_eq, rfl,
          rfl, ?_⟩
        simp only [Holds, hsplit]
        rfl

end Steps

/-! ## Whole handshakes -/

/-- The answers to operations up to and including the first failure, and the machine after that. -/
def performUntilFailure (S : Suite) (m : Machine) :
    List Operation → List (Except HandshakeError Reply) × Machine
  | [] => ([], m)
  | op :: ops =>
    match m.perform S op with
    | (.error e, m') => ([.error e], m')
    | (.ok r, m') =>
      let (answers, last) := m'.performUntilFailure S ops
      (.ok r :: answers, last)

/-- How a machine of this role reports what came of an act. -/
def report (role : Role) (act : Act) : Except Fault Answer → Except HandshakeError Reply
  | .error fault => .error (fault.error act role)
  | .ok answer => .ok answer.reply

/-- A machine that was driven to its first failure did what the rules say: it gave the same answers
    to the acts, and if it came through it has the same keys, the same other side and the same
    transcript. -/
structure RunsAlike (S : Suite) (role : Role) (acts : List Act)
    (run : List (Except HandshakeError Reply) × Machine)
    (rules : List (Except Fault Answer) × Option Party) : Prop where
  /-- The same bytes are sent, the same are accepted, and the same fault ends the run. -/
  answers : run.1 = List.zipWith (report role) acts rules.1
  /-- The rules never ask for a key that is not there, or for other lengths than those of acts. -/
  fits : .error .misfit ∉ rules.1
  /-- A run that ends in a fault leaves no keys. -/
  failed : rules.2 = none → run.2.isComplete = false ∧ run.2.sessionKeys = none
  /-- A run that comes through ends as by the rules. -/
  completed : ∀ p, rules.2 = some p →
    run.2.isComplete = true ∧ run.2.sessionKeys = some ⟨(p.split S).1, (p.split S).2⟩ ∧
      run.2.remoteStatic = p.rs ∧ run.2.symmetric = ⟨p.h, p.ck⟩

section Runs

variable {role : Role} {draw : Secret} {m : Machine} {p : Party}

/-- No more messages. -/
theorem Follows.runsAlike_nil (h : Follows S role draw .complete m p) (incoming : List Bytes) :
    RunsAlike S role [] (m.performUntilFailure S []) (p.run S [] incoming) where
  answers := rfl
  fits := List.not_mem_nil
  failed := fun hnone => by cases hnone
  completed := by
    rintro _ ⟨rfl⟩
    refine ⟨?_, ?_, h.remote_eq, h.symmetric_eq⟩
    · show (m.stage == .complete) = true
      rw [h.stage_eq]
      rfl
    · have hkeys := h.holds
      cases role <;> exact hkeys

/-- One message, and then the rest. -/
theorem Matches.runsAlike_cons {act : Act} {acts : List Act} {next : Stage} {op : Operation}
    {ops : List Operation} {message : Message} {messages : List Message}
    {incoming rest : List Bytes}
    (h : Matches S role draw act next rest (m.perform S op) (p.step S message incoming))
    (hrest : ∀ m' p', Follows S role draw next m' p' →
      RunsAlike S role acts (m'.performUntilFailure S ops) (p'.run S messages rest)) :
    RunsAlike S role (act :: acts) (m.performUntilFailure S (op :: ops))
      (p.run S (message :: messages) incoming) := by
  rcases hop : m.perform S op with ⟨answer, m'⟩
  rcases hstep : p.step S message incoming with fault | ⟨expected, p', left⟩
  · -- both stop here
    rw [hop, hstep] at h
    obtain ⟨rfl, hfits, hgoing, hkeys⟩ := h
    simp only [performUntilFailure, hop, Party.run, hstep]
    refine ⟨?_, ?_, fun _ => ⟨hgoing, hkeys⟩, fun p hp => by cases hp⟩
    · rw [List.zipWith_cons_cons, List.zipWith_nil_right]
      rfl
    rw [List.mem_singleton]
    intro heq
    exact hfits (Except.error.inj heq).symm
  · -- both go on, to the same next place
    rw [hop, hstep] at h
    obtain ⟨rfl, rfl, hnext⟩ := h
    have hlater := hrest m' p' hnext
    simp only [performUntilFailure, hop, Party.run, hstep]
    refine ⟨?_, ?_, hlater.failed, hlater.completed⟩
    · rw [List.zipWith_cons_cons, ← hlater.answers]
      rfl
    · rw [List.mem_cons, not_or]
      exact ⟨by simp, hlater.fits⟩

end Runs

/-- **The machine follows the rules of XK.**  Whatever the secrets, the other side's static key, the
    drawn secret and the acts that are received (forged ones too): an initiator and a responder that
    are driven in the protocol's order, up to and including the first failure, do what the general
    rules make of the pattern XK. -/
theorem machine_follows_pattern (S : Suite) (own : Identity) (remote : PublicKey) (draw : Secret)
    (one two : Octets keyActSize) (three : Octets staticActSize) :
    RunsAlike S .initiator [.one, .two, .three]
        ((initiator S own remote).performUntilFailure S
          [.sendOne draw, .receiveTwo two, .sendThree])
        (Pattern.xk.run S protocolName prologue .initiator own.secret (some remote) draw
          [two.bytes]) ∧
      RunsAlike S .responder [.one, .two, .three]
        ((responder S own).performUntilFailure S
          [.receiveOne one, .sendTwo draw, .receiveThree three])
        (Pattern.xk.run S protocolName prologue .responder own.secret none draw
          [one.bytes, three.bytes]) := by
  constructor
  · -- the initiator sends, receives and sends
    have h₀ : ∃ p, Party.start S protocolName prologue Pattern.xk.known .initiator own.secret
          (some remote) draw = .ok p ∧
        Follows S .initiator draw .actOne (initiator S own remote) p :=
      ⟨_, rfl, ⟨rfl, rfl⟩, rfl, rfl, fun _ => rfl, rfl, rfl, rfl, remote, rfl, rfl⟩
    obtain ⟨p, hstart, h₀⟩ := h₀
    rw [Pattern.run, hstart]
    refine (h₀.sendActOne [two.bytes]).runsAlike_cons fun m₁ p₁ h₁ => ?_
    refine (h₁.receiveActTwo two []).runsAlike_cons fun m₂ p₂ h₂ => ?_
    refine (h₂.sendActThree []).runsAlike_cons fun m₃ p₃ h₃ => ?_
    exact h₃.runsAlike_nil []
  · -- the responder receives, sends and receives
    have h₀ : ∃ p, Party.start S protocolName prologue Pattern.xk.known .responder own.secret
          none draw = .ok p ∧
        Follows S .responder draw .actOne (responder S own) p :=
      ⟨_, rfl, ⟨rfl, rfl⟩, rfl, rfl, fun _ => rfl, rfl, rfl, rfl, trivial⟩
    obtain ⟨p, hstart, h₀⟩ := h₀
    rw [Pattern.run, hstart]
    refine (h₀.receiveActOne one [three.bytes]).runsAlike_cons fun m₁ p₁ h₁ => ?_
    refine (h₁.sendActTwo [three.bytes]).runsAlike_cons fun m₂ p₂ h₂ => ?_
    refine (h₂.receiveActThree three []).runsAlike_cons fun m₃ p₃ h₃ => ?_
    exact h₃.runsAlike_nil []

end Machine

end Gatehouse
