import Gatehouse.Noise.Symmetric
import Gatehouse.Proofs.Crypto.ChaChaPoly

/-!
# Two symmetric states in step

Two sides start from the same protocol name and follow one script (`Duet`).  Each step of it is
taken by one of them and mirrored by the other: both mix the same bytes or the same key material,
and what the one encrypts the other decrypts.  The key of a cipher call is given, or it is one that
mixing has returned, which each side takes from what it was returned itself.  Besides, either side
may try to decrypt whatever it likes, between the steps and between a step and its mirror.

As long as those attempts fail the two are in the same state after every step, whatever one of them
has encrypted the other one reads, and nothing would be different without the attempts (`in_step`).
-/

namespace Gatehouse.Symmetric

/-! ## One side -/

/-- Where the key of a cipher call comes from. -/
inductive KeySource
  /-- From outside. -/
  | given (key : Key)
  /-- From the mixing of key material, by its number. -/
  | mixed (index : Nat)
deriving DecidableEq

/-- The key of a cipher call, if it is among the keys that mixing has returned. -/
def KeySource.key? (keys : List Key) : KeySource → Option Key
  | .given key => some key
  | .mixed index => keys[index]?

/-- A call to a symmetric state. -/
inductive Call
  | mixHash (data : Bytes)
  | mixKey (input : Bytes)
  | encrypt (source : KeySource) (counter : UInt64) (text : Bytes)
  | decrypt (source : KeySource) (counter : UInt64) (sealedText : Bytes)
deriving DecidableEq

/-- What a call comes to. -/
inductive Answer
  | done
  | key (key : Key)
  | bytes (bytes : Bytes)
  | failed
deriving DecidableEq

/-- A symmetric state with the keys that mixing has returned so far. -/
structure Side where
  state : Symmetric
  keys : List Key := []
deriving DecidableEq

/-- A step of a script. -/
inductive Step
  | mixHash (data : Bytes)
  | mixKey (input : Bytes)
  | encrypt (source : KeySource) (counter : UInt64) (text : Bytes)
deriving DecidableEq

namespace Step

/-- The call of the side that takes the step. -/
def call : Step → Call
  | .mixHash data => .mixHash data
  | .mixKey input => .mixKey input
  | .encrypt source counter text => .encrypt source counter text

/-- The call of the side that mirrors the step, given what taking it came to.  Where nothing was
    encrypted there is nothing to decrypt. -/
def mirror : Step → Answer → Option Call
  | .mixHash data, _ => some (.mixHash data)
  | .mixKey input, _ => some (.mixKey input)
  | .encrypt source counter _, .bytes c => some (.decrypt source counter c)
  | .encrypt .., _ => none

/-- What the script asks of the two calls: mixing returns the same key to both, and the text that
    was encrypted is read.  It is encrypted exactly if the key is there and the cipher takes a text
    of its length. -/
def Mirrored (keys : List Key) : Step → Answer → Option Answer → Prop
  | .mixHash _, led, followed => led = .done ∧ followed = some .done
  | .mixKey _, led, followed => ∃ key, led = .key key ∧ followed = some (.key key)
  | .encrypt source _ text, led, followed =>
    if (source.key? keys).isSome = true ∧ ChaChaPoly.fits text.length = true then
      (∃ c, led = .bytes c) ∧ followed = some (.bytes text)
    else led = .failed ∧ followed = none

end Step

namespace Side

variable {S : Suite} {a : Side} {source : KeySource} {counter : UInt64} {text c : Bytes}

/-- The answer to a call, and the side afterwards: one that fails leaves it as it was. -/
def call (S : Suite) (a : Side) : Call → Answer × Side
  | .mixHash data => (.done, { a with state := a.state.mixHash S data })
  | .mixKey input =>
    let (state, key) := a.state.mixKey S input
    (.key key, ⟨state, a.keys ++ [key]⟩)
  | .encrypt source counter text =>
    match (source.key? a.keys).bind fun key => a.state.encryptAndHash S key counter text with
    | none => (.failed, a)
    | some (c, state) => (.bytes c, { a with state })
  | .decrypt source counter sealedText =>
    match (source.key? a.keys).bind fun key => a.state.decryptAndHash S key counter sealedText with
    | none => (.failed, a)
    | some (text, state) => (.bytes text, { a with state })

/-- A call that fails changes nothing. -/
theorem call_of_failed {call : Call} (failed : (a.call S call).1 = .failed) :
    (a.call S call).2 = a := by
  cases call with
  | mixHash | mixKey => cases failed
  | encrypt source counter text =>
    simp only [Side.call] at failed ⊢
    split at failed
    · rfl
    · cases failed
  | decrypt source counter sealedText =>
    simp only [Side.call] at failed ⊢
    split at failed
    · rfl
    · cases failed

/-- Encrypting fails where there is no key or the text is too long.  Otherwise the sealed text goes
    into the transcript, and a side in the same state that decrypts it reads the text and comes to
    the same state. -/
theorem encrypt_spec (a : Side) (source : KeySource) (counter : UInt64) (text : Bytes) :
    if (source.key? a.keys).isSome = true ∧ ChaChaPoly.fits text.length = true then
      ∃ c next, a.call .standard (.encrypt source counter text) = (.bytes c, next) ∧
        a.call .standard (.decrypt source counter c) = (.bytes text, next) ∧ next.keys = a.keys
    else a.call .standard (.encrypt source counter text) = (.failed, a) := by
  simp only [Side.call]
  cases source.key? a.keys with
  | none => exact rfl
  | some key =>
    have sealable := ChaChaPoly.isSome_sealText key counter a.state.hash.bytes text
    simp only [Option.bind_some, encryptAndHash, decryptAndHash, Option.isSome_some, true_and]
    cases sealed : Suite.standard.sealText key counter a.state.hash.bytes text with
    | none =>
      have unfit : ¬ ChaChaPoly.fits text.length = true := by
        rw [← sealable, show ChaChaPoly.sealText key counter _ text = none from sealed]
        exact Bool.false_ne_true
      rw [if_neg unfit]
      rfl
    | some c =>
      have opened : Suite.standard.openText key counter a.state.hash.bytes c = some text :=
        ChaChaPoly.openText_eq_some_iff.2 sealed
      have fit : ChaChaPoly.fits text.length = true := by
        rw [← sealable, show ChaChaPoly.sealText key counter _ text = some c from sealed]
        rfl
      rw [if_pos fit]
      refine ⟨c, { a with state := a.state.mixHash .standard c }, rfl, ?_, rfl⟩
      simp only [opened, Option.map_some]

/-- A step leads to the same state as its mirror, for sides that were in the same state before. -/
theorem mirror_spec (a : Side) (step : Step) :
    ∃ led next, a.call .standard step.call = (led, next) ∧
      match step.mirror led with
      | none => next = a ∧ step.Mirrored next.keys led none
      | some call => ∃ followed, a.call .standard call = (followed, next) ∧
          step.Mirrored next.keys led (some followed) := by
  cases step with
  | mixHash data => exact ⟨_, _, rfl, _, rfl, rfl, rfl⟩
  | mixKey input => exact ⟨_, _, rfl, _, rfl, _, rfl, rfl⟩
  | encrypt source counter text =>
    have spec := a.encrypt_spec source counter text
    by_cases sealable : (source.key? a.keys).isSome = true ∧ ChaChaPoly.fits text.length = true
    · rw [if_pos sealable] at spec
      obtain ⟨c, next, sealed, opened, keys⟩ := spec
      refine ⟨_, next, sealed, _, opened, ?_⟩
      rw [Step.Mirrored, keys, if_pos sealable]
      exact ⟨⟨c, rfl⟩, rfl⟩
    · rw [if_neg sealable] at spec
      refine ⟨_, a, spec, rfl, ?_⟩
      rw [Step.Mirrored, if_neg sealable]
      exact ⟨rfl, rfl⟩

end Side

/-! ## Two sides -/

/-- One of two sides. -/
inductive End
  | left
  | right
deriving DecidableEq

/-- The other one. -/
def End.other : End → End
  | left => right
  | right => left

/-- Two sides. -/
structure Duet where
  left : Side
  right : Side
deriving DecidableEq

/-- An attempt of one side to decrypt something. -/
structure Attempt where
  reader : End
  source : KeySource
  counter : UInt64
  sealedText : Bytes
deriving DecidableEq

/-- What may happen between two sides. -/
inductive Move
  /-- Some attempts. -/
  | attempts (attempts : List Attempt)
  /-- One side takes a step, and after some attempts the other one mirrors it. -/
  | scripted (lead : End) (step : Step) (meanwhile : List Attempt)
deriving DecidableEq

/-- A move without attempts, if there is anything else to it. -/
def Move.bare : Move → Option Move
  | .attempts _ => none
  | .scripted lead step _ => some (.scripted lead step [])

/-- A move, what the attempts of it came to, what taking a step and mirroring it came to, and the
    two sides afterwards. -/
structure Turn where
  move : Move
  tried : List Answer := []
  led : Option Answer := none
  followed : Option Answer := none
  after : Duet
deriving DecidableEq

namespace Turn

/-- A turn without its attempts, if there is anything else to it. -/
def bare (t : Turn) : Option Turn := t.move.bare.map fun move => { t with move, tried := [] }

/-- All attempts of the turn have failed. -/
def Refused (t : Turn) : Prop := ∀ answer ∈ t.tried, answer = .failed

/-- After the turn the two sides are in step, and the step of the script, if the turn is one, came
    to what it should. -/
structure InStep (t : Turn) : Prop where
  hash : t.after.left.state.hash = t.after.right.state.hash
  chain : t.after.left.state.chain = t.after.right.state.chain
  split : t.after.left.state.split .standard = t.after.right.state.split .standard
  keys : t.after.left.keys = t.after.right.keys
  mirrored : ∀ lead step meanwhile, t.move = .scripted lead step meanwhile →
    ∃ led, t.led = some led ∧ step.Mirrored t.after.left.keys led t.followed

end Turn

namespace Duet

variable {S : Suite} {d : Duet} {move : Move} {moves : List Move}

/-- One of the two sides. -/
def of (d : Duet) : End → Side
  | .left => d.left
  | .right => d.right

/-- Another side in the place of one of the two. -/
def set (d : Duet) (e : End) (a : Side) : Duet :=
  match e with
  | .left => { d with left := a }
  | .right => { d with right := a }

/-- Two sides in the same state. -/
def same (a : Side) : Duet := ⟨a, a⟩

theorem of_same (a : Side) (e : End) : (same a).of e = a := by
  cases e <;> rfl

theorem of_other_set (d : Duet) (e : End) (a : Side) : (d.set e a).of e.other = d.of e.other := by
  cases e <;> rfl

theorem set_of (d : Duet) (e : End) : d.set e (d.of e) = d := by
  cases e <;> rfl

theorem set_set_other (d : Duet) (e : End) (a : Side) :
    (d.set e a).set e.other a = same a := by
  cases e <;> rfl

/-- Two sides that start from a protocol name. -/
def start (S : Suite) (name : Bytes) : Duet := .same ⟨ofProtocol S name, []⟩

/-- One of them makes a call. -/
def call (S : Suite) (d : Duet) (e : End) (call : Call) : Answer × Duet :=
  (((d.of e).call S call).1, d.set e ((d.of e).call S call).2)

/-- They make some attempts. -/
def attempts (S : Suite) (d : Duet) : List Attempt → List Answer × Duet
  | [] => ([], d)
  | t :: rest =>
    let (answer, d) := d.call S t.reader (.decrypt t.source t.counter t.sealedText)
    let (answers, d) := attempts S d rest
    (answer :: answers, d)

/-- They make a move. -/
def turn (S : Suite) (d : Duet) : Move → Turn
  | .attempts list =>
    let (tried, after) := d.attempts S list
    { move := .attempts list, tried, after }
  | .scripted lead step meanwhile =>
    let move := .scripted lead step meanwhile
    let (led, d) := d.call S lead step.call
    let (tried, d) := d.attempts S meanwhile
    match step.mirror led with
    | none => { move, tried, led, after := d }
    | some call =>
      let (followed, after) := d.call S lead.other call
      { move, tried, led, followed, after }

/-- The turns that a list of moves takes. -/
def run (S : Suite) (d : Duet) : List Move → List Turn
  | [] => []
  | move :: moves => d.turn S move :: run S (d.turn S move).after moves

/-! ## Attempts that fail -/

/-- A call that fails changes nothing. -/
theorem call_of_failed {e : End} {call : Call} (failed : (d.call S e call).1 = .failed) :
    (d.call S e call).2 = d := by
  rw [Duet.call, Side.call_of_failed failed, set_of]

/-- Nor do attempts that all fail. -/
theorem attempts_of_failed {list : List Attempt}
    (failed : ∀ answer ∈ (d.attempts S list).1, answer = .failed) :
    (d.attempts S list).2 = d := by
  induction list with
  | nil => rfl
  | cons t rest ih =>
    simp only [attempts, List.mem_cons, forall_eq_or_imp] at failed ⊢
    obtain ⟨first, others⟩ := failed
    rw [call_of_failed first] at others ⊢
    exact ih others

/-- A step whose attempts fail is the step without them. -/
theorem turn_scripted_of_refused {lead : End} {step : Step} {meanwhile : List Attempt}
    (refused : (d.turn S (.scripted lead step meanwhile)).Refused) :
    d.turn S (.scripted lead step meanwhile)
      = { d.turn S (.scripted lead step []) with
          move := .scripted lead step meanwhile
          tried := (d.turn S (.scripted lead step meanwhile)).tried } := by
  have unchanged : ((d.call S lead step.call).2.attempts S meanwhile).2
      = (d.call S lead step.call).2 := by
    refine attempts_of_failed fun answer member => refused answer ?_
    simp only [turn]
    split <;> exact member
  simp only [turn, unchanged, attempts]
  cases step.mirror (d.call S lead step.call).1 <;> rfl

/-- Without the attempts the steps of the script come to the same. -/
theorem run_bare (refused : ∀ t ∈ d.run S moves, t.Refused) :
    (d.run S moves).filterMap Turn.bare = d.run S (moves.filterMap Move.bare) := by
  induction moves generalizing d with
  | nil => rfl
  | cons move moves ih =>
    simp only [run, List.mem_cons, forall_eq_or_imp] at refused
    obtain ⟨first, others⟩ := refused
    have rest := ih others
    cases move with
    | attempts list =>
      have unchanged : (d.turn S (.attempts list)).after = d := attempts_of_failed first
      rw [unchanged] at rest
      have bare : (d.turn S (.attempts list)).bare = none := rfl
      simp only [run, unchanged, List.filterMap_cons, bare, Move.bare]
      exact rest
    | scripted lead step meanwhile =>
      have same := turn_scripted_of_refused first
      have after : (d.turn S (.scripted lead step meanwhile)).after
          = (d.turn S (.scripted lead step [])).after := by rw [same]
      have bare : (d.turn S (.scripted lead step meanwhile)).bare
          = some (d.turn S (.scripted lead step [])) := by
        rw [same]
        simp only [Turn.bare, Move.bare, turn, attempts]
        cases step.mirror (d.call S lead step.call).1 <;> rfl
      simp only [run, List.filterMap_cons, bare, Move.bare]
      rw [rest, after]

/-! ## Staying in step -/

/-- Sides in the same state stay so at every turn whose attempts fail. -/
theorem turn_same (a : Side) (move : Move)
    (refused : ((same a).turn .standard move).Refused) :
    ∃ next, ((same a).turn .standard move).after = same next ∧
      ∀ lead step meanwhile, move = .scripted lead step meanwhile →
        ∃ led, ((same a).turn .standard move).led = some led ∧
          step.Mirrored next.keys led ((same a).turn .standard move).followed := by
  cases move with
  | attempts list => exact ⟨a, attempts_of_failed refused, nofun⟩
  | scripted lead step meanwhile =>
    rw [turn_scripted_of_refused refused]
    obtain ⟨led, next, taken, mirrored⟩ := a.mirror_spec step
    simp only [turn, attempts, Duet.call, of_same, taken, of_other_set]
    cases mirror : step.mirror led with
    | none =>
      simp only [mirror] at mirrored
      obtain ⟨rfl, mirrored⟩ := mirrored
      refine ⟨next, ?_, ?_⟩
      · exact (congrArg _ (of_same next lead).symm).trans (set_of _ lead)
      · rintro _ _ _ ⟨⟩
        exact ⟨led, rfl, mirrored⟩
    | some call =>
      simp only [mirror] at mirrored
      obtain ⟨followed, follows, mirrored⟩ := mirrored
      simp only [follows]
      refine ⟨next, set_set_other _ _ _, ?_⟩
      rintro _ _ _ ⟨⟩
      exact ⟨led, rfl, mirrored⟩

/-- And so throughout. -/
theorem run_same (a : Side) (refused : ∀ t ∈ (same a).run .standard moves, t.Refused) :
    ∀ t ∈ (same a).run .standard moves, t.InStep := by
  induction moves generalizing a with
  | nil => nofun
  | cons move moves ih =>
    simp only [run, List.mem_cons, forall_eq_or_imp] at refused ⊢
    obtain ⟨first, others⟩ := refused
    obtain ⟨next, after, mirrored⟩ := turn_same a move first
    rw [after] at others ⊢
    refine ⟨⟨?_, ?_, ?_, ?_, ?_⟩, ih next others⟩
    all_goals rw [after]
    · rfl
    · rfl
    · rfl
    · rfl
    · have moved : ((same a).turn .standard move).move = move := by
        cases move with
        | attempts => rfl
        | scripted lead step meanwhile =>
          simp only [turn]
          split <;> rfl
      rw [moved]
      exact mirrored

end Duet

/-- Two sides that start from the same name are in step after every move, whatever the script and
    whatever they try to decrypt in between, as long as such attempts fail: hash, chaining key,
    directional keys and the keys that mixing has returned agree, and what was encrypted is read.
    The attempts might as well not have been made. -/
theorem in_step (name : Bytes) (moves : List Move)
    (refused : ∀ t ∈ (Duet.start .standard name).run .standard moves, t.Refused) :
    (∀ t ∈ (Duet.start .standard name).run .standard moves, t.InStep) ∧
    ((Duet.start .standard name).run .standard moves).filterMap Turn.bare
      = (Duet.start .standard name).run .standard (moves.filterMap Move.bare) :=
  ⟨Duet.run_same _ refused, Duet.run_bare refused⟩

/-- Sixteen zero bytes, which the right side tries to decrypt. -/
def Attempt.sample : Attempt := ⟨.right, .given (Octets.replicate 32 0), 0, List.replicate 16 0⟩

/-- A script with an attempt before it, and one before its encryption is mirrored. -/
def Move.samples : List Move :=
  [.attempts [.sample],
    .scripted .right (.encrypt (.given (Octets.replicate 32 9)) 3 [5]) [.sample],
    .scripted .left (.mixKey [1, 2]) [], .scripted .left (.encrypt (.mixed 0) 0 []) []]

/-- The attempts of the sample fail, and the text of its first step is read. -/
theorem in_step_sample :
    let turns := (Duet.start .standard [7]).run .standard Move.samples
    (∀ t ∈ turns, t.Refused) ∧ (∀ t ∈ turns, t.InStep) ∧
      turns.filterMap Turn.bare
        = (Duet.start .standard [7]).run .standard (Move.samples.filterMap Move.bare) ∧
      turns[1]?.bind Turn.followed = some (.bytes [5]) := by
  intro turns
  have refused : ∀ t ∈ turns, ∀ answer ∈ t.tried, answer = .failed := by decide +kernel
  obtain ⟨inStep, bare⟩ := in_step [7] Move.samples refused
  exact ⟨refused, inStep, bare, by decide +kernel⟩

end Gatehouse.Symmetric
