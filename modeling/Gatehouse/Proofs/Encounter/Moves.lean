import Gatehouse.Proofs.Dial.Progress
import Gatehouse.Proofs.Encounter.Accord

/-!
# How long it can take

Every byte of the acts is written once, brought to the other end once and read once, and there are
three steps that do none of that.  So whoever moves the two on, and in whatever order, can do so
only so often (`Accord.moved_le`): a step of a dialer or of a handshake at its acts leaves less to do
(`Dial.left_lt`, `left_stepTask`), and the network brings no more than there is.
-/

namespace Gatehouse

/-! ## What is left to do -/

/-- How many steps a handshake can have left before it reports. -/
def Phase.left : Phase → Nat
  | .spawned => 2 * keyActSize + staticActSize + 2
  | .readOne _ got _ => keyActSize - got.length + keyActSize + 1 + staticActSize
  | .writeTwo _ left => left.length + 1 + staticActSize
  | .wroteTwo _ => 1 + staticActSize
  | .readThree _ got _ => staticActSize - got.length
  | .reporting => 0

namespace Dial

variable {S : Suite} {i r : Identity} {eᵢ eᵣ : Secret} {A : Acts S i r eᵢ eᵣ} {d d' : Dial}
  {sent got : Bytes} {now : Nat} {wire wire' : Wire}

/-- What is being written is not done. -/
theorem Through.more {act : Act} {left : Bytes} (through : Through A d sent got)
    (writing : d.phase.writing? = some (act, left)) : left ≠ [] := by
  cases through with
  | writeOne _ _ phase_eq _ _ more | writeThree _ _ phase_eq _ _ more =>
    rw [phase_eq] at writing
    cases writing
    exact more
  | begun phase_eq | readTwo _ _ phase_eq | secured phase_eq =>
    rw [phase_eq] at writing
    cases writing

/-- What is being read is not complete. -/
theorem Through.short {due : Nat} {part : Bytes} (through : Through A d sent got)
    (reading : d.phase = .readTwo part due) : part.length < keyActSize := by
  cases through with
  | readTwo _ _ phase_eq _ short =>
    cases reading.symm.trans phase_eq
    exact short
  | begun phase_eq | writeOne _ _ phase_eq | writeThree _ _ phase_eq | secured phase_eq =>
    cases reading.symm.trans phase_eq

theorem Through.unfinished (through : Through A d sent got) : Unfinished d.phase :=
  ⟨through.more, through.short⟩

end Dial

theorem Sofar.left_pos {S : Suite} {identity : Identity} {t : Transcript} {phase : Phase}
    (sofar : Sofar S identity t phase) : 0 < phase.left := by
  cases sofar with
  | spawned => exact Nat.succ_pos _
  | readOne | writeTwo =>
    exact Nat.lt_of_lt_of_le (by decide) (Nat.le_add_left staticActSize _)
  | wroteTwo => exact Nat.lt_of_lt_of_le (by decide) (Nat.le_add_left staticActSize _)
  | readThree _ _ _ _ got _ _ short => exact Nat.sub_pos_of_lt short

namespace Listener

variable {S : Suite} {l l' : Listener} {id stream : Nat} {task : HandshakeTask} {t : Transcript}

/-- How many steps a handshake that has been begun can have left before it reports. -/
def left (l : Listener) (id : Nat) : Nat :=
  ((l.tasks.find? id).map fun task => task.phase.left).getD 0

theorem left_eq (held : l.tasks.find? id = some task) : l.left id = task.phase.left := by
  rw [left, held]
  rfl

theorem left_of_tasks (same : l'.tasks.find? id = l.tasks.find? id) : l'.left id = l.left id := by
  rw [left, left, same]

theorem left_setPhase (held : l.tasks.find? id = some task) (phase : Phase) :
    (l.setPhase id task phase).left id = phase.left :=
  left_eq (find?_setPhase held phase)

theorem left_endTask (l : Listener) (id : Nat) : (l.endTask id).left id = 0 := by
  rw [left, find?_endTask]
  rfl

theorem left_failActs (held : l.tasks.find? id = some task) (failure : Failure) :
    (l.failActs id task failure).left id = 0 := by
  have tasks : (l.rejectActs id task failure).tasks = l.tasks :=
    congrArg Core.tasks (core_rejectActs l id task failure)
  rcases failActs_cases l id task failure with ⟨_, heq⟩ | ⟨_, heq⟩
  · rw [heq]
    exact left_endTask _ id
  · rw [heq]
    exact left_setPhase (by rw [← held]; exact congrArg (·.find? id) tasks) .reporting

/-- Every step of a handshake at its acts leaves less to do. -/
theorem left_stepTask (sofar : Sofar S l.settings.identity t task.phase)
    (held : l.tasks.find? id = some task) {sight : Sight}
    (stepped : TaskStepped S l id task sight l') : l'.left id < l.left id := by
  have positive := sofar.left_pos
  rw [left_eq held]
  have goesOn : ∀ {l₁ : Listener} {phase : Phase}, l₁.tasks = l.tasks →
      phase.left < task.phase.left → (l₁.setPhase id task phase).left id < task.phase.left := by
    intro l₁ phase same less
    rw [left_setPhase (by rw [same]; exact held)]
    exact less
  have failing : ∀ {l₁ : Listener} {failure : Failure}, l₁.tasks = l.tasks →
      (l₁.failActs id task failure).left id < task.phase.left := by
    intro l₁ failure same
    rw [left_failActs (by rw [same]; exact held)]
    exact positive
  cases stepped with
  | aborts =>
    have gone : ((((l.enter id .init).enter id .rejected).endTask id).closeStream
        task.stream).left id = 0 := by
      have core := core_closeStream (((l.enter id .init).enter id .rejected).endTask id) task.stream
      rw [left_of_tasks (congrArg (fun c : Core => c.tasks.find? id) core)]
      exact left_endTask _ id
    rw [gone]
    exact positive
  | begins spawned =>
    refine goesOn rfl ?_
    rw [spawned]
    show keyActSize - 0 + keyActSize + 1 + staticActSize < 2 * keyActSize + staticActSize + 2
    omega
  | shut => exact failing rfl
  | breaks failure wires => exact failing rfl
  | readsOne machine got bytes timer wire inward phase_eq going found read short =>
    refine goesOn rfl ?_
    rw [phase_eq] at sofar ⊢
    cases sofar with
    | readOne _ _ _ less =>
      have taken := Pipe.length_bytes_pos read (Nat.sub_pos_of_lt less)
      show keyActSize - (got ++ bytes).length + keyActSize + 1 + staticActSize <
        keyActSize - got.length + keyActSize + 1 + staticActSize
      rw [List.length_append]
      omega
  | takesOne machine got bytes timer wire inward act phase_eq =>
    rcases takeActOne_cases (S := S) (l.withWire task.stream { wire with inward }) id task machine
      act with ⟨e, m, _, htake⟩ | ⟨m₁, _, ⟨e, m₂, _, htake⟩ | ⟨two, m₂, _, htake⟩⟩
    · rw [htake]
      exact failing rfl
    · rw [htake]
      exact failing rfl
    · rw [htake]
      refine goesOn rfl ?_
      rw [phase_eq] at sofar ⊢
      cases sofar with
      | readOne _ _ _ less =>
        show two.bytes.length + 1 + staticActSize <
          keyActSize - got.length + keyActSize + 1 + staticActSize
        rw [two.length_eq]
        omega
  | writes machine left rest wire outward phase_eq going found written =>
    refine goesOn rfl ?_
    rw [phase_eq] at sofar ⊢
    cases sofar with
    | writeTwo _ _ _ _ _ _ _ _ more =>
      have less := Pipe.length_rest_lt written more
      by_cases hrest : rest = []
      · rw [if_pos hrest]
        show 1 + staticActSize < left.length + 1 + staticActSize
        omega
      · rw [if_neg hrest]
        show rest.length + 1 + staticActSize < left.length + 1 + staticActSize
        omega
  | awaits machine phase_eq =>
    refine goesOn rfl ?_
    rw [phase_eq]
    show staticActSize - 0 < 1 + staticActSize
    omega
  | readsThree machine got bytes timer wire inward phase_eq going found read short =>
    refine goesOn rfl ?_
    rw [phase_eq] at sofar ⊢
    cases sofar with
    | readThree _ _ _ _ _ _ _ less =>
      have taken := Pipe.length_bytes_pos read (Nat.sub_pos_of_lt less)
      show staticActSize - (got ++ bytes).length < staticActSize - got.length
      rw [List.length_append]
      omega
  | takesThree machine got bytes timer wire inward act =>
    rcases takeActThree_cases (S := S) (l.withWire task.stream { wire with inward }) id task machine
      act with ⟨e, m, _, htake⟩ | ⟨m, _, ⟨_, htake⟩ | ⟨remote, _, htake⟩⟩
    · rw [htake]
      exact failing rfl
    · rw [htake]
      exact failing rfl
    · rw [htake, succeedActs_eq]
      have reporting : ∀ {l₁ : Listener} {outcome : Outcome}, l₁.tasks = l.tasks →
          (l₁.submitOutcome id task outcome).left id < task.phase.left := fun same =>
        goesOn same positive
      exact reporting rfl
  | holds _ reporting => exact absurd reporting sofar.ne_reporting
  | delivers _ reporting => exact absurd reporting sofar.ne_reporting
  | drops _ _ reporting => exact absurd reporting sofar.ne_reporting

/-- Once its acts are over, a handshake has nothing left to do. -/
theorem left_of_reporting (held : l.tasks.find? id = some task)
    (reporting : task.phase = .reporting) : l.left id = 0 := by
  rw [left_eq held, reporting]
  rfl

end Listener

namespace Encounter

open Listener

variable {S : Suite} {i r : Identity} {eᵢ : Secret} {m : Encounter} {owner owner' : Option Nat}
  {e : Event}

/-- Does an event move the two on?  That is a step of the dialer, a step of the handshake at its
    acts, and bytes that the network brings. -/
def moves (S : Suite) (m : Encounter) : Event → Bool
  | .dial => (m.line.dial.step S m.line.now m.line.wire).isSome
  | .listen (.step (.task id)) =>
    match m.listener.tasks.find? id with
    | none => false
    | some task =>
      task.stream == m.stream && task.phase != .reporting && (m.listener.stepTask S id).isSome
  | .bringIn count => count != 0 && !m.line.wire.outward.unread.isEmpty
  | .bringOut count => count != 0 && !m.wire.outward.unread.isEmpty
  | _ => false

/-- How often they are moved on along a run. -/
def moved (S : Suite) : Encounter → List Event → Nat
  | _, [] => 0
  | m, e :: events => (m.moves S e).toNat + moved S (m.apply S e) events

/-- How many steps the dialer and the handshake can have left. -/
def left (m : Encounter) (owner : Option Nat) : Nat :=
  m.line.dial.phase.left + (owner.map m.listener.left).getD Phase.spawned.left

/-- How many bytes the network has brought. -/
def carried (m : Encounter) : Nat := m.carriedIn.length + m.carriedOut.length

/-- An event that moves nobody and brings nothing. -/
theorem left_idle (idle : m.moves S e = false) (dial : (m.apply S e).line.dial = m.line.dial)
    (handshake : (owner'.map (m.apply S e).listener.left).getD Phase.spawned.left =
      (owner.map m.listener.left).getD Phase.spawned.left)
    (carried : m.carried ≤ (m.apply S e).carried) :
    (m.moves S e).toNat + (m.apply S e).left owner' + m.carried ≤
      m.left owner + (m.apply S e).carried := by
  rw [left, left, dial, handshake, idle]
  show 0 + _ + _ ≤ _
  omega

theorem left_onWire (l : Listener) (stream : Nat) (f : Wire → Wire) :
    (l.onWire stream f).left = l.left := by
  have core := core_onWire l stream f
  funext id
  exact left_of_tasks (congrArg (fun c : Core => c.tasks.find? id) core)

/-- A step of the handshake at its acts leaves less to do, and no other step of it leaves more. -/
theorem Accord.left_own {id : Nat} (accord : Accord S i r eᵢ m (some id)) :
    (m.moves S (.listen (.step (.task id)))).toNat +
        (m.listener.apply S (.step (.task id))).left id ≤ m.listener.left id := by
  obtain ⟨_, t, w, sent, got, attended, joined⟩ := accord
  rcases apply_step S m.listener (.task id) with ⟨hstep, same⟩ | ⟨l', happly, taken⟩
  · have idle : m.moves S (.listen (.step (.task id))) = false := by
      have none : m.listener.stepTask S id = none := hstep
      rw [moves, none]
      split
      · rfl
      · exact Bool.and_false _
    rw [same, idle]
    exact Nat.le_of_eq (Nat.zero_add _)
  · rw [happly]
    obtain ⟨task, held, stepped⟩ : ∃ task, m.listener.tasks.find? id = some task ∧
        TaskStepped S m.listener id task (m.listener.sight task) l' := by
      cases taken with
      | task task held step => exact ⟨task, held, stepTask_spec held step⟩
    have told := attended.told_owner
    by_cases going : verdict S m.listener.settings.identity t = .going
    · have less := left_stepTask (told.sofar held going) held stepped
      have once := Bool.toNat_le (m.moves S (.listen (.step (.task id))))
      omega
    · -- the handshake reports, which is no move
      have reporting := told.reporting going held
      have idle : m.moves S (.listen (.step (.task id))) = false := by
        rw [moves, held]
        show (_ && (task.phase != .reporting) && _) = false
        rw [reporting]
        simp
      have after : l'.left id = 0 := by
        rcases (told.report_of_open going held attended.isOpen stepped).2 with same | ⟨_, rfl⟩
        · exact left_of_reporting (by rw [same]; exact held) reporting
        · exact left_endTask _ id
      rw [idle, after]
      exact Nat.zero_le _

/-- Whatever else happens to the listener does not move the handshake on. -/
theorem Accord.left_other (accord : Accord S i r eᵢ m owner) {e : Listener.Event}
    (accord' : Accord S i r eᵢ (m.apply S (.listen e)) owner')
    (succeeds : m.Succeeds (.listen e) owner owner')
    (other : ∀ id, owner = some id → e ≠ .step (.task id)) :
    m.moves S (.listen e) = false ∧
      (owner'.map (m.listener.apply S e).left).getD Phase.spawned.left =
        (owner.map m.listener.left).getD Phase.spawned.left := by
  obtain ⟨_, t, w, sent, got, attended, joined⟩ := accord
  constructor
  · cases e with
    | step party =>
      cases party with
      | task k =>
        cases held : m.listener.tasks.find? k with
        | none => rw [moves, held]
        | some task =>
          have elsewhere : (task.stream == m.stream) = false := by
            refine beq_eq_false_iff_ne.2 fun stream_eq => ?_
            have noted := attended.orderly.noted held
            rw [stream_eq] at noted
            exact other k ((attended.sole.named k).1 noted) rfl
          rw [moves, held]
          show ((task.stream == m.stream) && _ && _) = false
          rw [elsewhere, Bool.false_and, Bool.false_and]
      | _ => rfl
    | _ => rfl
  · rcases succeeds with rfl | ⟨rfl, loop, rfl⟩
    · cases owner' with
      | none => rfl
      | some id =>
        have noted := (attended.sole.named id).2 rfl
        have apart := apart_apply S (attended.orderly.numbered.old id _ noted) (other id rfl)
        exact left_of_tasks apart.held
    · -- the handshake of a connection that is just being taken has not begun
      obtain ⟨_, _, _, _, _, attended', _⟩ := accord'
      have noted : .taken (m.listener.connections + 1) m.stream ∈ (m.listener.apply S e).log :=
        (attended'.sole.named _).2 rfl
      obtain ⟨arrival, socket, _, _, happly, _, _⟩ := (spawned_of_taken noted).resolve_left
        fun old => by cases (attended.sole.named _).1 old
      obtain ⟨ts, told, _⟩ := attended.told
      have absent := ((told (m.listener.connections + 1)).of_not_taken
        fun taken => Nat.not_succ_le_self _ taken.2).2.1
      have spawned := Roster.find?_enter m.listener.tasks (m.listener.connections + 1)
        (m.listener.connections + 1) ⟨arrival.stream, arrival.peer, .spawned⟩ absent
      rw [if_pos rfl] at spawned
      show (m.listener.apply S e).left _ = _
      rw [happly]
      exact left_eq (show ({ m.listener with socket }.spawnTask arrival).tasks.find? _ = _
        from spawned)

/-- What the network brings is not more than it says, and not less than a byte if that counts. -/
theorem toNat_le_length_take (count : Nat) (bytes : Bytes) :
    (count != 0 && !bytes.isEmpty).toNat ≤ (bytes.take count).length := by
  cases count with
  | zero => exact Nat.zero_le _
  | succ count =>
    cases bytes with
    | nil => exact Nat.zero_le _
    | cons b bytes => exact Nat.succ_le_succ (Nat.zero_le _)

/-- The network brings a piece. -/
theorem left_brings {count : Nat} {bytes : Bytes}
    (moves : m.moves S e = (count != 0 && !bytes.isEmpty))
    (left : (m.apply S e).left owner = m.left owner)
    (carried : (m.apply S e).carried = m.carried + (bytes.take count).length) :
    (m.moves S e).toNat + (m.apply S e).left owner + m.carried ≤
      m.left owner + (m.apply S e).carried := by
  have brings := toNat_le_length_take count bytes
  rw [moves, left, carried]
  omega

theorem Accord.left_dial (accord : Accord S i r eᵢ m owner) :
    (m.moves S .dial).toNat + (m.apply S .dial).left owner + m.carried ≤
      m.left owner + (m.apply S .dial).carried := by
  cases hstep : m.line.dial.step S m.line.now m.line.wire with
  | none =>
    have idle : m.moves S .dial = false := by
      rw [moves, hstep]
      rfl
    have stays : m.apply S .dial = m := by
      rw [Encounter.apply, Dial.Line.apply, hstep]
    exact left_idle idle (by rw [stays]) (by rw [stays]) (by rw [stays])
  | some next =>
    obtain ⟨d', wire'⟩ := next
    obtain ⟨_, t, w, sent, got, _, joined⟩ := accord
    obtain ⟨A, through⟩ := joined.through
    have less := Dial.left_lt through.unfinished (Dial.step_spec hstep)
    have once := Bool.toNat_le (m.moves S .dial)
    have happly : m.apply S .dial =
        { m with line := { m.line with dial := d', wire := wire' } } := by
      rw [Encounter.apply, Dial.Line.apply, hstep]
    rw [happly]
    show _ + (d'.phase.left + (owner.map m.listener.left).getD Phase.spawned.left) + m.carried ≤
      m.line.dial.phase.left + (owner.map m.listener.left).getD Phase.spawned.left + m.carried
    omega

/-- What moves the two on leaves less to do, or is a piece that the network has brought. -/
theorem Accord.left_apply (accord : Accord S i r eᵢ m owner)
    (accord' : Accord S i r eᵢ (m.apply S e) owner') (succeeds : m.Succeeds e owner owner') :
    (m.moves S e).toNat + (m.apply S e).left owner' + m.carried ≤
      m.left owner + (m.apply S e).carried := by
  have same : (∀ e', e ≠ .listen e') → owner' = owner := fun elsewhere =>
    succeeds.resolve_right fun ⟨_, loop, _⟩ => elsewhere _ loop
  have onWire : ∀ f : Wire → Wire,
      (owner.map (m.listener.onWire m.stream f).left).getD Phase.spawned.left =
        (owner.map m.listener.left).getD Phase.spawned.left := fun f => by
    rw [left_onWire]
  cases e with
  | listen e =>
    by_cases own : ∃ id, owner = some id ∧ e = .step (.task id)
    · obtain ⟨id, rfl, rfl⟩ := own
      obtain rfl := succeeds.resolve_right fun ⟨h, _⟩ => by cases h
      have less := accord.left_own
      show _ + (m.line.dial.phase.left + (m.listener.apply S (.step (.task id))).left id) +
        m.carried ≤ m.line.dial.phase.left + m.listener.left id + m.carried
      omega
    · obtain ⟨idle, handshake⟩ := accord.left_other accord' succeeds
        fun id howner he => own ⟨id, howner, he⟩
      exact left_idle idle rfl handshake (Nat.le_refl _)
  | dial =>
    obtain rfl := same fun _ => Event.noConfusion
    exact accord.left_dial
  | wait ms =>
    obtain rfl := same fun _ => Event.noConfusion
    exact left_idle rfl rfl rfl (Nat.le_refl _)
  | bringIn count =>
    obtain rfl := same fun _ => Event.noConfusion
    refine left_brings rfl (congrArg (m.line.dial.phase.left + ·) (onWire _)) ?_
    show (m.carriedIn ++ _).length + m.carriedOut.length = _
    rw [List.length_append, Encounter.carried]
    omega
  | bringOut count =>
    obtain rfl := same fun _ => Event.noConfusion
    refine left_brings rfl (congrArg (m.line.dial.phase.left + ·) (onWire _)) ?_
    show m.carriedIn.length + (m.carriedOut ++ _).length = _
    rw [List.length_append, Encounter.carried]
    omega
  | roomIn room =>
    obtain rfl := same fun _ => Event.noConfusion
    exact left_idle rfl rfl rfl (Nat.le_refl _)
  | roomOut room =>
    obtain rfl := same fun _ => Event.noConfusion
    exact left_idle rfl rfl (onWire _) (Nat.le_refl _)
  | sayIn bytes =>
    obtain rfl := same fun _ => Event.noConfusion
    have rest : (m.apply S (.sayIn bytes)).listener = m.listener ∧
        (m.apply S (.sayIn bytes)).line.dial = m.line.dial ∧
        (m.apply S (.sayIn bytes)).carried = m.carried := by
      rw [Encounter.apply]
      split <;> exact ⟨rfl, rfl, rfl⟩
    exact left_idle rfl rest.2.1 (by rw [rest.1]) (by rw [rest.2.2])
  | sayOut bytes =>
    obtain rfl := same fun _ => Event.noConfusion
    have listener : (m.apply S (.sayOut bytes)).listener.left = m.listener.left := by
      rw [Encounter.apply]
      split
      · exact left_onWire _ _ _
      · rfl
    have rest : (m.apply S (.sayOut bytes)).line = m.line ∧
        (m.apply S (.sayOut bytes)).carried = m.carried := by
      rw [Encounter.apply]
      split <;> exact ⟨rfl, rfl⟩
    exact left_idle rfl (by rw [rest.1]) (by rw [listener]) (by rw [rest.2])

/-- **They can only be moved on so often.**  Along every run that nothing disturbs, as often as the
    dialer and the handshake had steps left, and as the network has brought bytes. -/
theorem Accord.moved_le (agreement : S.AgreementLaws) (cipher : S.CipherLaws)
    (accord : Accord S i r eᵢ m owner) {events : List Event}
    (undisturbed : m.Undisturbed S events) :
    ∃ owner', Accord S i r eᵢ (m.run S events) owner' ∧
      m.moved S events + (m.run S events).left owner' + m.carried ≤
        m.left owner + (m.run S events).carried := by
  induction events generalizing m owner with
  | nil => exact ⟨owner, accord, Nat.le_of_eq (congrArg (· + m.carried) (Nat.zero_add _))⟩
  | cons e events ih =>
    obtain ⟨owner₁, accord₁, succeeds⟩ := accord.apply agreement cipher
      (undisturbed.inTime [] List.nil_prefix) (undisturbed.harmless e List.mem_cons_self)
    have first := accord.left_apply accord₁ succeeds
    obtain ⟨owner', accord', rest⟩ := ih accord₁ undisturbed.tail
    refine ⟨owner', accord', ?_⟩
    show (m.moves S e).toNat + (m.apply S e).moved S events + _ + _ ≤
      _ + ((m.apply S e).run S events).carried
    have later : (m.run S (e :: events)) = (m.apply S e).run S events := rfl
    rw [later]
    omega

end Encounter

end Gatehouse
