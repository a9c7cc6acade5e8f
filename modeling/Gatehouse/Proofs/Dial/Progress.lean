import Gatehouse.Proofs.Dial.Steps
import Gatehouse.Proofs.Handshake.Acts
import Gatehouse.Proofs.Listener.Wire

/-!
# How a dialer gets on

Every step of a dialer leaves less to do (`left_lt`), so that it comes to a point where it has none
(`exists_idle`).  There it is done, or it waits for room to write or for act two (`done_or_waits`).  A
dialer that is done stays as it is (`run_of_done`).
-/

namespace Gatehouse

/-- How many steps a dialer can have left. -/
def DialPhase.left : DialPhase → Nat
  | .begun _ => 2 * keyActSize + staticActSize + 1
  | .writeOne left => left.length + keyActSize + staticActSize
  | .readTwo got _ => keyActSize - got.length + staticActSize
  | .writeThree left => left.length
  | .secured | .failed _ => 0

namespace Dial

variable {S : Suite} {d d' : Dial} {now : Nat} {wire wire' : Wire} {l : Line} {draw : Secret}

theorem run_append (S : Suite) (l : Line) (events more : List Event) :
    l.run S (events ++ more) = (l.run S events).run S more :=
  List.foldl_append

/-! ## Less to do -/

/-- What is being written is not done, and what is being read is not there. -/
structure Unfinished (phase : DialPhase) : Prop where
  more : ∀ {act left}, phase.writing? = some (act, left) → left ≠ []
  short : ∀ {got due}, phase = .readTwo got due → got.length < keyActSize

theorem unfinished_start (S : Suite) (own : Identity) (remote : PublicKey) (peer : SocketAddress)
    (timeout : Nat) (draw : Secret) : Unfinished (start S own remote peer timeout draw).phase where
  more := nofun
  short := nofun

/-- A phase in which a dialer writes what is left of an act. -/
theorem Unfinished.writing {phase : DialPhase} (act : Act) {left : Bytes}
    (writing : phase.writing? = some (act, left)) (more : left ≠ []) : Unfinished phase where
  more := by
    intro act' left' writing'
    cases writing.symm.trans writing'
    exact more
  short := by
    rintro got due rfl
    cases writing

theorem Unfinished.stepped (unfinished : Unfinished d.phase)
    (stepped : Stepped S now d wire d' wire') : Unfinished d'.phase := by
  cases stepped with
  | begins ephemeral act => exact .writing .one rfl act.bytes_ne_nil
  | writesOne left rest =>
    by_cases all : rest = []
    · simp only [if_pos all]
      refine ⟨nofun, ?_⟩
      rintro got due ⟨⟩
      decide
    · simp only [if_neg all]
      exact .writing .one rfl all
  | reads got bytes due inward phase_eq read short =>
    have less := unfinished.short phase_eq
    have length : (got ++ bytes).length ≠ keyActSize := Octets.ofBytes?_eq_none_iff.1 short
    have atMost := (Pipe.read_eq_bytes read).2
    rw [List.length_append] at length
    refine ⟨nofun, ?_⟩
    rintro got' due' ⟨⟩
    rw [List.length_append]
    omega
  | replies got bytes due inward act answer =>
    exact .writing .three rfl answer.bytes_ne_nil
  | writesThree left rest =>
    by_cases all : rest = []
    · simp only [if_pos all]
      exact ⟨nofun, nofun⟩
    · simp only [if_neg all]
      exact .writing .three rfl all
  | _ => exact ⟨nofun, nofun⟩

theorem Unfinished.apply (unfinished : Unfinished l.dial.phase) (e : Event) :
    Unfinished (l.apply S e).dial.phase := by
  cases e with
  | step =>
    cases hstep : l.dial.step S l.now l.wire with
    | none =>
      rw [Line.apply, hstep]
      exact unfinished
    | some next =>
      rw [Line.apply, hstep]
      exact unfinished.stepped (step_spec hstep)
  | wire change => exact unfinished
  | advance milliseconds => exact unfinished

theorem Unfinished.run (unfinished : Unfinished l.dial.phase) (events : List Event) :
    Unfinished (l.run S events).dial.phase := by
  induction events generalizing l with
  | nil => exact unfinished
  | cons e events ih => exact ih (unfinished.apply e)

/-- **Every step of a dialer leaves less to do.** -/
theorem left_lt (unfinished : Unfinished d.phase) (stepped : Stepped S now d wire d' wire') :
    d'.phase.left < d.phase.left := by
  have writing : ∀ {act left}, d.phase.writing? = some (act, left) → 0 < d.phase.left := by
    intro act left writing
    have some_ := List.length_pos_iff.2 (unfinished.more writing)
    generalize d.phase = phase at writing
    cases phase with
    | writeOne | writeThree =>
      cases writing
      simp only [DialPhase.left]
      omega
    | _ => cases writing
  cases stepped with
  | begins ephemeral act machine phase_eq =>
    rw [phase_eq]
    show act.bytes.length + keyActSize + staticActSize < 2 * keyActSize + staticActSize + 1
    rw [act.length_eq]
    omega
  | writesOne left rest outward phase_eq written =>
    have less := Pipe.length_rest_lt written
      (unfinished.more (by rw [phase_eq]; rfl : d.phase.writing? = some (.one, left)))
    rw [phase_eq]
    by_cases hrest : rest = []
    · subst hrest
      show keyActSize - 0 + staticActSize < left.length + keyActSize + staticActSize
      rw [List.length_nil] at less
      omega
    · rw [if_neg hrest]
      show rest.length + keyActSize + staticActSize < left.length + keyActSize + staticActSize
      omega
  | reads got bytes due inward phase_eq read =>
    have short := unfinished.short phase_eq
    have taken := Pipe.length_bytes_pos read (Nat.sub_pos_of_lt short)
    rw [phase_eq]
    show keyActSize - (got ++ bytes).length + staticActSize < keyActSize - got.length + staticActSize
    rw [List.length_append]
    omega
  | replies got bytes due inward act answer machine last phase_eq =>
    have short := unfinished.short phase_eq
    rw [phase_eq]
    show answer.bytes.length < keyActSize - got.length + staticActSize
    rw [answer.length_eq]
    omega
  | writesThree left rest outward phase_eq written =>
    have less := Pipe.length_rest_lt written
      (unfinished.more (by rw [phase_eq]; rfl : d.phase.writing? = some (.three, left)))
    rw [phase_eq]
    by_cases hrest : rest = []
    · rw [if_pos hrest]
      exact Nat.lt_of_le_of_lt (Nat.zero_le _) less
    · rw [if_neg hrest]
      exact less
  | failsOne _ _ _ phase_eq =>
    rw [phase_eq]
    exact Nat.succ_pos _
  | refusesTwo _ _ _ _ _ _ _ phase_eq | failsThree _ _ _ _ _ _ _ _ phase_eq
  | breaksReading _ _ _ _ phase_eq | expires _ _ phase_eq =>
    rw [phase_eq]
    show 0 < _ + staticActSize
    exact Nat.lt_of_lt_of_le (by decide) (Nat.le_add_left staticActSize _)
  | breaksWriting act left e outward phase_eq => exact writing phase_eq

/-! ## What stays -/

/-- What a dialer was asked for stays. -/
theorem settings_apply (S : Suite) (l : Line) (e : Event) :
    (l.apply S e).dial.peer = l.dial.peer ∧ (l.apply S e).dial.remoteStatic = l.dial.remoteStatic ∧
      (l.apply S e).dial.timeout = l.dial.timeout := by
  cases e with
  | step =>
    cases hstep : l.dial.step S l.now l.wire with
    | none =>
      rw [Line.apply, hstep]
      exact ⟨rfl, rfl, rfl⟩
    | some next =>
      obtain ⟨dial, wire⟩ := next
      rw [Line.apply, hstep]
      cases step_spec hstep <;> exact ⟨rfl, rfl, rfl⟩
  | wire change => exact ⟨rfl, rfl, rfl⟩
  | advance milliseconds => exact ⟨rfl, rfl, rfl⟩

theorem settings_run (S : Suite) (l : Line) (events : List Event) :
    (l.run S events).dial.peer = l.dial.peer ∧
      (l.run S events).dial.remoteStatic = l.dial.remoteStatic ∧
      (l.run S events).dial.timeout = l.dial.timeout := by
  induction events generalizing l with
  | nil => exact ⟨rfl, rfl, rfl⟩
  | cons e events ih =>
    obtain ⟨peer, key, timeout⟩ := settings_apply S l e
    obtain ⟨peer', key', timeout'⟩ := ih (l.apply S e)
    exact ⟨peer'.trans peer, key'.trans key, timeout'.trans timeout⟩

/-- A dialer that has had a turn is no more at the beginning. -/
theorem not_begun_of_turn (S : Suite) (l : Line) (draw : Secret) :
    (l.apply S .step).dial.phase ≠ .begun draw := by
  intro begun
  cases hstep : l.dial.step S l.now l.wire with
  | none =>
    rw [Line.apply, hstep] at begun
    simp only at begun
    unfold step at hstep
    rw [begun] at hstep
    simp only at hstep
    split at hstep <;> cases hstep
  | some next =>
    obtain ⟨dial, wire⟩ := next
    rw [Line.apply, hstep] at begun
    cases step_spec hstep with
    | writesOne left rest | writesThree left rest =>
      by_cases all : rest = []
      · simp only [if_pos all] at begun
        cases begun
      · simp only [if_neg all] at begun
        cases begun
    | _ => cases begun

theorem begun_of_run {events : List Event} (begun : (l.run S events).dial.phase = .begun draw) :
    l.dial.phase = .begun draw ∧ .step ∉ events := by
  induction events generalizing l with
  | nil => exact ⟨begun, List.not_mem_nil⟩
  | cons e events ih =>
    obtain ⟨begun, unturned⟩ := ih (l := l.apply S e) begun
    cases e with
    | step => exact absurd begun (not_begun_of_turn S l draw)
    | wire change => exact ⟨begun, List.not_mem_cons_of_ne_of_not_mem nofun unturned⟩
    | advance milliseconds => exact ⟨begun, List.not_mem_cons_of_ne_of_not_mem nofun unturned⟩

/-! ## Waiting -/

/-- A dialer waits for the other side. -/
inductive Waits (l : Line) : Prop
  /-- There is no room for what is to be written. -/
  | room (act : Act) (left : Bytes) (writing : l.dial.phase.writing? = some (act, left))
      (willing : l.wire.outward.refusal = none) (full : l.wire.outward.room = some 0)
  /-- There is nothing of act two to be read, and there is time. -/
  | actTwo (got : Bytes) (due : Nat) (reading : l.dial.phase = .readTwo got due)
      (absent : l.wire.inward.isReadable = false) (early : l.now < due)

/-- **A dialer that has nothing to do is done or waits for the other side.** -/
theorem done_or_waits (idle : l.dial.step S l.now l.wire = none) :
    l.dial.result?.isSome = true ∨ Waits l := by
  have writes : ∀ {act left more full}, l.dial.phase.writing? = some (act, left) →
      l.dial.write l.wire act left more full = none → Waits l := by
    intro act left more full writing idle
    have written := Pipe.write_spec l.wire.outward left
    unfold write at idle
    rcases came : l.wire.outward.write left with ⟨answer, outward⟩
    rw [came] at written
    simp only [came] at idle
    cases written with
    | refused => cases idle
    | takes sent rest => cases rest <;> cases idle
    | waits full =>
      refine .room act left writing ?_ full
      by_contra refused
      obtain ⟨e, refused⟩ := Option.ne_none_iff_exists'.1 refused
      rw [Pipe.write, refused] at came
      cases came
  unfold step at idle
  split at idle
  · split at idle <;> cases idle
  · rename_i left phase_eq
    exact .inr (writes (by rw [phase_eq]; rfl) idle)
  · rename_i got due phase_eq
    rcases found : l.wire.inward.read (keyActSize - got.length) with ⟨sight, inward⟩
    simp only [found] at idle
    split at idle
    · split at idle <;> cases idle
    · cases idle
    · cases idle
    · split at idle
      · cases idle
      · rename_i early
        refine .inr (.actTwo got due phase_eq (Pipe.read_eq_nothing_iff.1 (congrArg (·.1) found)) ?_)
        simp only [expired, decide_eq_true_eq] at early
        omega
  · rename_i left phase_eq
    exact .inr (writes (by rw [phase_eq]; rfl) idle)
  · rename_i phase_eq
    exact .inl (by rw [result?, phase_eq]; rfl)
  · rename_i failure phase_eq
    exact .inl (by rw [result?, phase_eq]; rfl)

/-- **A dialer comes to a point where it has nothing to do.** -/
theorem exists_idle (S : Suite) (unfinished : Unfinished l.dial.phase) :
    ∃ steps, let l' := l.run S (List.replicate steps .step)
      l'.dial.step S l'.now l'.wire = none := by
  induction hleft : l.dial.phase.left using Nat.strongRecOn generalizing l with
  | ind left ih =>
    subst hleft
    cases hstep : l.dial.step S l.now l.wire with
    | none => exact ⟨0, hstep⟩
    | some next =>
      obtain ⟨d', wire'⟩ := next
      have stepped := step_spec hstep
      have happly : l.apply S .step = { l with dial := d', wire := wire' } := by
        rw [Line.apply, hstep]
      obtain ⟨steps, idle⟩ := ih (l := { l with dial := d', wire := wire' }) _
        (left_lt unfinished stepped) (unfinished.stepped stepped) rfl
      refine ⟨steps + 1, ?_⟩
      rw [List.replicate_succ]
      show let l' := (l.apply S .step).run S _; l'.dial.step S l'.now l'.wire = none
      rw [happly]
      exact idle

/-! ## The end -/

/-- Nothing happens to a dialer any more that is done. -/
theorem apply_of_done (done : l.dial.result?.isSome = true) (e : Event) :
    (l.apply S e).dial = l.dial := by
  cases e with
  | step =>
    have idle : l.dial.step S l.now l.wire = none := by
      unfold result? at done
      unfold step
      split at done
      · rename_i phase_eq
        rw [phase_eq]
      · rename_i failure phase_eq
        rw [phase_eq]
      · cases done
    rw [Line.apply, idle]
  | wire change => rfl
  | advance milliseconds => rfl

theorem run_of_done (done : l.dial.result?.isSome = true) (events : List Event) :
    (l.run S events).dial = l.dial := by
  induction events generalizing l with
  | nil => rfl
  | cons e events ih =>
    have same := apply_of_done (S := S) done e
    exact (ih (by rw [same]; exact done)).trans same

end Dial

end Gatehouse
