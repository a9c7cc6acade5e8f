import Gatehouse.Handoff.Script
import Gatehouse.Proofs.Handoff.Books

/-!
# Scripts are runs

A run leaves out steps that cannot happen (`admits`).  Nothing is lost by that: where producers and
consumers are numbered in the order of their making, whatever is done leads to the state after some
run (`Script.Reached.performAll`).  The numbers in use come from those who came, so that the next
number is always a new one (`Uses.of_step`).
-/

namespace Gatehouse.Handoff

variable {α : Type}

/-! ## Numbers in use -/

/-- A number stands for somebody: an unfinished producer or consumer, a slot, or a consumer that was
    answered. -/
def Uses (h : Handoff α) (k : Nat) : Prop :=
  k ∈ h.producers.ids ∨ k ∈ h.consumers.ids ∨ k ∈ h.slots ∨ h.answers k ≠ []

/-- The number of who comes. -/
def Step.entrant : Step α → Option Nat
  | .submit id _ => some id
  | .request id => some id
  | _ => none

section Uses

variable {h h' : Handoff α} {id k : Nat}

/-- Nobody comes into use where the producers, the consumers and the slots get no more. -/
theorem Uses.mono (uses : h'.Uses k) (hproducers : h'.producers.ids ⊆ h.producers.ids)
    (hconsumers : h'.consumers.ids ⊆ h.consumers.ids) (hslots : h'.slots ⊆ h.slots)
    (hanswers : h'.answers k = h.answers k) : h.Uses k := by
  rcases uses with hk | hk | hk | hk
  · exact Or.inl (hproducers hk)
  · exact Or.inr (Or.inl (hconsumers hk))
  · exact Or.inr (Or.inr (Or.inl (hslots hk)))
  · exact Or.inr (Or.inr (Or.inr (hanswers ▸ hk)))

theorem ids_removeProducer_subset (h : Handoff α) (id : Nat) :
    (h.removeProducer id).producers.ids ⊆ h.producers.ids := by
  show (h.producers.erase id).ids ⊆ h.producers.ids
  rw [Roster.ids_erase]
  exact List.filter_subset_self _

theorem ids_removeConsumer_subset (h : Handoff α) (id : Nat) :
    (h.removeConsumer id).consumers.ids ⊆ h.consumers.ids :=
  fun _ hk => (mem_ids_removeConsumer.1 hk).1

/-- A producer goes. -/
theorem Uses.of_removeProducer (id : Nat) (uses : (h.removeProducer id).Uses k) : h.Uses k :=
  uses.mono (ids_removeProducer_subset h id) (List.Subset.refl _) (List.Subset.refl _) rfl

/-- A consumer goes. -/
theorem Uses.of_removeConsumer (id : Nat) (uses : (h.removeConsumer id).Uses k) : h.Uses k :=
  uses.mono (List.Subset.refl _) (ids_removeConsumer_subset h id) (List.Subset.refl _) rfl

theorem Uses.of_abandonProducer (uses : (h.abandonProducer id).Uses k) : h.Uses k := by
  unfold abandonProducer at uses
  cases held : h.producers.find? id with
  | none =>
    rw [held] at uses
    exact uses
  | some outcome =>
    rw [held] at uses
    exact Uses.of_removeProducer id uses

theorem Uses.of_abandonConsumer (uses : (h.abandonConsumer id).Uses k) : h.Uses k := by
  unfold abandonConsumer at uses
  cases held : h.consumers.find? id with
  | none =>
    rw [held] at uses
    exact uses
  | some consumer =>
    rw [held] at uses
    cases consumer <;> exact Uses.of_removeConsumer id uses

/-- Who is answered was there. -/
theorem Uses.of_gave {given : Option α} (uses : (h'.note (.gave id given)).Uses k)
    (hmem : id ∈ h.consumers.ids) (hbefore : h'.Uses k → h.Uses k) : h.Uses k := by
  by_cases hk : id = k
  · exact Or.inr (Or.inl (hk ▸ hmem))
  · apply hbefore
    unfold Uses at uses
    rw [answers_note_gave, if_neg hk] at uses
    exact uses

theorem Uses.of_closeConsumer {consumer : Consumer α}
    (held : h.consumers.find? id = some consumer) (uses : (h.closeConsumer id consumer).Uses k) :
    h.Uses k := by
  rw [closeConsumer_eq held] at uses
  exact uses.of_gave (Roster.mem_ids_of_find? held) Uses.of_abandonConsumer

theorem Uses.of_producerPolled {answer : Poll Bool} (polled : h.ProducerPolled id answer h')
    (uses : h'.Uses k) : h.Uses k := by
  have hjoin : (h.joinLine id).Uses k → h.Uses k := by
    rw [joinLine_eq]
    exact fun hk => hk
  cases polled with
  | unknown absent => exact uses
  | shut outcome held fired => exact Uses.of_removeProducer id uses
  | queued outcome held going behind => exact hjoin uses
  | idle outcome held going first dead alive =>
    exact hjoin (uses.mono (List.Subset.refl _) (List.Subset.refl _) (List.nil_subset _) rfl)
  | closed outcome held going first dead gone =>
    have hslots := Uses.of_removeProducer (h := { h.joinLine id with slots := [] }) id uses
    exact hjoin (hslots.mono (List.Subset.refl _) (List.Subset.refl _) (List.nil_subset _) rfl)
  | delivers outcome held going first passed slot rest slots_eq dead live =>
    have hrest : rest ⊆ (h.joinLine id).slots := by
      have hslots : (h.joinLine id).slots = h.slots := by rw [joinLine_eq]
      rw [hslots, slots_eq]
      intro s hs
      exact List.mem_append_right _ (List.mem_cons_of_mem _ hs)
    have hconsumers : (h.consumers.update slot (.filled outcome)).ids =
        (h.joinLine id).consumers.ids := by
      rw [Roster.ids_update, joinLine_eq]
    refine hjoin (uses.mono (ids_removeProducer_subset (h.joinLine id) id) ?_ hrest rfl)
    exact fun j hj => hconsumers ▸ hj

theorem Uses.of_consumerPolled {answer : Poll (Option α)} (polled : h.ConsumerPolled id answer h')
    (uses : h'.Uses k) : h.Uses k := by
  cases polled with
  | unknown absent => exact uses
  | shut consumer held fired => exact Uses.of_closeConsumer held uses
  | waits held going alive => exact uses
  | closed consumer held going gone empty => exact Uses.of_closeConsumer held uses
  | returns outcome held going =>
    exact uses.of_gave (Roster.mem_ids_of_find? held) (Uses.of_removeConsumer id)
  | registers held going alive =>
    rcases uses with hk | hk | hk | hk
    · exact Or.inl hk
    · exact Or.inr (Or.inl (Roster.ids_update h.consumers id .waiting ▸ hk))
    · -- the slot is that of a consumer that is there
      rcases List.mem_append.1 hk with hold | hnew
      · exact Or.inr (Or.inr (Or.inl hold))
      · rw [List.mem_singleton.1 hnew]
        exact Or.inr (Or.inl (Roster.mem_ids_of_find? held))
    · exact Or.inr (Or.inr (Or.inr hk))

/-- A step brings no number into use but that of who comes. -/
theorem Uses.of_step {st : Step α} (uses : (h.step st).Uses k) :
    h.Uses k ∨ st.entrant = some k := by
  cases st with
  | submit id outcome =>
    rcases uses with hk | hk | hk | hk
    · rcases Roster.mem_ids_enter.1 hk with hold | rfl
      · exact Or.inl (Or.inl hold)
      · exact Or.inr rfl
    · exact Or.inl (Or.inr (Or.inl hk))
    · exact Or.inl (Or.inr (Or.inr (Or.inl hk)))
    · exact Or.inl (Or.inr (Or.inr (Or.inr hk)))
  | request id =>
    rcases uses with hk | hk | hk | hk
    · exact Or.inl (Or.inl hk)
    · rcases Roster.mem_ids_enter.1 hk with hold | rfl
      · exact Or.inl (Or.inr (Or.inl hold))
      · exact Or.inr rfl
    · exact Or.inl (Or.inr (Or.inr (Or.inl hk)))
    · exact Or.inl (Or.inr (Or.inr (Or.inr hk)))
  | pollProducer id => exact Or.inl (Uses.of_producerPolled (h.pollProducer_spec id) uses)
  | pollConsumer id => exact Or.inl (Uses.of_consumerPolled (h.pollConsumer_spec id) uses)
  | abandonProducer id => exact Or.inl (Uses.of_abandonProducer uses)
  | abandonConsumer id => exact Or.inl (Uses.of_abandonConsumer uses)
  | shut => exact Or.inl uses
  | dropSender =>
    have hall : (h.producers.ids.foldl abandonProducer h).Uses k → h.Uses k :=
      List.foldlRecOn (motive := fun h' : Handoff α => h'.Uses k → h.Uses k) _ _ (fun hk => hk)
        fun h' hold id _ hk => hold (Uses.of_abandonProducer hk)
    refine Or.inl (hall ?_)
    exact uses.mono (List.Subset.refl _) (List.Subset.refl _) (List.nil_subset _) rfl
  | dropReceiver =>
    have hall : (h.consumers.ids.foldl abandonConsumer h).Uses k → h.Uses k :=
      List.foldlRecOn (motive := fun h' : Handoff α => h'.Uses k → h.Uses k) _ _ (fun hk => hk)
        fun h' hold id _ hk => hold (Uses.of_abandonConsumer hk)
    exact Or.inl (hall uses)

/-- A producer can come under a number that is not in use. -/
theorem admits_submit (hnew : ¬h.Uses id) (halive : h.senderAlive = true) (outcome : α) :
    h.admits (.submit id outcome) = true := by
  have hproducers : id ∉ h.producers.ids := fun hmem => hnew (Or.inl hmem)
  simp [admits, halive, hproducers]

/-- A consumer can come under a number that is not in use. -/
theorem admits_request (hnew : ¬h.Uses id) (halive : h.receiverAlive = true) :
    h.admits (.request id) = true := by
  simp only [Uses, not_or, Decidable.not_not] at hnew
  obtain ⟨-, hconsumers, hslots, hanswers⟩ := hnew
  simp [admits, halive, hconsumers, hslots, hanswers]

end Uses

/-! ## What a script does -/

namespace Script

/-- The state after commands. -/
def performAll (s : Script α) (commands : List (Command α)) : Script α :=
  commands.foldl (fun s command => (s.perform command).2) s

/-- The handoff is that after some run, and the numbers in use are below the next one. -/
structure Reached (s : Script α) : Prop where
  run : ∃ steps, s.handoff = after steps
  below : ∀ k, s.handoff.Uses k → k < s.next

namespace Reached

variable {s : Script α}

theorem start : Reached ({} : Script α) where
  run := ⟨[], rfl⟩
  below := by
    intro k uses
    rcases uses with hk | hk | hk | hk
    · cases hk
    · cases hk
    · cases hk
    · exact absurd rfl hk

/-- The next number is new. -/
theorem new (reached : Reached s) : ¬s.handoff.Uses s.next :=
  fun uses => Nat.lt_irrefl _ (reached.below _ uses)

/-- A step that can happen. -/
theorem step (reached : Reached s) {st : Step α} {next : Nat}
    (hst : s.handoff.admits st = true) (hnext : s.next ≤ next)
    (hentrant : ∀ k, st.entrant = some k → k < next) : Reached ⟨s.handoff.step st, next⟩ where
  run := by
    obtain ⟨steps, hsteps⟩ := reached.run
    refine ⟨steps ++ [st], ?_⟩
    rw [after, run_append, ← after, ← hsteps, run_cons, advance, if_pos hst]
    rfl
  below := by
    intro k uses
    rcases Uses.of_step uses with hk | hk
    · exact Nat.lt_of_lt_of_le (reached.below k hk) hnext
    · exact hentrant k hk

/-- A step that brings nobody. -/
theorem idle (reached : Reached s) (st : Step α) (hst : s.handoff.admits st = true)
    (hnobody : st.entrant = none) : Reached { s with handoff := s.handoff.step st } := by
  refine reached.step hst (Nat.le_refl _) ?_
  intro k hk
  rw [hnobody] at hk
  cases hk

theorem poll (reached : Reached s) (id : Nat) : Reached (s.poll id).2 := by
  have hproducer : Reached { s with handoff := (s.handoff.pollProducer id).2 } :=
    reached.idle (.pollProducer id) rfl rfl
  have hconsumer : Reached { s with handoff := (s.handoff.pollConsumer id).2 } :=
    reached.idle (.pollConsumer id) rfl rfl
  unfold Script.poll
  split
  · rcases hpoll : s.handoff.pollProducer id with ⟨answer, handoff⟩
    rw [hpoll] at hproducer
    cases answer <;> exact hproducer
  split
  · rcases hpoll : s.handoff.pollConsumer id with ⟨answer, handoff⟩
    rw [hpoll] at hconsumer
    cases answer <;> exact hconsumer
  · exact reached

theorem pollEach (reached : Reached s) (ids : List Nat) : Reached (s.pollEach ids).2 := by
  induction ids generalizing s with
  | nil => exact reached
  | cons id ids ih =>
    have hrest := ih (reached.poll id)
    unfold Script.pollEach
    rcases hpoll : s.poll id with ⟨reply, s₁⟩
    rw [hpoll] at hrest
    cases reply <;> exact hrest

theorem pollRounds (reached : Reached s) (rounds : Nat) :
    Reached (Script.pollRounds rounds s).2 := by
  induction rounds generalizing s with
  | zero => exact reached
  | succ rounds ih =>
    have hround := reached.pollEach (List.range s.next)
    unfold Script.pollRounds
    simp only
    split
    · exact hround
    · exact ih hround

theorem perform (reached : Reached s) (command : Command α) : Reached (s.perform command).2 := by
  have hentrant : ∀ k, some s.next = some k → k < s.next + 1 := by
    rintro k ⟨rfl⟩
    exact Nat.lt_succ_self _
  cases command with
  | recv =>
    by_cases halive : s.handoff.receiverAlive = true
    · rw [Script.perform, if_pos halive]
      exact reached.step (admits_request reached.new halive) (Nat.le_succ _) hentrant
    · rw [Script.perform, if_neg halive]
      exact reached
  | send outcome =>
    by_cases halive : s.handoff.senderAlive = true
    · rw [Script.perform, if_pos halive]
      exact reached.step (admits_submit reached.new halive outcome) (Nat.le_succ _) hentrant
    · rw [Script.perform, if_neg halive]
      exact reached
  | poll id => exact reached.poll id
  | settle => exact reached.pollRounds (s.next + 1)
  | drop id =>
    have hproducer := reached.idle (.abandonProducer id) rfl rfl
    exact hproducer.idle (.abandonConsumer id) rfl rfl
  | shutdown => exact reached.idle .shut rfl rfl
  | dropSender => exact reached.idle .dropSender rfl rfl
  | dropReceiver => exact reached.idle .dropReceiver rfl rfl

/-- Whatever a script does, it comes to a state that a run comes to. -/
theorem performAll (commands : List (Command α)) :
    Reached (Script.performAll ({} : Script α) commands) :=
  List.foldlRecOn (motive := Reached) _ _ start
    fun _ reached command _ => reached.perform command

end Reached

/-- The books of a script are right. -/
theorem sound_performAll (commands : List (Command α)) :
    Sound (performAll ({} : Script α) commands).handoff := by
  obtain ⟨steps, hsteps⟩ := (Reached.performAll commands).run
  rw [hsteps]
  exact Sound.after steps

end Script

end Gatehouse.Handoff
