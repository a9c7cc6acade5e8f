import Gatehouse.Proofs.Handoff.Books
import Mathlib.Data.Multiset.OrderedMonoid

/-!
# Delivered outcomes

A producer is told that its outcome was delivered when it has filled a slot; the consumer takes the
outcome out at its next poll.  As long as the handoff is open, an outcome that was delivered is
therefore returned or in a slot, unless the consumer was given up in between: then it is gone, while
its producer believes it delivered (`delivered_kept_iff`).
-/

namespace Gatehouse.Handoff

variable {α : Type}

/-! ## Open handoffs -/

/-- The shutdown has not been fired, and both halves are there. -/
structure Open (h : Handoff α) : Prop where
  going : h.fired = false
  sender : h.senderAlive = true
  receiver : h.receiverAlive = true

section Open

variable {h h' : Handoff α} {id : Nat}

/-- The flags of a handoff. -/
def flags (h : Handoff α) : Bool × Bool × Bool := (h.fired, h.senderAlive, h.receiverAlive)

theorem open_iff_flags : Open h ↔ h.flags = (false, true, true) := by
  simp only [flags, Prod.mk.injEq]
  exact ⟨fun o => ⟨o.going, o.sender, o.receiver⟩, fun e => ⟨e.1, e.2.1, e.2.2⟩⟩

theorem flags_producerPolled {answer : Poll Bool} (polled : h.ProducerPolled id answer h') :
    h'.flags = h.flags := by
  have hjoin : (h.joinLine id).flags = h.flags := by rw [joinLine_eq]; rfl
  cases polled with
  | unknown absent => rfl
  | shut outcome held fired => rfl
  | queued outcome held going behind => exact hjoin
  | idle outcome held going first dead alive => exact hjoin
  | closed outcome held going first dead gone => exact hjoin
  | delivers outcome held going first passed slot rest slots_eq dead live => exact hjoin

theorem flags_abandonProducer (h : Handoff α) (id : Nat) :
    (h.abandonProducer id).flags = h.flags := by
  unfold abandonProducer
  cases h.producers.find? id <;> rfl

theorem flags_abandonConsumer (h : Handoff α) (id : Nat) :
    (h.abandonConsumer id).flags = h.flags := by
  unfold abandonConsumer
  cases h.consumers.find? id with
  | none => rfl
  | some consumer => cases consumer <;> rfl

theorem flags_consumerPolled {answer : Poll (Option α)} (polled : h.ConsumerPolled id answer h') :
    h'.flags = h.flags := by
  cases polled with
  | unknown absent => rfl
  | shut consumer held fired => cases consumer <;> rfl
  | registers held going alive => rfl
  | waits held going alive => rfl
  | closed consumer held going gone empty => cases consumer <;> rfl
  | returns outcome held going => rfl

/-- A handoff that is open has always been open. -/
theorem Open.of_step {st : Step α} (isOpen : Open (h.step st)) : Open h := by
  rw [open_iff_flags] at isOpen ⊢
  cases st with
  | submit id outcome => exact isOpen
  | request id => exact isOpen
  | pollProducer id => exact flags_producerPolled (h.pollProducer_spec id) ▸ isOpen
  | pollConsumer id => exact flags_consumerPolled (h.pollConsumer_spec id) ▸ isOpen
  | abandonProducer id => exact flags_abandonProducer h id ▸ isOpen
  | abandonConsumer id => exact flags_abandonConsumer h id ▸ isOpen
  | shut => cases (Prod.mk.inj isOpen).1
  | dropSender => cases (Prod.mk.inj (Prod.mk.inj isOpen).2).1
  | dropReceiver => cases (Prod.mk.inj (Prod.mk.inj isOpen).2).2

theorem Open.of_advance {st : Step α} (isOpen : Open (h.advance st)) : Open h := by
  unfold advance at isOpen
  split at isOpen
  · exact isOpen.of_step
  · exact isOpen

theorem Open.of_run {steps : List (Step α)} (isOpen : Open (h.run steps)) : Open h := by
  induction steps generalizing h with
  | nil => exact isOpen
  | cons st steps ih => exact (ih isOpen).of_advance

end Open

/-! ## Deliveries along a run -/

/-- The outcome that is confirmed to a producer who holds it, by this answer. -/
def confirmed : Option α → Poll Bool → Multiset α
  | some outcome, .ready true => {outcome}
  | _, _ => 0

@[simp] theorem confirmed_none (answer : Poll Bool) : confirmed (none : Option α) answer = 0 := by
  cases answer <;> rfl

@[simp] theorem confirmed_pending (held : Option α) : confirmed held .pending = 0 := by
  cases held <;> rfl

@[simp] theorem confirmed_false (held : Option α) : confirmed held (.ready false) = 0 := by
  cases held <;> rfl

/-- The outcome that a step tells its producer it has delivered. -/
def delivery (h : Handoff α) : Step α → Multiset α
  | .pollProducer id => confirmed (h.producers.find? id) (h.pollProducer id).1
  | _ => 0

/-- The outcome in the slot of a consumer that a step gives up. -/
def swallow (h : Handoff α) : Step α → Multiset α
  | .abandonConsumer id =>
    match h.consumers.find? id with
    | some consumer => consumer.contents
    | none => 0
  | _ => 0

/-- What all steps of a run come to. -/
def along (f : Handoff α → Step α → Multiset α) (h : Handoff α) : List (Step α) → Multiset α
  | [] => 0
  | st :: steps => f h st + along f (h.advance st) steps

section Step

variable {h h' : Handoff α} {id : Nat}

/-- A poll of a producer moves into a slot what it says. -/
theorem delivery_producerPolled (sound : Sound h) {answer : Poll Bool}
    (polled : h.ProducerPolled id answer h') :
    confirmed (h.producers.find? id) answer + (h.returned + h.slotted) =
      h'.returned + h'.slotted := by
  have hjoin : (h.joinLine id).returned + (h.joinLine id).slotted = h.returned + h.slotted := by
    rw [joinLine_eq]
    rfl
  have hfail : ∀ (h₁ : Handoff α) outcome, (h₁.failProducer id outcome).returned +
      (h₁.failProducer id outcome).slotted = h₁.returned + h₁.slotted := by
    intro h₁ outcome
    show 0 + (0 + h₁.returned) + h₁.slotted = _
    rw [zero_add, zero_add]
  cases polled with
  | unknown absent => rw [absent, confirmed_none, zero_add]
  | shut outcome held fired => rw [confirmed_false, hfail, zero_add]
  | queued outcome held going behind => rw [confirmed_pending, hjoin, zero_add]
  | idle outcome held going first dead alive =>
    rw [confirmed_pending, zero_add]
    exact hjoin.symm
  | closed outcome held going first dead gone =>
    rw [confirmed_false, hfail, zero_add]
    exact hjoin.symm
  | delivers outcome held going first passed slot rest slots_eq dead live =>
    have hslotted := slotted_update sound.consumers_nodup live rfl (.filled outcome)
    have hpast : (h.joinLine id).returned = h.returned := by
      rw [joinLine_eq]
      rfl
    rw [held]
    show {outcome} + (h.returned + h.slotted) = 0 + (h.joinLine id).returned
      + (h.consumers.update slot (.filled outcome)).total Consumer.contents
    rw [hslotted, hpast]
    rw [Consumer.contents_filled]
    abel

/-- A poll of a consumer moves what it gives out of a slot, as long as the handoff is open. -/
theorem consumerPolled_of_open (sound : Sound h) (isOpen : Open h) {answer : Poll (Option α)}
    (polled : h.ConsumerPolled id answer h') :
    h.returned + h.slotted = h'.returned + h'.slotted := by
  cases polled with
  | unknown absent => rfl
  | shut consumer held fired => cases isOpen.going.symm.trans fired
  | registers held going alive =>
    have hslotted := slotted_update sound.consumers_nodup held rfl .waiting
    rw [Consumer.contents_waiting, zero_add] at hslotted
    show h.returned + h.slotted =
      h.returned + (h.consumers.update id .waiting).total Consumer.contents
    rw [hslotted]
  | waits held going alive => rfl
  | closed consumer held going gone empty => cases isOpen.sender.symm.trans gone
  | returns outcome held going =>
    have hslotted := slotted_removeConsumer sound.consumers_nodup held
    show h.returned + h.slotted = {outcome} + h.returned + (h.removeConsumer id).slotted
    rw [hslotted]
    rw [Consumer.contents_filled]
    abel

/-- Giving up a consumer swallows what is in its slot. -/
theorem swallow_abandonConsumer (sound : Sound h) (id : Nat) :
    h.returned + h.slotted = h.swallow (.abandonConsumer id) +
      ((h.abandonConsumer id).returned + (h.abandonConsumer id).slotted) := by
  have hslotted : (h.abandonConsumer id).slotted = (h.removeConsumer id).slotted :=
    congrArg (fun r => Roster.total r Consumer.contents) (abandonConsumer_consumers h id)
  have hreturned : (h.abandonConsumer id).returned = h.returned := by
    unfold abandonConsumer
    cases h.consumers.find? id with
    | none => rfl
    | some consumer => cases consumer <;> first | rfl | exact zero_add _
  rw [hslotted, hreturned]
  simp only [swallow]
  cases held : h.consumers.find? id with
  | none =>
    have hsame : (h.removeConsumer id).slotted = h.slotted :=
      congrArg (fun r => Roster.total r Consumer.contents)
        (Roster.erase_eq_self (Roster.find?_eq_none_iff.1 held))
    rw [hsame, zero_add]
  | some consumer =>
    rw [slotted_removeConsumer sound.consumers_nodup held]
    abel

/-- In an open handoff a step moves what it delivers into a slot, and the slots and those who have
    returned lose no more than what it swallows. -/
theorem delivery_step (sound : Sound h) {st : Step α} (isOpen : Open (h.step st)) :
    h.delivery st + (h.returned + h.slotted) =
      h.swallow st + ((h.step st).returned + (h.step st).slotted) := by
  have wasOpen : Open h := isOpen.of_step
  cases st with
  | submit id outcome =>
    show 0 + (h.returned + h.slotted) = 0 + (0 + h.returned + h.slotted)
    rw [zero_add h.returned]
  | request id =>
    have hslotted : (h.request id).slotted = 0 + h.slotted :=
      Roster.total_enter h.consumers id .fresh _
    show 0 + (h.returned + h.slotted) = 0 + (h.returned + (h.request id).slotted)
    rw [hslotted, zero_add h.slotted]
  | pollProducer id =>
    show _ = 0 + _
    rw [zero_add]
    exact delivery_producerPolled sound (h.pollProducer_spec id)
  | pollConsumer id =>
    show 0 + _ = 0 + _
    rw [zero_add, zero_add]
    exact consumerPolled_of_open sound wasOpen (h.pollConsumer_spec id)
  | abandonProducer id =>
    have hsame : (h.abandonProducer id).returned + (h.abandonProducer id).slotted =
        h.returned + h.slotted := by
      unfold abandonProducer
      cases h.producers.find? id with
      | none => rfl
      | some outcome =>
        show 0 + h.returned + h.slotted = _
        rw [zero_add]
    show 0 + _ = 0 + ((h.abandonProducer id).returned + (h.abandonProducer id).slotted)
    rw [hsame]
  | abandonConsumer id =>
    show 0 + _ = _
    rw [zero_add]
    exact swallow_abandonConsumer sound id
  | shut => rfl
  | dropSender => cases isOpen.sender
  | dropReceiver => cases isOpen.receiver

theorem delivery_advance (sound : Sound h) {st : Step α} (isOpen : Open (h.advance st)) :
    h.delivery st + (h.returned + h.slotted) =
      h.swallow st + ((h.advance st).returned + (h.advance st).slotted) := by
  unfold advance at isOpen ⊢
  split
  · rename_i hst
    rw [if_pos hst] at isOpen
    exact delivery_step sound isOpen
  · -- what cannot happen is that somebody new comes
    rename_i hst
    cases st with
    | submit id outcome => rfl
    | request id => rfl
    | pollProducer id => exact absurd rfl hst
    | pollConsumer id => exact absurd rfl hst
    | abandonProducer id => exact absurd rfl hst
    | abandonConsumer id => exact absurd rfl hst
    | shut => exact absurd rfl hst
    | dropSender => exact absurd rfl hst
    | dropReceiver => exact absurd rfl hst

end Step

/-- What was delivered along a run is returned, in a slot or swallowed. -/
theorem delivery_run {h : Handoff α} (sound : Sound h) {steps : List (Step α)}
    (isOpen : Open (h.run steps)) :
    along delivery h steps + (h.returned + h.slotted) =
      along swallow h steps + ((h.run steps).returned + (h.run steps).slotted) := by
  induction steps generalizing h with
  | nil => rfl
  | cons st steps ih =>
    rw [run_cons] at isOpen ⊢
    have hstep := delivery_advance sound isOpen.of_run
    have hrest := ih (sound.advance st) isOpen
    calc along delivery h (st :: steps) + (h.returned + h.slotted)
        = along delivery (h.advance st) steps + (h.delivery st + (h.returned + h.slotted)) := by
          rw [along]
          abel
      _ = h.swallow st + (along delivery (h.advance st) steps +
            ((h.advance st).returned + (h.advance st).slotted)) := by
          rw [hstep]
          abel
      _ = along swallow h (st :: steps) + _ := by
          rw [hrest, along]
          abel

/-- Nothing is swallowed along a run exactly if no consumer is given up while its slot is filled. -/
theorem along_swallow_eq_zero_iff {h : Handoff α} {steps : List (Step α)} :
    along swallow h steps = 0 ↔
      ∀ done id later outcome, steps = done ++ .abandonConsumer id :: later →
        (h.run done).consumers.find? id ≠ some (.filled outcome) := by
  induction steps generalizing h with
  | nil =>
    refine ⟨fun _ done id later outcome heq => ?_, fun _ => rfl⟩
    cases done <;> cases heq
  | cons st steps ih =>
    rw [along, add_eq_zero, ih]
    constructor
    · rintro ⟨hnow, hlater⟩ done id later outcome heq
      cases done with
      | nil =>
        cases heq
        intro hfilled
        have hfilled : h.consumers.find? id = some (.filled outcome) := hfilled
        rw [swallow, hfilled] at hnow
        exact Multiset.singleton_ne_zero outcome hnow
      | cons first done =>
        obtain ⟨rfl, hrest⟩ := List.cons.inj heq
        exact hlater done id later outcome hrest
    · intro hnever
      refine ⟨?_, fun done id later outcome heq => ?_⟩
      · cases st with
        | abandonConsumer id =>
          have hnow := fun outcome => hnever [] id steps outcome rfl
          rw [swallow]
          cases held : h.consumers.find? id with
          | none => rfl
          | some consumer =>
            cases consumer with
            | fresh => rfl
            | waiting => rfl
            | filled outcome => exact absurd held (hnow outcome)
        | _ => rfl
      · exact hnever (st :: done) id later outcome (congrArg (st :: ·) heq)

/-! ## What becomes of delivered outcomes -/

/-- **Delivered outcomes.**  As long as the shutdown has not been fired and both halves are there,
    the outcomes that producers were told they delivered are those that have been returned or are in
    the slot of a consumer, which gets its outcome at its next poll, exactly if no consumer was
    given up while its slot was filled.  The outcome of such a consumer is in no place from which
    another could take it. -/
theorem delivered_kept_iff (steps : List (Step α)) (isOpen : Open (after steps)) :
    (along delivery {} steps = (after steps).returned + (after steps).slotted ↔
      ∀ done id later outcome, steps = done ++ .abandonConsumer id :: later →
        (after done).consumers.find? id ≠ some (.filled outcome)) ∧
      ∀ id outcome, (after steps).consumers.find? id = some (.filled outcome) →
        ((after steps).pollConsumer id).1 = .ready (some outcome) := by
  constructor
  · have hrun := delivery_run Sound.start isOpen
    have hstart : ({} : Handoff α).returned + ({} : Handoff α).slotted = 0 := rfl
    rw [hstart, add_zero] at hrun
    rw [hrun]
    show along swallow {} steps + ((after steps).returned + (after steps).slotted) = _ ↔ _
    rw [add_eq_right, along_swallow_eq_zero_iff]
    rfl
  · intro id outcome held
    unfold pollConsumer
    rw [held]
    simp only [isOpen.going, Bool.false_eq_true, if_false]

/-- An outcome that was delivered to a consumer who is still there, and who gets it next. -/
theorem delivered_kept_sample :
    let steps : List (Step Nat) :=
      [.request 0, .pollConsumer 0, .submit 0 7, .pollProducer 0]
    Open (after steps) ∧
      along delivery {} steps = (after steps).returned + (after steps).slotted ∧
      ((after steps).pollConsumer 0).1 = .ready (some 7) := by
  intro steps
  have isOpen : Open (after steps) := ⟨rfl, rfl, rfl⟩
  refine ⟨isOpen, (delivered_kept_iff steps isOpen).1.2 ?_,
    (delivered_kept_iff steps isOpen).2 0 7 rfl⟩
  -- nobody is given up here
  intro done id later outcome heq
  have hmem : Step.abandonConsumer id ∈ steps := by
    rw [heq]
    exact List.mem_append_right done List.mem_cons_self
  simp [steps] at hmem

/-- The consumer is given up between its producer's poll and its own: the outcome was delivered, but
    nobody has it or can get it. -/
theorem delivered_outcome_swallowed :
    let steps : List (Step Nat) :=
      [.request 0, .pollConsumer 0, .submit 0 7, .pollProducer 0, .abandonConsumer 0]
    Open (after steps) ∧ along delivery {} steps = {7} ∧
      (after steps).returned + (after steps).slotted = 0 ∧ (after steps).dropped = {7} :=
  ⟨⟨rfl, rfl, rfl⟩, by decide, by decide, by decide⟩

end Gatehouse.Handoff
