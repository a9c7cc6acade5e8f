import Gatehouse.Proofs.Handoff.Conservation
import Gatehouse.Proofs.Handoff.Order
import Gatehouse.Proofs.Handoff.Submissions

/-!
# Where outcomes come from, and where they end

An outcome that a producer holds was submitted under the producer's number, and one in a slot was
submitted by somebody (`Known`): the handoff makes none.  And it drops one only with the producer
that holds it or the consumer in whose slot it is (`spilled_producerPolled`,
`spilled_consumerPolled`).
-/

namespace Gatehouse.Handoff

variable {α : Type} {h h' : Handoff α} {id : Nat} {outcome : α}

/-! ## Where they come from -/

theorem submittedBy_abandonProducer (h : Handoff α) (id k : Nat) :
    (h.abandonProducer id).submittedBy k = h.submittedBy k := by
  unfold abandonProducer
  cases h.producers.find? id <;> rfl

/-- What has been submitted stays so. -/
theorem mem_submittedBy_step {k : Nat} (h : Handoff α) (st : Step α)
    (hmem : outcome ∈ h.submittedBy k) : outcome ∈ (h.step st).submittedBy k :=
  ((suffix_step h st).filterMap _).subset hmem

/-- Whatever is on hand was submitted. -/
structure Known (h : Handoff α) : Prop where
  /-- What a producer holds came under its number. -/
  held : ∀ id outcome, (id, outcome) ∈ h.producers → outcome ∈ h.submittedBy id
  /-- What is in a slot came from somebody. -/
  slotted : ∀ id outcome, (id, .filled outcome) ∈ h.consumers →
    ∃ k, outcome ∈ h.submittedBy k

namespace Known

theorem start : Known ({} : Handoff α) :=
  ⟨fun _ _ hmem => absurd hmem List.not_mem_nil, fun _ _ hmem => absurd hmem List.not_mem_nil⟩

/-- Nothing new is on hand but what goes from a producer into a slot. -/
theorem mono (known : Known h) (hproducers : ∀ entry ∈ h'.producers, entry ∈ h.producers)
    (hconsumers : ∀ id outcome, (id, .filled outcome) ∈ h'.consumers →
      (id, .filled outcome) ∈ h.consumers ∨ ∃ k, (k, outcome) ∈ h.producers)
    (hsubmitted : ∀ k, h'.submittedBy k = h.submittedBy k) : Known h' where
  held := by
    intro id outcome hmem
    rw [hsubmitted]
    exact known.held id outcome (hproducers _ hmem)
  slotted := by
    intro id outcome hmem
    rcases hconsumers id outcome hmem with hold | ⟨k, hheld⟩
    · obtain ⟨k, hk⟩ := known.slotted id outcome hold
      exact ⟨k, by rw [hsubmitted]; exact hk⟩
    · exact ⟨k, by rw [hsubmitted]; exact known.held k outcome hheld⟩

theorem submit (known : Known h) (id : Nat) (outcome : α) : Known (h.submit id outcome) := by
  have hstays : ∀ {k o}, o ∈ h.submittedBy k → o ∈ (h.submit id outcome).submittedBy k := by
    intro k o ho
    rw [submittedBy_submit]
    split
    · exact List.mem_cons_of_mem _ ho
    · exact ho
  constructor
  · intro k o hmem
    rcases Roster.mem_enter.1 hmem with hold | hnew
    · exact hstays (known.held k o hold)
    · cases hnew
      rw [submittedBy_submit, if_pos rfl]
      exact List.mem_cons_self
  · intro k o hmem
    obtain ⟨j, hj⟩ := known.slotted k o hmem
    exact ⟨j, hstays hj⟩

theorem abandonProducer (known : Known h) (id : Nat) : Known (h.abandonProducer id) := by
  refine known.mono ?_ ?_ (submittedBy_abandonProducer h id)
  · intro entry hmem
    unfold Handoff.abandonProducer at hmem
    cases held : h.producers.find? id with
    | none =>
      rw [held] at hmem
      exact hmem
    | some outcome =>
      rw [held] at hmem
      exact (Roster.mem_erase.1 hmem).1
  · intro k o hmem
    rw [consumers_abandonProducer] at hmem
    exact Or.inl hmem

theorem abandonConsumer (known : Known h) (id : Nat) : Known (h.abandonConsumer id) := by
  refine known.mono ?_ ?_ (submittedBy_abandonConsumer h id)
  · intro entry hmem
    rw [producers_abandonConsumer] at hmem
    exact hmem
  · intro k o hmem
    rw [abandonConsumer_consumers] at hmem
    exact Or.inl (Roster.mem_erase.1 hmem).1

theorem producerPolled (known : Known h) {answer : Poll Bool}
    (polled : h.ProducerPolled id answer h') : Known h' := by
  have hproducers : (h.joinLine id).producers = h.producers := by rw [joinLine_eq]
  have hconsumers : (h.joinLine id).consumers = h.consumers := by rw [joinLine_eq]
  have hfilled : ∀ k o, (k, .filled o) ∈ (h.joinLine id).consumers →
      (k, .filled o) ∈ h.consumers ∨ ∃ j, (j, o) ∈ h.producers :=
    fun k o hmem => Or.inl (hconsumers ▸ hmem)
  refine known.mono ?_ ?_ (submittedBy_producerPolled polled)
  · intro entry hmem
    cases polled with
    | unknown absent => exact hmem
    | shut outcome held fired => exact (Roster.mem_erase.1 hmem).1
    | queued outcome held going behind => exact hproducers ▸ hmem
    | idle outcome held going first dead alive => exact hproducers ▸ hmem
    | closed outcome held going first dead gone =>
      exact hproducers ▸ (Roster.mem_erase.1 hmem).1
    | delivers outcome held going first passed slot rest slots_eq dead live =>
      exact hproducers ▸ (Roster.mem_erase.1 hmem).1
  · intro k o hmem
    cases polled with
    | unknown absent => exact Or.inl hmem
    | shut outcome held fired => exact Or.inl hmem
    | queued outcome held going behind => exact hfilled k o hmem
    | idle outcome held going first dead alive => exact hfilled k o hmem
    | closed outcome held going first dead gone => exact hfilled k o hmem
    | delivers outcome held going first passed slot rest slots_eq dead live =>
      rcases Roster.mem_of_mem_update hmem with hold | hnew
      · exact Or.inl hold
      · cases hnew
        exact Or.inr ⟨id, Roster.mem_of_find? held⟩

theorem consumerPolled (known : Known h) {answer : Poll (Option α)}
    (polled : h.ConsumerPolled id answer h') : Known h' := by
  have hclosed : ∀ {consumer}, h.consumers.find? id = some consumer →
      Known (h.closeConsumer id consumer) := by
    intro consumer held
    rw [closeConsumer_eq held]
    exact (known.abandonConsumer id).mono (fun _ hmem => hmem) (fun _ _ hmem => Or.inl hmem)
      fun _ => rfl
  cases polled with
  | unknown absent => exact known
  | shut consumer held fired => exact hclosed held
  | registers held going alive =>
    refine known.mono (fun _ hmem => hmem) (fun k o hmem => ?_) fun _ => rfl
    rcases Roster.mem_of_mem_update hmem with hold | hnew
    · exact Or.inl hold
    · cases hnew
  | waits held going alive => exact known
  | closed consumer held going gone empty => exact hclosed held
  | returns outcome held going =>
    exact known.mono (fun _ hmem => hmem) (fun k o hmem => Or.inl (Roster.mem_erase.1 hmem).1)
      fun _ => rfl

/-- No step brings an outcome but a submission. -/
theorem step (known : Known h) (st : Step α) : Known (h.step st) := by
  cases st with
  | submit id outcome => exact known.submit id outcome
  | request id =>
    refine known.mono (fun _ hmem => hmem) (fun k o hmem => ?_) fun _ => rfl
    rcases Roster.mem_enter.1 hmem with hold | hnew
    · exact Or.inl hold
    · cases hnew
  | pollProducer id => exact known.producerPolled (h.pollProducer_spec id)
  | pollConsumer id => exact known.consumerPolled (h.pollConsumer_spec id)
  | abandonProducer id => exact known.abandonProducer id
  | abandonConsumer id => exact known.abandonConsumer id
  | shut => exact known.mono (fun _ hmem => hmem) (fun _ _ hmem => Or.inl hmem) fun _ => rfl
  | dropSender =>
    have hall : Known (h.producers.ids.foldl Handoff.abandonProducer h) :=
      List.foldlRecOn _ _ known fun _ hold id _ => hold.abandonProducer id
    exact hall.mono (fun _ hmem => hmem) (fun _ _ hmem => Or.inl hmem) fun _ => rfl
  | dropReceiver =>
    have hall : Known (h.consumers.ids.foldl Handoff.abandonConsumer h) :=
      List.foldlRecOn _ _ known fun _ hold id _ => hold.abandonConsumer id
    exact hall.mono (fun _ hmem => hmem) (fun _ _ hmem => Or.inl hmem) fun _ => rfl

end Known

/-! ## Where they end -/

/-- A poll of a producer drops nothing but what the producer holds, and tells it so. -/
theorem spilled_producerPolled {answer : Poll Bool} (polled : h.ProducerPolled id answer h')
    (spilled : .spilled outcome ∈ h'.history) :
    .spilled outcome ∈ h.history ∨
      answer = .ready false ∧ h.producers.find? id = some outcome := by
  have hjoin : (h.joinLine id).history = h.history := by rw [joinLine_eq]
  have hfail : ∀ {held : α} {past : List (Event α)},
      .spilled outcome ∈ Event.told id false :: .spilled held :: past →
      .spilled outcome ∈ past ∨ held = outcome := by
    intro held past hmem
    rcases List.mem_cons.1 hmem with h | hmem
    · cases h
    · rcases List.mem_cons.1 hmem with h | hmem
      · cases h
        exact Or.inr rfl
      · exact Or.inl hmem
  cases polled with
  | unknown absent => exact Or.inl spilled
  | shut own held fired =>
    rcases hfail spilled with hold | rfl
    · exact Or.inl hold
    · exact Or.inr ⟨rfl, held⟩
  | queued own held going behind => exact Or.inl (hjoin ▸ spilled)
  | idle own held going first dead alive => exact Or.inl (hjoin ▸ spilled)
  | closed own held going first dead gone =>
    rcases hfail spilled with hold | rfl
    · exact Or.inl (hjoin ▸ hold)
    · exact Or.inr ⟨rfl, held⟩
  | delivers own held going first passed slot rest slots_eq dead live =>
    rcases List.mem_cons.1 spilled with h | hold
    · cases h
    · exact Or.inl (hjoin ▸ hold)

/-- Giving up a consumer drops nothing but what is in its slot. -/
theorem spilled_abandonConsumer (spilled : .spilled outcome ∈ (h.abandonConsumer id).history) :
    .spilled outcome ∈ h.history ∨ h.consumers.find? id = some (.filled outcome) := by
  unfold abandonConsumer at spilled
  cases held : h.consumers.find? id with
  | none =>
    rw [held] at spilled
    exact Or.inl spilled
  | some consumer =>
    rw [held] at spilled
    cases consumer with
    | fresh => exact Or.inl spilled
    | waiting => exact Or.inl spilled
    | filled own =>
      rcases List.mem_cons.1 spilled with h | hold
      · cases h
        exact Or.inr rfl
      · exact Or.inl hold

/-- A poll of a consumer drops nothing but what is in its slot, and tells it that the channel is
    closed. -/
theorem spilled_consumerPolled {answer : Poll (Option α)} (polled : h.ConsumerPolled id answer h')
    (spilled : .spilled outcome ∈ h'.history) :
    .spilled outcome ∈ h.history ∨
      answer = .ready none ∧ h.consumers.find? id = some (.filled outcome) := by
  have hclosed : ∀ {consumer}, h.consumers.find? id = some consumer →
      .spilled outcome ∈ (h.closeConsumer id consumer).history →
      .spilled outcome ∈ h.history ∨ h.consumers.find? id = some (.filled outcome) := by
    intro consumer held hmem
    rw [closeConsumer_eq held] at hmem
    rcases List.mem_cons.1 hmem with h | hmem
    · cases h
    · exact spilled_abandonConsumer hmem
  cases polled with
  | unknown absent => exact Or.inl spilled
  | shut consumer held fired => exact (hclosed held spilled).imp_right fun h => ⟨rfl, h⟩
  | registers held going alive => exact Or.inl spilled
  | waits held going alive => exact Or.inl spilled
  | closed consumer held going gone empty => exact (hclosed held spilled).imp_right fun h => ⟨rfl, h⟩
  | returns own held going =>
    rcases List.mem_cons.1 spilled with h | hold
    · cases h
    · exact Or.inl hold

end Gatehouse.Handoff
