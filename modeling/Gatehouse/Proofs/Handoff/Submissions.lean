import Gatehouse.Proofs.Handoff.Delivery

/-!
# What was submitted to the handoff

The outcomes that came under a producer's number.  Polls make none, whether of producers or of
consumers, and they fire no shutdown: only `submit` and `shut` do.
-/

namespace Gatehouse.Handoff

variable {α : Type} {h h' : Handoff α} {id : Nat}

/-- The outcomes that came under this number, the latest first. -/
def submittedBy (h : Handoff α) (id : Nat) : List α :=
  h.history.filterMap fun
    | .submitted producer outcome => if producer = id then some outcome else none
    | _ => none

theorem submittedBy_submit (h : Handoff α) (id k : Nat) (outcome : α) :
    (h.submit id outcome).submittedBy k =
      if id = k then outcome :: h.submittedBy k else h.submittedBy k := by
  unfold submittedBy submit note
  rw [List.filterMap_cons]
  by_cases hk : id = k
  · simp only [if_pos hk]
  · simp only [if_neg hk]

theorem submittedBy_producerPolled {answer : Poll Bool} (polled : h.ProducerPolled id answer h')
    (k : Nat) : h'.submittedBy k = h.submittedBy k := by
  have hjoin : (h.joinLine id).submittedBy k = h.submittedBy k := by
    rw [joinLine_eq]
    rfl
  cases polled with
  | unknown absent => rfl
  | shut outcome held fired => rfl
  | queued outcome held going behind => exact hjoin
  | idle outcome held going first dead alive => exact hjoin
  | closed outcome held going first dead gone => exact hjoin
  | delivers outcome held going first passed slot rest slots_eq dead live => exact hjoin

theorem submittedBy_consumerPolled {answer : Poll (Option α)}
    (polled : h.ConsumerPolled id answer h') (k : Nat) : h'.submittedBy k = h.submittedBy k := by
  cases polled with
  | unknown absent => rfl
  | shut consumer held fired => cases consumer <;> rfl
  | registers held going alive => rfl
  | waits held going alive => rfl
  | closed consumer held going gone empty => cases consumer <;> rfl
  | returns outcome held going => rfl

theorem submittedBy_abandonConsumer (h : Handoff α) (id k : Nat) :
    (h.abandonConsumer id).submittedBy k = h.submittedBy k := by
  unfold abandonConsumer
  cases h.consumers.find? id with
  | none => rfl
  | some consumer => cases consumer <;> rfl

/-- Nothing new comes, and the shutdown is as it was. -/
structure Quiet (h h' : Handoff α) : Prop where
  submitted : ∀ k, h'.submittedBy k = h.submittedBy k
  fired : h'.fired = h.fired

theorem Quiet.refl (h : Handoff α) : Quiet h h := ⟨fun _ => rfl, rfl⟩

theorem quiet_pollProducer (h : Handoff α) (id : Nat) : Quiet h (h.pollProducer id).2 :=
  ⟨submittedBy_producerPolled (h.pollProducer_spec id),
    congrArg (·.1) (flags_producerPolled (h.pollProducer_spec id))⟩

theorem quiet_pollConsumer (h : Handoff α) (id : Nat) : Quiet h (h.pollConsumer id).2 :=
  ⟨submittedBy_consumerPolled (h.pollConsumer_spec id),
    congrArg (·.1) (flags_consumerPolled (h.pollConsumer_spec id))⟩

theorem quiet_abandonConsumer (h : Handoff α) (id : Nat) : Quiet h (h.abandonConsumer id) :=
  ⟨submittedBy_abandonConsumer h id, congrArg (·.1) (flags_abandonConsumer h id)⟩

end Gatehouse.Handoff
