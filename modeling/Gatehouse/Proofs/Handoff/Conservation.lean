import Gatehouse.Proofs.Handoff.Books
import Mathlib.Algebra.Order.Group.Multiset

/-!
# No outcome is lost track of

The books are right along every run (`Sound.after`).  Here is what that means for those who call:
what has happened stays so (`suffix_run`), what a poll answers is what became of the outcome
(`delivered_iff`, `undelivered`, `answers_consumerPolled`), and all of it at once
(`outcome_conservation`).
-/

namespace Gatehouse.Handoff

variable {α : Type}

/-! ## The past stays -/

section Past

variable {h h' : Handoff α} {id : Nat}

theorem suffix_note (h : Handoff α) (e : Event α) : h.history <:+ (h.note e).history :=
  List.suffix_cons e h.history

theorem suffix_failProducer (h : Handoff α) (id : Nat) (outcome : α) :
    h.history <:+ (h.failProducer id outcome).history :=
  (suffix_note (h.removeProducer id) _).trans (suffix_note _ _)

theorem suffix_abandonProducer (h : Handoff α) (id : Nat) :
    h.history <:+ (h.abandonProducer id).history := by
  unfold abandonProducer
  cases h.producers.find? id with
  | none => exact List.suffix_rfl
  | some outcome => exact suffix_note (h.removeProducer id) _

theorem suffix_abandonConsumer (h : Handoff α) (id : Nat) :
    h.history <:+ (h.abandonConsumer id).history := by
  unfold abandonConsumer
  cases h.consumers.find? id with
  | none => exact List.suffix_rfl
  | some consumer =>
    cases consumer with
    | fresh => exact List.suffix_rfl
    | waiting => exact List.suffix_rfl
    | filled outcome => exact suffix_note (h.removeConsumer id) _

theorem suffix_closeConsumer {consumer : Consumer α}
    (held : h.consumers.find? id = some consumer) :
    h.history <:+ (h.closeConsumer id consumer).history := by
  rw [closeConsumer_eq held]
  exact (suffix_abandonConsumer h id).trans (suffix_note _ _)

theorem suffix_producerPolled {answer : Poll Bool} (polled : h.ProducerPolled id answer h') :
    h.history <:+ h'.history := by
  have hjoin : (h.joinLine id).history = h.history := by rw [joinLine_eq]
  cases polled with
  | unknown absent => exact List.suffix_rfl
  | shut outcome held fired => exact suffix_failProducer h id outcome
  | queued outcome held going behind => exact hjoin ▸ List.suffix_rfl
  | idle outcome held going first dead alive => exact hjoin ▸ List.suffix_rfl
  | closed outcome held going first dead gone =>
    exact hjoin ▸ suffix_failProducer { h.joinLine id with slots := [] } id outcome
  | delivers outcome held going first passed slot rest slots_eq dead live =>
    exact hjoin ▸ suffix_note (h.joinLine id) _

theorem suffix_consumerPolled {answer : Poll (Option α)} (polled : h.ConsumerPolled id answer h') :
    h.history <:+ h'.history := by
  cases polled with
  | unknown absent => exact List.suffix_rfl
  | shut consumer held fired => exact suffix_closeConsumer held
  | registers held going alive => exact List.suffix_rfl
  | waits held going alive => exact List.suffix_rfl
  | closed consumer held going gone empty => exact suffix_closeConsumer held
  | returns outcome held going => exact suffix_note (h.removeConsumer id) _

/-- No step changes what has happened. -/
theorem suffix_step (h : Handoff α) (st : Step α) : h.history <:+ (h.step st).history := by
  cases st with
  | submit id outcome => exact suffix_note { h with producers := h.producers.enter id outcome } _
  | request id => exact List.suffix_rfl
  | pollProducer id => exact suffix_producerPolled (h.pollProducer_spec id)
  | pollConsumer id => exact suffix_consumerPolled (h.pollConsumer_spec id)
  | abandonProducer id => exact suffix_abandonProducer h id
  | abandonConsumer id => exact suffix_abandonConsumer h id
  | shut => exact List.suffix_rfl
  | dropSender =>
    have hall : h.history <:+ (h.producers.ids.foldl abandonProducer h).history :=
      List.foldlRecOn (motive := fun h' => h.history <:+ h'.history) _ _ List.suffix_rfl
        fun h' hold id _ => hold.trans (suffix_abandonProducer h' id)
    exact hall
  | dropReceiver =>
    have hall : h.history <:+ (h.consumers.ids.foldl abandonConsumer h).history :=
      List.foldlRecOn (motive := fun h' => h.history <:+ h'.history) _ _ List.suffix_rfl
        fun h' hold id _ => hold.trans (suffix_abandonConsumer h' id)
    exact hall

theorem suffix_run (h : Handoff α) (steps : List (Step α)) : h.history <:+ (h.run steps).history :=
  run_induction (P := fun h' => h.history <:+ h'.history)
    (fun h' st hold _ => hold.trans (suffix_step h' st)) List.suffix_rfl steps

theorem returned_le_of_suffix (hpast : h.history <:+ h'.history) : h.returned ≤ h'.returned := by
  obtain ⟨since, hsince⟩ := hpast
  rw [returned, returned, ← hsince, List.map_append, List.sum_append]
  exact Multiset.le_add_left _ _

theorem dropped_le_of_suffix (hpast : h.history <:+ h'.history) : h.dropped ≤ h'.dropped := by
  obtain ⟨since, hsince⟩ := hpast
  rw [dropped, dropped, ← hsince, List.map_append, List.sum_append]
  exact Multiset.le_add_left _ _

end Past

/-! ## What calls answer -/

section Calls

variable {h h' : Handoff α} {id : Nat}

/-- A producer is told that its outcome was delivered exactly if the poll moved the outcome into the
    slot of a consumer that is there. -/
theorem delivered_iff {answer : Poll Bool} (polled : h.ProducerPolled id answer h') :
    answer = .ready true ↔
      ∃ outcome slot, h.producers.find? id = some outcome ∧
        h.consumers.find? slot = some .waiting ∧ h'.producers.find? id = none ∧
        h'.consumers.find? slot = some (.filled outcome) := by
  have hjoin : (h.joinLine id).consumers = h.consumers := by rw [joinLine_eq]
  constructor
  · rintro rfl
    cases polled with
    | delivers outcome held going first passed slot rest slots_eq dead live =>
      refine ⟨outcome, slot, held, live, ?_, ?_⟩
      · show ((h.joinLine id).producers.erase id).find? id = none
        rw [Roster.find?_erase, if_pos rfl]
      · show (h.consumers.update slot (.filled outcome)).find? slot = some (.filled outcome)
        rw [Roster.find?_update, if_pos rfl, live, Option.map_some]
  · rintro ⟨outcome, slot, -, hwaiting, -, hfilled⟩
    -- any other way leaves the consumers as they are
    have hsame : h'.consumers ≠ h.consumers := by
      intro heq
      rw [heq, hwaiting] at hfilled
      cases hfilled
    cases polled with
    | unknown absent => exact absurd rfl hsame
    | shut outcome held fired => exact absurd rfl hsame
    | queued outcome held going behind => exact absurd hjoin hsame
    | idle outcome held going first dead alive => exact absurd hjoin hsame
    | closed outcome held going first dead gone => exact absurd hjoin hsame
    | delivers outcome held going first passed slot rest slots_eq dead live => rfl

/-- A producer is told that its outcome was not delivered only if there will never be a consumer for
    it, and the poll drops the outcome. -/
theorem undelivered (polled : h.ProducerPolled id (.ready false) h') :
    (h.fired = true ∨ h.receiverAlive = false) ∧
      ∃ outcome, h.producers.find? id = some outcome ∧ h'.producers.find? id = none ∧
        h'.dropped = {outcome} + h.dropped := by
  have hjoin : (h.joinLine id).history = h.history := by rw [joinLine_eq]
  have hfail : ∀ h₁ : Handoff α, h₁.history = h.history → ∀ outcome,
      (h₁.failProducer id outcome).producers.find? id = none ∧
        (h₁.failProducer id outcome).dropped = {outcome} + h.dropped := by
    intro h₁ hpast outcome
    constructor
    · show (h₁.producers.erase id).find? id = none
      rw [Roster.find?_erase, if_pos rfl]
    · show 0 + ({outcome} + h₁.dropped) = {outcome} + h.dropped
      rw [zero_add, dropped, hpast]
      rfl
  cases polled with
  | shut outcome held fired => exact ⟨Or.inl fired, outcome, held, hfail h rfl outcome⟩
  | closed outcome held going first dead gone =>
    exact ⟨Or.inr gone, outcome, held, hfail { h.joinLine id with slots := [] } hjoin outcome⟩

/-- A consumer that is done has been answered with what it gives. -/
theorem answers_consumerPolled (numbered : Numbered h) {given : Option α}
    (polled : h.ConsumerPolled id (.ready given) h') : h'.answers id = [given] := by
  have hclosed : ∀ consumer, h.consumers.find? id = some consumer →
      (h.closeConsumer id consumer).answers id = [none] := by
    intro consumer held
    rw [closeConsumer_eq held, answers_note_gave, if_pos rfl, answers_abandonConsumer,
      numbered.unanswered id (Roster.mem_ids_of_find? held)]
  cases polled with
  | shut consumer held fired => exact hclosed consumer held
  | closed consumer held going gone empty => exact hclosed consumer held
  | returns outcome held going =>
    rw [answers_note_gave, if_pos rfl]
    show some outcome :: h.answers id = [some outcome]
    rw [numbered.unanswered id (Roster.mem_ids_of_find? held)]

end Calls

/-! ## Conservation -/

/-- How the outcomes of a handoff stand, and what the next poll or drop does with them. -/
structure Accounted (h : Handoff α) : Prop where
  /-- Each outcome that was submitted is in exactly one place. -/
  balanced : h.submissions = h.owned + h.slotted + h.returned + h.dropped
  /-- An unfinished producer and an unfinished consumer count once. -/
  apart : h.producers.ids.Nodup ∧ h.consumers.ids.Nodup
  /-- No consumer is answered more than once. -/
  answered : ∀ id, (h.answers id).length ≤ 1
  /-- What a consumer gives at its end is what it was answered. -/
  gives : ∀ id given, (h.pollConsumer id).1 = .ready given →
    (h.pollConsumer id).2.answers id = [given]
  /-- No consumer returns an outcome that nobody submitted. -/
  submitted : h.returned ≤ h.submissions
  /-- A producer ends with success exactly if its outcome moved into the slot of a consumer that is
      there. -/
  delivers : ∀ id, (h.pollProducer id).1 = .ready true ↔
    ∃ outcome slot, h.producers.find? id = some outcome ∧
      h.consumers.find? slot = some .waiting ∧
      (h.pollProducer id).2.producers.find? id = none ∧
      (h.pollProducer id).2.consumers.find? slot = some (.filled outcome)
  /-- A producer ends without success only after the shutdown or without the receiving half, and
      its outcome is dropped in that poll. -/
  refuses : ∀ id, (h.pollProducer id).1 = .ready false →
    (h.fired = true ∨ h.receiverAlive = false) ∧
      ∃ outcome, h.producers.find? id = some outcome ∧
        (h.pollProducer id).2.producers.find? id = none ∧
        (h.pollProducer id).2.dropped = {outcome} + h.dropped
  /-- Giving up a producer drops its outcome and no other, and takes no slot. -/
  abandons : ∀ id outcome, h.producers.find? id = some outcome →
    (h.abandonProducer id).dropped = {outcome} + h.dropped ∧
      h.owned = {outcome} + (h.abandonProducer id).owned ∧
      (∀ k, k ≠ id → (h.abandonProducer id).producers.find? k = h.producers.find? k) ∧
      (h.abandonProducer id).consumers = h.consumers ∧
      (h.abandonProducer id).slots = h.slots

theorem Sound.accounted {h : Handoff α} (sound : Sound h) : Accounted h where
  balanced := sound.balanced
  apart := ⟨sound.producers_nodup, sound.consumers_nodup⟩
  answered := sound.answered
  gives := by
    intro id given hready
    have polled := h.pollConsumer_spec id
    rw [hready] at polled
    exact answers_consumerPolled sound.toNumbered polled
  submitted := by
    rw [sound.balanced, add_right_comm]
    exact Multiset.le_add_left _ _
  delivers := fun id => delivered_iff (h.pollProducer_spec id)
  refuses := by
    intro id hready
    have polled := h.pollProducer_spec id
    rw [hready] at polled
    exact undelivered polled
  abandons := by
    intro id outcome held
    have habandon : h.abandonProducer id = (h.removeProducer id).note (.spilled outcome) := by
      rw [Handoff.abandonProducer, held]
    rw [habandon]
    refine ⟨dropped_note _ _, owned_removeProducer sound.producers_nodup held, ?_, rfl, rfl⟩
    intro k hk
    show (h.producers.erase id).find? k = h.producers.find? k
    rw [Roster.find?_erase, if_neg hk]

/-- **No outcome is lost track of.**  After any steps (producers and consumers that come, are polled
    and are given up in any order, the shutdown, the end of either half) each outcome that was
    submitted is with its producer, in the slot of one consumer, returned by one consumer, or
    dropped.  What was returned or dropped stays so whatever follows. -/
theorem outcome_conservation (steps more : List (Step α)) :
    Accounted (after steps) ∧
      (after steps).returned ≤ (after (steps ++ more)).returned ∧
      (after steps).dropped ≤ (after (steps ++ more)).dropped := by
  have hpast : (after steps).history <:+ (after (steps ++ more)).history := by
    rw [after, after, run_append]
    exact suffix_run _ more
  exact ⟨(Sound.after steps).accounted, returned_le_of_suffix hpast, dropped_le_of_suffix hpast⟩

end Gatehouse.Handoff
