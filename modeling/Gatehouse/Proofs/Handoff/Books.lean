import Gatehouse.Proofs.Handoff.Run
import Mathlib.Algebra.BigOperators.Group.Multiset.Basic
import Mathlib.Tactic.Abel

/-!
# The books of the handoff

Every outcome that was submitted is in one of four places: with its unfinished producer, in the slot
of an unfinished consumer, returned by a consumer, or dropped.  The places are read off the state
(`owned`, `slotted`) and the history (`returned`, `dropped`) as multisets, so that equal outcomes
are counted as often as they were submitted.  Each step moves outcomes between places and makes none
(`Sound.step`), and so the books are right along every run (`Sound.after`).
-/

namespace Gatehouse

variable {α : Type}

/-- The outcome in a consumer's slot. -/
def Consumer.contents : Consumer α → Multiset α
  | .filled outcome => {outcome}
  | _ => 0

@[simp] theorem Consumer.contents_waiting : (waiting : Consumer α).contents = 0 := rfl

@[simp] theorem Consumer.contents_filled (outcome : α) :
    (filled outcome).contents = {outcome} := rfl

namespace Handoff

/-! ## The four places -/

/-- The outcome that an event brings into the handoff. -/
def Event.submission : Event α → Multiset α
  | .submitted _ outcome => {outcome}
  | _ => 0

/-- The outcome that an event gives to a consumer. -/
def Event.gift : Event α → Multiset α
  | .gave _ (some outcome) => {outcome}
  | _ => 0

/-- The outcome that an event drops. -/
def Event.loss : Event α → Multiset α
  | .spilled outcome => {outcome}
  | _ => 0

/-- All outcomes that have been submitted. -/
def submissions (h : Handoff α) : Multiset α := (h.history.map Event.submission).sum

/-- The outcomes of unfinished producers. -/
def owned (h : Handoff α) : Multiset α := h.producers.total fun outcome => {outcome}

/-- The outcomes in the slots of unfinished consumers. -/
def slotted (h : Handoff α) : Multiset α := h.consumers.total Consumer.contents

/-- The outcomes that consumers have returned. -/
def returned (h : Handoff α) : Multiset α := (h.history.map Event.gift).sum

/-- The outcomes that have been dropped. -/
def dropped (h : Handoff α) : Multiset α := (h.history.map Event.loss).sum

/-! ## How the places change -/

theorem dropped_note (h : Handoff α) (e : Event α) :
    (h.note e).dropped = e.loss + h.dropped := by
  rw [dropped, note, List.map_cons, List.sum_cons]
  rfl

theorem owned_removeProducer {h : Handoff α} {id : Nat} {outcome : α}
    (nodup : h.producers.ids.Nodup) (held : h.producers.find? id = some outcome) :
    h.owned = {outcome} + (h.removeProducer id).owned :=
  Roster.total_erase nodup held _

theorem slotted_removeConsumer {h : Handoff α} {id : Nat} {consumer : Consumer α}
    (nodup : h.consumers.ids.Nodup) (held : h.consumers.find? id = some consumer) :
    h.slotted = consumer.contents + (h.removeConsumer id).slotted :=
  Roster.total_erase nodup held _

/-- A consumer whose slot is empty is replaced by another. -/
theorem slotted_update {h : Handoff α} {slot : Nat} {old : Consumer α}
    (nodup : h.consumers.ids.Nodup) (held : h.consumers.find? slot = some old)
    (hempty : old.contents = 0) (new : Consumer α) :
    (h.consumers.update slot new).total Consumer.contents = new.contents + h.slotted := by
  have hupdate := Roster.total_update nodup held new Consumer.contents
  rw [hempty, zero_add] at hupdate
  exact hupdate

theorem answers_note_gave (h : Handoff α) (id k : Nat) (outcome : Option α) :
    (h.note (.gave k outcome)).answers id =
      if k = id then outcome :: h.answers id else h.answers id := by
  unfold answers note
  rw [List.filterMap_cons]
  by_cases hk : k = id
  · simp only [if_pos hk]
  · simp only [if_neg hk]

theorem mem_ids_removeConsumer {h : Handoff α} {id k : Nat} :
    k ∈ (h.removeConsumer id).consumers.ids ↔ k ∈ h.consumers.ids ∧ k ≠ id := by
  show k ∈ (h.consumers.erase id).ids ↔ _
  rw [Roster.ids_erase, List.mem_filter, bne_iff_ne]

/-- Giving up a consumer strikes it out. -/
theorem abandonConsumer_consumers (h : Handoff α) (id : Nat) :
    (h.abandonConsumer id).consumers = (h.removeConsumer id).consumers := by
  unfold abandonConsumer
  cases held : h.consumers.find? id with
  | none => exact (Roster.erase_eq_self (Roster.find?_eq_none_iff.1 held)).symm
  | some consumer => cases consumer <;> rfl

/-- Giving up a consumer answers nobody. -/
theorem answers_abandonConsumer (h : Handoff α) (id k : Nat) :
    (h.abandonConsumer id).answers k = h.answers k := by
  unfold abandonConsumer
  cases h.consumers.find? id with
  | none => rfl
  | some consumer => cases consumer <;> rfl

/-- A consumer that ends with nothing is given up, and told so. -/
theorem closeConsumer_eq {h : Handoff α} {id : Nat} {consumer : Consumer α}
    (held : h.consumers.find? id = some consumer) :
    h.closeConsumer id consumer = (h.abandonConsumer id).note (.gave id none) := by
  unfold abandonConsumer
  rw [held]
  cases consumer <;> rfl

/-! ## Numbers -/

/-- No two producers and no two consumers have the same number, and a consumer is answered at most
    once, when it has gone. -/
structure Numbered (h : Handoff α) : Prop where
  producers_nodup : h.producers.ids.Nodup
  consumers_nodup : h.consumers.ids.Nodup
  answered : ∀ id, (h.answers id).length ≤ 1
  unanswered : ∀ id ∈ h.consumers.ids, h.answers id = []

namespace Numbered

variable {h h' : Handoff α} {id : Nat}

/-- Nothing happens to consumers. -/
theorem congr (numbered : Numbered h) (hproducers : h'.producers.ids.Nodup)
    (hconsumers : h'.consumers.ids = h.consumers.ids) (hanswers : h'.answers = h.answers) :
    Numbered h' where
  producers_nodup := hproducers
  consumers_nodup := hconsumers ▸ numbered.consumers_nodup
  answered := hanswers ▸ numbered.answered
  unanswered := by
    rw [hconsumers, hanswers]
    exact numbered.unanswered

/-- A consumer that has never been answered comes. -/
theorem request (numbered : Numbered h) (hnew : id ∉ h.consumers.ids)
    (hanswers : h.answers id = []) : Numbered (h.request id) where
  producers_nodup := numbered.producers_nodup
  consumers_nodup := Roster.nodup_enter numbered.consumers_nodup hnew .fresh
  answered := numbered.answered
  unanswered := by
    intro k hk
    rcases Roster.mem_ids_enter.1 hk with hold | rfl
    · exact numbered.unanswered k hold
    · exact hanswers

/-- A consumer goes. -/
theorem removeConsumer (numbered : Numbered h) (id : Nat) : Numbered (h.removeConsumer id) where
  producers_nodup := numbered.producers_nodup
  consumers_nodup := Roster.nodup_erase numbered.consumers_nodup id
  answered := numbered.answered
  unanswered := fun k hk => numbered.unanswered k (mem_ids_removeConsumer.1 hk).1

/-- A consumer goes and is answered. -/
theorem answer (numbered : Numbered h) (hmem : id ∈ h.consumers.ids) (given : Option α) :
    Numbered ((h.removeConsumer id).note (.gave id given)) where
  producers_nodup := numbered.producers_nodup
  consumers_nodup := (numbered.removeConsumer id).consumers_nodup
  answered := by
    intro k
    rw [answers_note_gave]
    split
    · rename_i hk
      show (given :: h.answers k).length ≤ 1
      rw [← hk, numbered.unanswered id hmem]
      exact Nat.le_refl 1
    · exact numbered.answered k
  unanswered := by
    intro k hk
    have hk : k ∈ (h.removeConsumer id).consumers.ids := hk
    obtain ⟨hold, hne⟩ := mem_ids_removeConsumer.1 hk
    rw [answers_note_gave, if_neg (Ne.symm hne)]
    exact numbered.unanswered k hold

end Numbered

/-! ## What every step preserves -/

/-- The books are right: each outcome that was submitted is in one place. -/
structure Sound (h : Handoff α) : Prop extends Numbered h where
  balanced : h.submissions = h.owned + h.slotted + h.returned + h.dropped

namespace Sound

variable {h h' : Handoff α} {id : Nat} {outcome : α}

/-- At the beginning there is nothing. -/
theorem start : Sound ({} : Handoff α) :=
  ⟨⟨List.nodup_nil, List.nodup_nil, fun _ => Nat.zero_le 1, fun _ _ => rfl⟩, rfl⟩

/-- The line, the slots and the flags are not in the books. -/
theorem congr (sound : Sound h) (hproducers : h'.producers = h.producers)
    (hconsumers : h'.consumers = h.consumers) (hhistory : h'.history = h.history) : Sound h' := by
  obtain ⟨_, _, _, _, _, _, _, _⟩ := h'
  subst hproducers hconsumers hhistory
  exact ⟨sound.toNumbered.congr sound.producers_nodup rfl rfl, sound.balanced⟩

/-- A new producer brings its outcome. -/
theorem submit (sound : Sound h) (hnew : id ∉ h.producers.ids) (outcome : α) :
    Sound (h.submit id outcome) where
  toNumbered :=
    sound.toNumbered.congr (Roster.nodup_enter sound.producers_nodup hnew outcome) rfl rfl
  balanced := by
    have howned : (h.submit id outcome).owned = {outcome} + h.owned :=
      Roster.total_enter h.producers id outcome _
    rw [howned]
    show {outcome} + h.submissions =
      {outcome} + h.owned + h.slotted + (0 + h.returned) + (0 + h.dropped)
    rw [sound.balanced]
    abel

/-- A new consumer brings nothing. -/
theorem request (sound : Sound h) (hnew : id ∉ h.consumers.ids) (hanswers : h.answers id = []) :
    Sound (h.request id) where
  toNumbered := sound.toNumbered.request hnew hanswers
  balanced := by
    have hslotted : (h.request id).slotted = 0 + h.slotted :=
      Roster.total_enter h.consumers id .fresh _
    rw [zero_add] at hslotted
    rw [hslotted]
    exact sound.balanced

/-- A producer that ends without success drops its outcome. -/
theorem dropProducer (sound : Sound h) (held : h.producers.find? id = some outcome) :
    Sound ((h.removeProducer id).note (.spilled outcome)) where
  toNumbered := sound.toNumbered.congr (Roster.nodup_erase sound.producers_nodup id) rfl rfl
  balanced := by
    show 0 + h.submissions =
      (h.removeProducer id).owned + h.slotted + (0 + h.returned) + ({outcome} + h.dropped)
    rw [sound.balanced, owned_removeProducer sound.producers_nodup held]
    abel

/-- What a producer is told is not in the books. -/
theorem note_told (sound : Sound h) (id : Nat) (delivered : Bool) :
    Sound (h.note (.told id delivered)) where
  toNumbered := sound.toNumbered.congr sound.producers_nodup rfl rfl
  balanced := by
    show 0 + h.submissions = h.owned + h.slotted + (0 + h.returned) + (0 + h.dropped)
    rw [sound.balanced]
    abel

theorem failProducer (sound : Sound h) (held : h.producers.find? id = some outcome) :
    Sound (h.failProducer id outcome) :=
  (sound.dropProducer held).note_told id false

theorem abandonProducer (sound : Sound h) (id : Nat) : Sound (h.abandonProducer id) := by
  unfold Handoff.abandonProducer
  cases held : h.producers.find? id with
  | none => exact sound
  | some outcome => exact sound.dropProducer held

/-- An outcome goes from its producer into the slot of a consumer that waits. -/
theorem fill (sound : Sound h) (held : h.producers.find? id = some outcome) {slot : Nat}
    (live : h.consumers.find? slot = some .waiting) :
    Sound ({ h with consumers := h.consumers.update slot (.filled outcome) }.removeProducer
      id) where
  toNumbered := sound.toNumbered.congr (Roster.nodup_erase sound.producers_nodup id)
    (Roster.ids_update h.consumers slot (.filled outcome)) rfl
  balanced := by
    have hslotted := slotted_update sound.consumers_nodup live rfl (.filled outcome)
    show h.submissions = (h.removeProducer id).owned
      + (h.consumers.update slot (.filled outcome)).total Consumer.contents + h.returned + h.dropped
    rw [hslotted, sound.balanced, owned_removeProducer sound.producers_nodup held]
    rw [Consumer.contents_filled]
    abel

/-- A consumer registers its slot. -/
theorem register (sound : Sound h) (held : h.consumers.find? id = some .fresh) :
    Sound { h with consumers := h.consumers.update id .waiting } where
  toNumbered := sound.toNumbered.congr sound.producers_nodup
    (Roster.ids_update h.consumers id .waiting) rfl
  balanced := by
    have hslotted := slotted_update sound.consumers_nodup held rfl .waiting
    rw [Consumer.contents_waiting, zero_add] at hslotted
    show h.submissions = h.owned
      + (h.consumers.update id .waiting).total Consumer.contents + h.returned + h.dropped
    rw [hslotted]
    exact sound.balanced

/-- A consumer goes, and what is in its slot is dropped. -/
theorem abandonConsumer (sound : Sound h) (id : Nat) : Sound (h.abandonConsumer id) := by
  unfold Handoff.abandonConsumer
  cases held : h.consumers.find? id with
  | none => exact sound
  | some consumer =>
    have hslotted := slotted_removeConsumer sound.consumers_nodup held
    have hempty : consumer.contents = 0 → Sound (h.removeConsumer id) := by
      intro hcontents
      refine ⟨sound.toNumbered.removeConsumer id, ?_⟩
      rw [hcontents, zero_add] at hslotted
      show h.submissions = h.owned + (h.removeConsumer id).slotted + h.returned + h.dropped
      rw [← hslotted]
      exact sound.balanced
    cases consumer with
    | fresh => exact hempty rfl
    | waiting => exact hempty rfl
    | filled outcome =>
      refine ⟨(sound.toNumbered.removeConsumer id).congr sound.producers_nodup rfl rfl, ?_⟩
      show 0 + h.submissions =
        h.owned + (h.removeConsumer id).slotted + (0 + h.returned) + ({outcome} + h.dropped)
      rw [sound.balanced, hslotted]
      rw [Consumer.contents_filled]
      abel

/-- A consumer ends with nothing. -/
theorem closeConsumer (sound : Sound h) {consumer : Consumer α}
    (held : h.consumers.find? id = some consumer) : Sound (h.closeConsumer id consumer) := by
  have hmem := Roster.mem_ids_of_find? held
  have habandoned := (sound.abandonConsumer id).balanced
  have hanswers : (h.closeConsumer id consumer).answers =
      ((h.removeConsumer id).note (.gave id none)).answers := by
    cases consumer <;> rfl
  refine ⟨(sound.toNumbered.answer hmem none).congr ?_ ?_ hanswers, ?_⟩
  · cases consumer <;> exact sound.producers_nodup
  · cases consumer <;> rfl
  · rw [closeConsumer_eq held]
    show 0 + (h.abandonConsumer id).submissions = (h.abandonConsumer id).owned
      + (h.abandonConsumer id).slotted + (0 + (h.abandonConsumer id).returned)
      + (0 + (h.abandonConsumer id).dropped)
    rw [zero_add, zero_add, zero_add]
    exact habandoned

/-- A consumer ends with the outcome of its slot. -/
theorem giveConsumer (sound : Sound h) (held : h.consumers.find? id = some (.filled outcome)) :
    Sound ((h.removeConsumer id).note (.gave id (some outcome))) where
  toNumbered := sound.toNumbered.answer (Roster.mem_ids_of_find? held) (some outcome)
  balanced := by
    have hslotted := slotted_removeConsumer sound.consumers_nodup held
    show 0 + h.submissions =
      h.owned + (h.removeConsumer id).slotted + ({outcome} + h.returned) + (0 + h.dropped)
    rw [sound.balanced, hslotted]
    rw [Consumer.contents_filled]
    abel

/-! ### Polls and halves -/

theorem joinLine (sound : Sound h) (id : Nat) : Sound (h.joinLine id) := by
  rw [joinLine_eq]
  exact sound.congr rfl rfl rfl

theorem producerPolled (sound : Sound h) {answer : Poll Bool}
    (polled : h.ProducerPolled id answer h') : Sound h' := by
  have hproducers : (h.joinLine id).producers = h.producers := by rw [joinLine_eq]
  have hconsumers : (h.joinLine id).consumers = h.consumers := by rw [joinLine_eq]
  cases polled with
  | unknown absent => exact sound
  | shut outcome held fired => exact sound.failProducer held
  | queued outcome held going behind => exact sound.joinLine id
  | idle outcome held going first dead alive => exact (sound.joinLine id).congr rfl rfl rfl
  | closed outcome held going first dead gone =>
    have sound' : Sound { h.joinLine id with slots := [] } := (sound.joinLine id).congr rfl rfl rfl
    exact sound'.failProducer (hproducers ▸ held)
  | delivers outcome held going first passed slot rest slots_eq dead live =>
    have sound' : Sound { h.joinLine id with slots := rest } :=
      (sound.joinLine id).congr rfl rfl rfl
    have filled := sound'.fill (hproducers ▸ held) (hconsumers ▸ live)
    rw [← hconsumers]
    exact filled.note_told id true

theorem consumerPolled (sound : Sound h) {answer : Poll (Option α)}
    (polled : h.ConsumerPolled id answer h') : Sound h' := by
  cases polled with
  | unknown absent => exact sound
  | shut consumer held fired => exact sound.closeConsumer held
  | registers held going alive => exact (sound.register held).congr rfl rfl rfl
  | waits held going alive => exact sound
  | closed consumer held going gone empty => exact sound.closeConsumer held
  | returns outcome held going => exact sound.giveConsumer held

/-- Every step keeps the books right. -/
theorem step (sound : Sound h) (st : Step α) (hst : h.admits st = true) : Sound (h.step st) := by
  cases st with
  | submit id outcome =>
    simp only [admits, Bool.and_eq_true, Bool.not_eq_true', List.contains_eq_mem,
      decide_eq_false_iff_not] at hst
    exact sound.submit hst.2 outcome
  | request id =>
    simp only [admits, Bool.and_eq_true, Bool.not_eq_true', List.contains_eq_mem,
      decide_eq_false_iff_not, List.isEmpty_iff] at hst
    exact sound.request hst.1.1.2 hst.2
  | pollProducer id => exact sound.producerPolled (h.pollProducer_spec id)
  | pollConsumer id => exact sound.consumerPolled (h.pollConsumer_spec id)
  | abandonProducer id => exact sound.abandonProducer id
  | abandonConsumer id => exact sound.abandonConsumer id
  | shut => exact sound.congr rfl rfl rfl
  | dropSender =>
    have hall : Sound (h.producers.ids.foldl Handoff.abandonProducer h) :=
      List.foldlRecOn _ _ sound fun h sound id _ => sound.abandonProducer id
    exact hall.congr rfl rfl rfl
  | dropReceiver =>
    have hall : Sound (h.consumers.ids.foldl Handoff.abandonConsumer h) :=
      List.foldlRecOn _ _ sound fun h sound id _ => sound.abandonConsumer id
    exact hall.congr rfl rfl rfl

theorem advance (sound : Sound h) (st : Step α) : Sound (h.advance st) := by
  unfold Handoff.advance
  split
  · exact sound.step st ‹_›
  · exact sound

/-- The books are right along every run. -/
theorem after (steps : List (Step α)) : Sound (after steps) :=
  run_induction (fun _ st sound hst => sound.step st hst) start steps

end Sound

end Handoff

end Gatehouse
