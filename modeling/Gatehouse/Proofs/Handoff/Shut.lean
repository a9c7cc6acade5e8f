import Gatehouse.Proofs.Handoff.Conservation
import Gatehouse.Proofs.Handoff.Order

/-!
# The handoff after its shutdown

Once the shutdown has been fired it stays so, and it comes before everything else: the next poll of
whoever is unfinished is its last and hands nothing out (`Shut`), whatever it had come to.  What is
returned by then is all that ever will be, and when everybody who was there has been polled or given
up, the rest has been dropped (`dropped_of_attended`).
-/

namespace Gatehouse.Handoff

variable {α : Type} {h : Handoff α} {id : Nat}

/-! ## The firing -/

/-- Only one kind of step fires the shutdown, and none takes that back. -/
theorem fired_step (h : Handoff α) {st : Step α} (other : st ≠ .shut) :
    (h.step st).fired = h.fired := by
  cases st with
  | submit id outcome => rfl
  | request id => rfl
  | pollProducer id => exact congrArg (·.1) (flags_producerPolled (h.pollProducer_spec id))
  | pollConsumer id => exact congrArg (·.1) (flags_consumerPolled (h.pollConsumer_spec id))
  | abandonProducer id => exact congrArg (·.1) (flags_abandonProducer h id)
  | abandonConsumer id => exact congrArg (·.1) (flags_abandonConsumer h id)
  | shut => exact absurd rfl other
  | dropSender =>
    have hall : (h.producers.ids.foldl Handoff.abandonProducer h).fired = h.fired :=
      List.foldlRecOn (motive := fun h' : Handoff α => h'.fired = h.fired) _ _ rfl
        fun h' hold id _ => (congrArg (·.1) (flags_abandonProducer h' id)).trans hold
    exact hall
  | dropReceiver =>
    have hall : (h.consumers.ids.foldl Handoff.abandonConsumer h).fired = h.fired :=
      List.foldlRecOn (motive := fun h' : Handoff α => h'.fired = h.fired) _ _ rfl
        fun h' hold id _ => (congrArg (·.1) (flags_abandonConsumer h' id)).trans hold
    exact hall

theorem fired_step_of_fired (fired : h.fired = true) (st : Step α) : (h.step st).fired = true := by
  by_cases hst : st = .shut
  · rw [hst]
    rfl
  · exact (fired_step h hst).trans fired

theorem fired_advance (fired : h.fired = true) (st : Step α) : (h.advance st).fired = true := by
  unfold advance
  split
  · exact fired_step_of_fired fired st
  · exact fired

/-- Where the shutdown has been fired, there is the step that fired it. -/
theorem exists_firing (going : h.fired = false) {steps : List (Step α)}
    (fired : (h.run steps).fired = true) :
    ∃ before since, steps = before ++ .shut :: since ∧ (h.run before).fired = false := by
  induction steps generalizing h with
  | nil => exact absurd (going.symm.trans fired) Bool.false_ne_true
  | cons st steps ih =>
    by_cases hst : st = .shut
    · exact ⟨[], steps, by rw [hst, List.nil_append], going⟩
    · have going' : (h.advance st).fired = false := by
        unfold advance
        split
        · exact (fired_step h hst).trans going
        · exact going
      obtain ⟨before, since, heq, hbefore⟩ := ih going' fired
      exact ⟨st :: before, since, by rw [heq, List.cons_append], hbefore⟩

/-! ## What polls come to -/

theorem pollProducer_of_fired (fired : h.fired = true) {outcome : α}
    (held : h.producers.find? id = some outcome) :
    h.pollProducer id = (.ready false, h.failProducer id outcome) := by
  rw [pollProducer, held]
  simp only [if_pos fired]

/-- The shutdown wakes every producer. -/
theorem producerRunnable_of_fired (fired : h.fired = true) {outcome : α}
    (held : h.producers.find? id = some outcome) : h.producerRunnable id = true := by
  rw [producerRunnable, held, fired]
  rfl

theorem pollConsumer_of_fired (fired : h.fired = true) {consumer : Consumer α}
    (held : h.consumers.find? id = some consumer) :
    h.pollConsumer id = (.ready none, h.closeConsumer id consumer) := by
  rw [pollConsumer, held]
  simp only [if_pos fired]

theorem dropped_abandonConsumer {consumer : Consumer α}
    (held : h.consumers.find? id = some consumer) :
    (h.abandonConsumer id).dropped = consumer.contents + h.dropped := by
  unfold abandonConsumer
  rw [held]
  cases consumer with
  | fresh => exact (zero_add _).symm
  | waiting => exact (zero_add _).symm
  | filled outcome => exact dropped_note (h.removeConsumer id) _

/-- What the shutdown leaves to polls: the next one ends whoever is unfinished, and none hands
    anything out. -/
structure Shut (h : Handoff α) : Prop where
  /-- A producer is told that its outcome was not delivered, and the outcome is dropped. -/
  producer : ∀ id outcome, h.producers.find? id = some outcome →
    (h.pollProducer id).1 = .ready false ∧ (h.pollProducer id).2.producers = h.producers.erase id ∧
      (h.pollProducer id).2.dropped = {outcome} + h.dropped
  /-- A consumer is told that the channel is closed, and what is in its slot is dropped. -/
  consumer : ∀ id consumer, h.consumers.find? id = some consumer →
    (h.pollConsumer id).1 = .ready none ∧ (h.pollConsumer id).2.consumers = h.consumers.erase id ∧
      (h.pollConsumer id).2.dropped = consumer.contents + h.dropped
  /-- So it is with one who has just come. -/
  newProducer : ∀ id outcome, h.admits (.submit id outcome) = true →
    ((h.submit id outcome).pollProducer id).1 = .ready false
  newConsumer : ∀ id, h.admits (.request id) = true →
    ((h.request id).pollConsumer id).1 = .ready none
  undelivered : ∀ id, (h.pollProducer id).1 ≠ .ready true
  unreturned : ∀ id outcome, (h.pollConsumer id).1 ≠ .ready (some outcome)

theorem shut_of_fired (fired : h.fired = true) : Shut h where
  producer := by
    intro id outcome held
    rw [pollProducer_of_fired fired held]
    refine ⟨rfl, rfl, ?_⟩
    show 0 + ({outcome} + h.dropped) = _
    rw [zero_add]
  consumer := by
    intro id consumer held
    rw [pollConsumer_of_fired fired held, closeConsumer_eq held]
    refine ⟨rfl, abandonConsumer_consumers h id, ?_⟩
    show 0 + (h.abandonConsumer id).dropped = _
    rw [zero_add, dropped_abandonConsumer held]
  newProducer := by
    intro id outcome hnew
    simp only [admits, Bool.and_eq_true, Bool.not_eq_true', List.contains_eq_mem,
      decide_eq_false_iff_not] at hnew
    have held : (h.submit id outcome).producers.find? id = some outcome := by
      show (h.producers.enter id outcome).find? id = _
      rw [Roster.find?_enter _ _ _ _ (Roster.find?_eq_none_iff.2 hnew.2), if_pos rfl]
    have fired' : (h.submit id outcome).fired = true := fired
    rw [pollProducer_of_fired fired' held]
  newConsumer := by
    intro id hnew
    simp only [admits, Bool.and_eq_true, Bool.not_eq_true', List.contains_eq_mem,
      decide_eq_false_iff_not] at hnew
    have held : (h.request id).consumers.find? id = some .fresh := by
      show (h.consumers.enter id .fresh).find? id = _
      rw [Roster.find?_enter _ _ _ _ (Roster.find?_eq_none_iff.2 hnew.1.1.2), if_pos rfl]
    have fired' : (h.request id).fired = true := fired
    rw [pollConsumer_of_fired fired' held]
  undelivered := by
    intro id hready
    have polled := h.pollProducer_spec id
    rw [hready] at polled
    generalize (h.pollProducer id).2 = h' at polled
    cases polled with
    | delivers _ _ going => exact absurd (going.symm.trans fired) Bool.false_ne_true
  unreturned := by
    intro id outcome hready
    have polled := h.pollConsumer_spec id
    rw [hready] at polled
    generalize (h.pollConsumer id).2 = h' at polled
    cases polled with
    | returns _ _ going => exact absurd (going.symm.trans fired) Bool.false_ne_true

/-! ## Nothing is handed out any more -/

theorem delivery_of_fired (fired : h.fired = true) (st : Step α) : h.delivery st = 0 := by
  cases st with
  | pollProducer id =>
    show confirmed (h.producers.find? id) (h.pollProducer id).1 = 0
    cases held : h.producers.find? id with
    | none => exact confirmed_none _
    | some outcome => rw [pollProducer_of_fired fired held, confirmed_false]
  | _ => rfl

theorem along_delivery_of_fired (fired : h.fired = true) (steps : List (Step α)) :
    along delivery h steps = 0 := by
  induction steps generalizing h with
  | nil => rfl
  | cons st steps ih => rw [along, delivery_of_fired fired, ih (fired_advance fired st), zero_add]

theorem returned_note (h : Handoff α) (e : Event α) : (h.note e).returned = e.gift + h.returned := by
  rw [returned, note, List.map_cons, List.sum_cons]
  rfl

theorem returned_abandonProducer (h : Handoff α) (id : Nat) :
    (h.abandonProducer id).returned = h.returned := by
  unfold abandonProducer
  cases h.producers.find? id with
  | none => rfl
  | some outcome => exact (returned_note (h.removeProducer id) _).trans (zero_add _)

theorem returned_abandonConsumer (h : Handoff α) (id : Nat) :
    (h.abandonConsumer id).returned = h.returned := by
  unfold abandonConsumer
  cases h.consumers.find? id with
  | none => rfl
  | some consumer =>
    cases consumer with
    | fresh => rfl
    | waiting => rfl
    | filled outcome => exact (returned_note (h.removeConsumer id) _).trans (zero_add _)

theorem returned_step_of_fired (fired : h.fired = true) (st : Step α) :
    (h.step st).returned = h.returned := by
  cases st with
  | submit id outcome => exact zero_add _
  | request id => rfl
  | pollProducer id =>
    show (h.pollProducer id).2.returned = h.returned
    cases held : h.producers.find? id with
    | none =>
      rw [pollProducer, held]
    | some outcome =>
      rw [pollProducer_of_fired fired held]
      show 0 + (0 + h.returned) = h.returned
      rw [zero_add, zero_add]
  | pollConsumer id =>
    show (h.pollConsumer id).2.returned = h.returned
    cases held : h.consumers.find? id with
    | none =>
      rw [pollConsumer, held]
    | some consumer =>
      rw [pollConsumer_of_fired fired held, closeConsumer_eq held]
      show 0 + (h.abandonConsumer id).returned = h.returned
      rw [zero_add, returned_abandonConsumer]
  | abandonProducer id => exact returned_abandonProducer h id
  | abandonConsumer id => exact returned_abandonConsumer h id
  | shut => rfl
  | dropSender =>
    have hall : (h.producers.ids.foldl Handoff.abandonProducer h).returned = h.returned :=
      List.foldlRecOn (motive := fun h' : Handoff α => h'.returned = h.returned) _ _ rfl
        fun h' hold id _ => (returned_abandonProducer h' id).trans hold
    exact hall
  | dropReceiver =>
    have hall : (h.consumers.ids.foldl Handoff.abandonConsumer h).returned = h.returned :=
      List.foldlRecOn (motive := fun h' : Handoff α => h'.returned = h.returned) _ _ rfl
        fun h' hold id _ => (returned_abandonConsumer h' id).trans hold
    exact hall

/-- What has been returned when the shutdown is fired is all that ever will be. -/
theorem returned_run_of_fired (fired : h.fired = true) (steps : List (Step α)) :
    (h.run steps).returned = h.returned := by
  have both : (h.run steps).fired = true ∧ (h.run steps).returned = h.returned :=
    run_induction (P := fun h' => h'.fired = true ∧ h'.returned = h.returned)
      (fun _ st hold _ => ⟨fired_step_of_fired hold.1 st,
        (returned_step_of_fired hold.1 st).trans hold.2⟩) ⟨fired, rfl⟩ steps
  exact both.2

/-! ## Who is left -/

/-- Is the producer with this number gone after the step, once the shutdown has been fired? -/
def Step.EndsProducer (id : Nat) : Step α → Prop
  | .pollProducer k | .abandonProducer k => k = id
  | .dropSender => True
  | _ => False

/-- Is the consumer with this number gone after the step, once the shutdown has been fired? -/
def Step.EndsConsumer (id : Nat) : Step α → Prop
  | .pollConsumer k | .abandonConsumer k => k = id
  | .dropReceiver => True
  | _ => False

/-- Those who are there can be ended at any time. -/
theorem admits_of_endsProducer (h : Handoff α) {st : Step α} (ends : st.EndsProducer id) :
    h.admits st = true := by
  cases st with
  | submit _ _ => exact ends.elim
  | request _ => exact ends.elim
  | _ => rfl

theorem admits_of_endsConsumer (h : Handoff α) {st : Step α} (ends : st.EndsConsumer id) :
    h.admits st = true := by
  cases st with
  | submit _ _ => exact ends.elim
  | request _ => exact ends.elim
  | _ => rfl

theorem producers_abandonProducer (h : Handoff α) (id : Nat) :
    (h.abandonProducer id).producers = h.producers.erase id := by
  unfold abandonProducer
  cases held : h.producers.find? id with
  | none => exact (Roster.erase_eq_self (Roster.find?_eq_none_iff.1 held)).symm
  | some outcome => rfl

theorem producers_pollProducer_of_fired (fired : h.fired = true) (id : Nat) :
    (h.pollProducer id).2.producers = h.producers.erase id := by
  cases held : h.producers.find? id with
  | none =>
    rw [pollProducer, held]
    exact (Roster.erase_eq_self (Roster.find?_eq_none_iff.1 held)).symm
  | some outcome => exact ((shut_of_fired fired).producer id outcome held).2.1

theorem consumers_pollConsumer_of_fired (fired : h.fired = true) (id : Nat) :
    (h.pollConsumer id).2.consumers = h.consumers.erase id := by
  cases held : h.consumers.find? id with
  | none =>
    rw [pollConsumer, held]
    exact (Roster.erase_eq_self (Roster.find?_eq_none_iff.1 held)).symm
  | some consumer => exact ((shut_of_fired fired).consumer id consumer held).2.1

theorem producers_step_dropReceiver (h : Handoff α) :
    (h.step .dropReceiver).producers = h.producers :=
  List.foldlRecOn (motive := fun h' : Handoff α => h'.producers = h.producers) h.consumers.ids
    Handoff.abandonConsumer rfl fun h' hold id _ => (producers_abandonConsumer h' id).trans hold

/-- Giving up consumers strikes them out. -/
theorem mem_consumers_foldl_abandonConsumer {entry : Nat × Consumer α} (gone : List Nat)
    (hmem : entry ∈ (gone.foldl Handoff.abandonConsumer h).consumers) :
    entry ∈ h.consumers ∧ entry.1 ∉ gone := by
  induction gone generalizing h with
  | nil => exact ⟨hmem, List.not_mem_nil⟩
  | cons id gone ih =>
    obtain ⟨hmem, hgone⟩ := ih hmem
    rw [abandonConsumer_consumers] at hmem
    obtain ⟨hmem, hne⟩ := Roster.mem_erase.1 hmem
    exact ⟨hmem, fun h => (List.mem_cons.1 h).elim hne hgone⟩

/-- Who is there after a step was there before it and has not been ended by it, or has come. -/
theorem mem_producers_step (fired : h.fired = true) {st : Step α} {entry : Nat × α}
    (hmem : entry ∈ (h.step st).producers) :
    (entry ∈ h.producers ∧ ¬ st.EndsProducer entry.1) ∨ st = .submit entry.1 entry.2 := by
  have hothers : entry ∈ h.producers → ¬ st.EndsProducer entry.1 →
      (entry ∈ h.producers ∧ ¬ st.EndsProducer entry.1) ∨ st = .submit entry.1 entry.2 :=
    fun hold hnot => Or.inl ⟨hold, hnot⟩
  have herased : ∀ id, entry ∈ h.producers.erase id → entry ∈ h.producers ∧ ¬ id = entry.1 := by
    intro id herase
    obtain ⟨hold, hne⟩ := Roster.mem_erase.1 herase
    exact ⟨hold, Ne.symm hne⟩
  cases st with
  | submit id outcome =>
    rcases Roster.mem_enter.1 hmem with hold | rfl
    · exact hothers hold (fun h => h)
    · exact Or.inr rfl
  | request id => exact hothers hmem (fun h => h)
  | pollProducer id =>
    rw [step, producers_pollProducer_of_fired fired] at hmem
    exact Or.inl (herased id hmem)
  | pollConsumer id =>
    have hsame : (h.step (.pollConsumer id)).producers = h.producers :=
      producers_consumerPolled (h.pollConsumer_spec id)
    exact hothers (hsame ▸ hmem) (fun h => h)
  | abandonProducer id =>
    rw [step, producers_abandonProducer] at hmem
    exact Or.inl (herased id hmem)
  | abandonConsumer id =>
    exact hothers (producers_abandonConsumer h id ▸ hmem) (fun h => h)
  | shut => exact hothers hmem (fun h => h)
  | dropSender =>
    have hids : entry.1 ∈ (h.producers.ids.foldl Handoff.abandonProducer h).producers.ids :=
      List.mem_map_of_mem hmem
    obtain ⟨hold, hgone⟩ := producers_foldl_abandonProducer h h.producers.ids hids
    exact absurd hold hgone
  | dropReceiver => exact hothers (producers_step_dropReceiver h ▸ hmem) (fun h => h)

/-- Consumers that are there after a step with something in their slots have had it before, and have
    not been ended by the step. -/
theorem mem_consumers_step (fired : h.fired = true) {st : Step α} {outcome : α}
    (hmem : (id, .filled outcome) ∈ (h.step st).consumers) :
    (id, .filled outcome) ∈ h.consumers ∧ ¬ st.EndsConsumer id := by
  have herased : ∀ k, (id, .filled outcome) ∈ h.consumers.erase k →
      (id, .filled outcome) ∈ h.consumers ∧ ¬ k = id := by
    intro k herase
    obtain ⟨hold, hne⟩ := Roster.mem_erase.1 herase
    exact ⟨hold, Ne.symm hne⟩
  cases st with
  | submit k outcome => exact ⟨hmem, fun h => h⟩
  | request k =>
    rcases Roster.mem_enter.1 hmem with hold | hnew
    · exact ⟨hold, fun h => h⟩
    · cases hnew
  | pollProducer k =>
    have hsame : (h.pollProducer k).2.consumers = h.consumers := by
      cases held : h.producers.find? k with
      | none => rw [pollProducer, held]
      | some outcome =>
        rw [pollProducer_of_fired fired held]
        rfl
    exact ⟨hsame ▸ hmem, fun h => h⟩
  | pollConsumer k =>
    rw [step, consumers_pollConsumer_of_fired fired] at hmem
    exact herased k hmem
  | abandonProducer k => exact ⟨consumers_abandonProducer h k ▸ hmem, fun h => h⟩
  | abandonConsumer k =>
    rw [step, abandonConsumer_consumers] at hmem
    exact herased k hmem
  | shut => exact ⟨hmem, fun h => h⟩
  | dropSender => exact ⟨consumers_dropSender h ▸ hmem, fun h => h⟩
  | dropReceiver =>
    obtain ⟨hold, hgone⟩ := mem_consumers_foldl_abandonConsumer h.consumers.ids hmem
    exact absurd (List.mem_map_of_mem hold) hgone

theorem mem_producers_run (fired : h.fired = true) {steps : List (Step α)} {entry : Nat × α}
    (hmem : entry ∈ (h.run steps).producers) :
    (entry ∈ h.producers ∧ ∀ st ∈ steps, ¬ st.EndsProducer entry.1) ∨
      ∃ done rest, steps = done ++ .submit entry.1 entry.2 :: rest ∧
        (h.run done).admits (.submit entry.1 entry.2) = true ∧
        ∀ st ∈ rest, ¬ st.EndsProducer entry.1 := by
  induction steps generalizing h with
  | nil => exact Or.inl ⟨hmem, fun _ h => absurd h List.not_mem_nil⟩
  | cons st steps ih =>
    rcases ih (fired_advance fired st) hmem with ⟨hold, hrest⟩ | ⟨done, rest, heq, hnew, hrest⟩
    · by_cases hst : h.admits st = true
      · rw [advance, if_pos hst] at hold
        rcases mem_producers_step fired hold with ⟨hold, hnot⟩ | rfl
        · exact Or.inl ⟨hold, List.forall_mem_cons.2 ⟨hnot, hrest⟩⟩
        · exact Or.inr ⟨[], steps, rfl, hst, hrest⟩
      · rw [advance, if_neg hst] at hold
        have hnot : ¬ st.EndsProducer entry.1 := fun hends => hst (admits_of_endsProducer h hends)
        exact Or.inl ⟨hold, List.forall_mem_cons.2 ⟨hnot, hrest⟩⟩
    · exact Or.inr ⟨st :: done, rest, congrArg (st :: ·) heq, hnew, hrest⟩

theorem mem_consumers_run (fired : h.fired = true) {steps : List (Step α)} {outcome : α}
    (hmem : (id, .filled outcome) ∈ (h.run steps).consumers) :
    (id, .filled outcome) ∈ h.consumers ∧ ∀ st ∈ steps, ¬ st.EndsConsumer id := by
  induction steps generalizing h with
  | nil => exact ⟨hmem, fun _ h => absurd h List.not_mem_nil⟩
  | cons st steps ih =>
    obtain ⟨hold, hrest⟩ := ih (fired_advance fired st) hmem
    by_cases hst : h.admits st = true
    · rw [advance, if_pos hst] at hold
      obtain ⟨hold, hnot⟩ := mem_consumers_step fired hold
      exact ⟨hold, List.forall_mem_cons.2 ⟨hnot, hrest⟩⟩
    · rw [advance, if_neg hst] at hold
      have hnot : ¬ st.EndsConsumer id := fun hends => hst (admits_of_endsConsumer h hends)
      exact ⟨hold, List.forall_mem_cons.2 ⟨hnot, hrest⟩⟩

/-! ## What becomes of the rest -/

/-- Everybody who is there, and every producer who comes, is polled or given up along these steps,
    by themselves or with their half. -/
structure Attended (h : Handoff α) (steps : List (Step α)) : Prop where
  producers : ∀ id ∈ h.producers.ids, ∃ st ∈ steps, st.EndsProducer id
  consumers : ∀ id ∈ h.consumers.ids, ∃ st ∈ steps, st.EndsConsumer id
  newcomers : ∀ done id outcome rest, steps = done ++ .submit id outcome :: rest →
    (h.run done).admits (.submit id outcome) = true → ∃ st ∈ rest, st.EndsProducer id

theorem owned_of_attended (fired : h.fired = true) {steps : List (Step α)}
    (attended : Attended h steps) : (h.run steps).owned = 0 := by
  have hnone : (h.run steps).producers = [] := by
    rw [List.eq_nil_iff_forall_not_mem]
    intro entry hmem
    rcases mem_producers_run fired hmem with ⟨hold, hnot⟩ | ⟨done, rest, heq, hnew, hnot⟩
    · obtain ⟨st, hst, hends⟩ := attended.producers entry.1 (List.mem_map_of_mem hold)
      exact hnot st hst hends
    · obtain ⟨st, hst, hends⟩ := attended.newcomers done entry.1 entry.2 rest heq hnew
      exact hnot st hst hends
  rw [owned, hnone]
  rfl

theorem slotted_of_attended (fired : h.fired = true) {steps : List (Step α)}
    (attended : Attended h steps) : (h.run steps).slotted = 0 := by
  refine List.sum_eq_zero fun contents hcontents => ?_
  obtain ⟨⟨id, consumer⟩, hmem, rfl⟩ := List.mem_map.1 hcontents
  cases consumer with
  | fresh => rfl
  | waiting => rfl
  | filled outcome =>
    obtain ⟨hold, hnot⟩ := mem_consumers_run fired hmem
    obtain ⟨st, hst, hends⟩ := attended.consumers id (List.mem_map_of_mem hold)
    exact absurd hends (hnot st hst)

/-- Once everybody has been polled or given up, what had not been returned has been dropped. -/
theorem dropped_of_attended (sound : Sound h) (fired : h.fired = true) {steps : List (Step α)}
    (attended : Attended h steps) :
    (h.run steps).submissions = h.returned + (h.run steps).dropped := by
  have sound' : Sound (h.run steps) :=
    run_induction (fun _ st sound hst => sound.step st hst) sound steps
  rw [sound'.balanced, owned_of_attended fired attended, slotted_of_attended fired attended,
    returned_run_of_fired fired, zero_add, zero_add]

/-- What is left to a run once the shutdown has been fired. -/
structure Overtaken (before since : List (Step α)) : Prop where
  /-- No consumer returns anything any more. -/
  returned : (after (before ++ .shut :: since)).returned = (after before).returned
  /-- No producer is told any more that it has delivered. -/
  undelivered : along delivery (after (before ++ [.shut])) since = 0
  /-- When everybody has been polled or given up, all outcomes that had not been returned before the
      firing have been dropped. -/
  dropped : Attended (after (before ++ [.shut])) since →
    (after (before ++ .shut :: since)).submissions =
      (after before).returned + (after (before ++ .shut :: since)).dropped

theorem overtaken (before since : List (Step α)) : Overtaken before since := by
  have hfired : (after (before ++ [.shut])).fired = true := by
    rw [after, run_append]
    rfl
  have hsplit : after (before ++ .shut :: since) = (after (before ++ [.shut])).run since := by
    rw [after, after, run_append, run_append]
    rfl
  have hreturned : (after (before ++ [.shut])).returned = (after before).returned := by
    rw [after, run_append]
    rfl
  refine ⟨?_, along_delivery_of_fired hfired since, fun attended => ?_⟩
  · rw [hsplit, returned_run_of_fired hfired, hreturned]
  · rw [hsplit, ← hreturned]
    exact dropped_of_attended (Sound.after _) hfired attended

end Gatehouse.Handoff
