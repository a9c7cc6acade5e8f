import Gatehouse.Proofs.Handoff.Order

/-!
# Progress of the handoff

In an open handoff nobody waits in vain.  A poll there either leaves fewer unfinished or changes
nothing but places (`Still`): who was polled stands in line or has a slot registered then
(`InPlace`), and nobody loses a place.  A round of polls that finishes nobody therefore puts
everybody in place, and in the next one the first in line finds a live slot
(`exists_delivering`).  So two rounds always finish somebody, and the number of unfinished producers
and consumers bounds how many rounds it takes until one side is done (`rounds_finish`).
-/

namespace Gatehouse.Handoff

variable {α : Type}

/-! ## Nobody is forgotten -/

/-- The line holds unfinished producers only, and each consumer that waits has its slot
    registered. -/
structure Kept (h : Handoff α) : Prop where
  line_unfinished : ∀ p ∈ h.line, p ∈ h.producers.ids
  waiting_registered : h.senderAlive = true →
    ∀ k, h.consumers.find? k = some .waiting → k ∈ h.slots

/-- A consumer that is given up leaves its slot behind. -/
theorem places_abandonConsumer (h : Handoff α) (id : Nat) :
    (h.abandonConsumer id).line = h.line ∧ (h.abandonConsumer id).slots = h.slots := by
  unfold abandonConsumer
  cases h.consumers.find? id with
  | none => exact ⟨rfl, rfl⟩
  | some consumer => cases consumer <;> exact ⟨rfl, rfl⟩

namespace Kept

variable {h h' : Handoff α} {id : Nat}

theorem start : Kept ({} : Handoff α) :=
  ⟨fun _ h => absurd h List.not_mem_nil, fun _ _ held => by cases held⟩

/-- Nothing happens to the line or the slots, or to anybody who is in them. -/
theorem congr (kept : Kept h) (hproducers : h'.producers = h.producers) (hline : h'.line = h.line)
    (hslots : h'.slots = h.slots) (hsender : h'.senderAlive = true → h.senderAlive = true)
    (hwaiting : ∀ k, h'.consumers.find? k = some .waiting →
      h.consumers.find? k = some .waiting) : Kept h' where
  line_unfinished := by
    rw [hline, hproducers]
    exact kept.line_unfinished
  waiting_registered := by
    intro alive k hk
    rw [hslots]
    exact kept.waiting_registered (hsender alive) k (hwaiting k hk)

/-- A producer goes, and leaves the line. -/
theorem removeProducer (kept : Kept h) (id : Nat) : Kept (h.removeProducer id) where
  line_unfinished := by
    intro p hp
    obtain ⟨hline, hne⟩ := List.mem_filter.1 (show p ∈ h.line.filter (· != id) from hp)
    show p ∈ (h.producers.erase id).ids
    rw [Roster.ids_erase, List.mem_filter]
    exact ⟨kept.line_unfinished p hline, hne⟩
  waiting_registered := kept.waiting_registered

theorem abandonProducer (kept : Kept h) (id : Nat) : Kept (h.abandonProducer id) := by
  unfold Handoff.abandonProducer
  cases h.producers.find? id with
  | none => exact kept
  | some outcome => exact (kept.removeProducer id).congr rfl rfl rfl (fun ha => ha) fun _ hk => hk

theorem joinLine (kept : Kept h) (held : id ∈ h.producers.ids) : Kept (h.joinLine id) := by
  unfold Handoff.joinLine
  split
  · exact kept
  · refine ⟨fun p hp => ?_, kept.waiting_registered⟩
    rcases List.mem_append.1 hp with hold | hnew
    · exact kept.line_unfinished p hold
    · rw [List.mem_singleton.1 hnew]
      exact held

theorem abandonConsumer (kept : Kept h) (id : Nat) : Kept (h.abandonConsumer id) := by
  have hsender : (h.abandonConsumer id).senderAlive = h.senderAlive :=
    (Prod.mk.inj (Prod.mk.inj (flags_abandonConsumer h id)).2).1
  obtain ⟨hline, hslots⟩ := places_abandonConsumer h id
  exact kept.congr (producers_abandonConsumer h id) hline hslots (fun ha => hsender ▸ ha)
    fun _ hk => find?_of_abandonConsumer hk

theorem producerPolled (kept : Kept h) {answer : Poll Bool}
    (polled : h.ProducerPolled id answer h') : Kept h' := by
  have hjoins : ∀ outcome, h.producers.find? id = some outcome → Kept (h.joinLine id) :=
    fun _ held => kept.joinLine (Roster.mem_ids_of_find? held)
  have hsender : (h.joinLine id).senderAlive = h.senderAlive := by rw [joinLine_eq]
  have hconsumers : (h.joinLine id).consumers = h.consumers := by rw [joinLine_eq]
  -- slots are cleared only when no consumer waits
  have hclears : ∀ outcome, h.producers.find? id = some outcome →
      (∀ s ∈ h.slots, h.isLive s = false) → Kept { h.joinLine id with slots := [] } := by
    intro outcome held dead
    refine ⟨(hjoins outcome held).line_unfinished, fun alive k hk => ?_⟩
    have hwas : h.consumers.find? k = some .waiting := hconsumers ▸ hk
    have hmem := kept.waiting_registered (hsender ▸ alive) k hwas
    have hlive := isLive_iff.2 hwas
    rw [dead k hmem] at hlive
    cases hlive
  cases polled with
  | unknown absent => exact kept
  | shut outcome held fired =>
    exact (kept.removeProducer id).congr rfl rfl rfl (fun ha => ha) fun _ hk => hk
  | queued outcome held going behind => exact hjoins outcome held
  | idle outcome held going first dead alive => exact hclears outcome held dead
  | closed outcome held going first dead gone =>
    exact ((hclears outcome held dead).removeProducer id).congr rfl rfl rfl (fun ha => ha)
      fun _ hk => hk
  | delivers outcome held going first passed slot rest slots_eq dead live =>
    refine ⟨((hjoins outcome held).removeProducer id).line_unfinished, fun alive k hk => ?_⟩
    have hk : (h.consumers.update slot (.filled outcome)).find? k = some .waiting := hk
    rw [Roster.find?_update, live] at hk
    split at hk
    · cases hk
    rename_i hne
    have hmem := kept.waiting_registered (hsender ▸ alive) k hk
    rw [slots_eq] at hmem
    -- it is not one of the slots that were passed over
    rcases List.mem_append.1 hmem with hpassed | hrest
    · have hlive := isLive_iff.2 hk
      rw [dead k hpassed] at hlive
      cases hlive
    · exact (List.mem_cons.1 hrest).resolve_left hne

theorem consumerPolled (kept : Kept h) {answer : Poll (Option α)}
    (polled : h.ConsumerPolled id answer h') : Kept h' := by
  have hcloses : ∀ consumer, h.consumers.find? id = some consumer →
      Kept (h.closeConsumer id consumer) := by
    intro consumer held
    rw [closeConsumer_eq held]
    exact (kept.abandonConsumer id).congr rfl rfl rfl (fun ha => ha) fun _ hk => hk
  cases polled with
  | unknown absent => exact kept
  | shut consumer held fired => exact hcloses consumer held
  | waits held going alive => exact kept
  | closed consumer held going gone empty => exact hcloses consumer held
  | returns outcome held going =>
    exact kept.congr rfl rfl rfl (fun ha => ha) fun _ hk => find?_of_removeConsumer hk
  | registers held going alive =>
    refine ⟨kept.line_unfinished, fun _ k hk => ?_⟩
    have hk : (h.consumers.update id .waiting).find? k = some .waiting := hk
    rw [Roster.find?_update] at hk
    split at hk
    · exact List.mem_append_right _ (List.mem_singleton.2 ‹_›)
    · exact List.mem_append_left _ (kept.waiting_registered alive k hk)

theorem step (kept : Kept h) {st : Step α} (hst : h.admits st = true) : Kept (h.step st) := by
  cases st with
  | submit id outcome =>
    exact ⟨fun p hp => Roster.mem_ids_enter.2 (Or.inl (kept.line_unfinished p hp)),
      kept.waiting_registered⟩
  | request id =>
    have hwaiting : ∀ k, (h.request id).consumers.find? k = some .waiting →
        h.consumers.find? k = some .waiting := by
      intro k hk
      have hbecomes : Becomes h k (.request id) .waiting := by
        apply becomes_advance
        rw [advance, if_pos hst]
        exact hk
      cases hbecomes with
      | stays held => exact held
    exact kept.congr rfl rfl rfl (fun ha => ha) hwaiting
  | pollProducer id => exact kept.producerPolled (h.pollProducer_spec id)
  | pollConsumer id => exact kept.consumerPolled (h.pollConsumer_spec id)
  | abandonProducer id => exact kept.abandonProducer id
  | abandonConsumer id => exact kept.abandonConsumer id
  | shut => exact kept.congr rfl rfl rfl (fun ha => ha) fun _ hk => hk
  | dropSender =>
    have hall : Kept (h.producers.ids.foldl Handoff.abandonProducer h) :=
      List.foldlRecOn (motive := Kept) _ _ kept fun _ kept id _ => kept.abandonProducer id
    exact ⟨hall.line_unfinished, fun ha => absurd ha Bool.false_ne_true⟩
  | dropReceiver =>
    have hall : Kept (h.consumers.ids.foldl Handoff.abandonConsumer h) :=
      List.foldlRecOn (motive := Kept) _ _ kept fun _ kept id _ => kept.abandonConsumer id
    exact hall.congr rfl rfl rfl (fun ha => ha) fun _ hk => hk

theorem run (kept : Kept h) (steps : List (Step α)) : Kept (h.run steps) :=
  run_induction (fun _ _ kept hst => kept.step hst) kept steps

end Kept

/-! ## Polls in an open handoff -/

/-- Is this a poll? -/
def Step.isPoll : Step α → Bool
  | .pollProducer _ | .pollConsumer _ => true
  | _ => false

/-- One poll for each who is unfinished. -/
def everybody (h : Handoff α) : List (Step α) :=
  h.producers.ids.map .pollProducer ++ h.consumers.ids.map .pollConsumer

/-- Who is polled stands in line, or has its slot registered. -/
def InPlace (h : Handoff α) : Step α → Prop
  | .pollProducer id => id ∈ h.line
  | .pollConsumer id => h.consumers.find? id = some .waiting
  | _ => False

/-- Nobody has come. -/
structure Fewer (h h' : Handoff α) : Prop where
  producers : h'.producers.ids.Sublist h.producers.ids
  consumers : h'.consumers.ids.Sublist h.consumers.ids

/-- Nobody has ended, or lost the place that it had. -/
structure Still (h h' : Handoff α) : Prop where
  producers : h'.producers = h.producers
  consumers : h'.consumers.ids = h.consumers.ids
  line : h.line <+: h'.line
  waiting : ∀ k, h.consumers.find? k = some .waiting → h'.consumers.find? k = some .waiting

section Measure

variable {h h' h'' : Handoff α} {st : Step α}

theorem isPoll_of_mem_everybody (hst : st ∈ h.everybody) : st.isPoll = true := by
  rcases List.mem_append.1 hst with hp | hc
  · obtain ⟨id, -, rfl⟩ := List.mem_map.1 hp
    rfl
  · obtain ⟨id, -, rfl⟩ := List.mem_map.1 hc
    rfl

theorem length_everybody (h : Handoff α) :
    h.everybody.length = h.producers.ids.length + h.consumers.ids.length := by
  rw [everybody, List.length_append, List.length_map, List.length_map]

theorem everybody_nodup (numbered : Numbered h) : h.everybody.Nodup := by
  rw [everybody, List.nodup_append]
  refine ⟨numbered.producers_nodup.map fun _ _ heq => Step.pollProducer.inj heq,
    numbered.consumers_nodup.map fun _ _ heq => Step.pollConsumer.inj heq, fun a ha b hb => ?_⟩
  obtain ⟨p, -, rfl⟩ := List.mem_map.1 ha
  obtain ⟨k, -, rfl⟩ := List.mem_map.1 hb
  intro heq
  cases heq

namespace Fewer

theorem refl (h : Handoff α) : Fewer h h := ⟨List.Sublist.refl _, List.Sublist.refl _⟩

theorem trans (first : Fewer h h') (second : Fewer h' h'') : Fewer h h'' :=
  ⟨second.producers.trans first.producers, second.consumers.trans first.consumers⟩

theorem length_le (fewer : Fewer h h') : h'.everybody.length ≤ h.everybody.length := by
  rw [length_everybody, length_everybody]
  exact Nat.add_le_add fewer.producers.length_le fewer.consumers.length_le

end Fewer

namespace Still

theorem refl (h : Handoff α) : Still h h := ⟨rfl, rfl, List.prefix_rfl, fun _ hk => hk⟩

theorem trans (first : Still h h') (second : Still h' h'') : Still h h'' where
  producers := second.producers.trans first.producers
  consumers := second.consumers.trans first.consumers
  line := first.line.trans second.line
  waiting := fun k hk => second.waiting k (first.waiting k hk)

theorem everybody_eq (still : Still h h') : h'.everybody = h.everybody := by
  rw [everybody, still.producers, still.consumers, everybody]

theorem inPlace (still : Still h h') (placed : h.InPlace st) : h'.InPlace st := by
  cases st with
  | pollProducer id => exact still.line.mem placed
  | pollConsumer id => exact still.waiting id placed
  | _ => exact placed

end Still

end Measure

section Poll

variable {h h' : Handoff α} {id : Nat} {st : Step α}

theorem advance_of_isPoll (hpoll : st.isPoll = true) : h.advance st = h.step st := by
  cases st with
  | pollProducer id => rfl
  | pollConsumer id => rfl
  | _ => cases hpoll

theorem Open.poll (isOpen : Open h) (hpoll : st.isPoll = true) : Open (h.advance st) := by
  rw [advance_of_isPoll hpoll, open_iff_flags]
  rw [open_iff_flags] at isOpen
  cases st with
  | pollProducer id => exact (flags_producerPolled (h.pollProducer_spec id)).trans isOpen
  | pollConsumer id => exact (flags_consumerPolled (h.pollConsumer_spec id)).trans isOpen
  | _ => cases hpoll

/-- The ways in which a poll of a producer can go in an open handoff: it delivers, or it stands in
    line. -/
theorem open_producerPolled (isOpen : Open h) {answer : Poll Bool}
    (polled : h.ProducerPolled id answer h') :
    Fewer h h' ∧ h'.dropped = h.dropped ∧ (h'.everybody.length < h.everybody.length ∨
      Still h h' ∧ (id ∈ h.producers.ids → id ∈ h'.line)) := by
  have hline : h.line <+: (h.joinLine id).line ∧ id ∈ (h.joinLine id).line := by
    unfold joinLine
    split
    · exact ⟨List.prefix_rfl, ‹_›⟩
    · exact ⟨List.prefix_append _ _, List.mem_append_right _ List.mem_cons_self⟩
  have hproducers : (h.joinLine id).producers = h.producers := by rw [joinLine_eq]
  have hconsumers : (h.joinLine id).consumers = h.consumers := by rw [joinLine_eq]
  have hhistory : (h.joinLine id).history = h.history := by rw [joinLine_eq]
  have hdropped : (h.joinLine id).dropped = h.dropped := by rw [dropped, hhistory, dropped]
  have hstill : Still h (h.joinLine id) :=
    ⟨hproducers, congrArg Roster.ids hconsumers, hline.1, fun k hk => hconsumers ▸ hk⟩
  have hfewer : Fewer h (h.joinLine id) :=
    ⟨hproducers ▸ List.Sublist.refl _, hconsumers ▸ List.Sublist.refl _⟩
  cases polled with
  | unknown absent =>
    exact ⟨Fewer.refl h, rfl, Or.inr ⟨Still.refl h,
      fun hmem => absurd hmem (Roster.find?_eq_none_iff.1 absent)⟩⟩
  | shut outcome held fired => rw [isOpen.going] at fired; cases fired
  | queued outcome held going behind => exact ⟨hfewer, hdropped, Or.inr ⟨hstill, fun _ => hline.2⟩⟩
  | idle outcome held going first dead alive =>
    exact ⟨⟨hfewer.producers, hfewer.consumers⟩, hdropped, Or.inr
      ⟨⟨hstill.producers, hstill.consumers, hstill.line, hstill.waiting⟩, fun _ => hline.2⟩⟩
  | closed outcome held going first dead gone => rw [isOpen.receiver] at gone; cases gone
  | delivers outcome held going first passed slot rest slots_eq dead live =>
    have hlt : ((h.joinLine id).producers.erase id).ids.length < h.producers.ids.length := by
      rw [hproducers]
      exact Roster.length_ids_erase_lt (Roster.mem_ids_of_find? held)
    have hsub : ((h.joinLine id).producers.erase id).ids.Sublist h.producers.ids := by
      rw [hproducers, Roster.ids_erase]
      exact List.filter_sublist
    have hids := Roster.ids_update h.consumers slot (.filled outcome)
    refine ⟨⟨hsub, hids ▸ List.Sublist.refl _⟩, ?_, Or.inl ?_⟩
    · rw [dropped_note]
      exact (zero_add _).trans hdropped
    · rw [length_everybody, length_everybody]
      exact Nat.add_lt_add_of_lt_of_le hlt (le_of_eq (congrArg List.length hids))

/-- The ways in which a poll of a consumer can go in an open handoff: it returns an outcome, or it
    waits in its slot. -/
theorem open_consumerPolled (isOpen : Open h) {answer : Poll (Option α)}
    (polled : h.ConsumerPolled id answer h') :
    Fewer h h' ∧ h'.dropped = h.dropped ∧ (h'.everybody.length < h.everybody.length ∨
      Still h h' ∧ (id ∈ h.consumers.ids → h'.consumers.find? id = some .waiting)) := by
  cases polled with
  | unknown absent =>
    exact ⟨Fewer.refl h, rfl, Or.inr ⟨Still.refl h,
      fun hmem => absurd hmem (Roster.find?_eq_none_iff.1 absent)⟩⟩
  | shut consumer held fired => rw [isOpen.going] at fired; cases fired
  | waits held going alive => exact ⟨Fewer.refl h, rfl, Or.inr ⟨Still.refl h, fun _ => held⟩⟩
  | closed consumer held going gone empty => rw [isOpen.sender] at gone; cases gone
  | registers held going alive =>
    have hids := Roster.ids_update h.consumers id (.waiting : Consumer α)
    have hself : (h.consumers.update id .waiting).find? id = some .waiting := by
      rw [Roster.find?_update, if_pos rfl, held]
      rfl
    have hothers : ∀ k, h.consumers.find? k = some .waiting →
        (h.consumers.update id .waiting).find? k = some .waiting := by
      intro k hk
      rw [Roster.find?_update]
      split
      · rw [held]
        rfl
      · exact hk
    exact ⟨⟨List.Sublist.refl _, hids ▸ List.Sublist.refl _⟩, rfl,
      Or.inr ⟨⟨rfl, hids, List.prefix_rfl, hothers⟩, fun _ => hself⟩⟩
  | returns outcome held going =>
    have hlt := Roster.length_ids_erase_lt (Roster.mem_ids_of_find? held)
    have hsub : (h.consumers.erase id).ids.Sublist h.consumers.ids := by
      rw [Roster.ids_erase]
      exact List.filter_sublist
    refine ⟨⟨List.Sublist.refl _, hsub⟩, ?_, Or.inl ?_⟩
    · rw [dropped_note]
      exact zero_add _
    · rw [length_everybody, length_everybody]
      exact Nat.add_lt_add_left hlt _

/-- A poll in an open handoff drops nothing, and finishes somebody or puts who is polled in
    place. -/
theorem open_poll (isOpen : Open h) (hpoll : st.isPoll = true) :
    Fewer h (h.advance st) ∧ (h.advance st).dropped = h.dropped ∧
      ((h.advance st).everybody.length < h.everybody.length ∨
        Still h (h.advance st) ∧ (st ∈ h.everybody → (h.advance st).InPlace st)) := by
  rw [advance_of_isPoll hpoll]
  cases st with
  | pollProducer id =>
    have hmem : Step.pollProducer id ∈ h.everybody → id ∈ h.producers.ids := by
      intro hst
      simpa [everybody] using hst
    obtain ⟨hfewer, hdropped, hlt | ⟨hstill, hplace⟩⟩ :=
      open_producerPolled isOpen (h.pollProducer_spec id)
    · exact ⟨hfewer, hdropped, Or.inl hlt⟩
    · exact ⟨hfewer, hdropped, Or.inr ⟨hstill, fun hst => hplace (hmem hst)⟩⟩
  | pollConsumer id =>
    have hmem : Step.pollConsumer id ∈ h.everybody → id ∈ h.consumers.ids := by
      intro hst
      simpa [everybody] using hst
    obtain ⟨hfewer, hdropped, hlt | ⟨hstill, hplace⟩⟩ :=
      open_consumerPolled isOpen (h.pollConsumer_spec id)
    · exact ⟨hfewer, hdropped, Or.inl hlt⟩
    · exact ⟨hfewer, hdropped, Or.inr ⟨hstill, fun hst => hplace (hmem hst)⟩⟩
  | _ => cases hpoll

end Poll

section Polls

variable {h : Handoff α} {polls : List (Step α)}

theorem Open.run_polls (isOpen : Open h) (hpolls : ∀ st ∈ polls, st.isPoll = true) :
    Open (h.run polls) := by
  induction polls generalizing h with
  | nil => exact isOpen
  | cons st polls ih =>
    obtain ⟨hst, hpolls⟩ := List.forall_mem_cons.1 hpolls
    exact ih (isOpen.poll hst) hpolls

/-- Polls in an open handoff drop nothing, and finish somebody or put all who are polled in
    place. -/
theorem open_polls (isOpen : Open h) (hpolls : ∀ st ∈ polls, st.isPoll = true) :
    Fewer h (h.run polls) ∧ (h.run polls).dropped = h.dropped ∧
      ((h.run polls).everybody.length < h.everybody.length ∨
        Still h (h.run polls) ∧ ∀ st ∈ polls, st ∈ h.everybody → (h.run polls).InPlace st) := by
  induction polls generalizing h with
  | nil => exact ⟨Fewer.refl h, rfl, Or.inr ⟨Still.refl h, fun _ hst => absurd hst List.not_mem_nil⟩⟩
  | cons st polls ih =>
    obtain ⟨hst, hpolls⟩ := List.forall_mem_cons.1 hpolls
    obtain ⟨hfewer, hdropped, hnow⟩ := open_poll isOpen hst
    obtain ⟨hfewer', hdropped', hlater⟩ := ih (isOpen.poll hst) hpolls
    rw [run_cons]
    refine ⟨hfewer.trans hfewer', hdropped'.trans hdropped, ?_⟩
    rcases hnow with hlt | ⟨hstill, hplace⟩
    · exact Or.inl (lt_of_le_of_lt hfewer'.length_le hlt)
    rcases hlater with hlt | ⟨hstill', hplaces⟩
    · rw [hstill.everybody_eq] at hlt
      exact Or.inl hlt
    · rw [hstill.everybody_eq] at hplaces
      exact Or.inr ⟨hstill.trans hstill', List.forall_mem_cons.2
        ⟨fun hmem => hstill'.inPlace (hplace hmem), hplaces⟩⟩

end Polls

/-! ## Rounds of polls -/

/-- Rounds of polls: each polls everybody who is unfinished when it begins, once and in any
    order. -/
def Rounds : Handoff α → List (List (Step α)) → Prop
  | _, [] => True
  | h, polls :: rounds => polls.Perm h.everybody ∧ Rounds (h.run polls) rounds

section Rounds

variable {h h' : Handoff α} {id k : Nat}

theorem isPoll_of_rounds {rounds : List (List (Step α))} (hrounds : Rounds h rounds) :
    ∀ st ∈ rounds.flatten, st.isPoll = true := by
  induction rounds generalizing h with
  | nil => exact fun _ hst => absurd hst List.not_mem_nil
  | cons polls rounds ih =>
    obtain ⟨hpolls, hrounds⟩ := hrounds
    intro st hst
    rcases List.mem_append.1 hst with hnow | hlater
    · exact isPoll_of_mem_everybody (hpolls.mem_iff.1 hnow)
    · exact ih hrounds st hlater

/-- The first in line delivers to a consumer that waits. -/
theorem delivers_of_head? (kept : Kept h) (isOpen : Open h) (first : h.line.head? = some id)
    (waiting : h.consumers.find? k = some .waiting) :
    (h.advance (.pollProducer id)).everybody.length < h.everybody.length := by
  have hmem : id ∈ h.line := List.mem_of_mem_head? first
  have hjoin : h.joinLine id = h := by rw [joinLine, if_pos hmem]
  have hslot := kept.waiting_registered isOpen.sender k waiting
  have hlive : h.isLive k = true := isLive_iff.2 waiting
  rcases open_producerPolled isOpen (h.pollProducer_spec id) with ⟨-, -, hlt | ⟨hstill, -⟩⟩
  · exact hlt
  -- it would still be there, but there is no other way for its poll to go
  have hsame : (h.pollProducer id).2.producers = h.producers := hstill.producers
  have polled := h.pollProducer_spec id
  generalize h.pollProducer id = polled' at hsame polled
  obtain ⟨answer, h'⟩ := polled'
  cases polled with
  | unknown absent =>
    exact absurd (kept.line_unfinished id hmem) (Roster.find?_eq_none_iff.1 absent)
  | shut outcome held fired => rw [isOpen.going] at fired; cases fired
  | queued outcome held going behind => rw [hjoin] at behind; exact absurd first behind
  | idle outcome held going first dead alive => rw [dead k hslot] at hlive; cases hlive
  | closed outcome held going first dead gone => rw [isOpen.receiver] at gone; cases gone
  | delivers outcome held going first passed slot rest slots_eq dead live =>
    have hgone : ((h.joinLine id).producers.erase id).find? id = none := by
      rw [Roster.find?_erase, if_pos rfl]
    have hsame : (h.joinLine id).producers.erase id = h.producers := hsame
    rw [hsame, held] at hgone
    cases hgone

/-- When everybody is in place, there is a producer whose poll finishes it, as long as nobody
    ends before. -/
theorem exists_delivering (kept : Kept h) (hproducers : h.producers ≠ [])
    (hconsumers : h.consumers ≠ []) (placed : ∀ st ∈ h.everybody, h.InPlace st) :
    ∃ id, .pollProducer id ∈ h.everybody ∧ ∀ h', Still h h' → Kept h' → Open h' →
      (h'.advance (.pollProducer id)).everybody.length < h'.everybody.length := by
  obtain ⟨⟨p, outcome⟩, hp⟩ := List.exists_mem_of_ne_nil _ hproducers
  obtain ⟨⟨k, consumer⟩, hk⟩ := List.exists_mem_of_ne_nil _ hconsumers
  have hmem : ∀ id ∈ h.producers.ids, .pollProducer id ∈ h.everybody :=
    fun id hid => List.mem_append_left _ (List.mem_map_of_mem hid)
  have hline : p ∈ h.line := placed (.pollProducer p) (hmem p (List.mem_map_of_mem hp))
  have hwaiting : h.consumers.find? k = some .waiting :=
    placed (.pollConsumer k)
      (List.mem_append_right _ (List.mem_map_of_mem (List.mem_map_of_mem hk)))
  cases hcut : h.line with
  | nil => rw [hcut] at hline; cases hline
  | cons id rest =>
    have hid : id ∈ h.line := by
      rw [hcut]
      exact List.mem_cons_self
    refine ⟨id, hmem id (kept.line_unfinished id hid), fun h' still kept' isOpen' => ?_⟩
    have hfirst : h'.line.head? = some id := by
      obtain ⟨more, hmore⟩ := still.line
      rw [← hmore, hcut]
      rfl
    exact delivers_of_head? kept' isOpen' hfirst (still.waiting k hwaiting)

/-- Two rounds finish somebody, as long as there are unfinished producers and consumers. -/
theorem two_rounds (kept : Kept h) (isOpen : Open h) (hproducers : h.producers ≠ [])
    (hconsumers : h.consumers ≠ []) {first second : List (Step α)}
    (hrounds : Rounds h [first, second]) :
    (h.run (first ++ second)).everybody.length < h.everybody.length := by
  obtain ⟨hfirst, hsecond, -⟩ := hrounds
  have hpolls : ∀ st ∈ first, st.isPoll = true :=
    fun st hst => isPoll_of_mem_everybody (hfirst.mem_iff.1 hst)
  have hpolls' : ∀ st ∈ second, st.isPoll = true :=
    fun st hst => isPoll_of_mem_everybody (hsecond.mem_iff.1 hst)
  have isOpen₁ := isOpen.run_polls hpolls
  have hfewer := (open_polls isOpen₁ hpolls').1.length_le
  rw [run_append]
  rcases open_polls isOpen hpolls with ⟨-, -, hlt | ⟨hstill, hplaced⟩⟩
  · exact lt_of_le_of_lt hfewer hlt
  -- the first round finished nobody, and so it put everybody in place
  have kept₁ := kept.run first
  rw [← hstill.everybody_eq]
  have hconsumers₁ : (h.run first).consumers ≠ [] := by
    intro hnone
    have hids := hstill.consumers
    rw [hnone] at hids
    exact hconsumers (List.map_eq_nil_iff.1 hids.symm)
  obtain ⟨id, hid, hdelivers⟩ :=
    exists_delivering kept₁ (hstill.producers.symm ▸ hproducers) hconsumers₁ fun st hst => by
      rw [hstill.everybody_eq] at hst
      exact hplaced st (hfirst.mem_iff.2 hst) hst
  obtain ⟨front, back, rfl⟩ := List.append_of_mem (hsecond.mem_iff.2 hid)
  have hfront : ∀ st ∈ front, st.isPoll = true :=
    fun st hst => hpolls' st (List.mem_append_left _ hst)
  have hback : ∀ st ∈ back, st.isPoll = true :=
    fun st hst => hpolls' st (List.mem_append_right _ (List.mem_cons_of_mem _ hst))
  have isOpen₂ := isOpen₁.run_polls hfront
  have hpoll : (Step.pollProducer id : Step α).isPoll = true := rfl
  have hrest := (open_polls (isOpen₂.poll hpoll) hback).1.length_le
  rw [run_append, run_cons]
  apply lt_of_le_of_lt hrest
  -- somebody ends before the first in line is polled again, or it delivers
  rcases open_polls isOpen₁ hfront with ⟨-, -, hlt | ⟨hstill', -⟩⟩
  · have hfewer' := (open_poll isOpen₂ hpoll).1.length_le
    exact lt_of_le_of_lt hfewer' hlt
  · rw [← hstill'.everybody_eq]
    exact hdelivers _ hstill' (kept₁.run front) isOpen₂

/-- There are no unfinished producers, or no unfinished consumers. -/
def Exhausted (h : Handoff α) : Prop := h.producers = [] ∨ h.consumers = []

/-- When nobody comes, what is done stays done. -/
theorem Exhausted.of_fewer (done : Exhausted h) (fewer : Fewer h h') : Exhausted h' := by
  rcases done with hnone | hnone
  · have hsub := fewer.producers
    rw [hnone] at hsub
    exact Or.inl (List.map_eq_nil_iff.1 (List.sublist_nil.1 hsub))
  · have hsub := fewer.consumers
    rw [hnone] at hsub
    exact Or.inr (List.map_eq_nil_iff.1 (List.sublist_nil.1 hsub))

/-- Twice as many rounds as there are unfinished are enough. -/
theorem done_of_rounds (n : Nat) (kept : Kept h) (isOpen : Open h)
    (hn : h.everybody.length ≤ n) {rounds : List (List (Step α))} (hrounds : Rounds h rounds)
    (hlong : 2 * n ≤ rounds.length) : Exhausted (h.run rounds.flatten) := by
  induction n generalizing h rounds with
  | zero =>
    have hnone := List.length_eq_zero_iff.1 (Nat.le_zero.1 hn)
    have hids := (List.append_eq_nil_iff.1 hnone).1
    have done : Exhausted h := Or.inl (List.map_eq_nil_iff.1 (List.map_eq_nil_iff.1 hids))
    exact done.of_fewer (open_polls isOpen (isPoll_of_rounds hrounds)).1
  | succ n ih =>
    by_cases done : Exhausted h
    · exact done.of_fewer (open_polls isOpen (isPoll_of_rounds hrounds)).1
    obtain ⟨hproducers, hconsumers⟩ := not_or.1 done
    obtain _ | ⟨first, _ | ⟨second, rounds⟩⟩ := rounds
    · exact absurd hlong (by simp)
    · exact absurd hlong (by simp only [List.length_cons, List.length_nil]; omega)
    obtain ⟨hfirst, hsecond, hrounds⟩ := hrounds
    have htwo : Rounds h [first, second] := ⟨hfirst, hsecond, trivial⟩
    have hlt := two_rounds kept isOpen hproducers hconsumers htwo
    have hpolls := isPoll_of_rounds htwo
    rw [List.flatten_cons, List.flatten_cons, List.flatten_nil, List.append_nil] at hpolls
    rw [List.flatten_cons, List.flatten_cons, ← List.append_assoc, run_append]
    rw [← run_append] at hrounds
    simp only [List.length_cons] at hlong
    exact ih (kept.run _) (isOpen.run_polls hpolls) (by omega) hrounds (by omega)

end Rounds

/-- **Progress.**  As long as the shutdown has not been fired and both halves are there, whatever
    happened before: two rounds of polls, each over everybody who is unfinished and in any order,
    finish somebody if there are unfinished producers and consumers; after twice as many rounds as
    there are unfinished, no producer or no consumer is left; and no outcome is dropped on the
    way. -/
theorem rounds_finish (steps : List (Step α)) (isOpen : Open (after steps)) :
    ((after steps).producers ≠ [] → (after steps).consumers ≠ [] →
      ∀ first second, Rounds (after steps) [first, second] →
        ∃ st ∈ (after steps).everybody, st ∉ ((after steps).run (first ++ second)).everybody) ∧
      ∀ rounds, Rounds (after steps) rounds →
        ((after steps).run rounds.flatten).dropped = (after steps).dropped ∧
          (2 * (after steps).everybody.length ≤ rounds.length →
            Exhausted ((after steps).run rounds.flatten)) := by
  have kept : Kept (after steps) := Kept.start.run steps
  constructor
  · intro hproducers hconsumers first second hrounds
    have hlt := two_rounds kept isOpen hproducers hconsumers hrounds
    -- otherwise all of them would be left
    by_contra hall
    have hsub : (after steps).everybody ⊆ ((after steps).run (first ++ second)).everybody := by
      intro st hst
      by_contra hgone
      exact hall ⟨st, hst, hgone⟩
    have nodup := everybody_nodup (Sound.after steps).toNumbered
    exact absurd (List.subperm_of_subset nodup hsub).length_le (Nat.not_le.2 hlt)
  · intro rounds hrounds
    exact ⟨(open_polls isOpen (isPoll_of_rounds hrounds)).2.1,
      done_of_rounds _ kept isOpen le_rfl hrounds⟩

/-- A producer is given up at the head of the line, and a consumer after it has registered: its dead
    slot is in front of the live one.  Two rounds find the match that is left. -/
theorem rounds_finish_sample :
    let steps : List (Step Nat) :=
      [.submit 1 10, .pollProducer 1, .submit 2 20, .pollProducer 2, .request 0, .request 1,
        .pollConsumer 0, .abandonConsumer 0, .abandonProducer 1]
    let first : List (Step Nat) := [.pollProducer 2, .pollConsumer 1]
    let second : List (Step Nat) := [.pollConsumer 1, .pollProducer 2]
    Open (after steps) ∧ Rounds (after steps) [first, second] ∧
      ∃ st ∈ (after steps).everybody, st ∉ ((after steps).run (first ++ second)).everybody := by
  intro steps first second
  have isOpen : Open (after steps) := ⟨rfl, rfl, rfl⟩
  have hrounds : Rounds (after steps) [first, second] := ⟨by decide, by decide, trivial⟩
  exact ⟨isOpen, hrounds, (rounds_finish steps isOpen).1 (by decide) (by decide) first second
    hrounds⟩

end Gatehouse.Handoff
