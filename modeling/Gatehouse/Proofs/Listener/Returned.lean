import Gatehouse.Proofs.Listener.Front
import Mathlib.Data.Finset.Card

/-!
# No more connections come out than went in

A connection that a call is answered was in the call's slot, and before that with the handshake that
submitted it.  Numbers of calls may be used again, so what is on its way is counted by the numbers
under which it is found (`Roster.having`).  A poll moves at most one thing on
(`inside_producerPolled`, `inside_consumerPolled`), and only a submission brings one, so no more
connections have been returned than were submitted (`Front.Drawn`).
-/

namespace Gatehouse

/-! ## Counting what is found -/

namespace Roster

variable {α : Type} {r r' : Roster α} {id : Nat} {a : α} (p : α → Bool)

/-- The numbers under which there is something of a kind. -/
def having (r : Roster α) : Finset Nat := r.ids.toFinset.filter fun id => (r.find? id).any p

variable {p}

theorem mem_having : id ∈ r.having p ↔ ∃ a, r.find? id = some a ∧ p a = true := by
  rw [having, Finset.mem_filter, List.mem_toFinset, ← find?_isSome_iff]
  cases r.find? id <;> simp

variable (p)

/-- With at most one thing that is new there is at most one more of its kind. -/
theorem card_having_le (id : Nat)
    (found : ∀ k b, r'.find? k = some b → r.find? k = some b ∨ k = id ∧ b = a) :
    (r'.having p).card ≤ (r.having p).card + (p a).toNat := by
  cases kind : p a with
  | true =>
    have covered : r'.having p ⊆ insert id (r.having p) := by
      intro k hk
      obtain ⟨b, hfind, hb⟩ := mem_having.1 hk
      rcases found k b hfind with old | ⟨rfl, _⟩
      · exact Finset.mem_insert_of_mem (mem_having.2 ⟨b, old, hb⟩)
      · exact Finset.mem_insert_self k _
    exact (Finset.card_le_card covered).trans (Finset.card_insert_le _ _)
  | false =>
    have covered : r'.having p ⊆ r.having p := by
      intro k hk
      obtain ⟨b, hfind, hb⟩ := mem_having.1 hk
      rcases found k b hfind with old | ⟨_, rfl⟩
      · exact mem_having.2 ⟨b, old, hb⟩
      · exact absurd (kind.symm.trans hb) Bool.false_ne_true
    exact Finset.card_le_card covered

theorem card_having_enter (r : Roster α) (id : Nat) (a : α) :
    ((r.enter id a).having p).card ≤ (r.having p).card + (p a).toNat :=
  card_having_le p id fun _ _ => find?_enter_cases

theorem card_having_update (r : Roster α) (id : Nat) (a : α) :
    ((r.update id a).having p).card ≤ (r.having p).card + (p a).toNat := by
  refine card_having_le p id fun k b found => ?_
  rw [find?_update] at found
  split at found
  · obtain ⟨_, _, rfl⟩ := Option.map_eq_some_iff.1 found
    exact Or.inr ⟨‹_›, rfl⟩
  · exact Or.inl found

theorem having_erase (r : Roster α) (id : Nat) : (r.erase id).having p = (r.having p).erase id := by
  ext k
  rw [Finset.mem_erase, mem_having, mem_having, find?_erase]
  by_cases hk : k = id <;> simp [hk]

theorem card_having_erase_le (r : Roster α) (id : Nat) :
    ((r.erase id).having p).card ≤ (r.having p).card := by
  rw [having_erase]
  exact Finset.card_erase_le

/-- What is struck out is one less of its kind. -/
theorem card_having_erase (held : r.find? id = some a) :
    ((r.erase id).having p).card + (p a).toNat ≤ (r.having p).card := by
  cases kind : p a with
  | true =>
    rw [having_erase]
    exact (Finset.card_erase_add_one (mem_having.2 ⟨a, held, kind⟩)).le
  | false => exact card_having_erase_le p r id

end Roster

/-! ## What is on its way through the handoff -/

section Kinds

variable {α : Type} (p : α → Bool)

/-- Is there an outcome of a kind in a consumer's slot? -/
def Consumer.holds : Consumer α → Bool
  | .filled outcome => p outcome
  | _ => false

namespace Handoff

variable {h h' : Handoff α} {id : Nat} {outcome : α}

/-- How many outcomes of a kind are with producers or in slots. -/
def inside (h : Handoff α) : Nat :=
  (h.producers.having p).card + (h.consumers.having (Consumer.holds p)).card

/-- The producers that came with outcomes of a kind, the latest first. -/
def submitters (h : Handoff α) : List Nat :=
  h.history.filterMap fun
    | .submitted id outcome => if p outcome then some id else none
    | _ => none

theorem submitters_submit (h : Handoff α) (id : Nat) (outcome : α) :
    (h.submit id outcome).submitters p =
      if p outcome then id :: h.submitters p else h.submitters p := by
  unfold submitters submit note
  rw [List.filterMap_cons]
  by_cases kind : p outcome = true
  · simp only [if_pos kind]
  · simp only [if_neg kind]

theorem length_submitters_submit (h : Handoff α) (id : Nat) (outcome : α) :
    ((h.submit id outcome).submitters p).length = (h.submitters p).length + (p outcome).toNat := by
  rw [submitters_submit]
  cases p outcome <;> rfl

/-- A producer came as often with outcomes of a kind as such came under its number. -/
theorem count_submitters (h : Handoff α) (id : Nat) :
    (h.submitters p).count id = (h.submittedBy id).countP p := by
  rw [submitters, submittedBy, List.count, List.countP_filterMap, List.countP_filterMap]
  refine List.countP_congr fun event _ => ?_
  cases event with
  | submitted k outcome =>
    by_cases kind : p outcome = true <;> by_cases hk : k = id <;> simp [kind, hk]
  | _ => rfl

theorem inside_submit (h : Handoff α) (id : Nat) (outcome : α) :
    (h.submit id outcome).inside p ≤ h.inside p + (p outcome).toNat := by
  have entered := Roster.card_having_enter p h.producers id outcome
  show ((h.producers.enter id outcome).having p).card +
    (h.consumers.having (Consumer.holds p)).card ≤ _
  unfold inside
  omega

theorem inside_request (h : Handoff α) (id : Nat) : (h.request id).inside p ≤ h.inside p :=
  Nat.add_le_add_left (Roster.card_having_enter (Consumer.holds p) h.consumers id .fresh) _

theorem inside_abandonConsumer (h : Handoff α) (id : Nat) :
    (h.abandonConsumer id).inside p ≤ h.inside p := by
  unfold inside
  rw [producers_abandonConsumer, abandonConsumer_consumers]
  exact Nat.add_le_add_left (Roster.card_having_erase_le _ h.consumers id) _

theorem submitters_abandonConsumer (h : Handoff α) (id : Nat) :
    (h.abandonConsumer id).submitters p = h.submitters p := by
  unfold abandonConsumer
  cases h.consumers.find? id with
  | none => rfl
  | some consumer => cases consumer <;> rfl

/-- A producer that ends takes its outcome away, or passes it into a slot. -/
theorem inside_producerPolled {answer : Poll Bool} (polled : h.ProducerPolled id answer h') :
    h'.inside p ≤ h.inside p ∧ h'.submitters p = h.submitters p := by
  have joined : h.joinLine id = { h with line := (h.joinLine id).line } := joinLine_eq h id
  have left := Roster.card_having_erase_le p h.producers id
  have fails : ∀ outcome, (h.failProducer id outcome).inside p ≤ h.inside p :=
    fun _ => Nat.add_le_add_right left _
  cases polled with
  | unknown absent => exact ⟨Nat.le_refl _, rfl⟩
  | shut outcome held fired => exact ⟨fails outcome, rfl⟩
  | queued outcome held going behind =>
    rw [joined]
    exact ⟨Nat.le_refl _, rfl⟩
  | idle outcome held going first dead alive =>
    rw [joined]
    exact ⟨Nat.le_refl _, rfl⟩
  | closed outcome held going first dead gone =>
    rw [joined]
    exact ⟨fails outcome, rfl⟩
  | delivers outcome held going first passed slot rest slots_eq dead live =>
    have passed := Roster.card_having_erase p held
    have filled : ((h.consumers.update slot (.filled outcome)).having (Consumer.holds p)).card ≤
        (h.consumers.having (Consumer.holds p)).card + (p outcome).toNat :=
      Roster.card_having_update (Consumer.holds p) h.consumers slot (.filled outcome)
    rw [joined]
    refine ⟨?_, rfl⟩
    show ((h.producers.erase id).having p).card +
      ((h.consumers.update slot (.filled outcome)).having (Consumer.holds p)).card ≤ _
    unfold inside
    omega

/-- How many outcomes of a kind a poll of a consumer returns. -/
def given : Poll (Option α) → Nat
  | .ready (some outcome) => (p outcome).toNat
  | _ => 0

/-- A consumer that ends takes away what is in its slot, and that is all that it returns. -/
theorem inside_consumerPolled {answer : Poll (Option α)} (polled : h.ConsumerPolled id answer h') :
    h'.inside p + given p answer ≤ h.inside p ∧ h'.submitters p = h.submitters p := by
  have closed : ∀ {consumer}, h.consumers.find? id = some consumer →
      (h.closeConsumer id consumer).inside p ≤ h.inside p ∧
        (h.closeConsumer id consumer).submitters p = h.submitters p := by
    intro consumer held
    rw [closeConsumer_eq held]
    exact ⟨inside_abandonConsumer p h id, submitters_abandonConsumer p h id⟩
  cases polled with
  | unknown absent => exact ⟨Nat.le_refl _, rfl⟩
  | shut consumer held fired => exact closed held
  | registers held going alive =>
    have registered := Roster.card_having_update (Consumer.holds p) h.consumers id .waiting
    exact ⟨Nat.add_le_add_left registered _, rfl⟩
  | waits held going alive => exact ⟨Nat.le_refl _, rfl⟩
  | closed consumer held going gone empty => exact closed held
  | returns outcome held going =>
    have taken := Roster.card_having_erase (Consumer.holds p) held
    exact ⟨(Nat.add_assoc _ _ _).trans_le (Nat.add_le_add_left taken _), rfl⟩

end Handoff

end Kinds

/-! ## What calls return -/

namespace Listener

/-- The connections that calls have returned, the latest first. -/
def Front.returned (f : Front) : List SecuredConnection := f.answers.filterMap (·.2.toOption)

/-- Every connection that was returned or is on its way to a call was submitted. -/
def Front.Drawn (f : Front) : Prop :=
  f.returned.length + f.handoff.inside Except.isOk ≤ (f.handoff.submitters Except.isOk).length

namespace Front

variable {f f' : Front}

theorem Drawn.submit (drawn : f.Drawn) (id : Nat) (outcome : Outcome) :
    Drawn { f with handoff := f.handoff.submit id outcome } := by
  have entered := f.handoff.inside_submit Except.isOk id outcome
  unfold Drawn at drawn ⊢
  rw [Handoff.length_submitters_submit]
  show f.returned.length + (f.handoff.submit id outcome).inside Except.isOk ≤ _
  omega

/-- A step of the handoff that brings nothing and returns so much. -/
theorem Drawn.mono (drawn : f.Drawn) {n : Nat}
    (returned : f'.returned.length = f.returned.length + n)
    (kept : f'.handoff.inside Except.isOk + n ≤ f.handoff.inside Except.isOk ∧
      f'.handoff.submitters Except.isOk = f.handoff.submitters Except.isOk) : f'.Drawn := by
  unfold Drawn at drawn ⊢
  rw [kept.2]
  omega

theorem Drawn.serve (drawn : f.Drawn) (serve : f.Serve f') : f'.Drawn := by
  have polledBy : ∀ {call answer handoff}, f.handoff.pollConsumer call = (answer, handoff) →
      handoff.inside Except.isOk + Handoff.given Except.isOk answer ≤
          f.handoff.inside Except.isOk ∧
        handoff.submitters Except.isOk = f.handoff.submitters Except.isOk := by
    intro call answer handoff polled
    have spec := Handoff.inside_consumerPolled Except.isOk (f.handoff.pollConsumer_spec call)
    rw [polled] at spec
    exact spec
  cases serve with
  | still => exact drawn
  | asks call => exact drawn.mono (n := 0) rfl ⟨f.handoff.inside_request Except.isOk call, rfl⟩
  | abandons call =>
    exact drawn.mono (n := 0) rfl ⟨f.handoff.inside_abandonConsumer Except.isOk call,
      f.handoff.submitters_abandonConsumer Except.isOk call⟩
  | polls id =>
    exact drawn.mono (n := 0) rfl
      (Handoff.inside_producerPolled Except.isOk (f.handoff.pollProducer_spec id))
  | submits id outcome own => exact drawn.submit id outcome
  | waits call handoff polled => exact drawn.mono rfl (polledBy polled)
  | answers call outcome handoff polled =>
    refine drawn.mono ?_ (polledBy polled)
    cases outcome <;> rfl
  | closes call handoff polled => exact drawn.mono rfl (polledBy polled)

theorem Drawn.move (drawn : f.Drawn) (move : f.Move f') : f'.Drawn := by
  cases move with
  | serves serve => exact drawn.serve serve
  | refuses error socket polled => exact drawn.submit loopProducer (.error (.accept error))
  | arrives | fires | empties | takes => exact drawn

end Front

end Listener

end Gatehouse
