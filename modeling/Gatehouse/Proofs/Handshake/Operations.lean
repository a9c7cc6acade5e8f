import Gatehouse.Handshake.Machine

/-!
# Whose turn it is

Each of the six operations belongs to one role at one stage.  Any other machine refuses it and stays
as it was (`perform_of_not_owed`), so that operations which are not due can be struck out of a run
(`performAll_strays`).  Whatever goes wrong with an operation, the error names its act
(`act_of_perform`).
-/

namespace Gatehouse

/-- The act that an error names. -/
def HandshakeError.act : HandshakeError → Act
  | .unknownVersion act _ | .invalidKey act | .badTag act | .outOfOrder act _ | .cipher act => act

namespace Machine

/-- The act that an operation is about. -/
def Operation.act : Operation → Act
  | .sendOne _ | .receiveOne _ => .one
  | .sendTwo _ | .receiveTwo _ => .two
  | .sendThree | .receiveThree _ => .three

/-- The role whose operation it is, and the stage at which it is due. -/
def Operation.owner : Operation → Role × Stage
  | .sendOne _ => (.initiator, .actOne)
  | .receiveOne _ => (.responder, .actOne)
  | .sendTwo _ => (.responder, .actTwo)
  | .receiveTwo _ => (.initiator, .actTwo)
  | .sendThree => (.initiator, .actThree)
  | .receiveThree _ => (.responder, .actThree)

variable (S : Suite)

theorem owes_iff {m : Machine} {role : Role} {stage : Stage} :
    m.owes role stage = true ↔ (role, stage) = (m.role, m.stage) := by
  simp only [owes, Bool.and_eq_true, beq_iff_eq, Prod.mk.injEq]
  exact ⟨fun h => ⟨h.1.symm, h.2.symm⟩, fun h => ⟨h.1.symm, h.2.symm⟩⟩

/-- An operation that is not due is refused and changes nothing. -/
theorem perform_of_not_owed {m : Machine} {op : Operation} (h : op.owner ≠ (m.role, m.stage)) :
    m.perform S op = (.error (.outOfOrder op.act m.role), m) := by
  have hno : ∀ {role stage}, op.owner = (role, stage) → ¬ m.owes role stage = true := by
    intro role stage ho howes
    exact h (ho.trans (owes_iff.1 howes))
  cases op with
  | sendOne e => rw [perform, sendActOne, if_neg (hno rfl)]; rfl
  | receiveOne a => rw [perform, receiveActOne, if_neg (hno rfl)]; rfl
  | sendTwo e => rw [perform, sendActTwo, if_neg (hno rfl)]; rfl
  | receiveTwo a => rw [perform, receiveActTwo, if_neg (hno rfl)]; rfl
  | sendThree => rw [perform, sendActThree, if_neg (hno rfl)]; rfl
  | receiveThree a => rw [perform, receiveActThree, if_neg (hno rfl)]; rfl

/-! ## Errors -/

section Errors

variable {S} {m m' : Machine} {e : HandshakeError}

theorem act_of_sendActOne {ephemeral : Secret} (h : m.sendActOne S ephemeral = (.error e, m')) :
    e.act = .one := by
  unfold sendActOne at h
  split at h
  · split at h
    · cases h
      rfl
    · split at h <;> cases h <;> rfl
  · cases h
    rfl

theorem act_of_receiveActOne {act : Octets keyActSize}
    (h : m.receiveActOne S act = (.error e, m')) : e.act = .one := by
  unfold receiveActOne at h
  split at h
  · split at h <;> cases h <;> rfl
  · cases h
    rfl

theorem act_of_sendActTwo {ephemeral : Secret} (h : m.sendActTwo S ephemeral = (.error e, m')) :
    e.act = .two := by
  unfold sendActTwo at h
  split at h
  · split at h
    · cases h
      rfl
    · split at h <;> cases h <;> rfl
  · cases h
    rfl

theorem act_of_receiveActTwo {act : Octets keyActSize}
    (h : m.receiveActTwo S act = (.error e, m')) : e.act = .two := by
  unfold receiveActTwo at h
  split at h
  · split at h <;> cases h <;> rfl
  · cases h
    rfl

theorem act_of_sendActThree (h : m.sendActThree S = (.error e, m')) : e.act = .three := by
  unfold sendActThree at h
  simp only at h
  split at h
  · split at h
    · cases h
      rfl
    split at h
    · cases h
      rfl
    split at h
    · cases h
      rfl
    split at h <;> cases h
    rfl
  · cases h
    rfl

theorem act_of_receiveActThree {act : Octets staticActSize}
    (h : m.receiveActThree S act = (.error e, m')) : e.act = .three := by
  unfold receiveActThree at h
  simp only at h
  split at h
  · split at h
    · cases h
      rfl
    split at h
    · cases h
      rfl
    split at h
    · cases h
      rfl
    split at h
    · cases h
      rfl
    split at h <;> cases h
    rfl
  · cases h
    rfl

/-- An error is not changed by what is made of a result. -/
theorem answer_of_error {α : Type} {answer : Except HandshakeError α × Machine} {f : α → Reply}
    (h : (answer.1.map f, answer.2) = (.error e, m')) : answer = (.error e, m') := by
  obtain ⟨e' | a, m₁⟩ := answer
  · cases h
    rfl
  · cases h

/-- Whatever goes wrong with an operation, the error names the operation's act. -/
theorem act_of_perform {op : Operation} (h : m.perform S op = (.error e, m')) :
    e.act = op.act := by
  cases op with
  | sendOne ephemeral => exact act_of_sendActOne (answer_of_error h)
  | receiveOne act => exact act_of_receiveActOne (answer_of_error h)
  | sendTwo ephemeral => exact act_of_sendActTwo (answer_of_error h)
  | receiveTwo act => exact act_of_receiveActTwo (answer_of_error h)
  | sendThree => exact act_of_sendActThree (answer_of_error h)
  | receiveThree act => exact act_of_receiveActThree (answer_of_error h)

end Errors

/-! ## Runs -/

theorem performAll_cons (m : Machine) (op : Operation) (ops : List Operation) :
    m.performAll S (op :: ops) =
      ((m.perform S op).1 :: ((m.perform S op).2.performAll S ops).1,
        ((m.perform S op).2.performAll S ops).2) := rfl

theorem performAll_append (m : Machine) (ops more : List Operation) :
    m.performAll S (ops ++ more) =
      ((m.performAll S ops).1 ++ ((m.performAll S ops).2.performAll S more).1,
        ((m.performAll S ops).2.performAll S more).2) := by
  induction ops generalizing m with
  | nil => rfl
  | cons op ops ih => rw [List.cons_append, performAll_cons, ih, performAll_cons]; rfl

/-- How a machine of this role refuses operations that are not due. -/
def refusals (role : Role) (ops : List Operation) : List (Except HandshakeError Reply) :=
  ops.map fun op => .error (.outOfOrder op.act role)

/-- A machine refuses every operation of a list of which none is due, and stays as it was. -/
theorem performAll_strays {m : Machine} {role : Role} {stage : Stage} (hrole : m.role = role)
    (hstage : m.stage = stage) {strays : List Operation}
    (hstrays : ∀ op ∈ strays, op.owner ≠ (role, stage)) :
    m.performAll S strays = (refusals role strays, m) := by
  subst hrole hstage
  induction strays with
  | nil => rfl
  | cons op strays ih =>
    have hop := perform_of_not_owed S (hstrays op (List.mem_cons_self ..))
    have hrest := ih fun op hmem => hstrays op (List.mem_cons_of_mem _ hmem)
    rw [performAll_cons, hop, hrest]
    rfl

/-- Operations that are not due are refused on the way to the next one. -/
theorem performAll_strays_append {m m' : Machine} {role : Role} {stage : Stage}
    (hrole : m.role = role) (hstage : m.stage = stage) {strays rest : List Operation}
    {op : Operation} {answer : Except HandshakeError Reply}
    (hstrays : ∀ op ∈ strays, op.owner ≠ (role, stage)) (hop : m.perform S op = (answer, m')) :
    m.performAll S (strays ++ op :: rest) =
      (refusals role strays ++ answer :: (m'.performAll S rest).1, (m'.performAll S rest).2) := by
  rw [performAll_append, performAll_strays S hrole hstage hstrays, performAll_cons, hop]

end Machine

end Gatehouse
