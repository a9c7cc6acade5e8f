import Gatehouse.Proofs.Handshake.Agreement

/-!
# The acts of an honest handshake

An initiator that was given the responder's public key, and that responder: the three acts that they
exchange when they draw two given secrets, with the machines behind each of them (`Acts`).  There
are such acts whatever secrets are drawn (`exists_acts`), and act one is the same for every secret
that the responder may draw.
-/

namespace Gatehouse

namespace Octets

/-- An act is not empty. -/
theorem bytes_ne_nil {n : Nat} (a : Octets (n + 1)) : a.bytes ≠ [] := by
  intro h
  have length := a.length_eq
  rw [h] at length
  cases length

/-- Acts of one length that begin alike are the same. -/
theorem eq_of_prefix {n : Nat} {a b : Octets n} {x y : Bytes}
    (h : a.bytes ++ x <+: b.bytes ++ y) : a = b ∧ x <+: y := by
  obtain ⟨z, hz⟩ := h
  rw [List.append_assoc] at hz
  obtain ⟨hab, hxy⟩ := List.append_inj hz (a.length_eq.trans b.length_eq.symm)
  exact ⟨Octets.ext hab, z, hxy⟩

end Octets

namespace Machine

variable {S : Suite} {m m' : Machine}

/-- An act that was sent is what the machine's own operation has given. -/
theorem sent_of_answer {n : Nat} {answer : Except HandshakeError (Octets n) × Machine}
    {act : Octets n}
    (h : (answer.1.map fun a => Reply.act a.bytes, answer.2) = (.ok (.act act.bytes), m')) :
    answer = (.ok act, m') := by
  obtain ⟨e | a, m₁⟩ := answer
  · cases h
  · obtain ⟨hact, rfl⟩ := Prod.mk.inj h
    have hbytes : a.bytes = act.bytes := Reply.act.inj (Except.ok.inj hact)
    rw [Octets.ext hbytes]

theorem accepted_of_answer {answer : Except HandshakeError Unit × Machine}
    (h : (answer.1.map fun _ => Reply.accepted, answer.2) = (.ok .accepted, m')) :
    answer = (.ok (), m') := by
  obtain ⟨e | ⟨⟩, m₁⟩ := answer
  · cases h
  · cases h
    rfl

end Machine

/-- The acts that an initiator and a responder exchange with these draws, with the machines that they
    leave behind on either side. -/
structure Acts (S : Suite) (i r : Identity) (eᵢ eᵣ : Secret) where
  one : Octets keyActSize
  two : Octets keyActSize
  three : Octets staticActSize
  /-- The initiator when act one is made. -/
  asking : Machine
  /-- The responder when act one is accepted. -/
  asked : Machine
  /-- The responder when act two is made. -/
  answering : Machine
  /-- The initiator when act two is accepted. -/
  answered : Machine
  /-- The initiator when act three is made. -/
  dialed : Machine
  /-- The responder when act three is accepted. -/
  secured : Machine
  sendOne : (Machine.initiator S i (r.publicKey S)).sendActOne S eᵢ = (.ok one, asking)
  receiveOne : (Machine.responder S r).receiveActOne S one = (.ok (), asked)
  sendTwo : asked.sendActTwo S eᵣ = (.ok two, answering)
  receiveTwo : asking.receiveActTwo S two = (.ok (), answered)
  sendThree : answered.sendActThree S = (.ok three, dialed)
  receiveThree : answering.receiveActThree S three = (.ok (), secured)
  remote : secured.remoteStatic = some (i.publicKey S)
  /-- The keys for the two directions are mirrored. -/
  mirrored : ∃ keys, dialed.sessionKeys = some keys ∧
    secured.sessionKeys = some ⟨keys.recv, keys.send⟩

namespace Acts

variable {S : Suite} {i r : Identity} {eᵢ eᵣ eᵣ' : Secret}

/-- Whatever the two draw, there are the acts. -/
theorem exists_acts (agreement : S.AgreementLaws) (cipher : S.CipherLaws) (i r : Identity)
    (eᵢ eᵣ : Secret) : Nonempty (Acts S i r eᵢ eᵣ) := by
  have h₀ : Machine.Lockstep S i r eᵢ eᵣ .actOne (.initiator S i (r.publicKey S))
      (.responder S r) := Machine.lockstep_fresh
  obtain ⟨one, a₁, b₁, hsend₁, hreceive₁, h₁⟩ := h₀.actOne agreement cipher
  obtain ⟨two, a₂, b₂, hsend₂, hreceive₂, h₂⟩ := h₁.actTwo agreement cipher
  obtain ⟨three, a₃, b₃, hsend₃, hreceive₃, h₃⟩ := h₂.actThree agreement cipher
  exact ⟨one, two, three, a₁, b₁, b₂, a₂, a₃, b₃, Machine.sent_of_answer hsend₁,
    Machine.accepted_of_answer hreceive₁, Machine.sent_of_answer hsend₂,
    Machine.accepted_of_answer hreceive₂, Machine.sent_of_answer hsend₃,
    Machine.accepted_of_answer hreceive₃, h₃.exchanged.1, h₃.exchanged.2⟩

/-- The initiator makes act one before it hears anything from the responder. -/
theorem one_eq (A : Acts S i r eᵢ eᵣ) (B : Acts S i r eᵢ eᵣ') :
    B.one = A.one ∧ B.asking = A.asking := by
  obtain ⟨hone, hasking⟩ := Prod.mk.inj (B.sendOne.symm.trans A.sendOne)
  exact ⟨Except.ok.inj hone, hasking⟩

end Acts

end Gatehouse
