import Gatehouse.Crypto.ChaCha20
import Gatehouse.Crypto.Poly1305

/-!
# ChaCha20-Poly1305

The sealing of RFC 8439 with a counter for a nonce: a sealed text is the masked text followed by a
tag over it and over data that both sides know.
-/

namespace Gatehouse.ChaChaPoly

/-- The length of a tag in bytes. -/
def tagSize : Nat := 16

/-- Four zero bytes and the counter in eight bytes, least significant first. -/
def nonce (counter : UInt64) : Octets 12 :=
  ⟨[0, 0, 0, 0] ++ Bytes.ofNatLE 8 counter.toNat, by simp⟩

/-- Zeros that fill a string up to whole blocks of sixteen bytes. -/
def padding (b : Bytes) : Bytes := List.replicate ((16 - b.length % 16) % 16) 0

/-- The tag of a masked text with the data known to both sides. -/
def tag (key : Key) (counter : UInt64) (known masked : Bytes) : Octets 16 :=
  -- block zero of the key stream gives the key of the tag; texts are masked from block one on
  Poly1305.tag ((ChaCha20.block key (nonce counter) 0).take 32)
    (known ++ padding known ++ masked ++ padding masked
      ++ Bytes.ofNatLE 8 known.length ++ Bytes.ofNatLE 8 masked.length)

/-- Is a text of this length within the block counter of the cipher? -/
def fits (length : Nat) : Bool := length / 64 < UInt32.size - 1

/-- Seal a text: none if it is too long for the cipher. -/
def sealText (key : Key) (counter : UInt64) (known text : Bytes) : Option Bytes :=
  if fits text.length then
    let masked := ChaCha20.mask key (nonce counter) 1 text
    some (masked ++ (tag key counter known masked).bytes)
  else none

/-- Open a sealed text: none if it is shorter than a tag, too long, or its tag is not the one that
    belongs to its other bytes. -/
def openText (key : Key) (counter : UInt64) (known sealedText : Bytes) : Option Bytes :=
  if sealedText.length < tagSize then none
  else
    let masked := sealedText.take (sealedText.length - tagSize)
    let received := sealedText.drop (sealedText.length - tagSize)
    if fits masked.length ∧ received = (tag key counter known masked).bytes then
      some (ChaCha20.mask key (nonce counter) 1 masked)
    else none

/-- A sealed text is longer than its text by a tag. -/
theorem length_of_sealText {key : Key} {counter : UInt64} {known text c : Bytes}
    (h : sealText key counter known text = some c) : c.length = text.length + 16 := by
  unfold sealText at h
  split at h
  · cases h
    simp [(tag key counter known _).length_eq]
  · cases h

/-- What opens is longer than its text by a tag. -/
theorem length_of_openText {key : Key} {counter : UInt64} {known c text : Bytes}
    (h : openText key counter known c = some text) : c.length = text.length + 16 := by
  unfold openText at h
  split at h
  · cases h
  · rename_i hlen
    obtain ⟨_, h⟩ := Option.ite_none_right_eq_some.1 h
    cases h
    simp only [tagSize] at hlen
    simp only [tagSize, ChaCha20.length_mask, List.length_take]; omega

end Gatehouse.ChaChaPoly
