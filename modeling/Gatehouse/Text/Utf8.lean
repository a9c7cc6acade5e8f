import Gatehouse.Bytes

/-!
# UTF-8

The bytes of a text, and the text of bytes that are one.
-/

namespace Gatehouse.Utf8

/-- The UTF-8 form of a text. -/
def encode (s : String) : Bytes := s.toByteArray.data.toList

/-- The text whose UTF-8 form these bytes are, if they are one. -/
def decode? (b : Bytes) : Option String := String.fromUTF8? ⟨b.toArray⟩

theorem decode?_encode (s : String) : decode? (encode s) = some s := by
  have h : (⟨(encode s).toArray⟩ : ByteArray) = s.toByteArray := by
    simp only [encode, Array.toArray_toList]
  rw [decode?, h]
  simp [String.fromUTF8?, String.fromUTF8, s.isValidUTF8]

/-- Only the bytes of a text are read as one. -/
theorem eq_encode_of_decode? {b : Bytes} {s : String} (h : decode? b = some s) : b = encode s := by
  unfold decode? at h
  simp only [String.fromUTF8?] at h
  split at h
  · cases h; simp [encode, String.fromUTF8]
  · cases h

theorem decode?_eq_some_iff {b : Bytes} {s : String} : decode? b = some s ↔ b = encode s :=
  ⟨eq_encode_of_decode?, fun h => h ▸ decode?_encode s⟩

end Gatehouse.Utf8
