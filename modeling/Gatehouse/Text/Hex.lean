import Gatehouse.Bytes

/-!
# Hexadecimal text

Bytes are written as two lower-case digits each.  Reading takes digits of either case and reports
the first thing that is wrong, looking at the parity of the byte count before it looks at any digit.
-/

namespace Gatehouse.Hex

/-- The lower-case digit of a value below sixteen. -/
def digit (v : UInt8) : Char :=
  if v < 10 then Char.ofNat (48 + v.toNat) else Char.ofNat (87 + v.toNat)

/-- Two digits for each byte, the high half first. -/
def encodeChars : Bytes → List Char
  | [] => []
  | b :: rest => digit (b / 16) :: digit (b % 16) :: encodeChars rest

/-- The text of a string of bytes. -/
def encode (b : Bytes) : String := String.ofList (encodeChars b)

/-- The value of the digit that an ASCII byte spells. -/
def digitValue? (c : UInt8) : Option UInt8 :=
  if 48 ≤ c ∧ c ≤ 57 then some (c - 48)
  else if 97 ≤ c ∧ c ≤ 102 then some (c - 87)
  else if 65 ≤ c ∧ c ≤ 70 then some (c - 55)
  else none

/-- Why a text is not a string of bytes. -/
inductive Fault
  /-- The count of its bytes is odd. -/
  | oddLength
  /-- The byte at this position is no digit. -/
  | invalidDigit (byte : UInt8) (position : Nat)
deriving DecidableEq, Repr

/-- Read pairs of digits, the first of them standing at `position`. -/
def decodePairs (position : Nat) : Bytes → Except Fault Bytes
  | [] => .ok []
  | [_] => .error .oddLength
  | hi :: lo :: rest =>
    match digitValue? hi with
    | none => .error (.invalidDigit hi position)
    | some h =>
      match digitValue? lo with
      | none => .error (.invalidDigit lo (position + 1))
      | some l => (decodePairs (position + 2) rest).map ((h * 16 + l) :: ·)

/-- Read the UTF-8 form of a text as hexadecimal digits. -/
def decodeUtf8 (b : Bytes) : Except Fault Bytes :=
  if b.length % 2 = 1 then .error .oddLength else decodePairs 0 b

/-- Read a text as hexadecimal digits. -/
def decode (s : String) : Except Fault Bytes := decodeUtf8 s.toByteArray.toList

/-- A digit that was written is read back. -/
theorem digitValue?_digit {v : UInt8} (h : v < 16) :
    digitValue? (UInt8.ofNat (digit v).toNat) = some v := by
  have table : ∀ n : Fin 16, digitValue? (UInt8.ofNat (digit (UInt8.ofNat n.val)).toNat)
      = some (UInt8.ofNat n.val) := by decide
  have hv : v.toNat < 16 := h
  have := table ⟨v.toNat, hv⟩
  simpa using this

/-- Every byte is written in two digits. -/
@[simp] theorem length_encodeChars (b : Bytes) : (encodeChars b).length = 2 * b.length := by
  induction b with
  | nil => rfl
  | cons x rest ih =>
    simp only [encodeChars, List.length_cons, ih]
    omega

end Gatehouse.Hex
