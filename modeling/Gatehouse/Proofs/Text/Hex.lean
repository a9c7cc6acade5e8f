import Gatehouse.Text.Hex
import Gatehouse.Text.Utf8

/-!
# What is read as hexadecimal digits

Reading looks at bytes, a text is made of characters.  What a byte is to the reader is said first
(`IsCode`), then what reading comes to on bytes: one constructor for each way that it can go
(`Decoded`), with the first byte that is no digit where there is one.  The bytes of a text are all
digits exactly if its characters are (`forall_isCode_encode_iff`), since a character outside ASCII
begins with a byte that is no digit's.
-/

namespace Gatehouse

namespace Utf8

/-- A text is encoded character by character. -/
theorem encode_eq_flatMap (s : String) : encode s = s.toList.flatMap String.utf8EncodeChar := by
  have hofList : (String.ofList s.toList).toByteArray = s.toList.utf8Encode :=
    String.toByteArray_ofList
  rw [String.ofList_toList] at hofList
  rw [encode, hofList, List.utf8Encode]
  simp

theorem length_encode (s : String) : (encode s).length = s.utf8ByteSize := rfl

end Utf8

namespace Hex

/-! ## Digits -/

/-- Is the character a hexadecimal digit, of either case? -/
def IsDigit (c : Char) : Prop :=
  '0' ≤ c ∧ c ≤ '9' ∨ 'a' ≤ c ∧ c ≤ 'f' ∨ 'A' ≤ c ∧ c ≤ 'F'

/-- Is the byte the code of a digit? -/
def IsCode (b : UInt8) : Prop := ∃ c, IsDigit c ∧ c.toNat = b.toNat

theorem isDigit_iff {c : Char} :
    IsDigit c ↔ 48 ≤ c.toNat ∧ c.toNat ≤ 57 ∨ 97 ≤ c.toNat ∧ c.toNat ≤ 102 ∨
      65 ≤ c.toNat ∧ c.toNat ≤ 70 :=
  Iff.rfl

/-- A byte has the same number as the character with its code. -/
theorem toNat_ofUInt8 (b : UInt8) : (Char.ofUInt8 b).toNat = b.toNat := UInt8.toNat_toUInt32 b

theorem isCode_iff {b : UInt8} :
    IsCode b ↔ 48 ≤ b.toNat ∧ b.toNat ≤ 57 ∨ 97 ≤ b.toNat ∧ b.toNat ≤ 102 ∨
      65 ≤ b.toNat ∧ b.toNat ≤ 70 := by
  constructor
  · rintro ⟨c, hdigit, hcode⟩
    rw [isDigit_iff] at hdigit
    omega
  · intro h
    refine ⟨Char.ofUInt8 b, ?_, toNat_ofUInt8 b⟩
    rw [isDigit_iff, toNat_ofUInt8]
    exact h

theorem isSome_digitValue?_iff {b : UInt8} : (digitValue? b).isSome = true ↔ IsCode b := by
  have hle : ∀ m n : UInt8, m ≤ n ↔ m.toNat ≤ n.toNat := fun _ _ => Iff.rfl
  rw [isCode_iff, digitValue?]
  simp only [hle]
  split
  · rename_i h
    exact ⟨fun _ => .inl h, fun _ => rfl⟩
  · split
    · rename_i h
      exact ⟨fun _ => .inr (.inl h), fun _ => rfl⟩
    · split
      · rename_i h
        exact ⟨fun _ => .inr (.inr h), fun _ => rfl⟩
      · rename_i hten hlower hupper
        refine ⟨fun h => absurd h Bool.false_ne_true, ?_⟩
        rintro (h | h | h)
        · exact absurd h hten
        · exact absurd h hlower
        · exact absurd h hupper

/-- A digit that was read is written back in lower case. -/
theorem digit_of_digitValue? {b v : UInt8} (h : digitValue? b = some v) :
    v < 16 ∧ digit v = (Char.ofUInt8 b).toLower := by
  have table : ∀ n : Fin 256, ∀ v ∈ digitValue? (UInt8.ofNat n.val),
      v < 16 ∧ digit v = (Char.ofUInt8 (UInt8.ofNat n.val)).toLower := by decide +kernel
  have hb : UInt8.ofNat b.toNat = b := UInt8.ofNat_toNat
  have := table ⟨b.toNat, b.toNat_lt⟩ v
  simp only [hb] at this
  exact this h

/-! ## Bytes -/

/-- The ways that reading pairs of digits can go, the first of them standing at `position`. -/
inductive Decoded (position : Nat) (b : Bytes) : Except Fault Bytes → Prop
  /-- All of them are digits, and they are those of the bytes that were read. -/
  | digits (bytes : Bytes) (all : ∀ c ∈ b, IsCode c)
      (spelled : encodeChars bytes = b.map fun c => (Char.ofUInt8 c).toLower) :
    Decoded position b (.ok bytes)
  /-- Behind digits stands a byte that is none. -/
  | stops (front back : Bytes) (bad : UInt8) (split : b = front ++ bad :: back)
      (good : ∀ c ∈ front, IsCode c) (notCode : ¬ IsCode bad) :
    Decoded position b (.error (.invalidDigit bad (position + front.length)))

theorem not_isCode_of_digitValue? {b : UInt8} (h : digitValue? b = none) : ¬ IsCode b := by
  rw [← isSome_digitValue?_iff, h]
  exact Bool.false_ne_true

theorem isCode_of_digitValue? {b v : UInt8} (h : digitValue? b = some v) : IsCode b := by
  rw [← isSome_digitValue?_iff, h]
  rfl

/-- Two digits make a byte of which they are the halves. -/
theorem halves_of_digits {h l : UInt8} (hh : h < 16) (hl : l < 16) :
    (h * 16 + l) / 16 = h ∧ (h * 16 + l) % 16 = l := by
  have hh : h.toNat < 16 := hh
  have hl : l.toNat < 16 := hl
  have hsum : (h * 16 + l).toNat = h.toNat * 16 + l.toNat := by
    rw [UInt8.toNat_add, UInt8.toNat_mul]
    show (h.toNat * 16 % 256 + l.toNat) % 256 = h.toNat * 16 + l.toNat
    omega
  constructor
  · apply UInt8.toNat_inj.1
    rw [UInt8.toNat_div, hsum]
    show (h.toNat * 16 + l.toNat) / 16 = h.toNat
    omega
  · apply UInt8.toNat_inj.1
    rw [UInt8.toNat_mod, hsum]
    show (h.toNat * 16 + l.toNat) % 16 = l.toNat
    omega

theorem decodePairs_spec (position : Nat) (b : Bytes) (even : b.length % 2 = 0) :
    Decoded position b (decodePairs position b) := by
  induction position, b using decodePairs.induct with
  | case1 position => exact .digits [] (fun c hmem => by cases hmem) rfl
  | case2 position c => simp at even
  | case3 position hi lo rest hhi =>
    rw [decodePairs, hhi]
    exact .stops [] (lo :: rest) hi rfl (fun c hmem => by cases hmem) (not_isCode_of_digitValue? hhi)
  | case4 position hi lo rest h hhi hlo =>
    rw [decodePairs, hhi]
    simp only [hlo]
    exact .stops [hi] rest lo rfl
      (fun c hmem => List.mem_singleton.1 hmem ▸ isCode_of_digitValue? hhi)
      (not_isCode_of_digitValue? hlo)
  | case5 position hi lo rest h hhi l hlo ih =>
    have heven : rest.length % 2 = 0 := by
      simp only [List.length_cons] at even
      omega
    have pair : ∀ c ∈ [hi, lo], IsCode c := by
      intro c hmem
      rcases List.mem_cons.1 hmem with rfl | hmem
      · exact isCode_of_digitValue? hhi
      · exact List.mem_singleton.1 hmem ▸ isCode_of_digitValue? hlo
    rw [decodePairs, hhi]
    simp only [hlo]
    have ih := ih heven
    generalize decodePairs (position + 2) rest = result at ih
    cases ih with
    | digits bytes all spelled =>
      refine .digits _ ?_ ?_
      · intro c hmem
        have hmem : c ∈ [hi, lo] ++ rest := hmem
        exact (List.mem_append.1 hmem).elim (pair c) (all c)
      · obtain ⟨hh, hhigh⟩ := digit_of_digitValue? hhi
        obtain ⟨hl, hlow⟩ := digit_of_digitValue? hlo
        obtain ⟨hdiv, hmod⟩ := halves_of_digits hh hl
        rw [encodeChars, hdiv, hmod, hhigh, hlow, spelled]
        rfl
    | stops front back bad split good notCode =>
      have hposition : position + 2 + front.length = position + (hi :: lo :: front).length := by
        simp only [List.length_cons]
        omega
      show Decoded position (hi :: lo :: rest)
        (.error (.invalidDigit bad (position + 2 + front.length)))
      rw [hposition]
      refine .stops (hi :: lo :: front) back bad (by rw [split]; rfl) ?_ notCode
      intro c hmem
      have hmem : c ∈ [hi, lo] ++ front := hmem
      exact (List.mem_append.1 hmem).elim (pair c) (good c)

/-! ## Texts -/

/-- The code of a character below 256. -/
def code (c : Char) : UInt8 := UInt8.ofNat c.toNat

/-- A digit is encoded in one byte, its code. -/
theorem utf8EncodeChar_of_isDigit {c : Char} (h : IsDigit c) :
    String.utf8EncodeChar c = [code c] := by
  rw [isDigit_iff] at h
  have hascii : c.val.toNat ≤ 127 := by
    show c.toNat ≤ 127
    omega
  rw [String.utf8EncodeChar]
  exact if_pos hascii

/-- The bytes of a character are codes of digits only if it is a digit. -/
theorem isDigit_of_utf8EncodeChar {c : Char} (h : ∀ b ∈ String.utf8EncodeChar c, IsCode b) :
    IsDigit c := by
  -- outside ASCII the first byte is at least 192
  have first : ∀ {n : Nat} {rest : List UInt8}, 192 ≤ n → n < 256 →
      String.utf8EncodeChar c = UInt8.ofNat n :: rest → False := by
    intro n rest hlow hhigh heq
    have hcode := isCode_iff.1 (h (UInt8.ofNat n) (heq ▸ List.mem_cons_self))
    have hn : (UInt8.ofNat n).toNat = n := UInt8.toNat_ofNat_of_lt' hhigh
    omega
  have hval : c.val.toNat < 1114112 := by
    rcases c.valid with h | h
    · exact Nat.lt_trans h (by decide)
    · exact h.2
  unfold String.utf8EncodeChar at h first
  simp only at h first
  split at h
  · rename_i hascii
    have hn : (UInt8.ofNat c.val.toNat).toNat = c.val.toNat :=
      UInt8.toNat_ofNat_of_lt' (Nat.lt_of_le_of_lt hascii (by decide))
    have hcode := isCode_iff.1 (h _ List.mem_cons_self)
    rw [hn] at hcode
    exact hcode
  · rename_i h1
    rw [if_neg h1] at first
    split at h
    · rename_i h2
      rw [if_pos h2] at first
      exact (first (by omega) (by omega) rfl).elim
    · rename_i h2
      rw [if_neg h2] at first
      split at h
      · rename_i h3
        rw [if_pos h3] at first
        exact (first (by omega) (by omega) rfl).elim
      · rename_i h3
        rw [if_neg h3] at first
        exact (first (by omega) (by omega) rfl).elim

theorem forall_isCode_encode_iff {s : String} :
    (∀ b ∈ Utf8.encode s, IsCode b) ↔ ∀ c ∈ s.toList, IsDigit c := by
  rw [Utf8.encode_eq_flatMap]
  constructor
  · intro h c hc
    exact isDigit_of_utf8EncodeChar fun b hb => h b (List.mem_flatMap.2 ⟨c, hc, hb⟩)
  · intro h b hb
    obtain ⟨c, hc, hb⟩ := List.mem_flatMap.1 hb
    have hdigit := h c hc
    rw [utf8EncodeChar_of_isDigit hdigit, List.mem_singleton] at hb
    subst hb
    have hlow : c.toNat ≤ 102 := by
      rw [isDigit_iff] at hdigit
      omega
    have hn : (code c).toNat = c.toNat :=
      UInt8.toNat_ofNat_of_lt' (Nat.lt_of_le_of_lt hlow (by decide))
    exact ⟨c, hdigit, hn.symm⟩

/-- A text of digits has one byte for each of them. -/
theorem encode_of_isDigit {s : String} (h : ∀ c ∈ s.toList, IsDigit c) :
    Utf8.encode s = s.toList.map code := by
  have heach : s.toList.map String.utf8EncodeChar = s.toList.map fun c => [code c] :=
    List.map_congr_left fun c hc => utf8EncodeChar_of_isDigit (h c hc)
  rw [Utf8.encode_eq_flatMap, List.map_eq_flatMap, List.flatMap_def, List.flatMap_def, heach]

/-! ## What was written -/

theorem isDigit_digit {v : UInt8} (h : v < 16) : IsDigit (digit v) := by
  have table : ∀ n : Fin 16, (digit (UInt8.ofNat n.val)).toNat ∈
      [48, 49, 50, 51, 52, 53, 54, 55, 56, 57, 97, 98, 99, 100, 101, 102] := by decide
  have hv : UInt8.ofNat v.toNat = v := UInt8.ofNat_toNat
  have := table ⟨v.toNat, h⟩
  simp only [hv, List.mem_cons, List.not_mem_nil, or_false] at this
  rw [isDigit_iff]
  omega

/-- A byte is made of its halves. -/
theorem halves_lt (b : UInt8) : b / 16 < 16 ∧ b % 16 < 16 ∧ b / 16 * 16 + b % 16 = b := by
  have hb := b.toNat_lt
  have hdiv : (b / 16).toNat = b.toNat / 16 := UInt8.toNat_div b 16
  have hmod : (b % 16).toNat = b.toNat % 16 := UInt8.toNat_mod b 16
  refine ⟨?_, ?_, ?_⟩
  · show (b / 16).toNat < 16
    omega
  · show (b % 16).toNat < 16
    omega
  · apply UInt8.toNat_inj.1
    rw [UInt8.toNat_add, UInt8.toNat_mul, hdiv, hmod]
    show (b.toNat / 16 * 16 % 256 + b.toNat % 16) % 256 = b.toNat
    omega

theorem isDigit_of_mem_encodeChars {b : Bytes} {c : Char} (h : c ∈ encodeChars b) : IsDigit c := by
  induction b with
  | nil => cases h
  | cons x rest ih =>
    obtain ⟨hdiv, hmod, _⟩ := halves_lt x
    rcases List.mem_cons.1 h with rfl | h
    · exact isDigit_digit hdiv
    · rcases List.mem_cons.1 h with rfl | h
      · exact isDigit_digit hmod
      · exact ih h

/-- Bytes that were written are read back. -/
theorem decodePairs_encodeChars (position : Nat) (b : Bytes) :
    decodePairs position ((encodeChars b).map code) = .ok b := by
  induction b generalizing position with
  | nil => rfl
  | cons x rest ih =>
    obtain ⟨hdiv, hmod, hsum⟩ := halves_lt x
    show decodePairs position (code (digit (x / 16)) :: code (digit (x % 16)) ::
      (encodeChars rest).map code) = _
    rw [decodePairs, code, digitValue?_digit hdiv]
    simp only
    rw [code, digitValue?_digit hmod]
    simp only [ih, hsum]
    rfl

theorem decodeUtf8_encode (b : Bytes) : decodeUtf8 (Utf8.encode (encode b)) = .ok b := by
  have hlist : (encode b).toList = encodeChars b := String.toList_ofList
  have hdigits : ∀ c ∈ (encode b).toList, IsDigit c := by
    rw [hlist]
    exact fun c h => isDigit_of_mem_encodeChars h
  rw [encode_of_isDigit hdigits, hlist]
  have heven : ¬ ((encodeChars b).map code).length % 2 = 1 := by
    rw [List.length_map, length_encodeChars]
    omega
  rw [decodeUtf8, if_neg heven, decodePairs_encodeChars]

end Hex

end Gatehouse
