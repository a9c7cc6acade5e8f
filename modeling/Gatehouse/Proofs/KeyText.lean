import Gatehouse.Identity
import Gatehouse.Proofs.Text.Hex

/-!
# Keys as text

A text is read as a key exactly if it is made of 64 hexadecimal digits, and what is wrong with any
other text depends on the first of three things: the parity of its count of bytes, a byte that is no
digit, the count of digits (`KeyReading`).  What was read is written back in lower case, and what was
written is read back (`reads_keys`).
-/

namespace Gatehouse

namespace Hex

/-- The byte at this position is the first that is no digit. -/
def FirstInvalid (b : Bytes) (byte : UInt8) (position : Nat) : Prop :=
  b[position]? = some byte ∧ ¬ IsCode byte ∧ ∀ k < position, ∀ c, b[k]? = some c → IsCode c

theorem FirstInvalid.unique {b : Bytes} {byte byte' : UInt8} {position position' : Nat}
    (first : FirstInvalid b byte position) (first' : FirstInvalid b byte' position') :
    byte = byte' ∧ position = position' := by
  obtain ⟨found, notCode, before⟩ := first
  obtain ⟨found', notCode', before'⟩ := first'
  have hposition : position = position' := by
    rcases Nat.lt_trichotomy position position' with hlt | heq | hgt
    · exact absurd (before' position hlt byte found) notCode
    · exact heq
    · exact absurd (before position' hgt byte' found') notCode'
  subst hposition
  exact ⟨Option.some.inj (found.symm.trans found'), rfl⟩

theorem FirstInvalid.not_all {b : Bytes} {byte : UInt8} {position : Nat}
    (first : FirstInvalid b byte position) (all : ∀ c ∈ b, IsCode c) : False :=
  first.2.1 (all byte (List.mem_of_getElem? first.1))

theorem firstInvalid_of_split {front back : Bytes} {bad : UInt8} (good : ∀ c ∈ front, IsCode c)
    (notCode : ¬ IsCode bad) : FirstInvalid (front ++ bad :: back) bad front.length := by
  refine ⟨by simp, notCode, ?_⟩
  intro k hk c hc
  rw [List.getElem?_append_left hk] at hc
  exact good c (List.mem_of_getElem? hc)

end Hex

/-- The ways that reading a text as a key can go. -/
inductive KeyReading (s : String) : Except KeyError Key → Prop
  /-- The count of its bytes is odd. -/
  | odd (odd : s.utf8ByteSize % 2 = 1) : KeyReading s (.error (.hex .oddLength))
  /-- A byte is no digit. -/
  | invalid (byte : UInt8) (position : Nat) (even : s.utf8ByteSize % 2 = 0)
      (first : Hex.FirstInvalid (Utf8.encode s) byte position) :
    KeyReading s (.error (.hex (.invalidDigit byte position)))
  /-- All are digits, and there are too many or too few of them. -/
  | miscounted (count : Nat) (all : ∀ b ∈ Utf8.encode s, Hex.IsCode b)
      (size : s.utf8ByteSize = 2 * count) (other : count ≠ 32) :
    KeyReading s (.error (.length count))
  /-- There are 64 of them. -/
  | key (k : Key) (all : ∀ b ∈ Utf8.encode s, Hex.IsCode b) (size : s.utf8ByteSize = 64)
      (spelled : PublicKey.toHex k = s.map Char.toLower) : KeyReading s (.ok k)

/-- The character of a digit's code is the digit. -/
theorem ofUInt8_code {c : Char} (h : Hex.IsDigit c) : Char.ofUInt8 (Hex.code c) = c := by
  rw [Hex.isDigit_iff] at h
  have hlow : c.toNat ≤ 102 := by omega
  apply Char.ext
  apply UInt32.toNat_inj.1
  show (Char.ofUInt8 (Hex.code c)).toNat = c.toNat
  rw [Hex.toNat_ofUInt8]
  exact UInt8.toNat_ofNat_of_lt' (Nat.lt_of_le_of_lt hlow (by decide))

theorem keyReading (s : String) : KeyReading s (Key.ofHex s) := by
  have hsize : (Utf8.encode s).length = s.utf8ByteSize := Utf8.length_encode s
  unfold Key.ofHex Key.ofHexUtf8 Hex.decodeUtf8
  rw [hsize]
  by_cases hodd : s.utf8ByteSize % 2 = 1
  · rw [if_pos hodd]
    exact .odd hodd
  · have heven : s.utf8ByteSize % 2 = 0 := by omega
    rw [if_neg hodd]
    have decoded := Hex.decodePairs_spec 0 (Utf8.encode s) (hsize ▸ heven)
    generalize Hex.decodePairs 0 (Utf8.encode s) = result at decoded
    cases decoded with
    | stops front back bad split good notCode =>
      refine .invalid bad (0 + front.length) heven ?_
      rw [split, Nat.zero_add]
      exact Hex.firstInvalid_of_split good notCode
    | digits bytes all spelled =>
      have hcount : s.utf8ByteSize = 2 * bytes.length := by
        have hlength := congrArg List.length spelled
        rw [Hex.length_encodeChars, List.length_map, hsize] at hlength
        exact hlength.symm
      dsimp only
      cases hkey : Octets.ofBytes? 32 bytes with
      | none => exact .miscounted bytes.length all hcount (Octets.ofBytes?_eq_none_iff.1 hkey)
      | some k =>
        obtain rfl : bytes = k.bytes := Octets.ofBytes?_eq_some_iff.1 hkey
        have hlength : k.bytes.length = 32 := k.length_eq
        refine .key k all (by omega) ?_
        -- the characters of the text are those of its bytes
        have hdigits := Hex.forall_isCode_encode_iff.1 all
        have hlower : (s.toList.map Hex.code).map (fun c => (Char.ofUInt8 c).toLower) =
            s.toList.map Char.toLower := by
          rw [List.map_map]
          exact List.map_congr_left fun c hc =>
            congrArg Char.toLower (ofUInt8_code (hdigits c hc))
        rw [Hex.encode_of_isDigit hdigits, hlower] at spelled
        rw [PublicKey.toHex, Hex.encode, spelled, ← String.toList_map, String.ofList_toList]

/-- A text of digits has as many bytes as characters. -/
theorem utf8ByteSize_of_isDigit {s : String} (h : ∀ c ∈ s.toList, Hex.IsDigit c) :
    s.utf8ByteSize = s.length := by
  rw [← Utf8.length_encode, Hex.encode_of_isDigit h, List.length_map, String.length_toList]

theorem ofHex_toHex (k : Key) : Key.ofHex (PublicKey.toHex k) = .ok k := by
  have hkey : Octets.ofBytes? 32 k.bytes = some k := Octets.ofBytes?_eq_some_iff.2 rfl
  unfold Key.ofHex Key.ofHexUtf8 PublicKey.toHex
  simp only [Hex.decodeUtf8_encode, hkey]

/-- A text can be read in one way only. -/
theorem KeyReading.unique {s : String} {read read' : Except KeyError Key} (h : KeyReading s read)
    (h' : KeyReading s read') : read = read' := by
  cases h with
  | odd odd => cases h' with
    | odd => rfl
    | invalid byte position even first => omega
    | miscounted count all size other => omega
    | key k all size spelled => omega
  | invalid byte position even first => cases h' with
    | odd odd => omega
    | invalid byte' position' even' first' =>
      obtain ⟨rfl, rfl⟩ := first.unique first'
      rfl
    | miscounted count all size other => exact (first.not_all all).elim
    | key k all size spelled => exact (first.not_all all).elim
  | miscounted count all size other => cases h' with
    | odd odd => omega
    | invalid byte position even first => exact (first.not_all all).elim
    | miscounted count' all' size' other' =>
      obtain rfl : count = count' := by omega
      rfl
    | key k all size spelled => omega
  | key k all size spelled => cases h' with
    | odd odd => omega
    | invalid byte position even first => exact (first.not_all all).elim
    | miscounted count all size other => omega
    | key k' all' size' spelled' =>
      -- what two keys are written as tells them apart, since it is read back
      have hsame := congrArg Key.ofHex (spelled.trans spelled'.symm)
      rwa [ofHex_toHex, ofHex_toHex] at hsame

/-- What a text is read as, by the text alone. -/
structure ReadByGrammar (s : String) (read : Except KeyError Key) : Prop where
  /-- A key is read exactly of 64 digits. -/
  accepted : (∃ k, read = .ok k) ↔ s.length = 64 ∧ ∀ c ∈ s.toList, Hex.IsDigit c
  /-- The key that is read is written as the text is, in lower case. -/
  spelled : ∀ k, read = .ok k → PublicKey.toHex k = s.map Char.toLower
  /-- The count of bytes is looked at first, whatever the characters are. -/
  oddLength : read = .error (.hex .oddLength) ↔ s.utf8ByteSize % 2 = 1
  /-- Then the first byte that is no digit is named, with its place among the bytes. -/
  invalidDigit : ∀ byte position, read = .error (.hex (.invalidDigit byte position)) ↔
    s.utf8ByteSize % 2 = 0 ∧ Hex.FirstInvalid (Utf8.encode s) byte position
  /-- Last comes the count of the bytes that the digits spell. -/
  length : ∀ count, read = .error (.length count) ↔
    s.utf8ByteSize % 2 = 0 ∧ (∀ c ∈ s.toList, Hex.IsDigit c) ∧ count = s.utf8ByteSize / 2 ∧
      count ≠ 32
  /-- Nothing else can be wrong. -/
  noFile : ∀ cause, read ≠ .error (.io cause)

theorem KeyReading.byGrammar {s : String} {read : Except KeyError Key} (h : KeyReading s read) :
    ReadByGrammar s read := by
  have hcodes : (∀ b ∈ Utf8.encode s, Hex.IsCode b) ↔ ∀ c ∈ s.toList, Hex.IsDigit c :=
    Hex.forall_isCode_encode_iff
  constructor
  case accepted =>
    constructor
    · rintro ⟨k, rfl⟩
      obtain _ | _ | _ | ⟨_, all, size, _⟩ := h
      have hdigits := hcodes.1 all
      exact ⟨utf8ByteSize_of_isDigit hdigits ▸ size, hdigits⟩
    · rintro ⟨hlength, hdigits⟩
      have hsize := utf8ByteSize_of_isDigit hdigits
      cases h with
      | odd odd => omega
      | invalid byte position even first => exact (first.not_all (hcodes.2 hdigits)).elim
      | miscounted count all size other => omega
      | key k all size spelled => exact ⟨k, rfl⟩
  case spelled =>
    rintro k rfl
    obtain _ | _ | _ | ⟨_, _, _, spelled⟩ := h
    exact spelled
  case oddLength =>
    refine ⟨?_, fun odd => h.unique (.odd odd)⟩
    rintro rfl
    obtain odd | _ | _ | _ := h
    exact odd
  case invalidDigit =>
    intro byte position
    refine ⟨?_, fun ⟨even, first⟩ => h.unique (.invalid byte position even first)⟩
    rintro rfl
    obtain _ | ⟨_, _, even, first⟩ | _ | _ := h
    exact ⟨even, first⟩
  case length =>
    intro count
    constructor
    · rintro rfl
      obtain _ | _ | ⟨_, all, size, other⟩ | _ := h
      exact ⟨by omega, hcodes.1 all, by omega, other⟩
    · rintro ⟨even, hdigits, hcount, other⟩
      exact h.unique (.miscounted count (hcodes.2 hdigits) (by omega) other)
  case noFile =>
    rintro cause rfl
    cases h

/-- **Every text is read as a key by the grammar of keys.**  The secret half of an identity is read
    of the same texts, with the same errors; a key that was written is read back. -/
theorem reads_keys :
    (∀ s : String, ReadByGrammar s (Key.ofHex s) ∧
      (∀ e, Identity.ofHex s = .error e ↔ Key.ofHex s = .error e) ∧
      ∀ i, Identity.ofHex s = .ok i ↔ Key.ofHex s = .ok i.secret) ∧
    ∀ k : Key, Key.ofHex (PublicKey.toHex k) = .ok k := by
  refine ⟨?_, ofHex_toHex⟩
  intro s
  refine ⟨(keyReading s).byGrammar, ?_⟩
  unfold Identity.ofHex
  cases Key.ofHex s with
  | error e => simp [Except.map]
  | ok k =>
    refine ⟨by simp [Except.map], ?_⟩
    rintro ⟨secret⟩
    simp [Except.map]

/-- Places are counted in bytes: this text has three characters and four bytes. -/
example : Key.ofHex "a\u00E9b" = .error (.hex (.invalidDigit 0xC3 1)) := rfl

end Gatehouse
