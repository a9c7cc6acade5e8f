import Gatehouse.Bytes

/-!
# ChaCha20

The stream cipher of RFC 8439.  The sixteen words of its state are four rows of four, so that a
column round works on whole rows, and a diagonal round is a column round on turned rows.

Main statements: a block is 64 bytes (`length_block`), masking keeps the length of a text
(`length_mask`) and masking twice gives the text back (`mask_mask`).
-/

namespace Gatehouse.ChaCha20

/-- Four words. -/
structure Row where
  w₀ : UInt32
  w₁ : UInt32
  w₂ : UInt32
  w₃ : UInt32

/-- Combine two rows word by word. -/
def Row.zipWith (f : UInt32 → UInt32 → UInt32) (x y : Row) : Row :=
  ⟨f x.w₀ y.w₀, f x.w₁ y.w₁, f x.w₂ y.w₂, f x.w₃ y.w₃⟩

/-- Wordwise sum of two rows. -/
def Row.add (x y : Row) : Row := Row.zipWith (· + ·) x y

/-- Wordwise exclusive or of two rows, each word then rotated left by `n` places. -/
def Row.xorRotate (n : UInt32) (x y : Row) : Row :=
  Row.zipWith (fun a b => let w := a ^^^ b; (w <<< n) ||| (w >>> (32 - n))) x y

/-- Move the words of a row one place to the left, around the end. -/
def Row.turn (x : Row) : Row := ⟨x.w₁, x.w₂, x.w₃, x.w₀⟩

/-- The words of a row in order. -/
def Row.words (x : Row) : List UInt32 := [x.w₀, x.w₁, x.w₂, x.w₃]

/-- The state of the cipher. -/
structure State where
  a : Row
  b : Row
  c : Row
  d : Row

/-- The quarter round on all four columns. -/
def State.columns (s : State) : State :=
  let a := Row.add s.a s.b
  let d := Row.xorRotate 16 s.d a
  let c := Row.add s.c d
  let b := Row.xorRotate 12 s.b c
  let a := Row.add a b
  let d := Row.xorRotate 8 d a
  let c := Row.add c d
  let b := Row.xorRotate 7 b c
  ⟨a, b, c, d⟩

/-- The quarter round on all four diagonals. -/
def State.diagonals (s : State) : State :=
  let t := State.columns ⟨s.a, s.b.turn, s.c.turn.turn, s.d.turn.turn.turn⟩
  ⟨t.a, t.b.turn.turn.turn, t.c.turn.turn, t.d.turn⟩

/-- `count` double rounds. -/
def State.rounds : (count : Nat) → State → State
  | 0, s => s
  | count + 1, s => State.rounds count s.columns.diagonals

/-- Wordwise sum of two states. -/
def State.add (s t : State) : State :=
  ⟨Row.add s.a t.a, Row.add s.b t.b, Row.add s.c t.c, Row.add s.d t.d⟩

/-- The sixteen words of a state in order. -/
def State.words (s : State) : List UInt32 := s.a.words ++ s.b.words ++ s.c.words ++ s.d.words

/-- The little-endian word that starts at byte `4 * i`. -/
def wordAt (b : Bytes) (i : Nat) : UInt32 :=
  UInt32.ofNat (Bytes.toNatLE ((b.drop (4 * i)).take 4))

/-- The constants, the key, the block number and the nonce as the state to start from. -/
def State.initial (key : Key) (nonce : Octets 12) (index : Nat) : State :=
  let k := wordAt key.bytes
  let n := wordAt nonce.bytes
  ⟨⟨0x61707865, 0x3320646e, 0x79622d32, 0x6b206574⟩, ⟨k 0, k 1, k 2, k 3⟩, ⟨k 4, k 5, k 6, k 7⟩,
    ⟨UInt32.ofNat index, n 0, n 1, n 2⟩⟩

/-- Block number `index` of the key stream for a key and a nonce. -/
def block (key : Key) (nonce : Octets 12) (index : Nat) : Bytes :=
  let s := State.initial key nonce index
  (s.add (s.rounds 10)).words.flatMap fun w => Bytes.ofNatLE 4 w.toNat

/-- The key stream from block `first` on, in as many blocks as `count` bytes need. -/
def keyStream (key : Key) (nonce : Octets 12) (first count : Nat) : Bytes :=
  (List.range ((count + 63) / 64)).flatMap fun i => block key nonce (first + i)

/-- Mask a text with the key stream from block `first` on. -/
def mask (key : Key) (nonce : Octets 12) (first : Nat) (text : Bytes) : Bytes :=
  Bytes.xor text (keyStream key nonce first text.length)

theorem length_block (key : Key) (nonce : Octets 12) (index : Nat) :
    (block key nonce index).length = 64 := by
  simp [block, State.words, Row.words]

/-- The key stream covers the bytes that it was asked for. -/
theorem le_length_keyStream (key : Key) (nonce : Octets 12) (first count : Nat) :
    count ≤ (keyStream key nonce first count).length := by
  simp only [keyStream, List.length_flatMap, length_block, List.map_const', List.sum_replicate_nat,
    List.length_range]
  omega

@[simp] theorem length_mask (key : Key) (nonce : Octets 12) (first : Nat) (text : Bytes) :
    (mask key nonce first text).length = text.length := by
  have := le_length_keyStream key nonce first text.length
  simp only [mask, Bytes.length_xor]; omega

/-- Masking a masked text gives the text back. -/
theorem mask_mask (key : Key) (nonce : Octets 12) (first : Nat) (text : Bytes) :
    mask key nonce first (mask key nonce first text) = text := by
  rw [mask, length_mask, mask]
  exact Bytes.xor_xor_cancel text _ (le_length_keyStream key nonce first text.length)

end Gatehouse.ChaCha20
