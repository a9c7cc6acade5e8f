import Gatehouse.Text.Digits
import Gatehouse.Text.Reader

/-!
# Numbers in TOML

An integer is decimal with an optional sign, or without one in base sixteen, eight or two; it has to
fit 64 bits.  Single underscores may stand between digits.  A number with a fraction or an exponent
is a floating-point number, of which only this is kept; one that is too large to be finite is
refused, unless it is negative.
-/

namespace Gatehouse.Toml

open Reader (expect word many)

/-- A digit, or an underscore and a digit. -/
def laterDigit (base : Nat) : Reader Nat
  | [] => none
  | c :: rest =>
    if c = '_' then
      match rest with
      | [] => none
      | d :: rest => (Digits.value? base d).map fun v => (v, rest)
    else (Digits.value? base c).map fun v => (v, rest)

/-- Digits with underscores between them. -/
def digitRun (base : Nat) : Reader (List Nat)
  | [] => none
  | c :: rest => do
    let v ← Digits.value? base c
    let (vs, rest) := many (laterDigit base) rest
    pure (v :: vs, rest)

/-- A sign: is it a minus? -/
def sign : List Char → Bool × List Char
  | '+' :: rest => (false, rest)
  | '-' :: rest => (true, rest)
  | cs => (false, cs)

/-- The digits of a decimal number.  A zero in front stands alone. -/
def decimalDigits : Reader (List Nat)
  | '0' :: rest => some ([0], rest)
  | cs => digitRun 10 cs

/-! ## Integers -/

/-- An integer in a base of its own. -/
def basedInteger (mark : Char) (base : Nat) : Reader Int := fun cs => do
  let (ds, rest) ← digitRun base (← word ['0', mark] cs)
  pure (Int.ofNat (Digits.toNat base ds), rest)

/-- A decimal integer. -/
def decimalInteger : Reader Int := fun cs => do
  let (negative, cs) := sign cs
  let (ds, rest) ← decimalDigits cs
  let n := Int.ofNat (Digits.toNat 10 ds)
  pure (if negative then -n else n, rest)

/-- Does an integer fit 64 bits? -/
def fits64 (n : Int) : Bool := Int64.minValue.toInt ≤ n && n ≤ Int64.maxValue.toInt

/-- An integer. -/
def integer : Reader Int := fun cs =>
  (basedInteger 'x' 16 cs <|> basedInteger 'o' 8 cs <|> basedInteger 'b' 2 cs
    <|> decimalInteger cs).filter fun found => fits64 found.1

/-! ## Floating-point numbers -/

/-- The least number that is rounded to infinity: halfway between the largest finite number and the
    power of two above it. -/
def infinityThreshold : Nat := Nat.pow 2 1024 - Nat.pow 2 970

/-- Is a mantissa, times this power of ten, too large to be finite?  The count of digits decides
    before any power is computed, unless it is a close run thing. -/
def overflows (mantissa : Nat) (exponent : Int) : Bool :=
  let size : Int := Int.ofNat (Nat.repr mantissa).length + exponent
  if mantissa = 0 then false
  else if 311 ≤ size then true
  else if size < 309 then false
  else if 0 ≤ exponent then infinityThreshold ≤ mantissa * Nat.pow 10 exponent.toNat
  else infinityThreshold * Nat.pow 10 (-exponent).toNat ≤ mantissa

/-- The digits after a point. -/
def fraction (cs : List Char) : Option (List Nat × List Char) := (expect '.' cs).bind (digitRun 10)

/-- An exponent. -/
def exponent : Reader Int
  | [] => none
  | c :: rest =>
    if c = 'e' ∨ c = 'E' then do
      let (negative, cs) := sign rest
      let (ds, rest) ← digitRun 10 cs
      let n := Int.ofNat (Digits.toNat 10 ds)
      pure (if negative then -n else n, rest)
    else none

/-- The words for infinity and for what is no number. -/
def namedFloat (cs : List Char) : Option (List Char) :=
  word "inf".toList cs <|> word "nan".toList cs

/-- Take a floating-point number. -/
def float (cs : List Char) : Option (List Char) :=
  let (negative, unsigned) := sign cs
  -- without a fraction or an exponent it is an integer, and not for this reader
  let numeric : Option (List Char) := do
    let (whole, cs) ← decimalDigits unsigned
    let (places, scale, cs) ←
      match fraction cs with
      | some (places, cs) =>
        match exponent cs with
        | some (e, cs) => some (places, e, cs)
        | none => some (places, 0, cs)
      | none => (exponent cs).map fun (e, cs) => ([], e, cs)
    let mantissa := Digits.toNat 10 (whole ++ places)
    if !negative && overflows mantissa (scale - Int.ofNat places.length) then none else some cs
  numeric <|> namedFloat unsigned

end Gatehouse.Toml
