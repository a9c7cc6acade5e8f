/-!
# Characters in quotes

An error message that names a character shows it between single quotes, with an escape where the
character itself would not be seen.  Only the first 256 code points occur: the character stands for
one byte of the text that was refused.
-/

namespace Gatehouse.Quoted

/-- The digits of a number in base sixteen, without leading zeros. -/
def hexDigits (n : Nat) : String := String.ofList (Nat.toDigits 16 n)

/-- Is the character with this code point below 256 written as itself?  Control characters, the
    no-break space and the soft hyphen are not. -/
def isVisible (code : Nat) : Bool :=
  (32 ≤ code && code < 127) || (161 ≤ code && code ≠ 173)

/-- The character between quotes without the quotes: the usual two-letter escapes, then braces
    around the code point for what is not visible. -/
def escape (code : Nat) : String :=
  if code = 0 then "\\0"
  else if code = 9 then "\\t"
  else if code = 10 then "\\n"
  else if code = 13 then "\\r"
  else if code = 39 then "\\'"
  else if code = 92 then "\\\\"
  else if isVisible code then String.singleton (Char.ofNat code)
  else "\\u\x7b" ++ hexDigits code ++ "\x7d"

/-- A byte as the character with its code point, between single quotes. -/
def byte (b : UInt8) : String := "'" ++ escape b.toNat ++ "'"

end Gatehouse.Quoted
