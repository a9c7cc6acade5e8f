import Gatehouse.Text.Digits
import Gatehouse.Text.Reader

/-!
# White space, comments and strings in TOML

A string stands between double quotes, where a backslash escapes, or between single quotes, where
every character stands for itself.  Either quote three times opens a string that may contain line
breaks; the first of them is left out if it follows the quotes at once.
-/

namespace Gatehouse.Toml

open Reader (expect word satisfying many skip)

/-! ## White space and comments -/

/-- A blank within a line. -/
def isGap (c : Char) : Bool := c == ' ' || c == '\t'

/-- Leave out blanks within a line. -/
def skipGap (cs : List Char) : List Char := cs.dropWhile isGap

/-- A line break: a line feed, or a carriage return before one. -/
def lineBreak : List Char → Option (List Char)
  | '\n' :: rest => some rest
  | '\r' :: '\n' :: rest => some rest
  | _ => none

/-- May the character stand in a comment, or as itself between single quotes but for the quote? -/
def isPlain (c : Char) : Bool := c == '\t' || (' ' ≤ c && c ≤ '~') || 0x80 ≤ c.toNat

/-- A comment, up to the end of its line. -/
def comment : List Char → Option (List Char)
  | '#' :: rest => some (rest.dropWhile isPlain)
  | _ => none

/-- The rest of a line on which nothing more is said. -/
def lineEnd (cs : List Char) : Option (List Char) :=
  let cs := skipGap cs
  match (comment cs).getD cs with
  | [] => some []
  | cs => lineBreak cs

/-- A piece of what may stand between the items of an array. -/
def spacing : Reader Unit
  | [] => none
  | c :: rest =>
    if isGap c then some ((), rest)
    else ((comment (c :: rest)) <|> lineBreak (c :: rest)).map fun cs => ((), cs)

/-- Leave out blanks, comments and line breaks. -/
def skipSpacing (cs : List Char) : List Char := skip spacing cs

/-! ## Strings -/

/-- A number that is a code point stays one as a word. -/
theorem isValidChar_toUInt32 {n : Nat} (h : n.isValidChar) : n.toUInt32.isValidChar := by
  rcases h with h | h <;>
    simp only [UInt32.isValidChar, Nat.isValidChar, Nat.toUInt32, UInt32.toNat_ofNat'] <;> omega

/-- The character with a code point of so many hexadecimal digits. -/
def codePoint (digits : Nat) : Reader Char := fun cs => do
  let (ds, rest) ← Digits.takeExactly 16 digits cs
  let n := Digits.toNat 16 ds
  if h : n.isValidChar then some (⟨n.toUInt32, isValidChar_toUInt32 h⟩, rest) else none

/-- What may follow a backslash: the character that is meant. -/
def escaped : Reader Char
  | [] => none
  | c :: rest =>
    match c with
    | 'b' => some ('\x08', rest)
    | 't' => some ('\t', rest)
    | 'n' => some ('\n', rest)
    | 'f' => some ('\x0c', rest)
    | 'r' => some ('\r', rest)
    | '"' => some ('"', rest)
    | '\\' => some ('\\', rest)
    | 'u' => codePoint 4 rest
    | 'U' => codePoint 8 rest
    | _ => none

/-- A character between double quotes, or an escape. -/
def basicChar : Reader Char
  | [] => none
  | c :: rest =>
    if c = '\\' then escaped rest
    else if c ≠ '"' ∧ isPlain c then some (c, rest)
    else none

/-- A string between double quotes. -/
def basicString : Reader String := fun cs => do
  let (chars, cs) := many basicChar (← expect '"' cs)
  let cs ← expect '"' cs
  pure (String.ofList chars, cs)

/-- A string between single quotes. -/
def literalString : Reader String := fun cs => do
  let (chars, cs) := many (satisfying fun c => c != '\'' && isPlain c) (← expect '\'' cs)
  let cs ← expect '\'' cs
  pure (String.ofList chars, cs)

/-- May a quote stand as itself, with so many in a row from it on?  Three end the string, and up to
    two more may stand before them. -/
def quoteStands (inRow : Nat) : Bool := inRow == 1 || inRow == 2 || inRow == 4 || inRow == 5

/-- A quote that stands as itself within a string of several lines. -/
def innerQuote (quote : Char) : Reader Char
  | [] => none
  | c :: rest =>
    if c = quote ∧ quoteStands ((c :: rest).takeWhile (· == quote)).length then some (c, rest)
    else none

/-- A line break that the backslash before it takes away, with all blanks and line breaks after
    it. -/
def foldedBreak (cs : List Char) : Option (List Char) := do
  let rest ← lineBreak (skipGap cs)
  pure (skip (fun cs => match cs with
    | [] => none
    | c :: rest => if isGap c then some ((), rest) else (lineBreak (c :: rest)).map fun r => ((), r)) rest)

/-- A piece of a string of several lines between double quotes. -/
def basicPiece : Reader (List Char) := fun cs =>
  match innerQuote '"' cs with
  | some (c, rest) => some ([c], rest)
  | none =>
    match basicChar cs with
    | some (c, rest) => some ([c], rest)
    | none =>
      match lineBreak cs with
      | some rest => some (['\n'], rest)
      | none => ((expect '\\' cs).bind foldedBreak).map fun rest => ([], rest)

/-- A piece of a string of several lines between single quotes. -/
def literalPiece : Reader (List Char) := fun cs =>
  match innerQuote '\'' cs with
  | some (c, rest) => some ([c], rest)
  | none =>
    match satisfying (fun c => c != '\'' && isPlain c) cs with
    | some (c, rest) => some ([c], rest)
    | none => (lineBreak cs).map fun rest => (['\n'], rest)

/-- A string of several lines, made of pieces between three quotes and three quotes. -/
def longString (quote : Char) (piece : Reader (List Char)) : Reader String := fun cs => do
  let fence := [quote, quote, quote]
  let cs ← word fence cs
  let (pieces, cs) := many piece ((lineBreak cs).getD cs)
  let cs ← word fence cs
  pure (String.ofList pieces.flatten, cs)

/-- A string of any form. -/
def string : Reader String := fun cs =>
  longString '"' basicPiece cs <|> basicString cs <|> longString '\'' literalPiece cs
    <|> literalString cs

end Gatehouse.Toml
