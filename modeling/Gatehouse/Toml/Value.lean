import Gatehouse.Toml.Moment
import Gatehouse.Toml.Node
import Gatehouse.Toml.Number
import Gatehouse.Toml.Tree
import Gatehouse.Toml.Text

/-!
# Values in TOML

A value is a string, a number, a truth value, a date or time, an array, or a table between braces.
Arrays and tables may be nested only so deep; arrays may be spread over lines and end with a comma,
tables may not.
-/

namespace Gatehouse.Toml

open Reader (expect word satisfying many)

/-! ## Keys -/

/-- May the character stand in a key without quotes? -/
def isBareKeyChar (c : Char) : Bool := c.isAlphanum || c == '_' || c == '-'

/-- One part of a key. -/
def keyPart : Reader String := fun cs =>
  basicString cs <|> literalString cs <|>
    match many (satisfying isBareKeyChar) cs with
    | ([], _) => none
    | (chars, rest) => some (String.ofList chars, rest)

/-- One part of a key with the blanks around it. -/
def spacedKeyPart : Reader String := fun cs => do
  let (part, cs) ← keyPart (skipGap cs)
  pure (part, skipGap cs)

/-- How deep values may be nested, and the bound on the parts of a key. -/
def depthLimit : Nat := 80

/-- A key: its parts with dots between them, all but the last and the last. -/
def key : Reader (List String × String) := fun cs => do
  let (first, cs) ← spacedKeyPart cs
  let (others, cs) := many (fun cs => (expect '.' cs).bind spacedKeyPart) cs
  let parts := first :: others
  if depthLimit ≤ parts.length then none
  else pure ((parts.dropLast, parts.getLast (by simp [parts])), cs)

/-! ## Values -/

/-- An item of an array after the one before it. -/
def nextItem (item : Reader Node) : Reader Node := fun cs => do
  item (skipSpacing (← expect ',' (skipSpacing cs)))

/-- The items of an array, from the opening bracket to the closing one. -/
def array (item : Reader Node) : Reader (List Node) := fun cs => do
  let cs := skipSpacing (← expect '[' cs)
  match item cs with
  | none => (expect ']' cs).map fun rest => ([], rest)
  | some (first, cs) =>
    let (others, cs) := many (nextItem item) cs
    let cs := skipSpacing cs
    let cs := skipSpacing ((expect ',' cs).getD cs)
    (expect ']' cs).map fun rest => (first :: others, rest)

/-- A key and its value. -/
def keyValue (item : Reader Node) : Reader ((List String × String) × Node) := fun cs => do
  let (k, cs) ← key cs
  let (node, cs) ← item (skipGap (← expect '=' cs))
  pure ((k, node), skipGap cs)

/-- The entries of a table between braces. -/
def inlineTable (item : Reader Node) : Reader Entries := fun cs => do
  let cs := skipGap (← expect '{' cs)
  match keyValue item cs with
  | none => (expect '}' cs).map fun rest => ([], rest)
  | some (first, cs) =>
    let (others, cs) := many (fun cs => (expect ',' cs).bind (keyValue item)) cs
    let rest ← expect '}' cs
    let entries ← (first :: others).foldlM
      (fun entries ((path, key), node) => Entries.define path key node .inline entries) []
    pure (entries, rest)

/-- A value without parts. -/
def scalar : Reader Node := fun cs =>
  ((string cs).map fun (s, rest) => (Node.string s, rest))
    <|> ((word "true".toList cs).map fun rest => (Node.boolean true, rest))
    <|> ((word "false".toList cs).map fun rest => (Node.boolean false, rest))
    <|> ((moment cs).map fun rest => (Node.moment, rest))
    <|> ((float cs).map fun rest => (Node.float, rest))
    <|> ((integer cs).map fun (n, rest) => (Node.integer n, rest))

/-- A value with its parts, if there may be any. -/
def compound (item : Reader Node) : Reader Node := fun cs =>
  ((array item cs).map fun (items, rest) => (Node.array items, rest))
    <|> ((inlineTable item cs).map fun (entries, rest) => (Node.table .inline entries, rest))

/-- A value in which arrays and tables are nested at most so deep. -/
def value : (depth : Nat) → Reader Node
  | 0 => scalar
  | depth + 1 => fun cs => scalar cs <|> compound (value depth) cs

end Gatehouse.Toml
