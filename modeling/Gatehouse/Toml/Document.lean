import Gatehouse.Toml.Value

/-!
# TOML documents

A document is a list of statements, each on lines of its own: headers, that open a table, and keys with
their values, that belong to the table opened last.
-/

namespace Gatehouse.Toml

open Reader (expect word many)

/-- What a line says. -/
inductive Statement
  /-- `[path.key]` opens a table. -/
  | header (path : List String) (key : String)
  /-- `[[path.key]]` opens one more table of a name. -/
  | nextHeader (path : List String) (key : String)
  /-- `path.key = value`. -/
  | entry (path : List String) (key : String) (value : Node)

/-! ## Reading statements -/

/-- A header: its key between brackets. -/
def header (opening closing : List Char) : Reader (List String × String) := fun cs => do
  let (k, cs) ← key (← word opening cs)
  let cs ← word closing cs
  pure (k, ← lineEnd cs)

/-- A statement with the rest of its line. -/
def statement : Reader Statement := fun cs =>
  match cs with
  | '[' :: '[' :: _ =>
    (header ['[', '['] [']', ']'] cs).map fun ((path, key), rest) => (.nextHeader path key, rest)
  | '[' :: _ => (header ['['] [']'] cs).map fun ((path, key), rest) => (.header path key, rest)
  | cs => do
    let (((path, key), node), cs) ← keyValue (value (depthLimit - 1)) cs
    pure (.entry path key node, ← lineEnd cs)

/-- A line: a statement, or none where it is blank or holds a comment only. -/
def line : Reader (Option Statement) := fun cs =>
  let cs := skipGap cs
  match cs with
  | [] => none
  | c :: _ =>
    if c = '#' || c = '\n' || c = '\r' then (lineEnd cs).map fun rest => (none, rest)
    else (statement cs).map fun (s, rest) => (some s, rest)

/-- The statements of a whole text, which may start with a byte order mark. -/
def statements? (text : List Char) : Option (List Statement) :=
  let text := (expect '\uFEFF' text).getD text
  match many line text with
  | (lines, rest) => if skipGap rest = [] then some (lines.filterMap id) else none

/-! ## From statements to the tree -/

/-- A document as far as it has been read. -/
structure Document where
  entries : Entries := []
  /-- The table that was opened last. -/
  current : List String := []

namespace Document

/-- The document after one more statement, if that may stand there. -/
def extend (d : Document) : Statement → Option Document
  | .header path key => do
    let entries ← Entries.withinHeader (Entries.openTable key) path d.entries
    pure ⟨entries, path ++ [key]⟩
  | .nextHeader path key => do
    let entries ← Entries.withinHeader (Entries.openNext key) path d.entries
    pure ⟨entries, path ++ [key]⟩
  | .entry path key node => do
    let entries ←
      Entries.withinHeader (Entries.define path key node .header) d.current d.entries
    pure { d with entries }

/-- The tree that statements build. -/
def ofStatements? (statements : List Statement) : Option Entries :=
  (statements.foldlM extend {}).map (·.entries)

/-- The tree of a text. -/
def ofText? (text : String) : Option Entries := (statements? text.toList).bind ofStatements?

end Document

end Gatehouse.Toml
