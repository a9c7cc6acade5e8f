import Gatehouse.Toml.Node

/-!
# Building the tree of a TOML document

A key is defined once.  Tables may be entered again by the headers of tables inside them, those that
were written between braces excepted; a dotted key enters only tables that have no header of their
own, and defines something only in a table that was implied by a dotted key.
-/

namespace Gatehouse.Toml.Entries

/-- Change the table at the end of a path, given the kind of the table where the path starts.  Tables
    that are missing on the path are of the kind `missing`, and those that `enters` refuses are not
    entered. -/
def within (missing : TableKind) (enters : TableKind → Bool)
    (change : TableKind → Entries → Option Entries) :
    (path : List String) → TableKind → Entries → Option Entries
  | [], kind, entries => change kind entries
  | key :: path, _, entries =>
    match find? key entries with
    | none => do
      let inner ← within missing enters change path missing []
      pure (insert key (.table missing inner) entries)
    | some (.table kind inner) =>
      if enters kind then do
        let inner ← within missing enters change path kind inner
        pure (replace key (.table kind inner) entries)
      else none
    | some (.tables items) =>
      -- the table of this name that was opened last
      match items.getLast? with
      | none => none
      | some last => do
        let last ← within missing enters change path .header last
        pure (replace key (.tables (items.dropLast ++ [last])) entries)
    | some _ => none

/-- Go along a dotted key. -/
def withinDotted (change : TableKind → Entries → Option Entries) :
    (path : List String) → TableKind → Entries → Option Entries :=
  within .dotted (fun kind => kind == .dotted || kind == .implied) change

/-- Go along the name of a header. -/
def withinHeader (change : Entries → Option Entries) (path : List String) (entries : Entries) :
    Option Entries :=
  within .implied (· != .inline) (fun _ => change) path .header entries

/-- Define what a key stands for in a table of some kind; `path` are the parts of the key before its
    last one. -/
def define (path : List String) (key : String) (node : Node) (kind : TableKind)
    (entries : Entries) : Option Entries :=
  withinDotted (fun kind entries =>
    if (path.isEmpty || kind == .dotted) && (find? key entries).isNone then
      some (insert key node entries)
    else none) path kind entries

/-- Open a table: a new one, or one that headers of tables inside it have implied. -/
def openTable (key : String) (entries : Entries) : Option Entries :=
  match find? key entries with
  | none => some (insert key (.table .header []) entries)
  | some (.table .implied inner) => some (replace key (.table .header inner) entries)
  | some _ => none

/-- Open one more table of a name. -/
def openNext (key : String) (entries : Entries) : Option Entries :=
  match find? key entries with
  | none => some (insert key (.tables [[]]) entries)
  | some (.tables items) => some (replace key (.tables (items ++ [[]])) entries)
  | some _ => none

end Gatehouse.Toml.Entries
