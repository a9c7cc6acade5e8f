/-!
# The tree of a TOML document

Values, and tables that remember how they came to be: the format lets some tables be extended later
and others not.  Of floating-point numbers, dates and times only their being there is kept, because
nothing asks for more.
-/

namespace Gatehouse.Toml

/-- How a table came to be. -/
inductive TableKind
  /-- Written between braces. -/
  | inline
  /-- Opened by a header of its own. -/
  | header
  /-- Implied by the header of a table inside it. -/
  | implied
  /-- Implied by a dotted key. -/
  | dotted
deriving DecidableEq, Repr

/-- A value or a table. -/
inductive Node
  | string (value : String)
  | integer (value : Int)
  | float
  | boolean (value : Bool)
  | moment
  | array (items : List Node)
  | table (kind : TableKind) (entries : List (String × Node))
  /-- Tables that were opened one after another by headers of one name. -/
  | tables (items : List (List (String × Node)))

/-- The entries of a table, each key once. -/
abbrev Entries := List (String × Node)

namespace Entries

/-- What stands under a key. -/
def find? (key : String) : Entries → Option Node
  | [] => none
  | (k, node) :: rest => if k = key then some node else find? key rest

/-- Change what stands under a key. -/
def replace (key : String) (node : Node) : Entries → Entries
  | [] => []
  | (k, old) :: rest => if k = key then (k, node) :: rest else (k, old) :: replace key node rest

/-- A new key. -/
def insert (key : String) (node : Node) (entries : Entries) : Entries := entries ++ [(key, node)]

theorem find?_insert (key k : String) (node : Node) (entries : Entries)
    (fresh : find? key entries = none) :
    find? k (insert key node entries) = if key = k then some node else find? k entries := by
  induction entries with
  | nil => simp [insert, find?]
  | cons e rest ih =>
    obtain ⟨k', old⟩ := e
    simp only [find?] at fresh
    split at fresh
    · cases fresh
    · rename_i hne
      have ih := ih fresh
      simp only [insert] at ih
      simp only [insert, List.cons_append, find?]
      rw [ih]
      by_cases h : k' = k
      · subst h
        simp [Ne.symm hne]
      · simp [h]

theorem find?_replace (key k : String) (node : Node) (entries : Entries) :
    find? k (replace key node entries) =
      if key = k ∧ (find? key entries).isSome then some node else find? k entries := by
  induction entries with
  | nil => simp [replace, find?]
  | cons e rest ih =>
    obtain ⟨k', old⟩ := e
    by_cases h : k' = key
    · subst h
      by_cases hk : k' = k
      · simp [replace, find?, hk]
      · simp [replace, find?, hk]
    · by_cases hk : k' = k
      · subst hk
        simp [replace, find?, h, Ne.symm h]
      · simp [replace, find?, h, hk, ih]

end Entries

end Gatehouse.Toml
