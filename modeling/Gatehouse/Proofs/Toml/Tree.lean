import Gatehouse.Toml.Document

/-!
# What a change of the tree leaves alone

Whatever changes the tree of a document goes along a path and touches one key of each table on it
(`Along`).  What stands under other keys neither changes nor matters: a sieve that takes something out
of the tree away from the path may come before the change or after it (`Along.sieve`).
-/

namespace Gatehouse.Toml

namespace Entries

variable {key k : String} {node : Node} {entries entries' : Entries}

/-! ## One key -/

/-- Let this stand under a key, which may be new. -/
def set (key : String) (node : Node) (entries : Entries) : Entries :=
  match find? key entries with
  | none => insert key node entries
  | some _ => replace key node entries

theorem set_of_none (fresh : find? key entries = none) :
    set key node entries = insert key node entries := by
  rw [set, fresh]

theorem set_of_some {old : Node} (there : find? key entries = some old) :
    set key node entries = replace key node entries := by
  rw [set, there]

theorem find?_set : find? k (set key node entries) =
    if key = k then some node else find? k entries := by
  cases h : find? key entries with
  | none => rw [set_of_none h, find?_insert key k node entries h]
  | some old => simp only [set_of_some h, find?_replace, h, Option.isSome_some, and_true]

theorem find?_set_self (key : String) (node : Node) (entries : Entries) :
    find? key (set key node entries) = some node := by
  rw [find?_set, if_pos rfl]

theorem find?_set_of_ne (hne : key ≠ k) : find? k (set key node entries) = find? k entries := by
  rw [find?_set, if_neg hne]

theorem replace_of_find? (there : find? key entries = some node) :
    replace key node entries = entries := by
  induction entries with
  | nil => rfl
  | cons e rest ih =>
    obtain ⟨k, old⟩ := e
    rw [find?] at there
    rw [replace]
    split at there
    · rename_i hk
      cases there
      rw [if_pos hk]
    · rename_i hk
      rw [if_neg hk, ih there]

theorem set_of_find? (there : find? key entries = some node) : set key node entries = entries := by
  rw [set_of_some there, replace_of_find? there]

/-- Change what stands under a key, as what stands there allows. -/
def alter (key : String) (f : Option Node → Option Node) (entries : Entries) : Option Entries :=
  (f (find? key entries)).map (set key · entries)

theorem alter_eq_some_iff {f : Option Node → Option Node} : alter key f entries = some entries' ↔
    ∃ node, f (find? key entries) = some node ∧ set key node entries = entries' :=
  Option.map_eq_some_iff

/-! ## Every change is one of what stands under a key -/

/-- A change of a table, given its kind. -/
abbrev Change := TableKind → Entries → Option Entries

/-- A table that is opened by its header. -/
def opened : Option Node → Option Node
  | none => some (.table .header [])
  | some (.table .implied inner) => some (.table .header inner)
  | some _ => none

/-- One more table of a name. -/
def openedNext : Option Node → Option Node
  | none => some (.tables [[]])
  | some (.tables items) => some (.tables (items ++ [[]]))
  | some _ => none

/-- A value where there is none. -/
def defined (allowed : Bool) (node : Node) : Option Node → Option Node
  | none => if allowed then some node else none
  | some _ => none

/-- A change of the table that is found, or of a new one. -/
def nested (missing : TableKind) (enters : TableKind → Bool) (change : Change) :
    Option Node → Option Node
  | none => (change missing []).map (.table missing)
  | some (.table kind inner) => if enters kind then (change kind inner).map (.table kind) else none
  | some (.tables items) =>
    items.getLast?.bind fun last =>
      (change .header last).map fun last => .tables (items.dropLast ++ [last])
  | some _ => none

theorem openTable_eq_alter (key : String) : openTable key = alter key opened := by
  funext entries
  rw [openTable, alter]
  cases h : find? key entries with
  | none => exact congrArg some (set_of_none h).symm
  | some old =>
    cases old with
    | table kind inner =>
      cases kind with
      | implied => exact congrArg some (set_of_some h).symm
      | _ => rfl
    | _ => rfl

theorem openNext_eq_alter (key : String) : openNext key = alter key openedNext := by
  funext entries
  rw [openNext, alter]
  cases h : find? key entries with
  | none => exact congrArg some (set_of_none h).symm
  | some old =>
    cases old with
    | tables items => exact congrArg some (set_of_some h).symm
    | _ => rfl

theorem defineLast_eq_alter (key : String) (node : Node) (allowed : Bool) :
    (fun entries => if allowed && (find? key entries).isNone then some (insert key node entries)
      else none) = alter key (defined allowed node) := by
  funext entries
  rw [alter]
  cases h : find? key entries with
  | none =>
    cases allowed with
    | true => exact congrArg some (set_of_none h).symm
    | false => rfl
  | some old =>
    rw [Option.isNone_some, Bool.and_false]
    rfl

theorem define_nil_eq_alter (key : String) (node : Node) (kind : TableKind) :
    define [] key node kind = alter key (defined true node) :=
  defineLast_eq_alter key node true

theorem within_cons_eq_alter (missing : TableKind) (enters : TableKind → Bool) (change : Change)
    (key : String) (path : List String) (kind : TableKind) :
    within missing enters change (key :: path) kind =
      alter key (nested missing enters (within missing enters change path)) := by
  funext entries
  rw [within, alter]
  cases h : find? key entries with
  | none =>
    cases hinner : within missing enters change path missing [] with
    | none => simp [nested, hinner]
    | some inner => simp [nested, hinner, set_of_none h]
  | some old =>
    cases old with
    | table kind inner =>
      by_cases henters : enters kind = true
      · cases hinner : within missing enters change path kind inner with
        | none => simp [nested, henters, hinner]
        | some inner' => simp [nested, henters, hinner, set_of_some h]
      · simp [nested, henters]
    | tables items =>
      cases hlast : items.getLast? with
      | none => simp [nested, hlast]
      | some last =>
        cases hinner : within missing enters change path .header last with
        | none => simp [nested, hlast, hinner]
        | some last' => simp [nested, hlast, hinner, set_of_some h]
    | _ => rfl

/-- A change that goes along a path: it touches one key of each table that it enters. -/
inductive Along : List String → Change → Prop
  | last (key : String) (f : TableKind → Option Node → Option Node) :
    Along [key] fun kind => alter key (f kind)
  | nested (key : String) {path : List String} {change : Change} {missing : TableKind}
      (enters : TableKind → Bool) (header : missing ≠ .inline) (along : Along path change) :
    Along (key :: path) fun _ => alter key (nested missing enters change)

section Along

variable {path rest : List String} {change : Change} {missing : TableKind}

theorem Along.within (enters : TableKind → Bool) (header : missing ≠ .inline) (path : List String)
    (along : Along rest change) : Along (path ++ rest) (Entries.within missing enters change path) := by
  induction path with
  | nil => exact along
  | cons key path ih =>
    have hchange : Entries.within missing enters change (key :: path) = fun _ =>
        alter key (Entries.nested missing enters (Entries.within missing enters change path)) :=
      funext (within_cons_eq_alter missing enters change key path)
    rw [hchange]
    exact .nested key enters header ih

/-- A change may be held to one kind of table. -/
theorem Along.fixed (along : Along path change) (kind : TableKind) :
    Along path fun _ => change kind := by
  cases along with
  | last key f => exact .last key fun _ => f kind
  | nested key enters header along => exact .nested key enters header along

theorem Along.ne_nil (along : Along path change) : path ≠ [] := by
  cases along <;> exact List.cons_ne_nil _ _

/-- A change along a path touches the first key on it only. -/
theorem Along.first {kind : TableKind} (along : Along path change)
    (h : change kind entries = some entries') :
    ∃ key rest node, path = key :: rest ∧ set key node entries = entries' := by
  cases along with
  | last key f =>
    obtain ⟨node, -, hset⟩ := alter_eq_some_iff.1 h
    exact ⟨key, [], node, rfl, hset⟩
  | nested key enters header along =>
    obtain ⟨node, -, hset⟩ := alter_eq_some_iff.1 h
    exact ⟨key, _, node, rfl, hset⟩

end Along

/-! ## Sieves -/

/-- What becomes of what stands under a key: nothing, or something that may be less. -/
abbrev Sieve := String → Option (Node → Node)

/-- What a sieve leaves of a table. -/
def sieve (keep : Sieve) (entries : Entries) : Entries :=
  entries.filterMap fun e => (keep e.1).map fun f => (e.1, f e.2)

/-- What a sieve leaves of the table that a node is. -/
def inTable (keep : Sieve) : Node → Node
  | .table kind inner => .table kind (sieve keep inner)
  | node => node

section Sieve

variable {keep : Sieve} {f : Node → Node}

theorem sieve_cons_of_some {e : String × Node} (kept : keep e.1 = some f) :
    sieve keep (e :: entries) = (e.1, f e.2) :: sieve keep entries := by
  rw [sieve, List.filterMap_cons_some]
  · rfl
  · rw [kept]
    rfl

theorem sieve_cons_of_none {e : String × Node} (dropped : keep e.1 = none) :
    sieve keep (e :: entries) = sieve keep entries := by
  rw [sieve, List.filterMap_cons_none]
  · rfl
  · rw [dropped]
    rfl

theorem find?_sieve (kept : keep key = some f) :
    find? key (sieve keep entries) = (find? key entries).map f := by
  induction entries with
  | nil => rfl
  | cons e rest ih =>
    obtain ⟨k, old⟩ := e
    by_cases hk : k = key
    · rw [sieve_cons_of_some (f := f) (hk ▸ kept), find?, find?, if_pos hk, if_pos hk]
      rfl
    · cases hkeep : keep k with
      | none => rw [sieve_cons_of_none hkeep, find?, if_neg hk, ih]
      | some g => rw [sieve_cons_of_some hkeep, find?, find?, if_neg hk, if_neg hk, ih]

theorem sieve_replace (kept : keep key = some f) :
    sieve keep (replace key node entries) = replace key (f node) (sieve keep entries) := by
  induction entries with
  | nil => rfl
  | cons e rest ih =>
    obtain ⟨k, old⟩ := e
    by_cases hk : k = key
    · rw [replace, if_pos hk, sieve_cons_of_some (f := f) (hk ▸ kept),
        sieve_cons_of_some (f := f) (hk ▸ kept), replace, if_pos hk]
    · rw [replace, if_neg hk]
      cases hkeep : keep k with
      | none => rw [sieve_cons_of_none hkeep, sieve_cons_of_none hkeep, ih]
      | some g => rw [sieve_cons_of_some hkeep, sieve_cons_of_some hkeep, replace, if_neg hk, ih]

theorem sieve_set (kept : keep key = some f) :
    sieve keep (set key node entries) = set key (f node) (sieve keep entries) := by
  have hfind : find? key (sieve keep entries) = (find? key entries).map f := find?_sieve kept
  cases h : find? key entries with
  | none =>
    rw [h] at hfind
    rw [set_of_none h, set_of_none hfind]
    simp [sieve, insert, kept]
  | some old =>
    rw [h] at hfind
    rw [set_of_some h, set_of_some hfind, sieve_replace kept]

/-- What a sieve takes out leaves no trace. -/
theorem sieve_set_of_none (dropped : keep key = none) (fresh : find? key entries = none) :
    sieve keep (set key node entries) = sieve keep entries := by
  rw [set_of_none fresh]
  simp [sieve, insert, dropped]

/-- A change that gives the same of what the sieve leaves under its key commutes with the sieve. -/
theorem alter_sieve {g : Option Node → Option Node} (kept : keep key = some f)
    (same : ∀ old, g (old.map f) = (g old).map f) :
    alter key g (sieve keep entries) = (alter key g entries).map (sieve keep) := by
  rw [alter, alter, find?_sieve kept, same, Option.map_map, Option.map_map]
  congr 1
  funext node
  exact (sieve_set kept).symm

theorem opened_inTable (old : Option Node) :
    opened (old.map (inTable keep)) = (opened old).map (inTable keep) := by
  cases old with
  | none => rfl
  | some old =>
    cases old with
    | table kind inner => cases kind <;> rfl
    | _ => rfl

theorem nested_inTable {missing : TableKind} {enters : TableKind → Bool} {change : Change}
    (same : ∀ kind entries, change kind (sieve keep entries) =
      (change kind entries).map (sieve keep)) (old : Option Node) :
    nested missing enters change (old.map (inTable keep)) =
      (nested missing enters change old).map (inTable keep) := by
  have hmap : ∀ kind entries, (change kind (sieve keep entries)).map (Node.table kind) =
      ((change kind entries).map (Node.table kind)).map (inTable keep) := by
    intro kind entries
    rw [same, Option.map_map, Option.map_map]
    rfl
  cases old with
  | none => exact hmap missing []
  | some old =>
    cases old with
    | table kind inner =>
      simp only [nested, inTable, Option.map_some]
      split
      · exact hmap kind inner
      · rfl
    | tables items =>
      simp only [nested, inTable, Option.map_some]
      cases items.getLast? with
      | none => rfl
      | some last =>
        rw [Option.bind_some, Option.map_map]
        rfl
    | _ => rfl

/-- The sieve leaves everything at the end of the path as it is. -/
inductive Spared : Sieve → List String → Prop
  | apart {keep : Sieve} {key : String} (kept : keep key = some id) (rest : List String) :
    Spared keep (key :: rest)
  | inside {keep inner : Sieve} {key : String} {rest : List String}
      (kept : keep key = some (inTable inner)) (spared : Spared inner rest) :
    Spared keep (key :: rest)

/-- A change along a path may come before a sieve that spares the path or after it. -/
theorem Along.sieve {path : List String} {change : Change} (along : Along path change)
    (spared : Spared keep path) (kind : TableKind) (entries : Entries) :
    change kind (sieve keep entries) = (change kind entries).map (sieve keep) := by
  have hid : ∀ (g : Option Node → Option Node) old, g (old.map id) = (g old).map id := by
    intro g old
    rw [Option.map_id_fun, id, id]
  induction along generalizing keep kind entries with
  | last key f =>
    cases spared with
    | apart kept => exact alter_sieve kept (hid (f kind))
    | inside kept spared => cases spared
  | nested key enters header along ih =>
    cases spared with
    | apart kept => exact alter_sieve kept (hid _)
    | inside kept spared => exact alter_sieve kept (nested_inTable (ih spared))

end Sieve

/-! ## Tables -/

/-- What stands there, if anything does, is a table that was not written between braces. -/
def Tabular (node? : Option Node) : Prop :=
  ∀ node ∈ node?, ∃ kind inner, kind ≠ .inline ∧ node = .table kind inner

theorem tabular_table {kind : TableKind} (header : kind ≠ .inline) (inner : Entries) :
    Tabular (some (.table kind inner)) := by
  intro node h
  cases h
  exact ⟨kind, inner, header, rfl⟩

/-- The entries of the table that stands there: none where none does. -/
def held : Option Node → Entries
  | some (.table _ inner) => inner
  | _ => []

theorem Tabular.nested {missing : TableKind} {enters : TableKind → Bool} {change : Change}
    {old : Option Node} (tabular : Tabular old) (header : missing ≠ .inline)
    (h : nested missing enters change old = some node) :
    ∃ kind inner, kind ≠ .inline ∧ change kind (held old) = some inner ∧ node = .table kind inner := by
  cases old with
  | none =>
    obtain ⟨inner, hchange, rfl⟩ := Option.map_eq_some_iff.1 h
    exact ⟨missing, inner, header, hchange, rfl⟩
  | some old =>
    obtain ⟨kind, inner, hkind, rfl⟩ := tabular old rfl
    rw [Entries.nested] at h
    split at h
    · obtain ⟨inner', hchange, rfl⟩ := Option.map_eq_some_iff.1 h
      exact ⟨kind, inner', hkind, hchange, rfl⟩
    · cases h

theorem Tabular.opened {old : Option Node} (tabular : Tabular old) (h : opened old = some node) :
    node = .table .header (held old) := by
  cases old with
  | none => exact (Option.some.inj h).symm
  | some old =>
    obtain ⟨kind, inner, -, rfl⟩ := tabular old rfl
    cases kind with
    | implied => exact (Option.some.inj h).symm
    | _ => cases h

end Entries

/-! ## Statements -/

namespace Statement

/-- Where what a statement says belongs, given the table that is open. -/
def place (current : List String) : Statement → List String
  | header path key => path ++ [key]
  | nextHeader path key => path ++ [key]
  | entry path key _ => current ++ (path ++ [key])

/-- The table that is open behind a statement. -/
def opened (current : List String) : Statement → List String
  | header path key => path ++ [key]
  | nextHeader path key => path ++ [key]
  | entry _ _ _ => current

/-- What a statement does to the tree. -/
def change (current : List String) : Statement → Entries.Change
  | header path key => Entries.within .implied (· != .inline) (fun _ => Entries.openTable key) path
  | nextHeader path key => Entries.within .implied (· != .inline) (fun _ => Entries.openNext key) path
  | entry path key node =>
    Entries.within .implied (· != .inline) (fun _ => Entries.define path key node .header) current

theorem along_change (current : List String) (s : Statement) :
    Entries.Along (s.place current) (s.change current) := by
  have himplied : TableKind.implied ≠ .inline := by decide
  cases s with
  | header path key =>
    refine .within _ himplied path ?_
    rw [Entries.openTable_eq_alter]
    exact .last key fun _ => Entries.opened
  | nextHeader path key =>
    refine .within _ himplied path ?_
    rw [Entries.openNext_eq_alter]
    exact .last key fun _ => Entries.openedNext
  | entry path key node =>
    refine .within _ himplied current (.fixed (.within _ (by decide) path ?_) .header)
    have hlast := fun kind : TableKind =>
      Entries.defineLast_eq_alter key node (path.isEmpty || kind == .dotted)
    rw [funext hlast]
    exact .last key fun kind => Entries.defined (path.isEmpty || kind == .dotted) node

end Statement

namespace Document

theorem extend_eq_map (d : Document) (s : Statement) : d.extend s =
    (s.change d.current .header d.entries).map fun entries => ⟨entries, s.opened d.current⟩ := by
  cases s <;> exact Option.map_eq_bind.symm

end Document

end Gatehouse.Toml
