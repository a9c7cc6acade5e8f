import Gatehouse.Proofs.Config.Settings

/-!
# What statements do to the settings

A statement opens a table of the configuration, has a setting in the table that is open, or is about
something else.  Only a setting changes a setting, and only its own; headers and what is about something
else keep the settings, and do the same whether the settings are there or not.
-/

namespace Gatehouse.Config

open Toml

/-! ## What belongs elsewhere -/

/-- The place is neither a table of the configuration nor a setting in one, nor within a setting. -/
def Foreign (path : List String) : Prop :=
  (∀ t : Table, path ≠ [t.name]) ∧ ∀ s : Setting, ¬ [s.table.name, s.name] <+: path

instance (path : List String) : Decidable (Foreign path) :=
  decidable_of_iff ((∀ t ∈ Table.all, path ≠ [t.name]) ∧
      ∀ s ∈ Setting.all, ¬ [s.table.name, s.name] <+: path) <|
    and_congr ⟨fun h t => h t t.mem_all, fun h t _ => h t⟩
      ⟨fun h s => h s s.mem_all, fun h s _ => h s⟩

/-- The keys of the settings in a table. -/
def Table.keys (t : Table) : List String := (Setting.all.filter (·.table = t)).map Setting.name

theorem Table.mem_keys {t : Table} {key : String} :
    key ∈ t.keys ↔ ∃ s : Setting, s.table = t ∧ s.name = key := by
  simp [keys, Setting.mem_all]

/-- The table of a name. -/
def Table.named? (name : String) : Option Table := all.find? (·.name = name)

theorem Table.named?_name (t : Table) : named? t.name = some t := by
  cases t <;> decide

theorem Table.name_of_named? {name : String} {t : Table} (h : named? name = some t) :
    t.name = name := by
  simpa using List.find?_some h

theorem Table.name_injective {t t' : Table} (h : t.name = t'.name) : t = t' := by
  have hnamed := named?_name t
  rw [h, named?_name] at hnamed
  exact (Option.some.inj hnamed).symm

/-- A sieve that takes the settings out of a table. -/
def unsetIn (t : Table) : Entries.Sieve := fun key => if key ∈ t.keys then none else some id

/-- A sieve that takes the settings out of their tables. -/
def unset : Entries.Sieve := fun name =>
  (Table.named? name).elim (some id) fun t => some (Entries.inTable (unsetIn t))

theorem unset_name (t : Table) : unset t.name = some (Entries.inTable (unsetIn t)) := by
  rw [unset, Table.named?_name]
  rfl

section Foreign

variable {path : List String} {entries entries' : Entries}

theorem Foreign.spared (foreign : Foreign path) (nonempty : path ≠ []) :
    Entries.Spared unset path := by
  cases path with
  | nil => exact absurd rfl nonempty
  | cons name rest =>
    cases hnamed : Table.named? name with
    | none =>
      refine .apart ?_ rest
      rw [unset, hnamed]
      rfl
    | some t =>
      obtain rfl := Table.name_of_named? hnamed
      refine .inside (unset_name t) ?_
      cases rest with
      | nil => exact absurd rfl (foreign.1 t)
      | cons key rest =>
        refine .apart (if_neg fun hkey => ?_) rest
        obtain ⟨s, rfl, rfl⟩ := Table.mem_keys.1 hkey
        exact foreign.2 s ⟨rest, rfl⟩

/-- What becomes of a table of the configuration: it stays if it was there, with its settings. -/
structure Keeps (t : Table) (entries entries' : Entries) : Prop where
  tabular : Entries.Tabular (Entries.find? t.name entries')
  there : (Entries.find? t.name entries).isSome → (Entries.find? t.name entries').isSome
  found : ∀ s : Setting, s.table = t → found entries' s = found entries s

theorem keeps_of_same {t : Table} (tabular : Entries.Tabular (Entries.find? t.name entries))
    (same : Entries.find? t.name entries' = Entries.find? t.name entries) :
    Keeps t entries entries' where
  tabular := same ▸ tabular
  there := fun h => same ▸ h
  found := by
    rintro s rfl
    rw [Config.found, Config.found, fieldsIn, fieldsIn, same]

theorem keeps_of_table {t : Table} {kind : TableKind} {inner : Entries} (header : kind ≠ .inline)
    (table : Entries.find? t.name entries' = some (.table kind inner))
    (found : ∀ s : Setting, s.table = t → Entries.find? s.name inner =
      Entries.find? s.name (fieldsIn entries t)) :
    Keeps t entries entries' where
  tabular := table ▸ Entries.tabular_table header inner
  there := fun _ => table ▸ rfl
  found := by
    rintro s rfl
    rw [Config.found, fieldsIn, table]
    exact found s rfl

/-- A change at a place of something else keeps the tables of the configuration. -/
theorem keeps_of_foreign {change : Entries.Change} {kind : TableKind}
    (along : Entries.Along path change) (foreign : Foreign path)
    (h : change kind entries = some entries') {t : Table}
    (tabular : Entries.Tabular (Entries.find? t.name entries)) : Keeps t entries entries' := by
  cases along with
  | last key f =>
    obtain ⟨node, -, rfl⟩ := Entries.alter_eq_some_iff.1 h
    have hne : key ≠ t.name := by
      rintro rfl
      exact foreign.1 t rfl
    exact keeps_of_same tabular (Entries.find?_set_of_ne hne)
  | nested key enters header along =>
    obtain ⟨node, hnested, rfl⟩ := Entries.alter_eq_some_iff.1 h
    by_cases hkey : key = t.name
    · subst hkey
      obtain ⟨kind', inner, hkind, hinner, rfl⟩ := tabular.nested header hnested
      obtain ⟨name, rest, node, rfl, rfl⟩ := along.first hinner
      refine keeps_of_table hkind (Entries.find?_set_self _ _ _) ?_
      rintro s rfl
      have hne : name ≠ s.name := by
        rintro rfl
        exact foreign.2 s ⟨rest, rfl⟩
      exact Entries.find?_set_of_ne hne
    · exact keeps_of_same tabular (Entries.find?_set_of_ne hkey)

/-- The header of a table keeps all tables of the configuration, the one that it opens included. -/
theorem keeps_of_opening {t t' : Table}
    (h : Entries.alter t.name Entries.opened entries = some entries')
    (tabular : Entries.Tabular (Entries.find? t'.name entries)) : Keeps t' entries entries' := by
  obtain ⟨node, hopened, rfl⟩ := Entries.alter_eq_some_iff.1 h
  by_cases ht : t = t'
  · subst ht
    obtain rfl := tabular.opened hopened
    exact keeps_of_table (by decide) (Entries.find?_set_self _ _ _) fun s _ => rfl
  · exact keeps_of_same tabular (Entries.find?_set_of_ne fun h => ht (Table.name_injective h))

end Foreign

/-! ## Statements -/

/-- A document whose tables of the configuration are as they should be: the one that is open is there,
    and none was written between braces. -/
structure Sound (current : List String) (entries : Entries) : Prop where
  tabular : ∀ t : Table, Entries.Tabular (Entries.find? t.name entries)
  opened : ∀ t : Table, current = [t.name] → (Entries.find? t.name entries).isSome

section Statements

variable {current : List String} {entries entries' : Entries}

theorem sound_empty : Sound [] [] where
  tabular := fun t node h => by cases h
  opened := fun t h => by cases h

/-- A statement on something else. -/
theorem Sound.foreign {said : Statement} (sound : Sound current entries)
    (foreign : Foreign (said.place current))
    (h : said.change current .header entries = some entries') :
    Sound (said.opened current) entries' ∧ ∀ s, found entries' s = found entries s := by
  have keeps := fun t : Table =>
    keeps_of_foreign (said.along_change current) foreign h (sound.tabular t)
  refine ⟨⟨fun t => (keeps t).tabular, fun t ht => ?_⟩, fun s => (keeps s.table).found s rfl⟩
  cases said with
  | header path key => exact absurd ht (foreign.1 t)
  | nextHeader path key => exact absurd ht (foreign.1 t)
  | entry path key node => exact (keeps t).there (sound.opened t ht)

theorem change_opening (t : Table) :
    (Statement.header [] t.name).change current .header = Entries.alter t.name Entries.opened :=
  Entries.openTable_eq_alter t.name

theorem change_opening_sieve (t : Table) (current : List String) (entries : Entries) :
    (Statement.header [] t.name).change current .header (Entries.sieve unset entries) =
      ((Statement.header [] t.name).change current .header entries).map (Entries.sieve unset) := by
  rw [change_opening]
  exact Entries.alter_sieve (unset_name t) Entries.opened_inTable

/-- The header of a table. -/
theorem Sound.opening {t : Table} (sound : Sound current entries)
    (h : (Statement.header [] t.name).change current .header entries = some entries') :
    Sound [t.name] entries' ∧ ∀ s, found entries' s = found entries s := by
  rw [change_opening] at h
  have keeps := fun t' : Table => keeps_of_opening h (sound.tabular t')
  refine ⟨⟨fun t' => (keeps t').tabular, fun t' ht' => ?_⟩, fun s => (keeps s.table).found s rfl⟩
  obtain ⟨node, -, rfl⟩ := Entries.alter_eq_some_iff.1 h
  rw [← (List.cons.inj ht').1, Entries.find?_set_self]
  rfl

section Setting

variable {s : Setting} {kind : TableKind} {inner : Entries} {node : Node}
  (table : Entries.find? s.table.name entries = some (.table kind inner))

include table

theorem found_setting_of_ne {s' : Setting} (hne : s' ≠ s) :
    found (Entries.set s.table.name (.table kind (Entries.set s.name node inner)) entries) s' =
      found entries s' := by
  by_cases ht : s.table = s'.table
  · have hname : s.name ≠ s'.name := fun h => hne (Setting.table_name_injective s s' ht h).symm
    rw [found, found, fieldsIn, fieldsIn, ← ht, Entries.find?_set_self, table]
    exact Entries.find?_set_of_ne hname
  · rw [found, fieldsIn, Entries.find?_set_of_ne fun h => ht (Table.name_injective h)]
    rfl

variable (fresh : Entries.find? s.name inner = none)

include fresh

theorem change_setting (header : kind ≠ .inline) :
    (Statement.entry [] s.name node).change [s.table.name] .header entries =
      some (Entries.set s.table.name (.table kind (Entries.set s.name node inner)) entries) := by
  have hdefine : Entries.define [] s.name node .header inner =
      some (Entries.set s.name node inner) := by
    rw [Entries.define_nil_eq_alter, Entries.alter, fresh]
    rfl
  have henters : (kind != .inline) = true := bne_iff_ne.2 header
  rw [Statement.change, Entries.within_cons_eq_alter, Entries.alter, table, Entries.nested,
    if_pos henters]
  exact congrArg _ (congrArg _ hdefine)

/-- The sieve takes out what is new, and leaves the table as it was. -/
theorem sieve_setting :
    Entries.sieve unset
        (Entries.set s.table.name (.table kind (Entries.set s.name node inner)) entries) =
      Entries.sieve unset entries := by
  have hdropped : unsetIn s.table s.name = none := if_pos (Table.mem_keys.2 ⟨s, rfl, rfl⟩)
  have hback : Entries.inTable (unsetIn s.table) (.table kind (Entries.set s.name node inner)) =
      Entries.inTable (unsetIn s.table) (.table kind inner) :=
    congrArg (Node.table kind) (Entries.sieve_set_of_none hdropped fresh)
  rw [Entries.sieve_set (unset_name s.table), hback, Entries.set_of_find?]
  rw [Entries.find?_sieve (unset_name s.table), table]
  rfl

end Setting

/-- A setting in its table. -/
theorem Sound.setting {s : Setting} (sound : Sound [s.table.name] entries) (node : Node)
    (fresh : found entries s = none) :
    ∃ entries', (Statement.entry [] s.name node).change [s.table.name] .header entries =
        some entries' ∧
      Sound [s.table.name] entries' ∧ Entries.sieve unset entries' = Entries.sieve unset entries ∧
      found entries' s = some node ∧ ∀ s' ≠ s, found entries' s' = found entries s' := by
  obtain ⟨old, table⟩ := Option.isSome_iff_exists.1 (sound.opened s.table rfl)
  obtain ⟨kind, inner, header, rfl⟩ := sound.tabular s.table old table
  have hfresh : Entries.find? s.name inner = none := by
    rwa [found, fieldsIn, table] at fresh
  have hself := Entries.find?_set_self s.table.name (.table kind (Entries.set s.name node inner))
    entries
  refine ⟨_, change_setting table hfresh header, ⟨fun t => ?_, fun t ht => ?_⟩,
    sieve_setting table hfresh, ?_, fun s' hs' => found_setting_of_ne table hs'⟩
  · by_cases ht : s.table = t
    · rw [← ht, hself]
      exact Entries.tabular_table header _
    · rw [Entries.find?_set_of_ne fun h => ht (Table.name_injective h)]
      exact sound.tabular t
  · rw [← (List.cons.inj ht).1, hself]
    rfl
  · rw [found, fieldsIn, hself]
    exact Entries.find?_set_self s.name node inner

end Statements

end Gatehouse.Config
