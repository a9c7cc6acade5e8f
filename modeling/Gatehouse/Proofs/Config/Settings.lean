import Gatehouse.Config.File
import Gatehouse.Proofs.Toml.Spelling
import Gatehouse.Proofs.Toml.Tree

/-!
# The settings of a configuration in a document

A configuration is a number of settings, each with a value that can be spelled.  A tree that has these
values under the names of the settings, or nothing where a value is the default, is read as the
configuration, whatever else it has (`ofEntries?_of_shows`).
-/

namespace Gatehouse.Config

open Toml

/-! ## Tables and settings -/

/-- The tables of a configuration file. -/
inductive Table
  | listener
  | identity
  | observability
deriving DecidableEq

namespace Table

/-- All tables. -/
def all : List Table := [listener, identity, observability]

/-- The name of a table in its header. -/
def name : Table → String
  | listener => "listener"
  | identity => "identity"
  | observability => "observability"

theorem mem_all (t : Table) : t ∈ all := by
  cases t <;> decide

end Table

/-- The settings of a configuration file. -/
inductive Setting
  | bindHost
  | port
  | maxHandshakes
  | handshakeTimeoutMs
  | keyPath
  | logFilter
  | logFormat
  | metricsEnabled
  | metricsAddress
deriving DecidableEq

namespace Setting

/-- All settings. -/
def all : List Setting :=
  [bindHost, port, maxHandshakes, handshakeTimeoutMs, keyPath, logFilter, logFormat, metricsEnabled,
    metricsAddress]

/-- The table to which a setting belongs. -/
def table : Setting → Table
  | bindHost | port | maxHandshakes | handshakeTimeoutMs => .listener
  | keyPath => .identity
  | logFilter | logFormat | metricsEnabled | metricsAddress => .observability

/-- The key of a setting in its table. -/
def name : Setting → String
  | bindHost => "bind_host"
  | port => "port"
  | maxHandshakes => "max_handshakes"
  | handshakeTimeoutMs => "handshake_timeout_ms"
  | keyPath => "key_path"
  | logFilter => "log_filter"
  | logFormat => "log_format"
  | metricsEnabled => "metrics_enabled"
  | metricsAddress => "metrics_address"

theorem mem_all (s : Setting) : s ∈ all := by
  cases s <;> decide

theorem table_name_injective : ∀ s s' : Setting, s.table = s'.table → s.name = s'.name → s = s' := by
  intro s s'
  cases s <;> cases s' <;> decide

end Setting

/-- The value of a setting, if it has one. -/
def value? (c : Config) : Setting → Option Scalar
  | .bindHost => some (.string c.listener.bindHost)
  | .port => some (.integer c.listener.port.toNat)
  | .maxHandshakes => some (.integer c.listener.maxHandshakes.toNat)
  | .handshakeTimeoutMs => some (.integer c.listener.handshakeTimeoutMs.toNat)
  | .keyPath => c.identity.keyPath.map .string
  | .logFilter => some (.string c.observability.logFilter)
  | .logFormat => some (.string c.observability.logFormat.name)
  | .metricsEnabled => some (.boolean c.observability.metricsEnabled)
  | .metricsAddress => some (.string c.observability.metricsAddress)

/-! ## Reading the settings -/

/-- The entries that a tree has in a table. -/
def fieldsIn (entries : Entries) (t : Table) : Entries := Entries.held (Entries.find? t.name entries)

/-- What a tree has for a setting. -/
def found (entries : Entries) (s : Setting) : Option Node :=
  Entries.find? s.name (fieldsIn entries s.table)

/-- The tree has the values of a configuration, but for some that are the default. -/
def Shows (c : Config) (entries : Entries) : Prop :=
  ∀ s : Setting, (found entries s = none ∧ c.value? s = ({} : Config).value? s) ∨
    ∃ v, c.value? s = some v ∧ found entries s = some v.node

section Reading

variable {α : Type} {c : Config} {entries : Entries}

theorem count?_ofNat {bound n : Nat} (h : n < bound) : count? bound (.integer (Int.ofNat n)) = some n :=
  if_pos ⟨Int.natCast_nonneg n, h⟩

theorem logFormat?_name (format : LogFormat) : logFormat? (.string format.name) = some format := by
  cases format <;> decide

theorem logFormat_eq_of_name : ∀ f g : LogFormat, f.name = g.name → f = g := by
  intro f g
  cases f <;> cases g <;> decide

/-- A setting is read as the value that the tree has, and as the default if it has none. -/
theorem read_of_shows (shows : Shows c entries) (s : Setting) (place : Nat)
    (ofNode? : Node → Option α) (default x : α)
    (given : ∀ v, c.value? s = some v → ofNode? v.node = some x)
    (omitted : c.value? s = ({} : Config).value? s → default = x) :
    (Fields.byName (fieldsIn entries s.table)).read place s.name ofNode? default = some x := by
  have hfind : (Fields.byName (fieldsIn entries s.table)).find? place s.name = found entries s := rfl
  rw [Fields.read, hfind]
  rcases shows s with ⟨hnone, hdefault⟩ | ⟨v, hvalue, hsome⟩
  · rw [hnone, omitted hdefault]
  · rw [hsome]
    exact given v hvalue

theorem read_text (shows : Shows c entries) (s : Setting) (place : Nat) (default x : String)
    (hvalue : c.value? s = some (.string x))
    (hdefault : ({} : Config).value? s = some (.string default)) :
    (Fields.byName (fieldsIn entries s.table)).read place s.name text? default = some x := by
  refine read_of_shows shows s place text? default x (fun v hv => ?_) fun h => ?_
  · cases hvalue.symm.trans hv
    rfl
  · cases (hvalue.symm.trans h).trans hdefault
    rfl

theorem read_count (shows : Shows c entries) (s : Setting) (place : Nat) {bound : Nat}
    {ofNat : Nat → α} {toNat : α → Nat} (default x : α) (fits : toNat x < bound)
    (inverse : ∀ x, ofNat (toNat x) = x) (hvalue : c.value? s = some (.integer (toNat x)))
    (hdefault : ({} : Config).value? s = some (.integer (toNat default))) :
    (Fields.byName (fieldsIn entries s.table)).read place s.name (fun n => (count? bound n).map ofNat)
      default = some x := by
  refine read_of_shows shows s place _ default x (fun v hv => ?_) fun h => ?_
  · cases hvalue.symm.trans hv
    show (count? bound (.integer (Int.ofNat (toNat x)))).map ofNat = some x
    rw [count?_ofNat fits, Option.map_some, inverse]
  · have hsame : toNat x = toNat default :=
      Scalar.integer.inj (Option.some.inj ((hvalue.symm.trans h).trans hdefault))
    rw [← inverse default, ← hsame, inverse]

theorem listenerSection?_of_shows (shows : Shows c entries) (kind : TableKind) :
    listenerSection? (.table kind (fieldsIn entries .listener)) = some c.listener := by
  have hhost := read_text shows .bindHost 0 _ c.listener.bindHost rfl rfl
  have hport := read_count shows .port 1 _ c.listener.port c.listener.port.toNat_lt
    (fun _ => UInt16.ofNat_toNat) rfl rfl
  have hhandshakes := read_count shows .maxHandshakes 2 _ c.listener.maxHandshakes
    c.listener.maxHandshakes.toNat_lt (fun _ => UInt64.ofNat_toNat) rfl rfl
  have htimeout := read_count shows .handshakeTimeoutMs 3 _ c.listener.handshakeTimeoutMs
    c.listener.handshakeTimeoutMs.toNat_lt (fun _ => UInt64.ofNat_toNat) rfl rfl
  dsimp only [Setting.table, Setting.name] at hhost hport hhandshakes htimeout
  rw [listenerSection?, Fields.ofNode?]
  dsimp only [Option.bind_eq_bind, Option.bind_some]
  rw [hhost, Option.bind_some, hport, Option.bind_some, hhandshakes, Option.bind_some, htimeout]
  rfl

theorem identitySection?_of_shows (shows : Shows c entries) (kind : TableKind) :
    identitySection? (.table kind (fieldsIn entries .identity)) = some c.identity := by
  have hpath := read_of_shows shows .keyPath 0 (fun n => (text? n).map some) none c.identity.keyPath
    (fun v hv => by
      obtain ⟨path, hpath, rfl⟩ := Option.map_eq_some_iff.1 hv
      rw [hpath]
      rfl)
    fun h => (Option.map_eq_none_iff.1 h).symm
  dsimp only [Setting.table, Setting.name] at hpath
  rw [identitySection?, Fields.ofNode?]
  dsimp only [Option.bind_eq_bind, Option.bind_some]
  rw [hpath]
  rfl

theorem observabilitySection?_of_shows (shows : Shows c entries) (kind : TableKind) :
    observabilitySection? (.table kind (fieldsIn entries .observability)) = some c.observability := by
  have hfilter := read_text shows .logFilter 0 _ c.observability.logFilter rfl rfl
  have hformat := read_of_shows shows .logFormat 1 logFormat? _ c.observability.logFormat
    (fun v hv => by
      cases hv
      exact logFormat?_name c.observability.logFormat)
    fun h => (logFormat_eq_of_name _ _ (Scalar.string.inj (Option.some.inj h))).symm
  have henabled := read_of_shows shows .metricsEnabled 2 flag? _ c.observability.metricsEnabled
    (fun v hv => by
      cases hv
      rfl)
    fun h => (Scalar.boolean.inj (Option.some.inj h)).symm
  have haddress := read_text shows .metricsAddress 3 _ c.observability.metricsAddress rfl rfl
  dsimp only [Setting.table, Setting.name] at hfilter hformat henabled haddress
  rw [observabilitySection?, Fields.ofNode?]
  dsimp only [Option.bind_eq_bind, Option.bind_some]
  rw [hfilter, Option.bind_some, hformat, Option.bind_some, henabled, Option.bind_some, haddress]
  rfl

/-- A missing table is read like an empty one. -/
theorem read_table {t : Table} (tabular : Entries.Tabular (Entries.find? t.name entries))
    (place : Nat) (ofNode? : Node → Option α) (default x : α)
    (empty : ofNode? (.table .header []) = some default)
    (given : ∀ kind, ofNode? (.table kind (fieldsIn entries t)) = some x) :
    (Fields.byName entries).read place t.name ofNode? default = some x := by
  have hfind : (Fields.byName entries).find? place t.name = Entries.find? t.name entries := rfl
  rw [fieldsIn] at given
  rw [Fields.read, hfind]
  cases h : Entries.find? t.name entries with
  | none =>
    rw [h] at given
    exact empty.symm.trans (given .header)
  | some node =>
    rw [h] at given tabular
    obtain ⟨kind, inner, -, rfl⟩ := tabular node rfl
    exact given kind

/-- A tree that has the values of a configuration is read as this configuration. -/
theorem ofEntries?_of_shows (shows : Shows c entries)
    (tabular : ∀ t : Table, Entries.Tabular (Entries.find? t.name entries)) :
    ofEntries? entries = some c := by
  have hlistener := read_table (tabular .listener) 0 listenerSection? {} c.listener rfl
    (listenerSection?_of_shows shows)
  have hidentity := read_table (tabular .identity) 1 identitySection? {} c.identity rfl
    (identitySection?_of_shows shows)
  have hobservability := read_table (tabular .observability) 2 observabilitySection? {}
    c.observability rfl (observabilitySection?_of_shows shows)
  dsimp only [Table.name] at hlistener hidentity hobservability
  rw [ofEntries?]
  dsimp only [Option.bind_eq_bind]
  rw [hlistener, Option.bind_some, hidentity, Option.bind_some, hobservability]
  rfl

end Reading

end Gatehouse.Config
