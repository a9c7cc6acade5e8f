import Gatehouse.Config
import Gatehouse.Toml.Node

/-!
# The fields of a configuration in a document

A section is a table with its fields by name, or an array with its fields in order.  What is missing
has its default, and what is not a field is left alone.  Each field takes values of its own type only,
and numbers have to fit.
-/

namespace Gatehouse.Config

open Toml

/-- The fields of a section as they are found in a document. -/
inductive Fields
  | byName (entries : Entries)
  | inOrder (items : List Node)

namespace Fields

/-- The fields that a value holds.  A date or time holds some that are not known here. -/
def ofNode? : Node → Option Fields
  | .table _ entries => some (byName entries)
  | .array items => some (inOrder items)
  | .tables items => some (inOrder (items.map (.table .header)))
  | .moment => some (byName [])
  | _ => none

/-- The value of the field of this name, which is the one at this place. -/
def find? (place : Nat) (name : String) : Fields → Option Node
  | byName entries => entries.find? name
  | inOrder items => items[place]?

/-- A field: its default if it is missing, and nothing at all if it cannot be read. -/
def read {α : Type} (fields : Fields) (place : Nat) (name : String) (ofNode? : Node → Option α)
    (default : α) : Option α :=
  match fields.find? place name with
  | none => some default
  | some node => ofNode? node

end Fields

/-! ## Values of fields -/

/-- A text. -/
def text? : Node → Option String
  | .string s => some s
  | _ => none

/-- A truth value. -/
def flag? : Node → Option Bool
  | .boolean b => some b
  | _ => none

/-- A number that is not negative and below a bound. -/
def count? (bound : Nat) : Node → Option Nat
  | .integer n => if 0 ≤ n ∧ n.toNat < bound then some n.toNat else none
  | _ => none

/-- Is there nothing in a table or an array? -/
def isHollow : Node → Bool
  | .table _ entries => entries.isEmpty
  | .array items => items.isEmpty
  | .tables items => items.isEmpty
  | _ => false

/-- The layout of a name. -/
def logFormatOfName? (name : String) : Option LogFormat :=
  [LogFormat.pretty, .json].find? (·.name == name)

/-- A layout: its name, or a table with nothing under its name and no other key. -/
def logFormat? : Node → Option LogFormat
  | .string name => logFormatOfName? name
  | .table _ [(name, node)] => if isHollow node then logFormatOfName? name else none
  | _ => none

/-! ## Sections -/

/-- The section on the listener. -/
def listenerSection? (node : Node) : Option ListenerSection := do
  let fields ← Fields.ofNode? node
  let d : ListenerSection := {}
  let bindHost ← fields.read 0 "bind_host" text? d.bindHost
  let port ← fields.read 1 "port" (fun n => (count? UInt16.size n).map UInt16.ofNat) d.port
  let maxHandshakes ←
    fields.read 2 "max_handshakes" (fun n => (count? UInt64.size n).map UInt64.ofNat) d.maxHandshakes
  let handshakeTimeoutMs ←
    fields.read 3 "handshake_timeout_ms" (fun n => (count? UInt64.size n).map UInt64.ofNat)
      d.handshakeTimeoutMs
  pure { bindHost, port, maxHandshakes, handshakeTimeoutMs }

/-- The section on the identity. -/
def identitySection? (node : Node) : Option IdentitySection := do
  let fields ← Fields.ofNode? node
  let keyPath ← fields.read 0 "key_path" (fun n => (text? n).map some) none
  pure { keyPath }

/-- The section on logs and metrics. -/
def observabilitySection? (node : Node) : Option ObservabilitySection := do
  let fields ← Fields.ofNode? node
  let d : ObservabilitySection := {}
  let logFilter ← fields.read 0 "log_filter" text? d.logFilter
  let logFormat ← fields.read 1 "log_format" logFormat? d.logFormat
  let metricsEnabled ← fields.read 2 "metrics_enabled" flag? d.metricsEnabled
  let metricsAddress ← fields.read 3 "metrics_address" text? d.metricsAddress
  pure { logFilter, logFormat, metricsEnabled, metricsAddress }

/-- The configuration that the tree of a document holds. -/
def ofEntries? (entries : Entries) : Option Config := do
  -- keys of other names stand beside these three and are left alone
  let fields : Fields := .byName entries
  let listener ← fields.read 0 "listener" listenerSection? {}
  let identity ← fields.read 1 "identity" identitySection? {}
  let observability ← fields.read 2 "observability" observabilitySection? {}
  pure { listener, identity, observability }

end Gatehouse.Config
