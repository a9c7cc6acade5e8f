import Gatehouse.Config.Fields
import Gatehouse.Identity
import Gatehouse.Toml.Document

/-!
# Configuration files

A configuration is read from the text of a file, and accepted if nothing is wrong with it.  Without a
file there is the default one.
-/

namespace Gatehouse

/-- Why there is no configuration. -/
inductive ConfigError
  /-- The file could not be read. -/
  | io (cause : SystemError)
  /-- The text is no document, or its fields do not hold what they should. -/
  | malformed
  /-- All that is wrong with what it says. -/
  | invalid (violations : List Violation)
deriving DecidableEq, Repr

/-- The error in words. -/
def ConfigError.message : ConfigError → String
  | io cause => "IO error: " ++ cause.message
  | malformed => "Parse error: not a configuration"
  | invalid violations =>
    "Validation failed: " ++ String.intercalate ", " (violations.map Violation.text)

namespace Config

/-- A configuration, unless something is wrong with it. -/
def checked (c : Config) : Except ConfigError Config :=
  match c.violations with
  | [] => .ok c
  | violations => .error (.invalid violations)

/-- Read a configuration. -/
def ofText (text : String) : Except ConfigError Config :=
  match (Toml.Document.ofText? text).bind ofEntries? with
  | none => .error .malformed
  | some c => c.checked

/-- Read the configuration in a file. -/
def load (content : FileContent) : Except ConfigError Config :=
  match content.readText with
  | .error cause => .error (.io cause)
  | .ok text => ofText text

/-- Read the configuration in a file, if there is one to be read, and take the default otherwise. -/
def loadOrDefault : Option FileContent → Except ConfigError Config
  | some content => load content
  | none => checked {}

end Config

end Gatehouse
