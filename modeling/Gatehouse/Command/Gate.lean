import Gatehouse.Command.Arguments

/-!
# The commands of the gate and of the dialer

The gate serves, with a configuration file or without, or makes a key file.  The dialer runs one
handshake with a listener.
-/

namespace Gatehouse

open Command

/-- What the gate is asked to do. -/
inductive GateCommand
  /-- Serve, as the configuration file says. -/
  | serve (config : Option String)
  /-- Write a new key file. -/
  | keygen (out : String)
deriving DecidableEq, Repr

namespace GateCommand

/-- What stands before the name of a command. -/
def usage : Usage where
  flags := [⟨'c', "config", false, nonempty⟩]
  commands := ["serve", "keygen", "help"]

/-- What `serve` takes. -/
def serveUsage : Usage := {}

/-- What `keygen` takes. -/
def keygenUsage : Usage where
  flags := [⟨'o', "out", true, nonempty⟩]

/-- What `help` takes: the name of a command, or nothing. -/
def ofHelp : List String → Stop
  | [] => .help
  | [name] => if usage.commands.contains name then .help else .misuse
  | _ => .misuse

/-- The command that arguments make. -/
def ofArguments (args : List String) : Except Stop GateCommand := do
  let f ← read usage args
  let config := f.value? "config"
  match f.command with
  | none => pure (.serve config)
  | some ("keygen", args) =>
    let f ← read keygenUsage args
    match f.value? "out" with
    | none => .error .misuse
    | some out => pure (.keygen out)
  | some ("serve", args) =>
    let _ ← read serveUsage args
    pure (.serve config)
  | some (_, args) => .error (ofHelp args)

end GateCommand

/-- What the dialer is asked to do. -/
structure DialCommand where
  address : String
  /-- The key that the listener is expected to hold, in digits. -/
  remoteKey : String
  /-- The key file; without one an identity is drawn. -/
  key : Option String
  /-- How long connecting and act two may take each, in milliseconds. -/
  timeoutMs : UInt64
deriving DecidableEq, Repr

namespace DialCommand

/-- What the dialer takes. -/
def usage : Usage where
  flags :=
    [⟨'r', "remote-key", true, fun _ => true⟩, ⟨'k', "key", false, nonempty⟩,
     ⟨'t', "timeout-ms", false, fun v => (number? v).isSome⟩]
  operands := 1

/-- The command that arguments make. -/
def ofArguments (args : List String) : Except Stop DialCommand := do
  let f ← read usage args
  match f.operands, f.value? "remote-key" with
  | [address], some remoteKey =>
    let timeoutMs := ((f.value? "timeout-ms").bind number?).getD 5000
    pure { address, remoteKey, key := f.value? "key", timeoutMs }
  | _, _ => .error .misuse

/-- What is printed when the handshake has succeeded. -/
def report (peer localKey remoteKey : String) : String :=
  "connected to " ++ peer ++ " as " ++ localKey ++ "\nlistener key verified: " ++ remoteKey ++ "\n"

end DialCommand

end Gatehouse
