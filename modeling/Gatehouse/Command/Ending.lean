import Gatehouse.Command.Gate
import Gatehouse.Directory
import Gatehouse.Server

/-!
# How commands end

The exit code of a command, what it prints, and the directory that it leaves behind.
-/

namespace Gatehouse

/-- What is left of a command. -/
structure Ending where
  exitCode : Nat
  /-- What it has printed, log events apart. -/
  printed : String := ""
  directory : Directory

namespace Command

/-- The exit code of a command that ends with an error. -/
def errorCode : Nat := 1

/-- A new key file: the text of it, and what is printed. -/
def newKey (S : Suite) (chance : Chance) : String × String :=
  let identity : Identity := ⟨chance.takeSecret.1⟩
  (identity.fileText, PublicKey.toHex (identity.publicKey S) ++ "\n")

/-- Make a key file in a directory. -/
def keygen (S : Suite) (d : Directory) (chance : Chance) (out : String) : Ending :=
  let (text, printed) := newKey S chance
  match d.write out text with
  | .ok directory => { exitCode := 0, printed, directory }
  | .error _ => { exitCode := errorCode, directory := d }

/-- The configuration that a gate in a directory is asked to serve. -/
def configIn (d : Directory) (path : Option String) : Except CommandError Config :=
  match Config.loadOrDefault (path.map d.read) with
  | .ok config => .ok config
  | .error e => .error (.config e)

/-- Set up a gate in a directory. -/
def serverIn (S : Suite) (d : Directory) (chance : Chance) (path : Option String)
    (system : SocketAddress → Except SystemError SocketAddress) : Except CommandError Server := do
  (Server.start S (← configIn d path) d.read chance system).2

/-- What the dialer starts from: its identity, the listener's key, and what is left to be drawn.
    `keyFile` is what stands in a key file. -/
def dialer (keyFile : String → FileContent) (c : DialCommand) (chance : Chance) :
    Except CommandError (Identity × PublicKey × Chance) :=
  match Key.ofHex c.remoteKey with
  | .error e => .error (.key e)
  | .ok remote =>
    match c.key with
    | none =>
      let (secret, chance) := chance.takeSecret
      .ok (⟨secret⟩, remote, chance)
    | some path =>
      match Identity.load (keyFile path) with
      | .error e => .error (.key e)
      | .ok identity => .ok (identity, remote, chance)

/-- A dialer that has been set up in a directory and has reached `peer`. -/
def dialIn (S : Suite) (d : Directory) (chance : Chance) (c : DialCommand) (peer : SocketAddress) :
    Except CommandError (Identity × Dial) := do
  let (identity, remote, chance) ← dialer d.read c chance
  pure (identity, Dial.start S identity remote peer c.timeoutMs.toNat chance.takeSecret.1)

end Command

end Gatehouse
