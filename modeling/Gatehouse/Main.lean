import Gatehouse.Command.Ending
import Gatehouse.Dial.Script
import Gatehouse.Dial.Target
import Std.Async.DNS
import Std.Async.Signal
import Std.Async.TCP
import Std.Async.Timer

/-!
# The programs

The outer layer of the gate and of the dialer: it moves bytes between sockets and the library, tells the
library the time, hands it random choices, and prints what the library reports.  The first argument
may be the name of the program, `handshake-gate` or `gate-dial`; without a name it is the gate.
-/

namespace Gatehouse.Outer

open Std.Async

abbrev Client := TCP.Socket.Client

/-! ## The operating system in the words of the library -/

/-- The error number in a code, which may be negated and cut to 32 bits. -/
def errnoOf (code : UInt32) : Int :=
  if code.toNat < Nat.pow 2 31 then Int.ofNat code.toNat
  else Int.ofNat (UInt32.size - code.toNat)

/-- An error of the operating system. -/
def systemError (e : IO.Error) : SystemError :=
  match e with
  | .unexpectedEof => .earlyEnd
  | .userError message => .custom .other message
  | .otherError code _ | .resourceBusy code _ | .resourceVanished code _
  | .unsupportedOperation code _ | .hardwareFault code _ | .unsatisfiedConstraints code _
  | .illegalOperation code _ | .protocolError code _ | .timeExpired code _
  | .interrupted _ code _ | .noFileOrDirectory _ code _ | .alreadyExists _ code _
  | .invalidArgument _ code _ | .permissionDenied _ code _ | .resourceExhausted _ code _
  | .inappropriateType _ code _ | .noSuchThing _ code _ => .errno (errnoOf code)

/-- What a path leads to. -/
def readPath (path : String) : IO FileContent := do
  try
    pure (.file (← IO.FS.readBinFile path).data.toList)
  catch e =>
    match e with
    | .noFileOrDirectory .. => pure .missing
    | _ => pure .directory

/-- Random bytes. -/
def randomBytes (count : Nat) : IO Bytes := do
  pure (← IO.getRandomBytes (USize.ofNat count)).data.toList

/-- Random choices, enough for so many handshakes. -/
def randomChance (handshakes : Nat) : IO Chance := do
  let bytes ← randomBytes (32 * (handshakes + 1))
  let numbers ← (List.range 8).mapM fun _ => do
    pure (UInt64.ofNat (leValue (← randomBytes 8)))
  pure { bytes, numbers }
where
  leValue (b : Bytes) : Nat := b.foldr (fun x n => x.toNat + 256 * n) 0

/-- An address for the operating system. -/
def toSystem (a : SocketAddress) : Std.Net.SocketAddress :=
  match a.ip with
  | .v4 ip => .v4 ⟨Std.Net.IPv4Addr.ofParts ip.a ip.b ip.c ip.d, a.port⟩
  | .v6 ip =>
    let g (i : Nat) : UInt16 := ip.groups.getD i 0
    .v6 ⟨Std.Net.IPv6Addr.ofParts (g 0) (g 1) (g 2) (g 3) (g 4) (g 5) (g 6) (g 7), a.port⟩

/-- An address from the operating system. -/
def ofSystem (a : Std.Net.SocketAddress) : SocketAddress :=
  let ip := (IpAddress.ofText? a.ipAddr.toString).getD .unspecified
  { ip, port := a.port }

/-- Send bytes: did it work? -/
def sendBytes (client : Client) (b : Bytes) : IO Bool := do
  if b.isEmpty then return true
  try
    (client.send ⟨b.toArray⟩).block
    pure true
  catch _ => pure false

/-- Hang up. -/
def hangUp (client : Client) : IO Unit := do
  try client.shutdown.block catch _ => pure ()

/-- What has been read from a socket, as a change of its connection. -/
def changeOf : Except IO.Error (Option ByteArray) → Wire.Change
  | .ok (some b) => .send b.data.toList
  | .ok none => .endWrites
  | .error e => .failRead (systemError e)

/-- How many bytes are read at a time. -/
def readSize : UInt64 := 4096

/-- How often the clock is looked at, in milliseconds. -/
def tickLength : Nat := 10

/-- A task that ends after so many milliseconds. -/
def pause (milliseconds : Nat) : IO (Task (Except IO.Error Unit)) :=
  (sleep (.ofNat milliseconds)).asTask

/-! ## Serving -/

/-- Something that the gate has waited for. -/
inductive Occurrence
  | accepted (client : Except IO.Error Client)
  | received (stream : Nat) (found : Except IO.Error (Option ByteArray))
  | signal
  | tick

/-- A connection of the gate. -/
structure Peer where
  stream : Nat
  client : Client

/-- Wait for the next connection. -/
def nextConnection (server : TCP.Socket.Server) : IO (Task Occurrence) := do
  let task : Task (Except IO.Error Client) ← server.accept.asTask
  pure (task.map .accepted)

/-- Wait for the next bytes of a connection. -/
def nextBytes (peer : Peer) : IO (Task Occurrence) := do
  let task : Task (Except IO.Error (Option ByteArray)) ← (peer.client.recv? readSize).asTask
  pure (task.map (.received peer.stream))

/-- Wait for the next look at the clock. -/
def nextTick : IO (Task Occurrence) := do
  pure ((← pause tickLength).map fun _ => .tick)

/-- Wait for a signal to stop. -/
def nextSignal (signal : Signal) : IO (Task Occurrence) := do
  let task : Task (Except IO.Error Int) ← (← Signal.Waiter.mk signal false).wait
  pure (task.map fun _ => .signal)

/-- A gate with its sockets. -/
structure Running where
  server : Server
  socket : TCP.Socket.Server
  filter : LogFilter
  peers : List Peer := []
  /-- How many events have been printed. -/
  printed : Nat := 0
  /-- What the clock said last. -/
  seen : Nat

/-- Print events. -/
def printEvents (format : LogFormat) (filter : LogFilter) (events : List LogEvent) : IO Unit := do
  let out ← IO.getStdout
  for e in events.filter filter.allows do
    out.putStrLn (e.line format)
  out.flush

/-- Send what waits to be sent on a connection: is it still open? -/
def flushPeer (server : Server) (peer : Peer) : IO (Server × Bool) := do
  match server.listener.wires.find? peer.stream with
  | none => pure (server, false)
  | some wire =>
    let waiting := wire.outward.unread
    let sent ← sendBytes peer.client waiting
    let change : Wire.Change :=
      if sent then .read waiting.length else .failWrite .brokenPipe
    let listener := server.listener.onWire peer.stream (·.change change)
    if !wire.gateOpen then hangUp peer.client
    pure ({ server with listener }, wire.gateOpen)

/-- Do all there is to do at this moment. -/
def Running.settle (r : Running) : IO Running := do
  let now ← IO.monoMsNow
  let chance ← randomChance (r.server.listener.tasks.length + r.server.listener.socket.waiting.length)
  let listener := { r.server.listener with chance, now := r.server.listener.now + (now - r.seen) }
  let mut server := { r.server with listener }.settle .standard
  let mut peers : List Peer := []
  for peer in r.peers do
    let (after, isOpen) ← flushPeer server peer
    server := after
    if isOpen then peers := peers ++ [peer]
  let fresh := server.events.drop r.printed
  printEvents server.config.observability.logFormat r.filter fresh
  pure { r with server, peers, printed := server.events.length, seen := now }

/-- The gate stops. -/
def Running.stop (r : Running) : IO Unit := do
  let server := (r.server.close .standard).finish
  for peer in r.peers do
    hangUp peer.client
  printEvents server.config.observability.logFormat r.filter (server.events.drop r.printed)

/-- Wait for something, do what there is to do about it, and go on until a signal comes. -/
partial def serveLoop (r : Running) (waiting : List (Task Occurrence)) : IO Unit := do
  let r ← r.settle
  match waiting with
  | [] => r.stop
  | task :: tasks =>
    let (occurrence, rest) ← IO.waitAny' (task :: tasks)
    match occurrence with
    | .signal => r.stop
    | .tick => serveLoop r (rest ++ [← nextTick])
    | .accepted (.error e) =>
      let listener := r.server.listener.apply .standard (.arrive (.error (systemError e)))
      serveLoop { r with server := { r.server with listener } } (rest ++ [← nextConnection r.socket])
    | .accepted (.ok client) =>
      let l := r.server.listener
      let peer : Peer := ⟨l.wires.length, client⟩
      let source := ofSystem (← client.getPeerName)
      let l := l.apply .standard (.newStream peer.stream)
      let l := l.apply .standard (.arrive (.ok ⟨peer.stream, source⟩))
      serveLoop { r with server := { r.server with listener := l }, peers := r.peers ++ [peer] }
        (rest ++ [← nextConnection r.socket, ← nextBytes peer])
    | .received stream found =>
      let change := changeOf found
      let l := r.server.listener.apply .standard (.wire stream change)
      let r := { r with server := { r.server with listener := l } }
      match change, r.peers.find? (·.stream = stream) with
      | .send _, some peer => serveLoop r (rest ++ [← nextBytes peer])
      | _, _ => serveLoop r rest

/-- Bind a socket: the address that it got. -/
def bindSocket (socket : TCP.Socket.Server) (a : SocketAddress) : IO (Except SystemError SocketAddress) := do
  try
    socket.bind (toSystem a)
    socket.listen 1024
    pure (.ok (ofSystem (← socket.getSockName)))
  catch e => pure (.error (systemError e))

/-- Report an error that ends the program. -/
def complain (message : String) : IO UInt32 := do
  (← IO.getStderr).putStrLn ("Error: " ++ message)
  pure (UInt32.ofNat Command.errorCode)

/-- The environment variable whose filter takes the place of the configured one. -/
def filterVariable : String := "RUST_LOG"

/-- Serve until a signal comes. -/
def serve (path : Option String) : IO UInt32 := do
  let content ← path.mapM readPath
  match Config.loadOrDefault content with
  | .error e => complain e.message
  | .ok config =>
    let chance ← randomChance 1
    let key ← config.identity.keyPath.mapM readPath
    let socket ← TCP.Socket.Server.mk
    let bound ← match config.listener.socketAddress? with
      | some a => bindSocket socket a
      | none => pure (.error Listener.addressError)
    let filter := LogFilter.ofText ((← IO.getEnv filterVariable).getD config.observability.logFilter)
    let (events, result) :=
      Server.start .standard config (fun _ => key.getD .missing) chance fun _ => bound
    printEvents config.observability.logFormat filter events
    match result with
    | .error e => complain e.message
    | .ok server =>
      let r : Running :=
        { server, socket, filter, printed := server.events.length, seen := ← IO.monoMsNow }
      serveLoop r
        [← nextConnection socket, ← nextTick, ← nextSignal .sigint, ← nextSignal .sigterm]
      pure 0

/-- Write a new key file. -/
def keygen (out : String) : IO UInt32 := do
  let (text, printed) := Command.newKey .standard (← randomChance 1)
  try
    IO.FS.writeFile out text
    IO.print printed
    pure 0
  catch e => complain (KeyError.io (systemError e)).message

/-- How the gate is called. -/
def gateHelp : String :=
  "Usage: handshake-gate [-c <CONFIG>] [serve | keygen -o <OUT> | help]"

/-- How the dialer is called. -/
def dialHelp : String :=
  "Usage: gate-dial -r <REMOTE_KEY> [-k <KEY>] [-t <TIMEOUT_MS>] <ADDRESS>"

/-- The arguments made no command. -/
def stop (s : Command.Stop) (help : String) : IO UInt32 := do
  match s with
  | .help => IO.println help
  | .misuse => (← IO.getStderr).putStrLn help
  pure (UInt32.ofNat s.exitCode)

/-- The gate. -/
def gate (args : List String) : IO UInt32 := do
  match GateCommand.ofArguments args with
  | .error s => stop s gateHelp
  | .ok (.keygen out) => keygen out
  | .ok (.serve path) => serve path

/-! ## Dialing -/

/-- Look up a host. -/
def lookupHost (name : String) : IO (Except SystemError IpAddress) := do
  try
    let found ← (DNS.getAddrInfo name "").block
    match found[0]?.bind fun ip => IpAddress.ofText? ip.toString with
    | some ip => pure (.ok ip)
    | none => pure (.error DialTarget.unknownHost)
  catch _ => pure (.error DialTarget.unknownHost)

/-- Connect within a number of milliseconds. -/
def connect (a : SocketAddress) (timeout : Nat) : IO (Except Failure Client) := do
  let client ← TCP.Socket.Client.mk
  let connecting : Task (Except IO.Error Unit) ← (client.connect (toSystem a)).asTask
  let sleeping ← pause timeout
  match ← IO.waitAny [connecting.map some, sleeping.map fun _ => none] with
  | some (.ok ()) => pure (.ok client)
  | some (.error e) => pure (.error (.connect (systemError e)))
  | none => pure (.error (.connect (.custom .timedOut "connect timed out")))

/-- Something that the dialer has waited for. -/
inductive DialOccurrence
  | received (found : Except IO.Error (Option ByteArray))
  | tick

/-- Run the acts until there is a result. -/
partial def dialLoop (client : Client) (line : Dial.Line) (seen : Nat)
    (reading : Option (Task DialOccurrence)) : IO (Except Failure SecuredConnection) := do
  let now ← IO.monoMsNow
  let line := Dial.Line.settle .standard (Dial.Line.apply .standard line (.advance (now - seen)))
  let waiting := line.wire.outward.unread
  let sent ← sendBytes client waiting
  let line := Dial.Line.apply .standard line
    (.wire (if sent then .read waiting.length else .failWrite .brokenPipe))
  match line.dial.result? with
  | some result => pure result
  | none =>
    let reading ← match reading with
      | some task => pure task
      | none => do
        let task : Task (Except IO.Error (Option ByteArray)) ← (client.recv? readSize).asTask
        pure (task.map DialOccurrence.received)
    let tick ← pause tickLength
    match ← IO.waitAny [reading, tick.map fun _ => .tick] with
    | .tick => dialLoop client line now (some reading)
    | .received found => dialLoop client (Dial.Line.apply .standard line (.wire (changeOf found))) now none

/-- The dialer. -/
def dial (args : List String) : IO UInt32 := do
  match DialCommand.ofArguments args with
  | .error s => stop s dialHelp
  | .ok c =>
    let key ← c.key.mapM readPath
    match Command.dialer (fun _ => key.getD .missing) c (← randomChance 2) with
    | .error e => complain e.message
    | .ok (identity, remote, chance) =>
      let host ← match DialTarget.ofText c.address with
        | .ok (.host name _) => lookupHost name
        | _ => pure (.error DialTarget.unknownHost)
      match DialTarget.resolve (fun _ => host) c.address with
      | .error f => complain f.message
      | .ok peer =>
        match ← connect peer c.timeoutMs.toNat with
        | .error f => complain f.message
        | .ok client =>
          let d := Dial.start .standard identity remote peer c.timeoutMs.toNat chance.takeSecret.1
          match ← dialLoop client { dial := d } (← IO.monoMsNow) none with
          | .error f => complain f.message
          | .ok connection =>
            IO.print (DialCommand.report connection.peer.text
              (PublicKey.toHex (identity.publicKey .standard))
              (PublicKey.toHex connection.remoteStatic))
            hangUp client
            pure 0

end Gatehouse.Outer

def main (args : List String) : IO UInt32 := do
  match args with
  | "gate-dial" :: rest => Gatehouse.Outer.dial rest
  | "handshake-gate" :: rest => Gatehouse.Outer.gate rest
  | _ => Gatehouse.Outer.gate args
