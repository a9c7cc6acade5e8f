import Gatehouse.Address.Ip
import Gatehouse.Address.Socket
import Gatehouse.Backoff
import Gatehouse.Bytes
import Gatehouse.Chance
import Gatehouse.Command.Arguments
import Gatehouse.Command.Ending
import Gatehouse.Command.Gate
import Gatehouse.Config
import Gatehouse.Config.Fields
import Gatehouse.Config.File
import Gatehouse.Crypto.ChaCha20
import Gatehouse.Crypto.ChaChaPoly
import Gatehouse.Crypto.Curve25519
import Gatehouse.Crypto.Hkdf
import Gatehouse.Crypto.Poly1305
import Gatehouse.Crypto.Sha256
import Gatehouse.Deadline
import Gatehouse.Dial
import Gatehouse.Dial.Meeting
import Gatehouse.Dial.Script
import Gatehouse.Dial.Target
import Gatehouse.Directory
import Gatehouse.Failure
import Gatehouse.Handoff
import Gatehouse.Handoff.Script
import Gatehouse.Handshake.Act
import Gatehouse.Handshake.Machine
import Gatehouse.Identity
import Gatehouse.Listener.Bind
import Gatehouse.Listener.SocketSlot
import Gatehouse.Listener.State
import Gatehouse.Listener.Step
import Gatehouse.Listener.TokenPool
import Gatehouse.Listener.Wire
import Gatehouse.Log
import Gatehouse.Main
import Gatehouse.Noise.Suite
import Gatehouse.Noise.Symmetric
import Gatehouse.Poll
import Gatehouse.Proofs.Crypto.ChaChaPoly
import Gatehouse.Proofs.Dial.Flow
import Gatehouse.Proofs.Dial.Outcome
import Gatehouse.Proofs.Dial.Progress
import Gatehouse.Proofs.Dial.Steps
import Gatehouse.Proofs.Dial.Tale
import Gatehouse.Proofs.Dial.Through
import Gatehouse.Proofs.Dial.Timing
import Gatehouse.Proofs.Encounter.Accord
import Gatehouse.Proofs.Encounter.Agreement
import Gatehouse.Proofs.Encounter.Basic
import Gatehouse.Proofs.Encounter.Gate
import Gatehouse.Proofs.Encounter.Moves
import Gatehouse.Proofs.Handoff.Books
import Gatehouse.Proofs.Handoff.Conservation
import Gatehouse.Proofs.Handoff.Delivery
import Gatehouse.Proofs.Handoff.Order
import Gatehouse.Proofs.Handoff.Progress
import Gatehouse.Proofs.Handoff.Queues
import Gatehouse.Proofs.Handoff.Run
import Gatehouse.Proofs.Handoff.Script
import Gatehouse.Proofs.Handoff.Shut
import Gatehouse.Proofs.Handoff.Sources
import Gatehouse.Proofs.Handoff.Submissions
import Gatehouse.Proofs.Handshake.Acts
import Gatehouse.Proofs.Handshake.Agreement
import Gatehouse.Proofs.Handshake.Buffers
import Gatehouse.Proofs.Handshake.Failures
import Gatehouse.Proofs.Handshake.Faults
import Gatehouse.Proofs.Handshake.Invariant
import Gatehouse.Proofs.Handshake.Ledger
import Gatehouse.Proofs.Handshake.Nonces
import Gatehouse.Proofs.Handshake.Operations
import Gatehouse.Proofs.Handshake.Pinning
import Gatehouse.Proofs.Handshake.Recovery
import Gatehouse.Proofs.Handshake.Refinement
import Gatehouse.Proofs.Handshake.Rules
import Gatehouse.Proofs.Listener.Answering
import Gatehouse.Proofs.Listener.Apart
import Gatehouse.Proofs.Listener.Backing
import Gatehouse.Proofs.Listener.Carrying
import Gatehouse.Proofs.Listener.Claims
import Gatehouse.Proofs.Listener.Clock
import Gatehouse.Proofs.Listener.Closing
import Gatehouse.Proofs.Listener.Deeds
import Gatehouse.Proofs.Listener.Draining
import Gatehouse.Proofs.Listener.Front
import Gatehouse.Proofs.Listener.Hangups
import Gatehouse.Proofs.Listener.Hearing
import Gatehouse.Proofs.Listener.Lines
import Gatehouse.Proofs.Listener.Outcomes
import Gatehouse.Proofs.Listener.Owners
import Gatehouse.Proofs.Listener.Reporting
import Gatehouse.Proofs.Listener.Responding
import Gatehouse.Proofs.Listener.Schedule
import Gatehouse.Proofs.Listener.Service
import Gatehouse.Proofs.Listener.Steps
import Gatehouse.Proofs.Listener.Streams
import Gatehouse.Proofs.Listener.Taking
import Gatehouse.Proofs.Listener.Tokens
import Gatehouse.Proofs.Listener.Verdict
import Gatehouse.Proofs.Listener.Winding
import Gatehouse.Proofs.Listener.Wire
import Gatehouse.Proofs.Noise.Laws
import Gatehouse.Proofs.Noise.Mirror
import Gatehouse.Proofs.Noise.Pattern
import Gatehouse.Proofs.Roster
import Gatehouse.Proofs.Secured
import Gatehouse.Proofs.Shutdown
import Gatehouse.Proofs.Validation
import Gatehouse.Roster
import Gatehouse.SecuredConnection
import Gatehouse.Server
import Gatehouse.Session.Basic
import Gatehouse.Session.Script
import Gatehouse.Shutdown
import Gatehouse.Span
import Gatehouse.Sum
import Gatehouse.SystemError
import Gatehouse.SystemError.Errno
import Gatehouse.Text.Blank
import Gatehouse.Text.Digits
import Gatehouse.Text.Hex
import Gatehouse.Text.Quoted
import Gatehouse.Text.Reader
import Gatehouse.Text.Utf8
import Gatehouse.Toml.Document
import Gatehouse.Toml.Moment
import Gatehouse.Toml.Node
import Gatehouse.Toml.Number
import Gatehouse.Toml.Text
import Gatehouse.Toml.Tree
import Gatehouse.Toml.Value
import Gatehouse.Proofs.KeyText
import Gatehouse.Proofs.Backoff
import Gatehouse.Proofs.Listener.Counting
import Gatehouse.Proofs.Listener.Balance
import Gatehouse.Proofs.Handoff.Dealings
import Gatehouse.Proofs.Listener.Desk
import Gatehouse.Proofs.Listener.Refusals
import Gatehouse.Proofs.Listener.Resuming
import Gatehouse.Proofs.Deadline
import Gatehouse.Proofs.Text.Blank
import Gatehouse.Proofs.Config.Settings
import Gatehouse.Proofs.KeyFile
import Gatehouse.Proofs.Toml.Lines
import Gatehouse.Proofs.Config.Sheet
import Gatehouse.Proofs.Toml.Spelling
import Gatehouse.Proofs.Toml.Tree
import Gatehouse.Proofs.Config.Tables
