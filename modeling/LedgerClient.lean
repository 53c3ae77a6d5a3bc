import LedgerClient.Bytes
import LedgerClient.Bytes.Hex
import LedgerClient.Client
import LedgerClient.Client.Ping
import LedgerClient.Config
import LedgerClient.Config.Document
import LedgerClient.Config.Reader
import LedgerClient.Crypto.Ed25519
import LedgerClient.Crypto.Key
import LedgerClient.Crypto.Modular
import LedgerClient.Crypto.Secp256k1
import LedgerClient.Crypto.Sha2
import LedgerClient.Decimal.Range
import LedgerClient.Decimal.Shortest
import LedgerClient.Document
import LedgerClient.Duration
import LedgerClient.Entity.Checksum
import LedgerClient.Entity.Id
import LedgerClient.Entity.LedgerId
import LedgerClient.Error
import LedgerClient.Error.Document
import LedgerClient.Execution.Operation
import LedgerClient.Execution.Run
import LedgerClient.Execution.Settings
import LedgerClient.Network
import LedgerClient.Network.Channels
import LedgerClient.Network.Preset
import LedgerClient.Network.Selection
import LedgerClient.Node.Address
import LedgerClient.Node.Backoff
import LedgerClient.Node.Health
import LedgerClient.Proofs.Client.Checking
import LedgerClient.Proofs.Config.Setup
import LedgerClient.Proofs.Entity.Binding
import LedgerClient.Proofs.Entity.Checksum
import LedgerClient.Proofs.Entity.Grammar
import LedgerClient.Proofs.Entity.Mistyping
import LedgerClient.Proofs.Entity.RoundTrip
import LedgerClient.Proofs.Execution.Backoff
import LedgerClient.Proofs.Execution.Books
import LedgerClient.Proofs.Execution.Course
import LedgerClient.Proofs.Execution.Outcome
import LedgerClient.Proofs.Execution.Pauses
import LedgerClient.Proofs.Execution.Recording
import LedgerClient.Proofs.Network.Assembly
import LedgerClient.Proofs.Network.Channels
import LedgerClient.Proofs.Network.Choice
import LedgerClient.Proofs.Network.Conservation
import LedgerClient.Proofs.Network.Fallback
import LedgerClient.Proofs.Network.Rebuilding
import LedgerClient.Proofs.Network.Rotation
import LedgerClient.Proofs.Node.Readmission
import LedgerClient.Proofs.Outcome
import LedgerClient.Proofs.Query.Payments
import LedgerClient.Proofs.Query.Polling
import LedgerClient.Proofs.Subscription.Cancellation
import LedgerClient.Proofs.Subscription.Delivery
import LedgerClient.Proofs.Subscription.Persistence
import LedgerClient.Proofs.Subscription.Resumption
import LedgerClient.Proofs.Tcp.Frames
import LedgerClient.Proofs.Tcp.Pairing
import LedgerClient.Proofs.Tcp.Peer
import LedgerClient.Proofs.Tcp.Truncation
import LedgerClient.Proofs.Text.Utf8
import LedgerClient.Proofs.Timestamp.Arithmetic
import LedgerClient.Proofs.Timestamp.Order
import LedgerClient.Proofs.Transaction.Addressing
import LedgerClient.Proofs.Transaction.Bodies
import LedgerClient.Proofs.Transaction.Content
import LedgerClient.Proofs.Transaction.Digest
import LedgerClient.Proofs.Transaction.Filing
import LedgerClient.Proofs.Transaction.Freezing
import LedgerClient.Proofs.Transaction.Handing
import LedgerClient.Proofs.Transaction.History
import LedgerClient.Proofs.Transaction.Id.Grammar
import LedgerClient.Proofs.Transaction.Id.RoundTrip
import LedgerClient.Proofs.Transaction.Lifecycle
import LedgerClient.Proofs.Transaction.Making
import LedgerClient.Proofs.Transaction.SignatureLog
import LedgerClient.Proofs.Transaction.Signing
import LedgerClient.Proofs.Transaction.SigningCalls
import LedgerClient.Proofs.Transaction.Tables
import LedgerClient.Proofs.Transaction.Turns
import LedgerClient.Proofs.Transaction.Verification
import LedgerClient.Proofs.Wire.Bare
import LedgerClient.Proofs.Wire.Canonical
import LedgerClient.Proofs.Wire.Decoding
import LedgerClient.Proofs.Wire.Messages
import LedgerClient.Proofs.Wire.Nesting
import LedgerClient.Proofs.Wire.RoundTrip
import LedgerClient.Query
import LedgerClient.Query.Polls
import LedgerClient.Receipt
import LedgerClient.Rehearsal.Broadcast
import LedgerClient.Rehearsal.Loopback
import LedgerClient.Rehearsal.Report
import LedgerClient.Rehearsal.Script
import LedgerClient.Rehearsal.World
import LedgerClient.Scene
import LedgerClient.Status
import LedgerClient.Subscription
import LedgerClient.Surroundings
import LedgerClient.Tcp.Channel
import LedgerClient.Tcp.Frame
import LedgerClient.Telemetry.Config
import LedgerClient.Telemetry.Document
import LedgerClient.Telemetry.Exposition
import LedgerClient.Telemetry.Filter
import LedgerClient.Telemetry.Log
import LedgerClient.Telemetry.Meters
import LedgerClient.Telemetry.Pattern
import LedgerClient.Telemetry.Pattern.Bracket
import LedgerClient.Telemetry.Pattern.Depth
import LedgerClient.Telemetry.Pattern.Item
import LedgerClient.Telemetry.Pattern.Mode
import LedgerClient.Text.Alphanumeric
import LedgerClient.Text.Blank
import LedgerClient.Text.Numeral
import LedgerClient.Text.Quoted
import LedgerClient.Text.Scan
import LedgerClient.Text.Split
import LedgerClient.Text.Unprintable
import LedgerClient.Text.Utf8
import LedgerClient.Timestamp
import LedgerClient.Toml.Lexeme
import LedgerClient.Toml.Reader
import LedgerClient.Toml.Value
import LedgerClient.Topic
import LedgerClient.Transaction
import LedgerClient.Transaction.Bodies
import LedgerClient.Transaction.Id
import LedgerClient.Transaction.Submission
import LedgerClient.Wire.Codec
import LedgerClient.Wire.Document
import LedgerClient.Wire.Format
import LedgerClient.Wire.Message
import LedgerClient.Wire.Shown
import LedgerClient.Wire.Signature
