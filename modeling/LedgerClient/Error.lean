import LedgerClient.Crypto.Key
import LedgerClient.Entity.Checksum
import LedgerClient.Node.Address
import LedgerClient.Receipt
import LedgerClient.Wire.Format
import LedgerClient.Wire.Shown

/-!
# Errors

Every call ends in a value or in one of the errors below. Errors keep their
causes; the words are made in one place. Faults of transport and overloaded
nodes are retried inside a call, so what reaches the caller is final.
-/

namespace LedgerClient

/-- Why a request got no answer. -/
inductive TransportError where
  | connect (address reason : String)
  | timeout (after : Duration)
  | closed
  | io (text : String)
  | frameTooLarge (size limit : Nat)
  /-- Secured connections are asked for, and the channels cannot be secured. -/
  | tlsUnsupported
  deriving DecidableEq

namespace TransportError

/-- The error in words. -/
def text : TransportError → String
  | .connect address reason => "Failed to connect to " ++ address ++ ": " ++ reason
  | .timeout after => "Request timed out after " ++ after.text
  | .closed => "Channel closed"
  | .io text => "I/O error: " ++ text
  | .frameTooLarge size limit =>
      "Frame of " ++ toString size ++ " bytes exceeds limit of " ++ toString limit
  | .tlsUnsupported => "TLS is enabled but not supported by this channel factory"

/-- The client's own settings are at fault, and no node is. -/
def isClientSide : TransportError → Bool
  | .tlsUnsupported => true
  | _ => false

end TransportError

/-- Why an attempt was not the last one. -/
inductive AttemptCause where
  | transport (error : TransportError)
  | status (status : Status)
  deriving DecidableEq

/-- The cause in words. -/
def AttemptCause.text : AttemptCause → String
  | .transport error => "transport: " ++ error.text
  | .status answered => "status: " ++ answered.text

/-- What is wrong with a configuration. -/
inductive ConfigFault where
  | noAttempts
  | noRequestTimeout
  /-- The first pause between attempts is longer than the longest. -/
  | pauseOrder (first longest : Duration)
  | noNodeBackoff
  /-- The shortest backoff of a node is longer than the longest. -/
  | nodeBackoffOrder (shortest longest : Duration)
  | address (fault : NodeAddress.Fault)
  | ledgerId (text : String) (fault : Hex.Fault)
  | emptyNetwork
  | duplicateNode (account : AccountId)
  | unknownPreset (name : String)
  | paymentTooLarge (amount : UInt64)
  | noMirrorConnector
  | noMirrorAddress
  | presetAndNodes
  | noPresetNorNodes
  | noLedgerId
  | certHash (node : String) (fault : Hex.Fault)
  | operatorKeyType (error : CryptoError)
  | operatorKey (error : CryptoError)
  | noNodesPerTransaction
  | noFrameSize
  /-- Secured connections need channels that can be secured. -/
  | tlsChannels
  | unreadable (path reason : String)
  /-- A text is no configuration. -/
  | malformed
  /-- A fault described elsewhere. -/
  | described (text : String)
  deriving BEq

namespace ConfigFault

/-- The fault in words. -/
def text : ConfigFault → String
  | .noAttempts => "max_attempts must be at least 1"
  | .noRequestTimeout => "request_timeout must be positive"
  | .pauseOrder first longest =>
      "min_backoff " ++ first.text ++ " exceeds max_backoff " ++ longest.text
  | .noNodeBackoff => "node min backoff must be positive"
  | .nodeBackoffOrder shortest longest =>
      "node min backoff " ++ shortest.text ++ " exceeds max backoff " ++ longest.text
  | .address (.noPort endpoint) => "node address " ++ Text.quoted endpoint ++ " has no port"
  | .address (.noHost endpoint) => "node address " ++ Text.quoted endpoint ++ " has no host"
  | .address (.badPort endpoint) =>
      "node address " ++ Text.quoted endpoint ++ " has an invalid port"
  | .ledgerId text fault => "invalid ledger id " ++ Text.quoted text ++ ": " ++ fault.text
  | .emptyNetwork => "network requires at least one node"
  | .duplicateNode account => "duplicate node account id " ++ account.text
  | .unknownPreset name => "unknown network preset " ++ Text.quoted name
  | .paymentTooLarge amount => "query payment " ++ toString amount.toNat ++ " is too large"
  | .noMirrorConnector => "client has no mirror connector"
  | .noMirrorAddress => "network has no mirror address"
  | .presetAndNodes => "set either network.preset or network.nodes, not both"
  | .noPresetNorNodes => "network needs a preset or at least one node"
  | .noLedgerId => "network.ledger_id is required with explicit nodes"
  | .certHash node fault => "cert_hash of node " ++ node ++ ": " ++ fault.text
  | .operatorKeyType error => "operator key type: " ++ error.text
  | .operatorKey error => "operator private key: Signing failed: " ++ error.text
  | .noNodesPerTransaction => "max_nodes_per_transaction must be at least 1"
  | .noFrameSize => "max_frame_size must be positive"
  | .tlsChannels => "network.tls requires a TLS-capable channel factory"
  | .unreadable path reason => "cannot read " ++ path ++ ": " ++ reason
  | .malformed => "the text is no configuration"
  | .described text => text

end ConfigFault

/-- Why a subscription failed. -/
inductive SubscriptionFault where
  /-- The subscription has nowhere to run, and why. -/
  | nowhereToRun (reason : String)
  | gaveUp (topic : TopicId) (failures : Nat) (last : TransportError)
  /-- A fault described elsewhere. -/
  | described (text : String)

/-- The fault in words. -/
def SubscriptionFault.text : SubscriptionFault → String
  | .nowhereToRun reason => "no tokio runtime: " ++ reason
  | .gaveUp topic failures last =>
      "topic " ++ topic.text ++ ": " ++ toString failures ++ " consecutive failures, last: " ++
        last.text
  | .described text => text

/-- An answer of another shape than the question asks for. -/
inductive UnexpectedAnswer where
  | body (expected : String) (got : ResponseBody)
  /-- A fault described elsewhere. -/
  | described (text : String)

/-- The fault in words. -/
def UnexpectedAnswer.text : UnexpectedAnswer → String
  | .body expected got => "expected " ++ expected ++ ", got " ++ got.shown.text
  | .described text => text

/-- How a call fails. -/
inductive ClientError where
  | transport (error : TransportError)
  /-- A node refused the request at its first check. -/
  | precheckRejection (status : Status) (transaction : Option TransactionId) (node : AccountId)
  /-- The transaction reached consensus and failed. -/
  | receiptRejection (status : Status) (transaction : TransactionId) (receipt : Receipt)
  | attemptsExhausted (attempts : UInt32) (lastNode : Option AccountId)
      (lastCause : Option AttemptCause)
  | checksumMismatch (mismatch : Checksum.Mismatch)
  | entityIdParse (text : String)
  | transactionIdParse (text : String)
  | noEligibleNodes
  | unknownNode (node : AccountId)
  | alreadyFrozen
  | notFrozen
  | alreadyExecuted
  | transactionIdRequired
  | operatorRequired
  | signatureVerification (node : AccountId) (publicKey : String)
  | signing (error : CryptoError)
  | codec (error : CodecError)
  | unexpectedResponse (answer : UnexpectedAnswer)
  | config (fault : ConfigFault)
  | subscription (fault : SubscriptionFault)
  | joinTimeout (after : Duration)

namespace ClientError

/-- A text, or a word for its absence. -/
def orWord (word : String) : Option String → String
  | none => word
  | some text => text

/-- The error in words. -/
def text : ClientError → String
  | .transport error => "Transport failure: " ++ error.text
  | .precheckRejection status transaction node =>
      "Precheck rejected with " ++ status.text ++ " (transaction " ++
        orWord "-" (transaction.map (·.text)) ++ ", node " ++ node.text ++ ")"
  | .receiptRejection status transaction _ =>
      "Receipt for transaction " ++ transaction.text ++ " has status " ++ status.text
  | .attemptsExhausted attempts lastNode lastCause =>
      "Gave up after " ++ toString attempts.toNat ++ " attempts (last node " ++
        orWord "none" (lastNode.map (·.text)) ++ ", last cause " ++
        orWord "none" (lastCause.map (·.text)) ++ ")"
  | .checksumMismatch m =>
      "Checksum mismatch for " ++ m.entity ++ ": expected " ++ m.expected ++ ", got " ++ m.actual
  | .entityIdParse text => "Invalid entity id: " ++ Text.quoted text
  | .transactionIdParse text => "Invalid transaction id: " ++ Text.quoted text
  | .noEligibleNodes => "No eligible nodes for the requested candidates"
  | .unknownNode node => "Node " ++ node.text ++ " is not part of the network"
  | .alreadyFrozen => "Transaction is already frozen"
  | .notFrozen => "Transaction must be frozen first"
  | .alreadyExecuted => "Transaction was already executed"
  | .transactionIdRequired => "Transaction id must be set before freezing"
  | .operatorRequired => "Client has no operator"
  | .signatureVerification node publicKey =>
      "Invalid signature by " ++ publicKey ++ " on body for node " ++ node.text
  | .signing error => "Signing failed: " ++ error.text
  | .codec error => "Codec error: " ++ error.text
  | .unexpectedResponse answer => "Unexpected response: " ++ answer.text
  | .config fault => "Invalid configuration: " ++ fault.text
  | .subscription fault => "Subscription failed: " ++ fault.text
  | .joinTimeout after => "Subscription did not finish within " ++ after.text

/-- The status a failed call ended on, if it ended on one. -/
def status? : ClientError → Option Status
  | .precheckRejection status _ _ => some status
  | .receiptRejection status _ _ => some status
  | .attemptsExhausted _ _ (some (.status status)) => some status
  | _ => none

end ClientError

/-- The outcome of a call. -/
abbrev Outcome (α : Type) := Except ClientError α

/-- Reads an entity identifier. -/
def EntityId.read (text : String) : Outcome EntityId :=
  match EntityId.ofText? text with
  | some id => .ok id
  | none => .error (.entityIdParse text)

/-- Reads a transaction identifier. -/
def TransactionId.read (text : String) : Outcome TransactionId :=
  match TransactionId.ofText? text with
  | some id => .ok id
  | none => .error (.transactionIdParse text)

/-- Reads a ledger identity. -/
def LedgerId.read (text : String) : Outcome LedgerId :=
  (LedgerId.ofHex text).mapError fun fault => .config (.ledgerId text fault)

/-- Reads the address of a node. -/
def NodeAddress.read (account : AccountId) (endpoint : String) : Outcome NodeAddress :=
  (NodeAddress.ofEndpoint account endpoint).mapError fun fault => .config (.address fault)

/-- Checks the checksum an identifier carries. -/
def EntityId.check (ledger : LedgerId) (id : EntityId) : Outcome Unit :=
  (id.validate ledger).mapError .checksumMismatch

/-- The value at the front of a byte string. -/
def Wire.decoded (α : Type) [Wire.Encoded α] (bytes : Bytes) : Outcome α :=
  (Wire.decode α bytes).mapError .codec

end LedgerClient
