import LedgerClient.Error
import LedgerClient.Execution.Operation
import LedgerClient.Node.Health
import LedgerClient.Telemetry.Config
import LedgerClient.Wire.Document

/-!
# Outcomes as documents

An outcome is a document with one field `ok`, or with the kind and the words of an
error. Rejections also carry the status they ended on, and the receipt if there is
one.
-/

namespace LedgerClient

open Document

/-- The kind of an error. -/
def TransportError.kind : TransportError → String
  | .connect _ _ => "Connect"
  | .timeout _ => "Timeout"
  | .closed => "Closed"
  | .io _ => "Io"
  | .frameTooLarge _ _ => "FrameTooLarge"
  | .tlsUnsupported => "TlsUnsupported"

/-- The kind of an error. -/
def CryptoError.kind : CryptoError → String
  | .invalidKeyLength _ _ => "InvalidKeyLength"
  | .signatureVerificationFailed => "SignatureVerificationFailed"
  | .invalidPublicKey => "InvalidPublicKey"
  | .invalidPrivateKey => "InvalidPrivateKey"
  | .invalidSignature => "InvalidSignature"
  | .invalidHex _ => "InvalidHex"
  | .unknownKeyType _ => "UnknownKeyType"

/-- The kind of an error. -/
def ClientError.kind : ClientError → String
  | .transport _ => "Transport"
  | .precheckRejection _ _ _ => "PrecheckRejection"
  | .receiptRejection _ _ _ => "ReceiptRejection"
  | .attemptsExhausted _ _ _ => "AttemptsExhausted"
  | .checksumMismatch _ => "ChecksumMismatch"
  | .entityIdParse _ => "EntityIdParse"
  | .transactionIdParse _ => "TransactionIdParse"
  | .noEligibleNodes => "NoEligibleNodes"
  | .unknownNode _ => "UnknownNode"
  | .alreadyFrozen => "AlreadyFrozen"
  | .notFrozen => "NotFrozen"
  | .alreadyExecuted => "AlreadyExecuted"
  | .transactionIdRequired => "TransactionIdRequired"
  | .operatorRequired => "OperatorRequired"
  | .signatureVerification _ _ => "SignatureVerification"
  | .signing _ => "Signing"
  | .codec _ => "Codec"
  | .unexpectedResponse _ => "UnexpectedResponse"
  | .config _ => "Config"
  | .subscription _ => "Subscription"
  | .joinTimeout _ => "JoinTimeout"

/-- An error of a kind in words. -/
def Document.failure (kind words : String) : List (String × Document) :=
  [entry "error" kind, entry "message" words]

instance : ToDocument TransportError := ⟨fun e => .fields (failure e.kind e.text)⟩
instance : OfDocument TransportError := ⟨fun d => do
  match ← d.variant? with
  | ("Closed", _) => return .closed
  | ("TlsUnsupported", _) => return .tlsUnsupported
  | ("Io", v) => return .io (← ofDocument? v)
  | ("Timeout", v) => return .timeout (← ofDocument? v)
  | ("Connect", v) => return .connect (← v.take "address") (← v.take "reason")
  | ("FrameTooLarge", v) => return .frameTooLarge (← v.take "size") (← v.take "limit")
  | _ => none⟩

instance : ToDocument CryptoError := ⟨fun e => .fields (failure e.kind e.text)⟩

instance : ToDocument TelemetryError := ⟨fun e =>
  match e.fault? with
  | some fault => .fields (failure "Config" (TelemetryError.configText fault))
  | none => .fields [entry "error" "TracerInit"]⟩

/-- What an error carries beyond its kind and its words. -/
def ClientError.details (e : ClientError) : List (String × Document) :=
  (e.status?.map fun status => entry "status" status.text).toList ++
    match e with
    | .receiptRejection _ _ outcome => [entry "receipt" outcome]
    | _ => []

instance : ToDocument ClientError := ⟨fun e => .fields (failure e.kind e.text ++ e.details)⟩

instance : OfDocument CryptoError := ⟨fun d => do
  let kind : String ← d.take "kind"
  match kind with
  | "InvalidKeyLength" => return .invalidKeyLength (← d.take "expected") (← d.take "actual")
  | "InvalidHex" => return .invalidHex (← d.take "text")
  | "UnknownKeyType" => return .unknownKeyType (← d.take "text")
  | _ =>
      [CryptoError.signatureVerificationFailed, .invalidPublicKey, .invalidPrivateKey,
        .invalidSignature].find? (·.kind == kind)⟩

instance : OfDocument AttemptCause := ⟨fun d => do
  match ← d.variant? with
  | ("transport", v) => return .transport (← ofDocument? v)
  | (_, v) => return .status (← ofDocument? v)⟩

/-- The errors that carry nothing. -/
def ClientError.plain : List ClientError :=
  [.noEligibleNodes, .alreadyFrozen, .notFrozen, .alreadyExecuted, .transactionIdRequired,
    .operatorRequired]

/-- An error is read from its kind and a value; of a rejection by a receipt only the status is read. -/
instance : OfDocument ClientError := ⟨fun d => do
  let v := d.field "value"
  let id (name : String) : Option EntityId := do EntityId.ofText? (← v.take name)
  let transaction : Option TransactionId := do TransactionId.ofText? (← v.take "transaction_id")
  let kind : String ← d.take "kind"
  match kind with
  | "Transport" => return .transport (← ofDocument? v)
  | "PrecheckRejection" =>
      return .precheckRejection (← v.take "status") transaction (← id "node")
  | "ReceiptRejection" =>
      let status ← v.take "status"
      return .receiptRejection status (← transaction) (.ofStatus status)
  | "AttemptsExhausted" =>
      return .attemptsExhausted (← v.take "attempts") (id "last_node") (← v.take "last_cause")
  | "ChecksumMismatch" =>
      return .checksumMismatch ⟨← v.take "entity", ← v.take "expected", ← v.take "actual"⟩
  | "SignatureVerification" =>
      return .signatureVerification (← id "node") (← v.take "public_key")
  | "UnknownNode" => return .unknownNode (← EntityId.ofText? (← ofDocument? v))
  | "JoinTimeout" => return .joinTimeout (← ofDocument? v)
  | "Signing" => return .signing (← ofDocument? v)
  | "EntityIdParse" => return .entityIdParse (← ofDocument? v)
  | "TransactionIdParse" => return .transactionIdParse (← ofDocument? v)
  | "Codec" => return .codec (.described (← ofDocument? v))
  | "UnexpectedResponse" => return .unexpectedResponse (.described (← ofDocument? v))
  | "Config" => return .config (.described (← ofDocument? v))
  | "Subscription" => return .subscription (.described (← ofDocument? v))
  | _ => ClientError.plain.find? (·.kind == kind)⟩

instance {ε α : Type} [ToDocument ε] [ToDocument α] : ToDocument (Except ε α) :=
  ⟨fun | .ok value => variant "ok" value | .error e => document e⟩

instance : ToDocument Verdict := ⟨fun
  | .finished => .text "Finished" | .retry => .text "Retry" | .rejected => .text "Error"⟩

instance : ToDocument ExecuteSettings := ⟨fun s => .fields [
  entry "max_attempts" s.maxAttempts, entry "request_timeout" s.requestTimeout,
  entry "min_backoff" s.minBackoff, entry "max_backoff" s.maxBackoff]⟩

/-- The fields of an address. -/
def NodeAddress.entries (a : NodeAddress) : List (String × Document) :=
  [entry "account_id" a.account.text, entry "host" a.host, entry "port" a.port,
    entry "cert_hash" a.certHash, entry "display" a.text]

instance : ToDocument NodeAddress := ⟨fun a => .fields a.entries⟩

instance : ToDocument TlsSettings := ⟨fun tls => .fields [
  entry "enabled" tls.enabled, entry "verify_certificates" tls.verifyCertificates]⟩
instance : OfDocument TlsSettings := ⟨fun
  | .null => some {}
  | d => do return ⟨← d.take "enabled", ← d.take "verify_certificates"⟩⟩

/-- The health record of a node. -/
def Health.stats (h : Health) (node : AccountId) : Document :=
  .fields [entry "node" node.text, entry "backoff" h.backoff, entry "readmit_at" h.readmitAt,
    entry "last_used" h.lastUsed, entry "uses" h.uses, entry "failures" h.failures]

end LedgerClient
