import LedgerClient.Document
import LedgerClient.Wire.Message

/-!
# Messages as documents

Every message has a document: its fields under their names, its alternatives under
theirs. Checksums of identifiers are not part of it.
-/

namespace LedgerClient

open Document

instance : ToDocument Duration :=
  ⟨fun d => .fields [entry "secs" d.seconds, entry "nanos" d.subsecond]⟩
instance : OfDocument Duration := ⟨fun d => do
  let seconds : UInt64 ← d.take "secs"
  Duration.ofNanos? (seconds.toNat * nanosPerSecond + (← d.take "nanos" : UInt32).toNat)⟩

instance : ToDocument Timestamp :=
  ⟨fun t => .fields [entry "seconds" t.seconds, entry "nanos" t.nanos]⟩
instance : OfDocument Timestamp := ⟨fun d => do return ⟨← d.take "seconds", ← d.take "nanos"⟩⟩

instance : ToDocument EntityId :=
  ⟨fun id => .fields [entry "shard" id.shard, entry "realm" id.realm, entry "num" id.num]⟩
instance : OfDocument EntityId :=
  ⟨fun d => do return ⟨← d.take "shard", ← d.take "realm", ← d.take "num", none⟩⟩

instance : ToDocument Status :=
  ⟨fun | .other code => variant "Other" code | status => .text status.name⟩
instance : OfDocument Status := ⟨fun d => do
  let (name, code) ← d.variant?
  if name = "Other" then return .other (← ofDocument? code)
  else (Status.named.find? (·.2.1 = name)).map (·.1)⟩

instance : ToDocument TransactionId := ⟨fun id => .fields [
  entry "account_id" id.account, entry "valid_start" id.validStart,
  entry "scheduled" id.scheduled, entry "nonce" id.nonce]⟩
instance : OfDocument TransactionId := ⟨fun d => do
  return ⟨← d.take "account_id", ← d.take "valid_start", ← d.take "scheduled", ← d.take "nonce"⟩⟩

mutual

/-- The document of a receipt. -/
def Receipt.document : Receipt → Document
  | ⟨status, transactionId, accountId, topicId, sequence, children, duplicates⟩ => .fields [
      entry "status" status, entry "transaction_id" transactionId, entry "account_id" accountId,
      entry "topic_id" topicId, entry "topic_sequence_number" sequence,
      ("children", .list (Receipt.documents children)),
      ("duplicates", .list (Receipt.documents duplicates))]

/-- The documents of receipts. -/
def Receipt.documents : List Receipt → List Document
  | [] => []
  | first :: rest => Receipt.document first :: Receipt.documents rest

end

instance : ToDocument Receipt := ⟨Receipt.document⟩

/-- Reads a receipt in which receipts nest less than `depth` deep. -/
def Receipt.ofDocumentWithin? : (depth : Nat) → Document → Option Receipt
  | 0, _ => none
  | depth + 1, d => do
      let _ : OfDocument Receipt := ⟨Receipt.ofDocumentWithin? depth⟩
      return {
        status := ← d.take "status", transactionId := ← d.take "transaction_id"
        accountId := ← d.take "account_id", topicId := ← d.take "topic_id"
        topicSequenceNumber := ← d.take "topic_sequence_number"
        children := ← d.take "children", duplicates := ← d.take "duplicates" }

instance : OfDocument Receipt := ⟨fun d => Receipt.ofDocumentWithin? (d.depth + 1) d⟩

mutual

/-- The document of a record. -/
def Record.document : Record → Document
  | ⟨outcome, transactionHash, consensusTimestamp, memo, fee, children, duplicates⟩ => .fields [
      entry "receipt" outcome, entry "transaction_hash" transactionHash,
      entry "consensus_timestamp" consensusTimestamp, entry "memo" memo,
      entry "transaction_fee" fee, ("children", .list (Record.documents children)),
      ("duplicates", .list (Record.documents duplicates))]

/-- The documents of records. -/
def Record.documents : List Record → List Document
  | [] => []
  | first :: rest => Record.document first :: Record.documents rest

end

instance : ToDocument Record := ⟨Record.document⟩

/-- Reads a record in which records nest less than `depth` deep. -/
def Record.ofDocumentWithin? : (depth : Nat) → Document → Option Record
  | 0, _ => none
  | depth + 1, d => do
      let _ : OfDocument Record := ⟨Record.ofDocumentWithin? depth⟩
      return {
        receipt := ← d.take "receipt", transactionHash := ← d.take "transaction_hash"
        consensusTimestamp := ← d.take "consensus_timestamp", memo := ← d.take "memo"
        transactionFee := ← d.take "transaction_fee"
        children := ← d.take "children", duplicates := ← d.take "duplicates" }

instance : OfDocument Record := ⟨fun d => Record.ofDocumentWithin? (d.depth + 1) d⟩

instance : ToDocument AccountBalance :=
  ⟨fun b => .fields [entry "account_id" b.accountId, entry "balance" b.balance]⟩
instance : OfDocument AccountBalance :=
  ⟨fun d => do return ⟨← d.take "account_id", ← d.take "balance"⟩⟩

instance : ToDocument AccountAmount :=
  ⟨fun a => .fields [entry "account_id" a.account, entry "amount" a.amount]⟩
instance : OfDocument AccountAmount :=
  ⟨fun d => do return ⟨← d.take "account_id", ← d.take "amount"⟩⟩

/-- The document of a payload made elsewhere. -/
def externalDocument (kind : String) (payload : Bytes) : Document :=
  variant "Opaque" (Document.fields [entry "kind" kind, entry "bytes" payload])

instance : ToDocument TransactionData := ⟨fun
  | .cryptoTransfer transfers =>
      variant "CryptoTransfer" (Document.fields [entry "transfers" transfers])
  | .submitMessage topic message =>
      variant "ConsensusSubmitMessage"
        (Document.fields [entry "topic_id" topic, entry "message" message])
  | .external kind payload => externalDocument kind payload⟩
instance : OfDocument TransactionData := ⟨fun d => do
  match ← d.variant? with
  | ("CryptoTransfer", v) => return .cryptoTransfer (← v.take "transfers")
  | ("ConsensusSubmitMessage", v) => return .submitMessage (← v.take "topic_id") (← v.take "message")
  | ("Opaque", v) => return .external (← v.take "kind") (← v.take "bytes")
  | _ => none⟩

/-- The document of a body in which its transaction is named by `id`. -/
def TransactionBody.documentNaming {α : Type} [ToDocument α] (id : α) (b : TransactionBody) :
    Document :=
  .fields [entry "transaction_id" id, entry "node_account_id" b.node,
    entry "transaction_fee" b.fee, entry "valid_duration_secs" b.validSeconds,
    entry "memo" b.memo, entry "data" b.data]

instance : ToDocument TransactionBody := ⟨fun b => b.documentNaming b.transactionId⟩
instance : OfDocument TransactionBody := ⟨fun d => do
  return ⟨← d.take "transaction_id", ← d.take "node_account_id", ← d.take "transaction_fee",
    ← d.take "valid_duration_secs", ← d.take "memo", ← d.take "data"⟩⟩

instance : ToDocument SignaturePair :=
  ⟨fun p => .fields [entry "public_key" p.publicKey, entry "signature" p.signature]⟩
instance : OfDocument SignaturePair :=
  ⟨fun d => do return ⟨← d.take "public_key", ← d.take "signature"⟩⟩

instance : ToDocument SignatureMap := ⟨fun m => .fields [entry "pairs" m.pairs]⟩
instance : OfDocument SignatureMap := ⟨fun d => do return ⟨← d.take "pairs"⟩⟩

instance : ToDocument SignedTransaction :=
  ⟨fun s => .fields [entry "body_bytes" s.body, entry "sig_map" s.signatures]⟩
instance : OfDocument SignedTransaction :=
  ⟨fun d => do return ⟨← d.take "body_bytes", ← d.take "sig_map"⟩⟩

instance : ToDocument ResponseType :=
  ⟨fun | .answerOnly => .text "AnswerOnly" | .costAnswer => .text "CostAnswer"⟩
instance : OfDocument ResponseType := ⟨fun
  | .text "AnswerOnly" => some .answerOnly
  | .text "CostAnswer" => some .costAnswer
  | _ => none⟩

/-- The document of a query's body in which transactions are named by `name`. -/
def QueryBody.documentNaming {α : Type} [ToDocument α] (name : TransactionId → α) :
    QueryBody → Document
  | .receipt id children duplicates => variant "TransactionReceipt" (about id children duplicates)
  | .record id children duplicates => variant "TransactionRecord" (about id children duplicates)
  | .accountBalance account =>
      variant "AccountBalance" (Document.fields [entry "account_id" account])
  | .external kind payload => externalDocument kind payload
where
  about (id : TransactionId) (children duplicates : Bool) : Document :=
    .fields [entry "transaction_id" (name id), entry "include_children" children,
      entry "include_duplicates" duplicates]

instance : ToDocument QueryBody := ⟨QueryBody.documentNaming id⟩
instance : OfDocument QueryBody := ⟨fun d => do
  match ← d.variant? with
  | ("TransactionReceipt", v) =>
      return .receipt (← v.take "transaction_id") (← v.take "include_children")
        (← v.take "include_duplicates")
  | ("TransactionRecord", v) =>
      return .record (← v.take "transaction_id") (← v.take "include_children")
        (← v.take "include_duplicates")
  | ("AccountBalance", v) => return .accountBalance (← v.take "account_id")
  | ("Opaque", v) => return .external (← v.take "kind") (← v.take "bytes")
  | _ => none⟩

instance : ToDocument QueryHeader := ⟨fun h =>
  .fields [entry "payment" h.payment, entry "response_type" h.responseType]⟩
instance : OfDocument QueryHeader :=
  ⟨fun d => do return ⟨← d.take "payment", ← d.take "response_type"⟩⟩

instance : ToDocument QueryRequest :=
  ⟨fun q => .fields [entry "header" q.header, entry "body" q.body]⟩
instance : OfDocument QueryRequest := ⟨fun d => do return ⟨← d.take "header", ← d.take "body"⟩⟩

instance : ToDocument Request :=
  ⟨fun | .transaction signed => variant "Transaction" signed | .query q => variant "Query" q⟩
instance : OfDocument Request := ⟨fun d => do
  match ← d.variant? with
  | ("Transaction", v) => return .transaction (← ofDocument? v)
  | ("Query", v) => return .query (← ofDocument? v)
  | _ => none⟩

instance : ToDocument ResponseBody := ⟨fun
  | .empty => .text "Empty"
  | .receipt r => variant "Receipt" r
  | .record r => variant "Record" r
  | .accountBalance b => variant "AccountBalance" b
  | .external payload => variant "Opaque" payload⟩
instance : OfDocument ResponseBody := ⟨fun d => do
  match ← d.variant? with
  | ("Empty", _) => return .empty
  | ("Receipt", v) => return .receipt (← ofDocument? v)
  | ("Record", v) => return .record (← ofDocument? v)
  | ("AccountBalance", v) => return .accountBalance (← ofDocument? v)
  | ("Opaque", v) => return .external (← ofDocument? v)
  | _ => none⟩

instance : ToDocument Response := ⟨fun r =>
  .fields [entry "precheck" r.precheck, entry "cost" r.cost, entry "body" r.body]⟩
instance : OfDocument Response :=
  ⟨fun d => do return ⟨← d.take "precheck", ← d.take "cost", ← d.take "body"⟩⟩

instance : ToDocument TopicQuery := ⟨fun q => .fields [entry "topic_id" q.topicId,
  entry "start_time" q.startTime, entry "end_time" q.endTime, entry "limit" q.limit]⟩
instance : OfDocument TopicQuery := ⟨fun d => do
  return ⟨← d.take "topic_id", ← d.take "start_time", ← d.take "end_time", ← d.take "limit"⟩⟩

instance : ToDocument TopicMessage := ⟨fun m => .fields [entry "topic_id" m.topicId,
  entry "consensus_timestamp" m.consensusTimestamp, entry "sequence_number" m.sequenceNumber,
  entry "contents" m.contents]⟩
instance : OfDocument TopicMessage := ⟨fun d => do
  return ⟨← d.take "topic_id", ← d.take "consensus_timestamp", ← d.take "sequence_number",
    ← d.take "contents"⟩⟩

end LedgerClient
