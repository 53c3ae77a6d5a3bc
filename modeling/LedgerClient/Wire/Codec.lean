import LedgerClient.Node.Address
import LedgerClient.Wire.Format
import LedgerClient.Wire.Message

/-!
# Encodings of the messages

The encoding of each message is that of its parts in order. Checksums of entity
identifiers are not written. Receipts and records hold others of their kind;
reading them is bounded by the number of octets at hand, which every receipt and
every record uses up.
-/

namespace LedgerClient

open Wire

instance : Encoded EntityId where
  write id := write id.shard ++ write id.realm ++ write id.num
  read := do return { shard := ← read, realm := ← read, num := ← read }

instance : Encoded Timestamp where
  write t := write t.seconds ++ write t.nanos
  read := do return { seconds := ← read, nanos := ← read }

instance : Encoded TransactionId where
  write id := write id.account ++ write id.validStart ++ write id.scheduled ++ write id.nonce
  read := do
    return { account := ← read, validStart := ← read, scheduled := ← read, nonce := ← read }

instance : Encoded Status where
  write
    | .other code => writeVariant (Status.other code).index ++ write code
    | status => writeVariant status.index
  read := do
    match Status.ofIndex? (← readVariant (Status.named.length + 1)) with
    | some status => return status
    | none => return .other (← read)

instance : Encoded NodeAddress where
  write a := write a.account ++ write a.host ++ write a.port ++ write a.certHash
  read := do return { account := ← read, host := ← read, port := ← read, certHash := ← read }

mutual

/-- The encoding of a receipt. -/
def Receipt.write : Receipt → Bytes
  | ⟨status, transactionId, accountId, topicId, sequence, children, duplicates⟩ =>
      Wire.write status ++ Wire.write transactionId ++ Wire.write accountId ++
        Wire.write topicId ++ Wire.write sequence ++
        writeLength children.length ++ Receipt.writeAll children ++
        writeLength duplicates.length ++ Receipt.writeAll duplicates

/-- The encodings of receipts one after the other. -/
def Receipt.writeAll : List Receipt → Bytes
  | [] => []
  | first :: rest => Receipt.write first ++ Receipt.writeAll rest

end

/-- Takes a receipt in which receipts nest less than `depth` deep. -/
def Receipt.readWithin : (depth : Nat) → Reader Receipt
  | 0 => throw .endOfInput
  | depth + 1 => do
      let status ← read
      let transactionId ← read
      let accountId ← read
      let topicId ← read
      let topicSequenceNumber ← read
      let children ← readList (Receipt.readWithin depth)
      let duplicates ← readList (Receipt.readWithin depth)
      return { status, transactionId, accountId, topicId, topicSequenceNumber, children, duplicates }

instance : Encoded Receipt where
  write := Receipt.write
  read := fun bytes => Receipt.readWithin (bytes.length + 1) bytes

mutual

/-- The encoding of a record. -/
def Record.write : Record → Bytes
  | ⟨receipt, transactionHash, consensusTimestamp, memo, fee, children, duplicates⟩ =>
      Wire.write receipt ++ Wire.write transactionHash ++ Wire.write consensusTimestamp ++
        Wire.write memo ++ Wire.write fee ++
        writeLength children.length ++ Record.writeAll children ++
        writeLength duplicates.length ++ Record.writeAll duplicates

/-- The encodings of records one after the other. -/
def Record.writeAll : List Record → Bytes
  | [] => []
  | first :: rest => Record.write first ++ Record.writeAll rest

end

/-- Takes a record in which records nest less than `depth` deep. -/
def Record.readWithin : (depth : Nat) → Reader Record
  | 0 => throw .endOfInput
  | depth + 1 => do
      let receipt ← read
      let transactionHash ← read
      let consensusTimestamp ← read
      let memo ← read
      let transactionFee ← read
      let children ← readList (Record.readWithin depth)
      let duplicates ← readList (Record.readWithin depth)
      return { receipt, transactionHash, consensusTimestamp, memo, transactionFee, children,
               duplicates }

instance : Encoded Record where
  write := Record.write
  read := fun bytes => Record.readWithin (bytes.length + 1) bytes

instance : Encoded AccountBalance where
  write b := write b.accountId ++ write b.balance
  read := do return { accountId := ← read, balance := ← read }

instance : Encoded AccountAmount where
  write a := write a.account ++ write a.amount
  read := do return { account := ← read, amount := ← read }

instance : Encoded TransactionData where
  write
    | .cryptoTransfer transfers => writeVariant 0 ++ write transfers
    | .submitMessage topic message => writeVariant 1 ++ write topic ++ write message
    | .external kind payload => writeVariant 2 ++ write kind ++ write payload
  read := do
    match ← readVariant 3 with
    | 0 => return .cryptoTransfer (← read)
    | 1 => return .submitMessage (← read) (← read)
    | _ => return .external (← read) (← read)

instance : Encoded TransactionBody where
  write b :=
    write b.transactionId ++ write b.node ++ write b.fee ++ write b.validSeconds ++
      write b.memo ++ write b.data
  read := do
    return { transactionId := ← read, node := ← read, fee := ← read, validSeconds := ← read,
             memo := ← read, data := ← read }

instance : Encoded SignaturePair where
  write p := write p.publicKey ++ write p.signature
  read := do return { publicKey := ← read, signature := ← read }

instance : Encoded SignatureMap where
  write m := write m.pairs
  read := do return { pairs := ← read }

instance : Encoded SignedTransaction where
  write s := write s.body ++ write s.signatures
  read := do return { body := ← read, signatures := ← read }

instance : Encoded ResponseType where
  write
    | .answerOnly => writeVariant 0
    | .costAnswer => writeVariant 1
  read := do
    match ← readVariant 2 with
    | 0 => return .answerOnly
    | _ => return .costAnswer

instance : Encoded QueryHeader where
  write h := write h.payment ++ write h.responseType
  read := do return { payment := ← read, responseType := ← read }

instance : Encoded QueryBody where
  write
    | .receipt transaction children duplicates =>
        writeVariant 0 ++ write transaction ++ write children ++ write duplicates
    | .record transaction children duplicates =>
        writeVariant 1 ++ write transaction ++ write children ++ write duplicates
    | .accountBalance account => writeVariant 2 ++ write account
    | .external kind payload => writeVariant 3 ++ write kind ++ write payload
  read := do
    match ← readVariant 4 with
    | 0 => return .receipt (← read) (← read) (← read)
    | 1 => return .record (← read) (← read) (← read)
    | 2 => return .accountBalance (← read)
    | _ => return .external (← read) (← read)

instance : Encoded QueryRequest where
  write q := write q.header ++ write q.body
  read := do return { header := ← read, body := ← read }

instance : Encoded Request where
  write
    | .transaction signed => writeVariant 0 ++ write signed
    | .query query => writeVariant 1 ++ write query
  read := do
    match ← readVariant 2 with
    | 0 => return .transaction (← read)
    | _ => return .query (← read)

instance : Encoded ResponseBody where
  write
    | .empty => writeVariant 0
    | .receipt receipt => writeVariant 1 ++ write receipt
    | .record record => writeVariant 2 ++ write record
    | .accountBalance balance => writeVariant 3 ++ write balance
    | .external payload => writeVariant 4 ++ write payload
  read := do
    match ← readVariant 5 with
    | 0 => return .empty
    | 1 => return .receipt (← read)
    | 2 => return .record (← read)
    | 3 => return .accountBalance (← read)
    | _ => return .external (← read)

instance : Encoded Response where
  write r := write r.precheck ++ write r.cost ++ write r.body
  read := do return { precheck := ← read, cost := ← read, body := ← read }

instance : Encoded TopicQuery where
  write q := write q.topicId ++ write q.startTime ++ write q.endTime ++ write q.limit
  read := do
    return { topicId := ← read, startTime := ← read, endTime := ← read, limit := ← read }

instance : Encoded TopicMessage where
  write m :=
    write m.topicId ++ write m.consensusTimestamp ++ write m.sequenceNumber ++ write m.contents
  read := do
    return { topicId := ← read, consensusTimestamp := ← read, sequenceNumber := ← read,
             contents := ← read }

end LedgerClient
