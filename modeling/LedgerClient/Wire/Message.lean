import LedgerClient.Receipt
import LedgerClient.Topic

/-!
# Messages

What a client and a node say to each other. A transaction travels as the octets
of its body with the signatures over them; a body is addressed to one node. A
query may carry a payment, which is a transaction addressed to the node asked.
-/

namespace LedgerClient

/-- One leg of a transfer. -/
structure AccountAmount where
  account : AccountId
  /-- Credited if positive, debited if negative. -/
  amount : Int64
  deriving Inhabited

/-- What a transaction does. -/
inductive TransactionData where
  /-- Moves value between accounts. -/
  | cryptoTransfer (transfers : List AccountAmount)
  /-- Submits a message to a topic. -/
  | submitMessage (topic : TopicId) (message : Bytes)
  /-- A payload made elsewhere, of a kind named for metrics. -/
  | external (kind : String) (payload : Bytes)
  deriving Inhabited

namespace TransactionData

/-- The name of the operation. -/
def kind : TransactionData → String
  | .cryptoTransfer _ => "crypto_transfer"
  | .submitMessage _ _ => "consensus_submit_message"
  | .external kind _ => kind

/-- The identifiers the payload mentions. -/
def entities : TransactionData → List EntityId
  | .cryptoTransfer transfers => transfers.map (·.account)
  | .submitMessage topic _ => [topic]
  | .external _ _ => []

end TransactionData

/-- What is signed: a transaction addressed to one node. -/
structure TransactionBody where
  transactionId : TransactionId
  node : AccountId
  /-- The highest fee the payer accepts. -/
  fee : UInt64
  /-- Seconds after the valid start in which the transaction is accepted. -/
  validSeconds : UInt64
  memo : String
  data : TransactionData
  deriving Inhabited

/-- A signature by one key. -/
structure SignaturePair where
  publicKey : Bytes
  signature : Bytes
  deriving DecidableEq, Inhabited

/-- Signatures over one body, in the order in which the keys first signed. -/
structure SignatureMap where
  pairs : List SignaturePair := []
  deriving DecidableEq, Inhabited

namespace SignatureMap

/-- Puts a pair where the first pair of its key stands, or at the end. -/
def place (pair : SignaturePair) : List SignaturePair → List SignaturePair
  | [] => [pair]
  | first :: rest =>
      if first.publicKey = pair.publicKey then pair :: rest else first :: place pair rest

/-- Adds a signature, in place of an earlier one by the same key. -/
def insert (map : SignatureMap) (pair : SignaturePair) : SignatureMap :=
  ⟨place pair map.pairs⟩

/-- Whether a key has signed. -/
def contains (map : SignatureMap) (publicKey : Bytes) : Bool :=
  map.pairs.any (·.publicKey == publicKey)

end SignatureMap

/-- The octets of a body and the signatures over them. -/
structure SignedTransaction where
  body : Bytes
  signatures : SignatureMap
  deriving DecidableEq, Inhabited

/-- What the asker wants back. -/
inductive ResponseType where
  /-- The answer itself. -/
  | answerOnly
  /-- What the answer would cost. -/
  | costAnswer
  deriving DecidableEq, Inhabited

/-- What all queries have in common. -/
structure QueryHeader where
  payment : Option SignedTransaction
  responseType : ResponseType
  deriving Inhabited

/-- What a query asks. -/
inductive QueryBody where
  | receipt (transaction : TransactionId) (children duplicates : Bool)
  | record (transaction : TransactionId) (children duplicates : Bool)
  | accountBalance (account : AccountId)
  /-- A payload made elsewhere. -/
  | external (kind : String) (payload : Bytes)
  deriving Inhabited

/-- A query with its header. -/
structure QueryRequest where
  header : QueryHeader
  body : QueryBody
  deriving Inhabited

/-- What is sent to a node. -/
inductive Request where
  | transaction (signed : SignedTransaction)
  | query (query : QueryRequest)
  deriving Inhabited

/-- What a node answers beyond its check of the request. -/
inductive ResponseBody where
  | empty
  | receipt (receipt : Receipt)
  | record (record : Record)
  | accountBalance (balance : AccountBalance)
  | external (payload : Bytes)
  deriving Inhabited

/-- What a node answers. -/
structure Response where
  /-- The node's check of the request. -/
  precheck : Status
  cost : UInt64 := 0
  body : ResponseBody := .empty
  deriving Inhabited

end LedgerClient
