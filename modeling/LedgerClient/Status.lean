/-!
# Status codes

Nodes answer with a status, first when they check a request before consensus and
again inside a receipt. A few statuses are the node's own fault, a few say that
the answer is not there yet; every other one is final. Codes this library does
not know keep their number.
-/

namespace LedgerClient

/-- What a node says about a request. -/
inductive Status where
  | ok
  | success
  | busy
  | platformNotActive
  | platformTransactionNotCreated
  | unknown
  | receiptNotFound
  | recordNotFound
  | invalidTransaction
  | invalidSignature
  | duplicateTransaction
  | transactionExpired
  | invalidTransactionStart
  | invalidTransactionDuration
  | invalidNodeAccount
  | invalidAccountId
  | invalidTopicId
  | insufficientTxFee
  | insufficientPayerBalance
  | insufficientAccountBalance
  | payerAccountNotFound
  | accountDeleted
  | memoTooLong
  | notSupported
  /-- A code without a name here. -/
  | other (code : Int32)
  deriving DecidableEq, Inhabited

namespace Status

/-- The statuses with a name, in the order of their encoding, with the words they are written
with: the capitalised name and the label of metrics. -/
def named : List (Status × String × String) := [
  (.ok, "Ok", "OK"),
  (.success, "Success", "SUCCESS"),
  (.busy, "Busy", "BUSY"),
  (.platformNotActive, "PlatformNotActive", "PLATFORM_NOT_ACTIVE"),
  (.platformTransactionNotCreated, "PlatformTransactionNotCreated", "PLATFORM_TRANSACTION_NOT_CREATED"),
  (.unknown, "Unknown", "UNKNOWN"),
  (.receiptNotFound, "ReceiptNotFound", "RECEIPT_NOT_FOUND"),
  (.recordNotFound, "RecordNotFound", "RECORD_NOT_FOUND"),
  (.invalidTransaction, "InvalidTransaction", "INVALID_TRANSACTION"),
  (.invalidSignature, "InvalidSignature", "INVALID_SIGNATURE"),
  (.duplicateTransaction, "DuplicateTransaction", "DUPLICATE_TRANSACTION"),
  (.transactionExpired, "TransactionExpired", "TRANSACTION_EXPIRED"),
  (.invalidTransactionStart, "InvalidTransactionStart", "INVALID_TRANSACTION_START"),
  (.invalidTransactionDuration, "InvalidTransactionDuration", "INVALID_TRANSACTION_DURATION"),
  (.invalidNodeAccount, "InvalidNodeAccount", "INVALID_NODE_ACCOUNT"),
  (.invalidAccountId, "InvalidAccountId", "INVALID_ACCOUNT_ID"),
  (.invalidTopicId, "InvalidTopicId", "INVALID_TOPIC_ID"),
  (.insufficientTxFee, "InsufficientTxFee", "INSUFFICIENT_TX_FEE"),
  (.insufficientPayerBalance, "InsufficientPayerBalance", "INSUFFICIENT_PAYER_BALANCE"),
  (.insufficientAccountBalance, "InsufficientAccountBalance", "INSUFFICIENT_ACCOUNT_BALANCE"),
  (.payerAccountNotFound, "PayerAccountNotFound", "PAYER_ACCOUNT_NOT_FOUND"),
  (.accountDeleted, "AccountDeleted", "ACCOUNT_DELETED"),
  (.memoTooLong, "MemoTooLong", "MEMO_TOO_LONG"),
  (.notSupported, "NotSupported", "NOT_SUPPORTED")]

/-- Position of the status in its encoding. -/
def index : Status → Nat
  | .ok => 0
  | .success => 1
  | .busy => 2
  | .platformNotActive => 3
  | .platformTransactionNotCreated => 4
  | .unknown => 5
  | .receiptNotFound => 6
  | .recordNotFound => 7
  | .invalidTransaction => 8
  | .invalidSignature => 9
  | .duplicateTransaction => 10
  | .transactionExpired => 11
  | .invalidTransactionStart => 12
  | .invalidTransactionDuration => 13
  | .invalidNodeAccount => 14
  | .invalidAccountId => 15
  | .invalidTopicId => 16
  | .insufficientTxFee => 17
  | .insufficientPayerBalance => 18
  | .insufficientAccountBalance => 19
  | .payerAccountNotFound => 20
  | .accountDeleted => 21
  | .memoTooLong => 22
  | .notSupported => 23
  | .other _ => 24

/-- The named status at a position. -/
def ofIndex? (index : Nat) : Option Status := named[index]?.map (·.1)

/-- The capitalised name. -/
def name (status : Status) : String :=
  match named[status.index]? with
  | some (_, name, _) => name
  | none => "Other"

/-- The label of metrics; all nameless codes share one. -/
def label (status : Status) : String :=
  match named[status.index]? with
  | some (_, _, label) => label
  | none => "OTHER"

/-- The label, followed by the code if it has no name. -/
def text : Status → String
  | .other code => "OTHER(" ++ toString code.toInt ++ ")"
  | status => status.label

instance : ToString Status := ⟨text⟩

/-- The node could not serve the request; another node may. -/
def isNodeFault : Status → Bool
  | .busy | .platformNotActive | .platformTransactionNotCreated => true
  | _ => false

/-- The answer is not there yet. -/
def isNotYetAvailable : Status → Bool
  | .unknown | .receiptNotFound | .recordNotFound => true
  | _ => false

/-- Each named status stands at its own index. -/
theorem ofIndex?_index (status : Status) (hnamed : ∀ code, status ≠ .other code) :
    ofIndex? status.index = some status := by
  cases status with
  | other code => exact absurd rfl (hnamed code)
  | _ => rfl

end Status

end LedgerClient
