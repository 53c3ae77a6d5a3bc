import LedgerClient.Status
import LedgerClient.Transaction.Id
import LedgerClient.Bytes

/-!
# Receipts, records and balances

What nodes answer once a transaction has reached consensus. Receipts and records
may hold those of child transactions and of duplicate submissions.
-/

namespace LedgerClient

/-- The outcome of a transaction. -/
structure Receipt where
  status : Status
  transactionId : Option TransactionId := none
  /-- The account the transaction created. -/
  accountId : Option AccountId := none
  /-- The topic the transaction created. -/
  topicId : Option TopicId := none
  /-- The position of a submitted message in its topic. -/
  topicSequenceNumber : UInt64 := 0
  children : List Receipt := []
  duplicates : List Receipt := []
  deriving Inhabited

/-- A receipt that carries a status only. -/
def Receipt.ofStatus (status : Status) : Receipt := { status }

/-- The full account of a transaction. -/
structure Record where
  receipt : Receipt
  /-- Digest of the signed transaction. -/
  transactionHash : Bytes
  consensusTimestamp : Option Timestamp
  memo : String
  transactionFee : UInt64
  children : List Record
  duplicates : List Record
  deriving Inhabited

/-- The balance of an account. -/
structure AccountBalance where
  accountId : AccountId
  balance : UInt64
  deriving Inhabited

end LedgerClient
