import LedgerClient.Wire.Message

/-!
# What the wire leaves out

The wire carries no checksums. A bare value is one in which no identifier has a
checksum, however deep it stands; everything else in it stays.
-/

namespace LedgerClient

def TransactionId.bare (id : TransactionId) : TransactionId :=
  { id with account := id.account.bare }

def AccountAmount.bare (leg : AccountAmount) : AccountAmount :=
  { leg with account := leg.account.bare }

def TransactionData.bare : TransactionData → TransactionData
  | .cryptoTransfer transfers => .cryptoTransfer (transfers.map AccountAmount.bare)
  | .submitMessage topic message => .submitMessage topic.bare message
  | .external kind payload => .external kind payload

def TransactionBody.bare (body : TransactionBody) : TransactionBody :=
  { body with
    transactionId := body.transactionId.bare
    node := body.node.bare
    data := body.data.bare }

def QueryBody.bare : QueryBody → QueryBody
  | .receipt transaction children duplicates => .receipt transaction.bare children duplicates
  | .record transaction children duplicates => .record transaction.bare children duplicates
  | .accountBalance account => .accountBalance account.bare
  | .external kind payload => .external kind payload

/-- A signed transaction is octets already, so only the question is left to be bared. -/
def Request.bare : Request → Request
  | .transaction signed => .transaction signed
  | .query asked => .query { asked with body := asked.body.bare }

mutual

def Receipt.bare : Receipt → Receipt
  | ⟨status, transactionId, accountId, topicId, sequence, children, duplicates⟩ =>
      ⟨status, transactionId.map TransactionId.bare, accountId.map EntityId.bare,
        topicId.map EntityId.bare, sequence, Receipt.bareAll children, Receipt.bareAll duplicates⟩

def Receipt.bareAll : List Receipt → List Receipt
  | [] => []
  | first :: rest => first.bare :: Receipt.bareAll rest

end

mutual

def Record.bare : Record → Record
  | ⟨receipt, transactionHash, consensusTimestamp, memo, fee, children, duplicates⟩ =>
      ⟨receipt.bare, transactionHash, consensusTimestamp, memo, fee, Record.bareAll children,
        Record.bareAll duplicates⟩

def Record.bareAll : List Record → List Record
  | [] => []
  | first :: rest => first.bare :: Record.bareAll rest

end

@[simp] theorem Receipt.bareAll_eq_map (receipts : List Receipt) :
    Receipt.bareAll receipts = receipts.map Receipt.bare := by
  induction receipts with
  | nil => rfl
  | cons first rest ih => rw [Receipt.bareAll, ih, List.map_cons]

@[simp] theorem Record.bareAll_eq_map (records : List Record) :
    Record.bareAll records = records.map Record.bare := by
  induction records with
  | nil => rfl
  | cons first rest ih => rw [Record.bareAll, ih, List.map_cons]

def AccountBalance.bare (balance : AccountBalance) : AccountBalance :=
  { balance with accountId := balance.accountId.bare }

def ResponseBody.bare : ResponseBody → ResponseBody
  | .empty => .empty
  | .receipt outcome => .receipt outcome.bare
  | .record account => .record account.bare
  | .accountBalance holding => .accountBalance holding.bare
  | .external payload => .external payload

def Response.bare (response : Response) : Response :=
  { response with body := response.body.bare }

end LedgerClient
