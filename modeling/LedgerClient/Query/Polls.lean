import LedgerClient.Query
import LedgerClient.Transaction.Submission

/-!
# Polls and other questions

Receipts and records are polled for: until a transaction has reached consensus,
nodes answer that there is nothing yet. A poll ends at the first status that is not
a pending one; it may be told to take a failure for an error.
-/

namespace LedgerClient

/-- The transaction has not reached consensus, as far as the status says. -/
def Status.isPending (status : Status) : Bool :=
  status = .busy || status = .ok || status = .platformNotActive || status.isNotYetAvailable

namespace Question

/-- What a poll makes of the node's check, when it is not `ok`. -/
def judgeCheck (status : Status) : Verdict := if status.isPending then .retry else .rejected

/-- What a poll makes of the status inside an answer. -/
def judgeStatus (validate : Bool) (status : Status) : Verdict :=
  if status.isPending then .retry
  else if status = .success || !validate then .finished
  else .rejected

/-- A poll for an answer about a transaction, in which `part?` finds the receipt. -/
def poll {α : Type} (name expected : String) (body : QueryBody) (isFree : Bool)
    (id : TransactionId) (pinned : Option AccountId) (validate : Bool)
    (part? : ResponseBody → Option α) (receipt : α → Receipt) : Question α :=
  let inner? (response : Response) : Option Receipt :=
    if response.precheck = .ok then (part? response.body).map receipt else none
  let status (response : Response) : Status :=
    match inner? response with
    | some inner => inner.status
    | none => response.precheck
  { name, body, isFree, pinned, transactionId := some id, status
    judge := fun response =>
      if response.precheck = .ok then
        match inner? response with
        | some inner => judgeStatus validate inner.status
        | none => .finished
      else judgeCheck response.precheck
    refusal := fun response node =>
      match inner? response with
      | some inner => .receiptRejection inner.status id inner
      | none => .precheckRejection response.precheck (some id) node
    value := fun response =>
      match part? response.body with
      | some part => .ok part
      | none => .error (.unexpectedResponse (.body expected response.body)) }

/-- What is to be polled for. -/
structure Subject where
  transactionId : TransactionId
  /-- The one node that is asked. -/
  node : Option AccountId := none
  includeChildren : Bool := false
  includeDuplicates : Bool := false
  /-- A receipt that tells of failure is an error. -/
  validateStatus : Bool := false

/-- The receipt of an answer. -/
def receipt? : ResponseBody → Option Receipt
  | .receipt outcome => some outcome
  | _ => none

/-- The record of an answer. -/
def record? : ResponseBody → Option Record
  | .record account => some account
  | _ => none

/-- Polls for a receipt. -/
def receipt (s : Subject) : Question Receipt :=
  poll "transaction_receipt" "a receipt"
    (.receipt s.transactionId s.includeChildren s.includeDuplicates) true s.transactionId s.node
    s.validateStatus receipt? id

/-- Polls for a record. -/
def record (s : Subject) : Question Record :=
  poll "transaction_record" "a record"
    (.record s.transactionId s.includeChildren s.includeDuplicates) false s.transactionId s.node
    s.validateStatus record? Record.receipt

/-- Asks for the balance of an account. -/
def balance (account : AccountId) : Question AccountBalance where
  name := "account_balance"
  body := .accountBalance account
  isFree := true
  entities := [account]
  value response := match response.body with
    | .accountBalance balance => .ok balance
    | body => .error (.unexpectedResponse (.body "an account balance" body))

/-- Asks a question made elsewhere. -/
def external (name : String) (payload : Bytes) : Question Bytes where
  name
  body := .external name payload
  value response := match response.body with
    | .external answer => .ok answer
    | body => .error (.unexpectedResponse (.body "opaque" body))

end Question

namespace Acceptance

/-- What is polled for at the node that accepted the transaction. -/
def subject (a : Acceptance) : Question.Subject :=
  { transactionId := a.transactionId, node := some a.node, validateStatus := a.validateStatus }

/-- Polls for the receipt at the node that accepted the transaction. -/
def receiptQuery (a : Acceptance) : Query Receipt := { question := .receipt a.subject }

/-- Polls for the record at the node that accepted the transaction. -/
def recordQuery (a : Acceptance) : Query Record := { question := .record a.subject }

end Acceptance

end LedgerClient
