import LedgerClient.Execution.Settings
import LedgerClient.Wire.Message

/-!
# Operations

What the attempt loop needs to know of a call: whom it may ask, what it asks, what
a response means and what becomes of it. Transactions, queries and payloads made
elsewhere are operations.
-/

namespace LedgerClient

/-- What a response means for the attempt it answers. -/
inductive Verdict where
  /-- The answer is there. -/
  | finished
  /-- Another attempt may succeed. -/
  | retry
  /-- No attempt will succeed. -/
  | rejected
  deriving DecidableEq

/-- What most operations make of the node's check: `ok` finishes, faults of the node are retried, and
the rest is final. -/
def Verdict.ofPrecheck (status : Status) : Verdict :=
  if status = .ok then .finished else if status.isNodeFault then .retry else .rejected

/-- A call as the attempt loop sees it. -/
structure Operation (α : Type) where
  /-- The name in metrics. -/
  name : String
  /-- The nodes that may be asked; none stands for all. -/
  candidates : List AccountId
  /-- The one node that all attempts go to. -/
  pinned : Option AccountId := none
  /-- The transaction the call is about. -/
  transactionId : Option TransactionId := none
  /-- Settings in place of the client's. -/
  settings : Option ExecuteSettings := none
  /-- What a node is asked. -/
  request : AccountId → Outcome Request
  /-- What a response means. -/
  judge : Response → Verdict
  /-- Whether a response to be retried is the node's fault. -/
  isNodeFault : Response → Bool := fun response => response.precheck.isNodeFault
  /-- The status a response is reported under. -/
  status : Response → Status := fun response => response.precheck
  /-- What a final answer of a node comes to. -/
  output : Response → AccountId → Outcome α
  /-- The error a refusal by a node comes to. -/
  refusal : Response → AccountId → ClientError :=
    fun response node => .precheckRejection (status response) transactionId node

end LedgerClient
