import LedgerClient.Transaction

/-!
# Queries

A question says what is asked, what answers mean and what a final answer comes to.
A query adds whom to ask and what to pay. A payment is a transfer from the operator
to the node asked, so there is one for each node, all under one identifier; an
attempt carries the payment of its node. Free questions and questions for the cost
carry none.
-/

namespace LedgerClient

/-- What is asked, and what answers come to. -/
structure Question (α : Type) where
  /-- The name in metrics. -/
  name : String
  body : QueryBody
  /-- The answer is never paid for. -/
  isFree : Bool := false
  /-- The one node that is asked. -/
  pinned : Option AccountId := none
  /-- The transaction the question is about. -/
  transactionId : Option TransactionId := none
  /-- The identifiers whose checksums are checked. -/
  entities : List EntityId := []
  /-- What a response means. -/
  judge : Response → Verdict := fun response => .ofPrecheck response.precheck
  /-- Whether a response to be retried is the node's fault. -/
  isNodeFault : Response → Bool := fun response => response.precheck.isNodeFault
  /-- The status a response is reported under. -/
  status : Response → Status := fun response => response.precheck
  /-- The error a refusal by a node comes to. -/
  refusal : Response → AccountId → ClientError :=
    fun response node => .precheckRejection (status response) transactionId node
  /-- What a final answer comes to. -/
  value : Response → Outcome α

/-- A question, whom to ask it and what to pay. -/
structure Query (α : Type) where
  question : Question α
  /-- The nodes that may be asked; none stands for all. -/
  nodes : List AccountId := []
  payment : Option UInt64 := none
  /-- Settings in place of the client's. -/
  settings : Option ExecuteSettings := none

/-- Payments by node, the latest first. -/
abbrev Payments := List (AccountId × SignedTransaction)

/-- The payment of a node. -/
def Payments.for? (payments : Payments) (node : AccountId) : Option SignedTransaction :=
  (payments.find? (·.1 == node)).map (·.2)

namespace Query

variable {ω χ α : Type}

/-- The transfer of an amount from an account to a node. -/
def transfer (payer node : AccountId) (amount : Int64) : Transaction :=
  { data := .cryptoTransfer [⟨payer, -amount⟩, ⟨node, amount⟩] }

/-- A signed payment to a node. -/
def pay (operator : Operator ω) (network : Network χ) (id : TransactionId) (amount : Int64)
    (node : AccountId) (world : ω) : Outcome SignedTransaction × ω :=
  let frozen : Outcome Transaction := do
    let named ← (← (transfer operator.account node amount).setNodes [node]).setId id
    named.freeze network
  match frozen with
  | .error error => (.error error, world)
  | .ok frozen =>
      let (outcome, signed, world) := frozen.sign operator.signer world
      (do outcome; signed.signedFor node, world)

/-- Signed payments to nodes, one after the other. -/
def payEach (operator : Operator ω) (network : Network χ) (id : TransactionId) (amount : Int64) :
    List AccountId → Payments → ω → Outcome Payments × ω
  | [], payments, world => (.ok payments, world)
  | node :: rest, payments, world =>
      match pay operator network id amount node world with
      | (.error error, world) => (.error error, world)
      | (.ok signed, world) =>
          payEach operator network id amount rest ((node, signed) :: payments) world

/-- Signed payments of an amount to nodes. -/
def payments (client : Client ω χ) (nodes : List AccountId) (amount : UInt64) (scene : Scene ω χ) :
    Outcome Payments × Scene ω χ :=
  match client.operator with
  | none => (.error .operatorRequired, scene)
  | some operator =>
      if amount.toNat < UInt64.size / 2 then
        let (id, scene) := client.generateId operator.account scene
        let (outcome, world) :=
          payEach operator scene.network id (.ofNat amount.toNat) nodes [] scene.world
        (outcome, { scene with world })
      else (.error (.config (.paymentTooLarge amount)), scene)

/-- The operation that asks the question, of nodes and with payments. -/
def operation (query : Query α) (type : ResponseType) (candidates : List AccountId)
    (payments : Option Payments) : Operation Response where
  name := query.question.name
  candidates
  pinned := query.question.pinned
  transactionId := query.question.transactionId
  settings := query.settings
  request node :=
    let asking (payment : Option SignedTransaction) : Request :=
      .query ⟨⟨payment, type⟩, query.question.body⟩
    match payments with
    | none => .ok (asking none)
    | some payments =>
        match payments.for? node with
        | none => .error (.unknownNode node)
        | some payment => .ok (asking (some payment))
  judge response := match type with
    | .costAnswer => .ofPrecheck response.precheck
    | .answerOnly => query.question.judge response
  isNodeFault := query.question.isNodeFault
  status := query.question.status
  output response _ := .ok response
  refusal := query.question.refusal

/-- The amount to be paid for an answer of a type, if it is to be paid for. -/
def due (query : Query α) (type : ResponseType) : Option UInt64 :=
  if type = .answerOnly ∧ !query.question.isFree then query.payment else none

/-- The nodes the query names: the pinned one, or those it may be sent to. -/
def named (query : Query α) : List AccountId :=
  match query.question.pinned with
  | some node => [node]
  | none => query.nodes

/-- The operation of the query with its payments made. -/
def prepare (query : Query α) (client : Client ω χ) (type : ResponseType) (scene : Scene ω χ) :
    Outcome (Operation Response) × Scene ω χ :=
  match query.due type with
  | none => (.ok (query.operation type query.named none), scene)
  | some amount =>
      let (nodes, scene) := client.chooseNodes query.named scene
      let (outcome, scene) := payments client nodes amount scene
      (outcome.map fun payments => query.operation type nodes (some payments), scene)

/-- Asks the question for an answer of a type. -/
def run (query : Query α) (client : Client ω χ) (type : ResponseType) (scene : Scene ω χ) :
    Run ω χ Response :=
  match client.checkIds scene query.question.entities with
  | .error error => .refused error scene
  | .ok () =>
      match query.prepare client type scene with
      | (.error error, scene) => .refused error scene
      | (.ok operation, scene) => client.execute operation scene

/-- Asks the question. -/
def execute (query : Query α) (client : Client ω χ) (scene : Scene ω χ) : Run ω χ α :=
  (query.run client .answerOnly scene).bind query.question.value

/-- Asks what the answer would cost. -/
def cost (query : Query α) (client : Client ω χ) (scene : Scene ω χ) : Run ω χ UInt64 :=
  (query.run client .costAnswer scene).bind fun response => .ok response.cost

end Query

end LedgerClient
