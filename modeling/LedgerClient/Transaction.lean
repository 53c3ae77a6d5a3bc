import LedgerClient.Client
import LedgerClient.Transaction.Bodies

/-!
# Transactions

A transaction is a draft whose fields may change, until it is frozen into one body
for each node it may go to. Frozen, it collects signatures; once a node has
accepted it, it is done. What a stage does not allow is refused, and changes
nothing.
-/

namespace LedgerClient

/-- How far a transaction is. -/
inductive Stage where
  | draft
  | frozen (bodies : SignedBodies)
  /-- Accepted by a node, as octets with this digest. -/
  | executed (node : AccountId) (hash : Bytes)

/-- A transaction. -/
structure Transaction where
  data : TransactionData
  /-- The nodes asked for; none stands for all. -/
  nodes : List AccountId := []
  id : Option TransactionId := none
  /-- The highest fee the payer accepts. -/
  maxFee : UInt64 := 200000000
  /-- How long after its valid start the transaction is accepted. -/
  validDuration : Duration := Duration.ofSeconds 120
  memo : String := ""
  settings : Option ExecuteSettings := none
  stage : Stage := .draft

namespace Transaction

variable {ω χ : Type}

/-- Refuses what only a draft allows. -/
def requireDraft (t : Transaction) : Outcome Unit :=
  match t.stage with
  | .draft => .ok ()
  | .frozen _ => .error .alreadyFrozen
  | .executed _ _ => .error .alreadyExecuted

/-- The bodies, while the transaction is frozen and not done. -/
def bodies (t : Transaction) : Outcome SignedBodies :=
  match t.stage with
  | .draft => .error .notFrozen
  | .frozen bodies => .ok bodies
  | .executed _ _ => .error .alreadyExecuted

/-- Changes a draft. -/
def edit (t : Transaction) (change : Transaction → Transaction) : Outcome Transaction :=
  t.requireDraft.map fun _ => change t

def setNodes (t : Transaction) (nodes : List AccountId) : Outcome Transaction :=
  t.edit ({ · with nodes })

def setId (t : Transaction) (id : TransactionId) : Outcome Transaction :=
  t.edit ({ · with id := some id })

def setMaxFee (t : Transaction) (maxFee : UInt64) : Outcome Transaction :=
  t.edit ({ · with maxFee })

def setMemo (t : Transaction) (memo : String) : Outcome Transaction :=
  t.edit ({ · with memo })

def setValidDuration (t : Transaction) (validDuration : Duration) : Outcome Transaction :=
  t.edit ({ · with validDuration })

/-- Puts other settings in place of the client's. Every stage allows it. -/
def setSettings (t : Transaction) (settings : ExecuteSettings) : Transaction :=
  { t with settings := some settings }

/-- The nodes the transaction may go to: those it is frozen for, else those asked for. -/
def candidates (t : Transaction) : List AccountId :=
  match t.stage with
  | .frozen bodies => bodies.nodes
  | _ => t.nodes

/-- Whether the transaction is past its draft. -/
def isFrozen (t : Transaction) : Bool :=
  match t.stage with
  | .draft => false
  | _ => true

/-- The transaction made out for a node. -/
def body (t : Transaction) (id : TransactionId) (node : AccountId) : TransactionBody :=
  { transactionId := id, node, fee := t.maxFee, validSeconds := t.validDuration.seconds
    memo := t.memo, data := t.data }

/-- Makes the transaction out for nodes of a network. -/
def makeOut (t : Transaction) (network : Network χ) (id : TransactionId) :
    List AccountId → SignedBodies → Outcome SignedBodies
  | [], bodies => .ok bodies
  | node :: rest, bodies =>
      if (network.member? node).isSome then
        makeOut t network id rest (bodies.insert node (Wire.encode (t.body id node)))
      else .error (.unknownNode node)

/-- Freezes the transaction for nodes. -/
def freezeFor (t : Transaction) (network : Network χ) (nodes : List AccountId) :
    Outcome Transaction := do
  match t.id with
  | none => throw .transactionIdRequired
  | some id => return { t with stage := .frozen (← t.makeOut network id nodes {}) }

/-- Freezes the transaction for the nodes asked for, or for all nodes of a network. -/
def freeze (t : Transaction) (network : Network χ) : Outcome Transaction := do
  t.requireDraft
  t.freezeFor network (if t.nodes.isEmpty then network.accounts else t.nodes)

/-- Gives the transaction an identifier of the client's operator, if it has none. -/
def nameWith (t : Transaction) (client : Client ω χ) (scene : Scene ω χ) :
    Outcome Transaction × Scene ω χ :=
  match t.id, client.operator with
  | some _, _ => (.ok t, scene)
  | none, none => (.error .transactionIdRequired, scene)
  | none, some operator =>
      let (id, scene) := client.generateId operator.account scene
      (.ok { t with id := some id }, scene)

/-- Freezes the transaction with a client: it gets an identifier if it has none, its identifiers are
checked if the client is to, and if it asks for no nodes the client chooses them. The transaction
that is left is the frozen one, or the one that could not be frozen, with its identifier. -/
def freezeWith (t : Transaction) (client : Client ω χ) (scene : Scene ω χ) :
    Outcome Unit × Transaction × Scene ω χ :=
  match t.requireDraft with
  | .error error => (.error error, t, scene)
  | .ok () =>
      match t.nameWith client scene with
      | (.error error, scene) => (.error error, t, scene)
      | (.ok t, scene) =>
          match client.checkIds scene (t.data.entities ++ t.nodes) with
          | .error error => (.error error, t, scene)
          | .ok () =>
              let (nodes, scene) := client.chooseNodes t.nodes scene
              match t.freezeFor scene.network nodes with
              | .error error => (.error error, t, scene)
              | .ok frozen => (.ok (), frozen, scene)

/-- Has every body signed. -/
def sign (t : Transaction) (signer : Signer ω) (world : ω) : Outcome Unit × Transaction × ω :=
  match t.bodies with
  | .error error => (.error error, t, world)
  | .ok bodies =>
      let (outcome, bodies, world) := bodies.signAll signer world
      (outcome, { t with stage := .frozen bodies }, world)

/-- Has every body signed by the client's operator. -/
def signWithOperator (t : Transaction) (client : Client ω χ) (scene : Scene ω χ) :
    Outcome Unit × Transaction × Scene ω χ :=
  match client.operator with
  | none => (.error .operatorRequired, t, scene)
  | some operator =>
      let (outcome, t, world) := t.sign operator.signer scene.world
      (outcome, t, { scene with world })

/-- Adds a signature made elsewhere over the body of a node. -/
def addSignature (t : Transaction) (node : AccountId) (key : PublicKey) (signature : Bytes) :
    Outcome Transaction := do
  let bodies ← t.bodies
  return { t with stage := .frozen (← bodies.addSignature node key signature) }

/-- The octets to sign, node by node. -/
def signable (t : Transaction) : Outcome (List (AccountId × Bytes)) :=
  t.bodies.map fun bodies => bodies.bodies.map fun body => (body.node, body.bytes)

/-- Checks all signatures. -/
def verify (t : Transaction) (verifier : Verifier) : Outcome Unit := do
  (← t.bodies).verify verifier

/-- What would be sent to a node. -/
def signedFor (t : Transaction) (node : AccountId) : Outcome SignedTransaction := do
  (← t.bodies).signedFor node

/-- The digest of what would be sent to a node. -/
def hashFor (t : Transaction) (node : AccountId) : Outcome Bytes :=
  (t.signedFor node).map fun signed => Crypto.sha384 (Wire.encode signed)

end Transaction

end LedgerClient
