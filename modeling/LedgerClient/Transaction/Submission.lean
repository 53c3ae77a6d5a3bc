import LedgerClient.Transaction

/-!
# Submission

A transaction is frozen with the client if it is a draft, signed by the operator if
there is one, and sent to one of its nodes after the other until one accepts it.
-/

namespace LedgerClient

/-- What came of an accepted transaction. -/
structure Acceptance where
  /-- The node that accepted it. -/
  node : AccountId
  transactionId : TransactionId
  /-- The digest of what was sent. -/
  hash : Bytes
  /-- A receipt that tells of failure is an error. -/
  validateStatus : Bool := true

namespace Transaction

variable {ω χ : Type}

/-- The acceptance of frozen bodies by a node. -/
def acceptance (id : TransactionId) (bodies : SignedBodies) (node : AccountId) :
    Outcome Acceptance :=
  (bodies.signedFor node).map fun signed =>
    { node, transactionId := id, hash := Crypto.sha384 (Wire.encode signed) }

/-- The operation that submits frozen bodies. -/
def submission (t : Transaction) (id : TransactionId) (bodies : SignedBodies) :
    Operation Acceptance where
  name := t.data.kind
  candidates := bodies.nodes
  transactionId := some id
  settings := t.settings
  request node := (bodies.signedFor node).map .transaction
  judge response := .ofPrecheck response.precheck
  output _ node := acceptance id bodies node

/-- Freezes the transaction with the client if it is a draft, and has it signed by the operator if
there is one. -/
def prepare (t : Transaction) (client : Client ω χ) (scene : Scene ω χ) :
    Outcome Unit × Transaction × Scene ω χ :=
  let (outcome, t, scene) := if t.isFrozen then (.ok (), t, scene) else t.freezeWith client scene
  match outcome, client.operator with
  | .error error, _ => (.error error, t, scene)
  | .ok (), none => (.ok (), t, scene)
  | .ok (), some _ => t.signWithOperator client scene

/-- What there is to submit: the identifier and the bodies. -/
def submittable (t : Transaction) : Outcome (TransactionId × SignedBodies) :=
  match t.id with
  | none => .error .transactionIdRequired
  | some id => t.bodies.map fun bodies => (id, bodies)

/-- The transaction after its acceptance by a node, with the digest of what the node was sent. -/
def accepted (t : Transaction) (node : AccountId) : Outcome Transaction :=
  (t.hashFor node).map fun hash => { t with stage := .executed node hash }

/-- Submits the transaction. -/
def execute (t : Transaction) (client : Client ω χ) (scene : Scene ω χ) :
    Run ω χ Acceptance × Transaction :=
  match t.stage with
  | .executed _ _ => (.refused .alreadyExecuted scene, t)
  | _ =>
      match t.prepare client scene with
      | (.error error, t, scene) => (.refused error scene, t)
      | (.ok (), t, scene) =>
          match t.submittable with
          | .error error => (.refused error scene, t)
          | .ok (id, bodies) =>
              let run := client.execute (t.submission id bodies) scene
              match run.outcome with
              | .error _ => (run, t)
              | .ok acceptance =>
                  match t.accepted acceptance.node with
                  | .error error => ({ run with outcome := .error error }, t)
                  | .ok done => (run, done)

end Transaction

end LedgerClient
