import LedgerClient.Execution.Run

/-!
# Clients

A client is what stays the same from call to call: how it acts on the world, who
pays, and the settings of its calls. What changes is the scene.
-/

namespace LedgerClient

/-- The fixed part of a client. -/
structure Client (ω χ : Type) where
  surroundings : Surroundings ω χ
  operator : Option (Operator ω) := none
  settings : ExecuteSettings := .standard
  /-- Checksums of identifiers are checked before anything is sent. -/
  autoValidate : Bool := false
  /-- The most nodes a transaction is made out for when it names none. -/
  maxNodes : Option Nat := none
  /-- The client has a way to dial mirrors. -/
  dialsMirrors : Bool := false

namespace Client

variable {ω χ α : Type}

/-- The client with another limit of nodes; zero is no limit. -/
def withMaxNodes (client : Client ω χ) (limit : Option Nat) : Client ω χ :=
  { client with maxNodes := limit.filter (0 < ·) }

/-- Reads the client's clock. -/
def now (client : Client ω χ) (scene : Scene ω χ) : Timestamp × Scene ω χ :=
  scene.now client.surroundings

/-- A new transaction identifier for an account. -/
def generateId (client : Client ω χ) (account : AccountId) (scene : Scene ω χ) :
    TransactionId × Scene ω χ :=
  let (now, scene) := client.now scene
  let (backtrack, world) := client.surroundings.draw scene.world
  (.generate account now backtrack, { scene with world })

/-- The nodes that are named, or if there are none those that the client chooses now. -/
def chooseNodes (client : Client ω χ) (named : List AccountId) (scene : Scene ω χ) :
    List AccountId × Scene ω χ :=
  if named.isEmpty then
    let (now, scene) := client.now scene
    (scene.network.transactionCandidates scene.health client.maxNodes now, scene)
  else (named, scene)

@[simp] theorem network_chooseNodes (client : Client ω χ) (named : List AccountId)
    (scene : Scene ω χ) : (client.chooseNodes named scene).2.network = scene.network := by
  unfold chooseNodes
  split <;> rfl

/-- Runs an operation under its own settings, or the client's. -/
def execute (client : Client ω χ) (operation : Operation α) (scene : Scene ω χ) : Run ω χ α :=
  Execution.execute client.surroundings operation (operation.settings.getD client.settings) scene

/-- Checks the checksums of identifiers, if the client is to. -/
def checkIds (client : Client ω χ) (scene : Scene ω χ) (ids : List EntityId) : Outcome Unit :=
  if client.autoValidate then ids.forM fun id => id.check scene.network.ledgerId else .ok ()

end Client

end LedgerClient
