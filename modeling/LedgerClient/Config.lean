import LedgerClient.Client
import LedgerClient.Network.Preset

/-!
# Configuration

A configuration has a section for each part of a client, and every section has
defaults. The sections are checked one after the other, and the first fault is
told. A client is set up from a configuration that passes.
-/

namespace LedgerClient

/-- A node listed in a configuration. -/
structure NodeEntry where
  accountId : String
  address : String
  /-- Digest of the node's certificate in hexadecimal. -/
  certHash : Option String := none

/-- The nodes to talk to, by the name of their network or one by one. -/
structure NetworkSection where
  preset : Option String := none
  nodes : List NodeEntry := []
  /-- Takes precedence over the preset's mirror. -/
  mirror : Option String := none
  /-- Takes precedence over the preset's ledger. -/
  ledgerId : Option String := none
  tls : Bool := false
  verifyCertificates : Bool := true

/-- The paying account. -/
structure OperatorSection where
  accountId : String
  /-- Private key in hexadecimal. -/
  privateKey : String
  keyType : String := "ed25519"

/-- Bounds of the attempt loop. -/
structure ExecutionSection where
  maxAttempts : UInt32 := 10
  requestTimeoutMs : UInt64 := 10000
  minBackoffMs : UInt64 := 250
  maxBackoffMs : UInt64 := 8000

/-- Bounds of the time a failing node is benched. -/
structure BackoffSection where
  minBackoffMs : UInt64 := 8000
  maxBackoffMs : UInt64 := 3600000

/-- Limits of connections. -/
structure TransportSection where
  /-- The longest payload of a frame. -/
  maxFrameSize : Nat := 4194304

/-- A configuration of a client. -/
structure ClientConfig where
  autoValidate : Bool := false
  maxNodes : Option Nat := none
  network : NetworkSection := {}
  operator : Option OperatorSection := none
  execution : ExecutionSection := {}
  nodeBackoff : BackoffSection := {}
  transport : TransportSection := {}

/-- What the network section comes to. -/
structure ResolvedNetwork where
  addresses : List NodeAddress
  mirror : Option String
  ledgerId : LedgerId

/-- The address of a listed node. -/
def NodeEntry.resolve (node : NodeEntry) : Outcome NodeAddress := do
  let address ← NodeAddress.read (← EntityId.read node.accountId) node.address
  match node.certHash with
  | none => return address
  | some hex =>
      match Hex.decode (String.ofList (Text.dropHexMarkers hex.toList)) with
      | .error fault => throw (.config (.certHash node.accountId fault))
      | .ok hash => return { address with certHash := some hash }

namespace NetworkSection

/-- A preset with what takes precedence over it. -/
def resolvePreset (s : NetworkSection) (name : String) : Outcome ResolvedNetwork := do
  let preset ← NetworkPreset.ofName name
  let ledgerId ← match s.ledgerId with
    | some hex => LedgerId.read hex
    | none => pure preset.ledgerId
  return ⟨preset.nodes, some (s.mirror.getD preset.mirror), ledgerId⟩

/-- The listed nodes, whose ledger has to be given. -/
def resolveNodes (s : NetworkSection) : Outcome ResolvedNetwork :=
  match s.ledgerId with
  | none => .error (.config .noLedgerId)
  | some hex => do
      let addresses ← s.nodes.mapM NodeEntry.resolve
      return ⟨addresses, s.mirror, ← LedgerId.read hex⟩

/-- The nodes, the mirror and the ledger. They come from a preset or from a list, not from both. -/
def resolve (s : NetworkSection) : Outcome ResolvedNetwork :=
  match s.preset, s.nodes with
  | some _, _ :: _ => .error (.config .presetAndNodes)
  | none, [] => .error (.config .noPresetNorNodes)
  | some name, [] => s.resolvePreset name
  | none, _ :: _ => s.resolveNodes

end NetworkSection

/-- The operator of the section, who signs with the key that is given. -/
def OperatorSection.resolve {ω : Type} (s : OperatorSection) : Outcome (Operator ω) := do
  let account ← EntityId.read s.accountId
  let type ← (KeyType.ofText s.keyType).mapError (.config <| .operatorKeyType ·)
  let key ← (PrivateKey.ofHex type s.privateKey).mapError (.config <| .operatorKey ·)
  return ⟨account, key.signer⟩

namespace ClientConfig

/-- A local node with short pauses. -/
def quick : ClientConfig where
  network := { preset := some NetworkPreset.localNode.name }
  execution := ⟨5, 1000, 10, 100⟩
  nodeBackoff := ⟨250, 8000⟩

/-- The settings of calls. -/
def executeSettings (c : ClientConfig) : ExecuteSettings :=
  ⟨c.execution.maxAttempts, .ofMillis c.execution.requestTimeoutMs,
    .ofMillis c.execution.minBackoffMs, .ofMillis c.execution.maxBackoffMs⟩

/-- The bounds of the time a node is benched. -/
def backoffBounds (c : ClientConfig) : BackoffBounds :=
  ⟨.ofMillis c.nodeBackoff.minBackoffMs, .ofMillis c.nodeBackoff.maxBackoffMs⟩

/-- The settings of the network. -/
def networkOptions (c : ClientConfig) : NetworkOptions :=
  ⟨⟨c.network.tls, c.network.verifyCertificates⟩, c.backoffBounds⟩

/-- The operator, if there is one. -/
def resolveOperator {ω : Type} (c : ClientConfig) : Outcome (Option (Operator ω)) :=
  match c.operator with
  | none => .ok none
  | some payer => payer.resolve.map some

/-- Checks all sections. -/
def validate (c : ClientConfig) : Outcome Unit := do
  c.executeSettings.validate
  c.backoffBounds.validate
  let _ ← c.network.resolve
  let _ ← c.resolveOperator (ω := Unit)
  if c.maxNodes = some 0 then throw (.config .noNodesPerTransaction)
  if c.transport.maxFrameSize = 0 then throw (.config .noFrameSize)

/-- The default settings are the standard ones. -/
theorem executeSettings_default : ({} : ClientConfig).executeSettings = .standard := by decide

/-- The default bounds are the standard ones. -/
theorem backoffBounds_default : ({} : ClientConfig).backoffBounds = .standard := by decide

end ClientConfig

/-- A client with the network and the health records it starts with. -/
structure ClientSetup (ω χ : Type) where
  client : Client ω χ
  network : Network χ
  health : HealthBook

namespace ClientSetup

variable {ω χ : Type}

/-- A client of a network known by name. -/
def ofPreset (surroundings : Surroundings ω χ) (preset : NetworkPreset) :
    Outcome (ClientSetup ω χ) := do
  let (network, health) ←
    Network.ofAddresses preset.nodes preset.ledgerId (some preset.mirror) {} .empty
  return ⟨{ surroundings }, network, health⟩

/-- A client of a configuration, whose channels may be secured. -/
def ofConfig (surroundings : Surroundings ω χ) (c : ClientConfig) :
    Outcome (ClientSetup ω χ) := do
  c.validate
  let resolved ← c.network.resolve
  let (network, health) ← Network.ofAddresses resolved.addresses resolved.ledgerId resolved.mirror
    c.networkOptions .empty
  let operator ← c.resolveOperator
  let client : Client ω χ :=
    { surroundings, operator, settings := c.executeSettings, autoValidate := c.autoValidate }
  return ⟨client.withMaxNodes c.maxNodes, network, health⟩

/-- A client of a configuration over plain sockets, which also dials mirrors. -/
def overSockets (surroundings : Surroundings ω χ) (c : ClientConfig) :
    Outcome (ClientSetup ω χ) := do
  if c.network.tls then throw (.config .tlsChannels)
  let setup ← ofConfig surroundings c
  return { setup with client := { setup.client with dialsMirrors := true } }

end ClientSetup

end LedgerClient
