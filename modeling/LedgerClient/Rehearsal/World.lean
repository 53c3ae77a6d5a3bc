import LedgerClient.Surroundings
import LedgerClient.Wire.Codec

/-!
# Rehearsed worlds

A client can be rehearsed without a network: nodes answer from scripts, time passes
only where something waits, in whole milliseconds, and the clock is set by hand or
follows that time. The world keeps what was opened, sent and signed.
-/

namespace LedgerClient.Rehearsal

/-- What a scripted node does with a request. -/
inductive ScriptedReply where
  | respond (response : Response)
  /-- Answers octets as they are. -/
  | raw (bytes : Bytes)
  | fail (error : TransportError)
  /-- Never answers. -/
  | hang

/-- A node that answers from queues, one for transactions and one for queries, and in one way once
a queue is empty. -/
structure ScriptedNode where
  account : AccountId
  transactionReplies : List ScriptedReply := []
  queryReplies : List ScriptedReply := []
  fallback : ScriptedReply := .respond { precheck := .ok }
  /-- The requests received, in order. -/
  received : List Request := []
  /-- The channel to the node was closed at some time. -/
  isClosed : Bool := false

namespace ScriptedNode

/-- Adds to the queues, and changes the fallback if there is a new one. -/
def extend (node : ScriptedNode) (transactions queries : List ScriptedReply)
    (fallback : Option ScriptedReply) : ScriptedNode :=
  { node with
    transactionReplies := node.transactionReplies ++ transactions
    queryReplies := node.queryReplies ++ queries
    fallback := fallback.getD node.fallback }

/-- Takes a request, and the reply to it from its queue. -/
def take (node : ScriptedNode) (request : Request) : ScriptedReply × ScriptedNode :=
  let node := { node with received := node.received ++ [request] }
  match request with
  | .transaction _ =>
      match node.transactionReplies with
      | [] => (node.fallback, node)
      | reply :: rest => (reply, { node with transactionReplies := rest })
  | .query _ =>
      match node.queryReplies with
      | [] => (node.fallback, node)
      | reply :: rest => (reply, { node with queryReplies := rest })

/-- The last transaction received. -/
def lastTransaction? (node : ScriptedNode) : Option SignedTransaction :=
  node.received.reverse.findSome? fun
    | .transaction signed => some signed
    | .query _ => none

end ScriptedNode

/-- Something that reached the network, at a millisecond. -/
inductive Event where
  /-- A channel was asked for. -/
  | opened (account : AccountId) (endpoint : String)
  | sent (account : AccountId) (request : Request)

/-- A rehearsed world. -/
structure World where
  /-- What the clock was set to. -/
  setTo : Timestamp
  /-- The clock also shows the time that has passed. -/
  followsTime : Bool := false
  /-- Channels cannot be secured. -/
  plainOnly : Bool := false
  /-- Milliseconds passed. -/
  elapsed : Nat := 0
  nodes : List ScriptedNode := []
  /-- What reached the network, with the millisecond, the latest first. -/
  events : List (Nat × Event) := []
  /-- Channels opened. -/
  opened : Nat := 0
  /-- The moments at which chance was asked, the latest first. -/
  draws : List Timestamp := []
  /-- Octets signed by recording signers, the latest first. -/
  signed : List Bytes := []

namespace World

/-- What the clock shows. -/
def clock (world : World) : Timestamp :=
  if world.followsTime then world.setTo + Duration.saturate (world.elapsed * 1000000)
  else world.setTo

/-- Lets time pass; a begun millisecond is waited out. -/
def wait (span : Duration) (world : World) : World :=
  { world with elapsed := world.elapsed + span.ceilMillis }

/-- Notes that something reached the network. -/
def note (event : Event) (world : World) : World :=
  { world with events := (world.elapsed, event) :: world.events }

/-- The scripted node of an account. -/
def node? (world : World) (account : AccountId) : Option ScriptedNode :=
  world.nodes.find? (·.account == account)

/-- Changes the scripted node of an account. -/
def changeNode (account : AccountId) (change : ScriptedNode → ScriptedNode) (world : World) : World :=
  { world with
    nodes := world.nodes.map fun node => if node.account == account then change node else node }

/-- Makes sure that an account has a scripted node. -/
def register (account : AccountId) (world : World) : World :=
  if (world.node? account).isSome then world
  else { world with nodes := world.nodes ++ [{ account := account }] }

/-- Opens the channel to a scripted node. -/
def openChannel (address : NodeAddress) (tls : TlsSettings) (_allowed : Duration) (world : World) :
    Reply AccountId × World :=
  let endpoint := address.endpoint tls
  let world := world.note (.opened address.account endpoint)
  if world.plainOnly && tls.enabled then (some (.error .tlsUnsupported), world)
  else match world.node? address.account with
    | none => (some (.error (.connect endpoint "no scripted node")), world)
    | some node => (some (.ok node.account), { world with opened := world.opened + 1 })

/-- Sends a request to a scripted node. One that never answers takes all the time allowed. -/
def send (account : AccountId) (bytes : Bytes) (allowed : Duration) (world : World) :
    Reply Bytes × World :=
  match Wire.decode Request bytes, world.node? account with
  | .error error, _ => (some (.error (.io error.text)), world)
  | .ok _, none => (some (.error .closed), world)
  | .ok request, some node =>
      let (reply, node) := node.take request
      let world := (world.note (.sent account request)).changeNode account fun _ => node
      match reply with
      | .respond response => (some (.ok (Wire.encode response)), world)
      | .raw bytes => (some (.ok bytes), world)
      | .fail error => (some (.error error), world)
      | .hang => (none, world.wait allowed)

/-- The spans back from the moments of drawing run through all there are. -/
def draw (world : World) : TransactionId.Backtrack × World :=
  (Fin.ofNat 3000 (world.draws.length * 1009), { world with draws := world.clock :: world.draws })

/-- Whether an identifier is one that was made at a moment of drawing: its validity starts at least
five and less than eight seconds earlier. -/
def isTimely (world : World) (id : TransactionId) : Bool :=
  world.draws.any fun moment =>
    match moment.since? id.validStart with
    | none => false
    | some span => Duration.ofSeconds 5 ≤ span && span < Duration.ofSeconds 8

/-- How a client acts on a rehearsed world. -/
def surroundings : Surroundings World AccountId where
  clock world := (world.clock, world)
  stopwatch world := .saturate (world.elapsed * 1000000)
  openChannel
  send
  close account := changeNode account ({ · with isClosed := true })
  sleep := wait
  draw

/-- A signer that keeps what it signs. -/
def recordingSigner (key : PrivateKey) : Signer World where
  publicKey := key.publicKey
  sign message world := (.ok (key.sign message), { world with signed := message :: world.signed })

end World

end LedgerClient.Rehearsal
