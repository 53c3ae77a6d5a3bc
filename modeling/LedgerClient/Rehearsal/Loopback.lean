import LedgerClient.Tcp.Channel

/-!
# Rehearsed sockets

Connections to peers that follow a script, one script for each connection in turn. A
peer that has come to the end of its script closes its side and takes what else it
is sent. Peers may be out of reach altogether, or nobody may be listening.
-/

namespace LedgerClient.Rehearsal

/-- What a scripted peer does. -/
inductive PeerAction where
  /-- Waits for a frame. -/
  | take
  /-- Sends a payload as a frame. -/
  | reply (payload : Bytes)
  /-- Sends octets as they are. -/
  | raw (bytes : Bytes)

/-- A connection to a scripted peer. -/
structure Connection where
  /-- What the peer still does; after that it closes its side. -/
  actions : List PeerAction
  /-- Octets on the way to the peer. -/
  toPeer : Bytes := []
  /-- Octets on the way from the peer. -/
  fromPeer : Bytes := []
  /-- The payloads that the peer has taken. -/
  taken : List Bytes := []

namespace Connection

/-- The frame at the front of octets, once all of it is there, and what follows it. -/
def frame? (bytes : Bytes) : Option (Bytes × Bytes) :=
  let body := bytes.drop 4
  let length := Bytes.toNatLE (bytes.take 4)
  if 4 ≤ bytes.length ∧ length ≤ body.length then some (body.take length, body.drop length)
  else none

/-- Has the peer do what it can. -/
def proceed (connection : Connection) : List PeerAction → Connection
  | [] => { connection with actions := [] }
  | .reply payload :: rest =>
      let framed := Bytes.ofNatLE 4 payload.length ++ payload
      proceed { connection with fromPeer := connection.fromPeer ++ framed } rest
  | .raw bytes :: rest => proceed { connection with fromPeer := connection.fromPeer ++ bytes } rest
  | .take :: rest =>
      match frame? connection.toPeer with
      | none => { connection with actions := .take :: rest }
      | some (payload, toPeer) =>
          proceed { connection with toPeer, taken := connection.taken ++ [payload] } rest

/-- Sends octets to the peer. -/
def write (bytes : Bytes) (connection : Connection) : Connection :=
  { connection with toPeer := connection.toPeer ++ bytes }.proceed connection.actions

/-- Reads octets that the peer has sent. Where the peer sends no more, there is an end; where it
waits for a frame itself, a reader waits in vain. -/
def read (count : Nat) (connection : Connection) : Tcp.Portion × Connection :=
  if count ≤ connection.fromPeer.length then
    (.octets (connection.fromPeer.take count),
      { connection with fromPeer := connection.fromPeer.drop count })
  else if connection.actions.isEmpty then (.ended, { connection with fromPeer := [] })
  else (.abandoned, connection)

end Connection

/-- A host with scripted peers. -/
structure Loopback where
  /-- Why no connection is made, if none is. -/
  unreachable : Option String := none
  /-- Scripts for connections to come. -/
  peers : List (List PeerAction)
  /-- Connections in the order in which they were made. -/
  connections : List Connection := []

namespace Loopback

/-- Dials the next peer. When there is none left, one is there that never answers. -/
def dial (_endpoint : String) (host : Loopback) : Option (Except String Nat) × Loopback :=
  match host.unreachable with
  | some reason => (some (.error reason), host)
  | none =>
      let actions := host.peers.head?.getD [.take, .take]
      let connection := ({ actions } : Connection).proceed actions
      (some (.ok host.connections.length),
        { host with peers := host.peers.tail, connections := host.connections ++ [connection] })

/-- The sockets of the host, numbered in order. -/
def sockets : Tcp.Sockets Loopback Nat where
  lock host := (some (), host)
  dial := dial
  write socket bytes host :=
    (some (.ok ()), { host with connections := host.connections.modify socket (·.write bytes) })
  read socket count host :=
    match host.connections[socket]? with
    | none => (.ended, host)
    | some connection =>
        let (portion, connection) := connection.read count
        (portion, { host with connections := host.connections.set socket connection })
  shutDown _ host := (some (.ok ()), host)
  hangUp _ host := host

/-- The payloads that peers have taken, for each connection that brought any. -/
def saw (host : Loopback) : List (List Bytes) :=
  (host.connections.map (·.taken)).filter fun payloads => !payloads.isEmpty

end Loopback

end LedgerClient.Rehearsal
