import LedgerClient.Tcp.Frame
import LedgerClient.Topic
import LedgerClient.Wire.Codec

/-!
# Channels over sockets

A channel sends one request at a time and reads one answer. It dials when it has no
connection, and it keeps the connection only when an answer has come over it: after
an error, and after a caller stopped waiting for the answer, the next request is sent
over a new one. A caller that stops waiting while the connection is still in use by
others leaves it to them. A topic is streamed over a connection of its own.
-/

namespace LedgerClient.Tcp

/-- How sockets `κ` are used in a world `ω`. Where there is no reply, the caller stopped waiting. -/
structure Sockets (ω κ : Type) where
  /-- Waits until nobody else uses the connection of the channel. -/
  lock : ω → Option Unit × ω
  dial : (endpoint : String) → ω → Option (Except String κ) × ω
  write : κ → Bytes → ω → Option (Except String Unit) × ω
  read : κ → Nat → ω → Portion × ω
  shutDown : κ → ω → Option (Except String Unit) × ω
  hangUp : κ → ω → ω

/-- Dials an endpoint. -/
def connect {ω κ : Type} (sockets : Sockets ω κ) (endpoint : String) (world : ω) :
    Option (Except TransportError κ) × ω :=
  let (reply, world) := sockets.dial endpoint world
  (reply.map (·.mapError (.connect endpoint)), world)

/-- Writes a payload as a frame. One that is too long is refused before anything is written. -/
def writeFrame {ω κ : Type} (sockets : Sockets ω κ) (limit : Nat) (socket : κ) (payload : Bytes)
    (world : ω) : Option (Except TransportError Unit) × ω :=
  match frame limit payload with
  | .error error => (some (.error error), world)
  | .ok bytes =>
      let (reply, world) := sockets.write socket bytes world
      (reply.map (·.mapError .io), world)

/-- A channel to an endpoint. -/
structure Channel (κ : Type) where
  endpoint : String
  /-- The longest payload of a frame. -/
  limit : Nat
  /-- The connection, while it can be used. -/
  socket : Option κ := none

namespace Channel

variable {ω κ : Type}

/-- The channel to a node. It has no connection yet, and it cannot be secured. -/
def toNode (address : NodeAddress) (tls : TlsSettings) (limit : Nat) :
    Except TransportError (Channel κ) :=
  if tls.enabled then .error .tlsUnsupported else .ok { endpoint := address.endpoint tls, limit }

/-- The connection of the channel, or a new one. -/
def acquire (sockets : Sockets ω κ) (channel : Channel κ) (world : ω) :
    Option (Except TransportError κ) × ω :=
  match channel.socket with
  | some socket => (some (.ok socket), world)
  | none => connect sockets channel.endpoint world

/-- Sends a request over a connection and reads the answer. -/
def roundTrip (sockets : Sockets ω κ) (limit : Nat) (socket : κ) (request : Bytes) (world : ω) :
    Option (Except TransportError Bytes) × ω :=
  match writeFrame sockets limit socket request world with
  | (none, world) => (none, world)
  | (some (.error error), world) => (some (.error error), world)
  | (some (.ok ()), world) =>
      match readFrame limit (sockets.read socket) world with
      | (.payload answer, world) => (some (.ok answer), world)
      | (.ended, world) => (some (.error .closed), world)
      | (.failed error, world) => (some (.error error), world)
      | (.abandoned, world) => (none, world)

/-- Takes the connection out of the channel, or a new one, and puts it back with an answer only. -/
def exchange (sockets : Sockets ω κ) (channel : Channel κ) (request : Bytes) (world : ω) :
    Option (Except TransportError Bytes) × Channel κ × ω :=
  let idle := { channel with socket := none }
  match channel.acquire sockets world with
  | (none, world) => (none, idle, world)
  | (some (.error error), world) => (some (.error error), idle, world)
  | (some (.ok socket), world) =>
      match roundTrip sockets channel.limit socket request world with
      | (some (.ok answer), world) =>
          (some (.ok answer), { channel with socket := some socket }, world)
      | (reply, world) => (reply, idle, sockets.hangUp socket world)

/-- Sends a request and reads the answer. -/
def send (sockets : Sockets ω κ) (channel : Channel κ) (request : Bytes) (world : ω) :
    Option (Except TransportError Bytes) × Channel κ × ω :=
  match sockets.lock world with
  | (none, world) => (none, channel, world)
  | (some (), world) => channel.exchange sockets request world

/-- Closes the connection, if there is one. It does not matter whether shutting it down succeeds. -/
def close (sockets : Sockets ω κ) (channel : Channel κ) (world : ω) :
    Option Unit × Channel κ × ω :=
  match sockets.lock world with
  | (none, world) => (none, channel, world)
  | (some (), world) =>
      match channel.socket with
      | none => (some (), channel, world)
      | some socket =>
          let (reply, world) := sockets.shutDown socket world
          (reply.map fun _ => (), { channel with socket := none }, sockets.hangUp socket world)

end Channel

/-- The stream of a topic. -/
structure TopicStream (κ : Type) where
  limit : Nat
  /-- The connection, until the stream ends. -/
  socket : Option κ

namespace TopicStream

variable {ω κ : Type}

/-- Asks a mirror for a topic. -/
def subscribe (sockets : Sockets ω κ) (limit : Nat) (endpoint : String) (query : TopicQuery)
    (world : ω) : Option (Except TransportError (TopicStream κ)) × ω :=
  match connect sockets endpoint world with
  | (none, world) => (none, world)
  | (some (.error error), world) => (some (.error error), world)
  | (some (.ok socket), world) =>
      match writeFrame sockets limit socket (Wire.encode query) world with
      | (some (.ok ()), world) => (some (.ok { limit, socket := some socket }), world)
      | (some (.error error), world) => (some (.error error), sockets.hangUp socket world)
      | (none, world) => (none, sockets.hangUp socket world)

/-- The message that a payload is. -/
def message (payload : Bytes) : Except TransportError TopicMessage :=
  (Wire.decode TopicMessage payload).mapError fun error =>
    .io ("undecodable topic message: " ++ error.text)

/-- The next item of the stream: a message or an error. After an error, and at the end, there is
none. -/
def next (sockets : Sockets ω κ) (stream : TopicStream κ) (world : ω) :
    Option (Except TransportError TopicMessage) × TopicStream κ × ω :=
  match stream.socket with
  | none => (none, stream, world)
  | some socket =>
      let finished := { stream with socket := none }
      match readFrame stream.limit (sockets.read socket) world with
      | (.abandoned, world) => (none, stream, world)
      | (.ended, world) => (none, finished, sockets.hangUp socket world)
      | (.failed error, world) => (some (.error error), finished, sockets.hangUp socket world)
      | (.payload payload, world) =>
          match message payload with
          | .ok message => (some (.ok message), stream, world)
          | .error error => (some (.error error), finished, sockets.hangUp socket world)

end TopicStream

end LedgerClient.Tcp
