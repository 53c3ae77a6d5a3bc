import LedgerClient.Entity.Id
import LedgerClient.Bytes

/-!
# Node addresses

A node is reached at a host and a port. When connections are secured, nodes that
listen on the usual plain port are dialled on the usual secure one instead.
-/

namespace LedgerClient

/-- The usual port of plain connections. -/
def plainPort : UInt16 := 50211

/-- The usual port of secured connections. -/
def securePort : UInt16 := 50212

/-- Whether connections are secured, and whether certificates are then checked. -/
structure TlsSettings where
  enabled : Bool := false
  verifyCertificates : Bool := true
  deriving DecidableEq, Inhabited

/-- Where the node of an account listens. -/
structure NodeAddress where
  account : AccountId
  host : String
  port : UInt16
  /-- Digest the certificate of the node is pinned to. -/
  certHash : Option Bytes := none
  deriving BEq, Inhabited

namespace NodeAddress

/-- What is wrong with the text of an endpoint. -/
inductive Fault where
  | noPort (endpoint : String)
  | noHost (endpoint : String)
  | badPort (endpoint : String)
  deriving DecidableEq

/-- The address of `account` at an endpoint `host:port`. The last colon separates the two. -/
def ofEndpoint (account : AccountId) (endpoint : String) : Except Fault NodeAddress :=
  match Text.splitLast ':' endpoint.toList with
  | none => .error (.noPort endpoint)
  | some ([], _) => .error (.noHost endpoint)
  | some (host, port) =>
      match Numeral.plusBelow? UInt16.size port with
      | none => .error (.badPort endpoint)
      | some port => .ok { account, host := String.ofList host, port := UInt16.ofNat port }

/-- The port to dial. -/
def portFor (address : NodeAddress) (tls : TlsSettings) : UInt16 :=
  if tls.enabled && address.port == plainPort then securePort else address.port

/-- The endpoint to dial. -/
def endpoint (address : NodeAddress) (tls : TlsSettings) : String :=
  address.host ++ ":" ++ toString (address.portFor tls).toNat

/-- Account and endpoint as they are listed. -/
def text (address : NodeAddress) : String :=
  address.account.text ++ "@" ++ address.host ++ ":" ++ toString address.port.toNat

end NodeAddress

end LedgerClient
