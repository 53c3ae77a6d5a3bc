import LedgerClient.Error.Document
import LedgerClient.Execution.Settings
import LedgerClient.Rehearsal.Broadcast
import LedgerClient.Rehearsal.Loopback
import LedgerClient.Rehearsal.World

/-!
# Scripts of rehearsals

How nodes and their replies are written down as documents. Spans of time are given
in milliseconds, and settings may be given by name.
-/

namespace LedgerClient

open Document

instance : OfDocument ExecuteSettings := ⟨fun
  | .text "default" => some .standard
  | .text _ => some .quick
  | d => do return ⟨← d.take "max_attempts", .ofMillis (← d.take "timeout_ms"),
      .ofMillis (← d.take "min_ms"), .ofMillis (← d.take "max_ms")⟩⟩

instance : OfDocument BackoffBounds :=
  ⟨fun d => do return ⟨.ofMillis (← d.take "min_ms"), .ofMillis (← d.take "max_ms")⟩⟩

namespace Rehearsal

instance : OfDocument ScriptedReply := ⟨fun
  | .text _ => some .hang
  | d => do
      match ← d.variant? with
      | ("status", v) => return .respond { precheck := ← ofDocument? v }
      | ("receipt", v) =>
          return .respond { precheck := .ok, body := .receipt (.ofStatus (← ofDocument? v)) }
      | ("response", v) => return .respond (← ofDocument? v)
      | ("raw", v) => return .raw (← ofDocument? v)
      | (_, v) => return .fail (← ofDocument? v)⟩

/-- Replies for a node to give. -/
structure Script where
  transactions : List ScriptedReply
  queries : List ScriptedReply
  fallback : Option ScriptedReply

instance : OfDocument Script :=
  ⟨fun d => do return ⟨← d.take "tx", ← d.take "query", ← d.take "fallback"⟩⟩

/-- Gives a script to the node of an account, which is there from now on. -/
def World.follow (account : AccountId) (script : Script) (world : World) : World :=
  (world.register account).changeNode account
    (·.extend script.transactions script.queries script.fallback)

/-- A node of a rehearsed network: its address, if that can be read, and whether it is scripted. -/
structure CastNode where
  account : AccountId
  address : Outcome NodeAddress
  isScripted : Bool

/-- The address of the node that is known by a number alone. -/
def numbered (number : UInt64) : NodeAddress :=
  { account := .ofNum number, host := "node" ++ toString number.toNat ++ ".test", port := plainPort }

/-- Only the first realm of the first shard has scripted nodes. -/
instance : OfDocument CastNode := ⟨fun d =>
  match d with
  | .decimal _ _ => do
      let number : UInt64 ← ofDocument? d
      return ⟨.ofNum number, .ok (numbered number), true⟩
  | _ => do
      let account ← EntityId.ofText? (← d.take "account_id")
      let certHash ← d.take "cert_hash"
      let isUnscripted : Bool ← d.take "unregistered"
      let address := NodeAddress.read account (← d.take "endpoint")
      return ⟨account, address.map ({ · with certHash }),
        !isUnscripted && account.shard == 0 && account.realm == 0⟩⟩

/-- Makes sure that the scripted ones among nodes are there. -/
def World.cast (nodes : List CastNode) (world : World) : World :=
  (nodes.filter (·.isScripted)).foldl (fun world node => world.register node.account) world

instance : OfDocument StreamEvent := ⟨fun
  | .text _ => some .idle
  | d => do
      match ← d.variant? with
      | ("message", v) => return .message (← ofDocument? v)
      | (_, v) => return .error (← ofDocument? v)⟩

instance : OfDocument Session := ⟨fun d => do
  match ← d.variant? with
  | ("fail", v) => return .refuse (← ofDocument? v)
  | (_, v) => return .stream (← ofDocument? v)⟩

instance : OfDocument PeerAction := ⟨fun
  | .text _ => some .take
  | d => do
      match ← d.variant? with
      | ("frame", v) => return .reply (← ofDocument? v)
      | (_, v) => return .raw (← ofDocument? v)⟩

end Rehearsal

end LedgerClient
