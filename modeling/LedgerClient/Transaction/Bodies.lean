import LedgerClient.Crypto.Sha2
import LedgerClient.Surroundings
import LedgerClient.Wire.Codec
import LedgerClient.Wire.Signature

/-!
# Signed bodies

A transaction that may go to several nodes is made out once for each of them. The
bodies stand in the order of the nodes, one for each, with the signatures over each
beside it.

It is taken for granted here that no two bodies have one digest. In tables that keep
signatures by the digest of what they are over, two such bodies would share theirs. As
long as there are none, tables hold the same as the bodies, whatever is done with them
(`Filing.Holds`).
-/

namespace LedgerClient

/-- The octets made out for a node, and the signatures over them. -/
structure SignedBody where
  node : AccountId
  bytes : Bytes
  signatures : SignatureMap := {}

namespace SignedBody

/-- The digest of the octets. -/
def hash (body : SignedBody) : Bytes := Crypto.sha384 body.bytes

/-- The body with one more signature. -/
def addSignature (body : SignedBody) (pair : SignaturePair) : SignedBody :=
  { body with signatures := body.signatures.insert pair }

/-- What is sent to the node. -/
def signed (body : SignedBody) : SignedTransaction := ⟨body.bytes, body.signatures⟩

end SignedBody

/-- One body for each node. -/
structure SignedBodies where
  bodies : List SignedBody := []

namespace SignedBodies

variable {ω : Type}

/-- The nodes in order. -/
def nodes (b : SignedBodies) : List AccountId := b.bodies.map (·.node)

/-- The body of a node. -/
def body? (b : SignedBodies) (node : AccountId) : Option SignedBody :=
  b.bodies.find? (·.node == node)

/-- Makes out octets for a node at the end, unless the node has some. -/
def insert (b : SignedBodies) (node : AccountId) (bytes : Bytes) : SignedBodies :=
  if (b.body? node).isSome then b else ⟨b.bodies ++ [⟨node, bytes, {}⟩]⟩

/-- Has bodies signed one after the other. When the signer fails, the ones before keep their new
signatures. -/
def signEach (signer : Signer ω) : List SignedBody → ω → Outcome Unit × List SignedBody × ω
  | [], world => (.ok (), [], world)
  | body :: rest, world =>
      match signer.sign body.bytes world with
      | (.error error, world) => (.error error, body :: rest, world)
      | (.ok signature, world) =>
          let (outcome, rest, world) := signEach signer rest world
          (outcome, body.addSignature ⟨signer.publicKey.bytes, signature⟩ :: rest, world)

/-- Has all bodies signed. -/
def signAll (signer : Signer ω) (b : SignedBodies) (world : ω) : Outcome Unit × SignedBodies × ω :=
  let (outcome, bodies, world) := signEach signer b.bodies world
  (outcome, ⟨bodies⟩, world)

/-- Adds a signature to the body of a node. -/
def addTo (node : AccountId) (pair : SignaturePair) : List SignedBody → List SignedBody
  | [] => []
  | body :: rest =>
      if body.node == node then body.addSignature pair :: rest else body :: addTo node pair rest

/-- Adds a signature made elsewhere. -/
def addSignature (b : SignedBodies) (node : AccountId) (key : PublicKey) (signature : Bytes) :
    Outcome SignedBodies :=
  if (b.body? node).isSome then .ok ⟨addTo node ⟨key.bytes, signature⟩ b.bodies⟩
  else .error (.unknownNode node)

/-- Checks one signature of a body. -/
def verifyPair (verifier : Verifier) (body : SignedBody) (pair : SignaturePair) : Outcome Unit := do
  let key ← pair.key
  if verifier key body.bytes pair.signature then return ()
  else throw (.signatureVerification body.node key.text)

/-- Checks all signatures, in order of nodes and then of keys. -/
def verify (b : SignedBodies) (verifier : Verifier) : Outcome Unit :=
  b.bodies.forM fun body => body.signatures.pairs.forM (verifyPair verifier body)

/-- What is sent to a node. -/
def signedFor (b : SignedBodies) (node : AccountId) : Outcome SignedTransaction :=
  match b.body? node with
  | some body => .ok body.signed
  | none => .error (.unknownNode node)

end SignedBodies

end LedgerClient
