import LedgerClient.Bytes.Hex
import LedgerClient.Crypto.Ed25519
import LedgerClient.Crypto.Secp256k1
import LedgerClient.Text.Blank
import LedgerClient.Text.Split

/-!
# Keys

Accounts sign with a key of one of two kinds. Callers only need to sign a byte
string, to know which public key signed it and to check a signature; the kind
decides how. A public key is shown with its kind, a private one never shows its
secret.
-/

namespace LedgerClient

/-- Why a key or a signature is refused. -/
inductive CryptoError where
  | invalidKeyLength (expected actual : Nat)
  | signatureVerificationFailed
  | invalidPublicKey
  | invalidPrivateKey
  | invalidSignature
  /-- The text of a key is no hexadecimal text, and why. -/
  | invalidHex (reason : String)
  | unknownKeyType (name : String)
  deriving DecidableEq

/-- The error in words. -/
def CryptoError.text : CryptoError → String
  | .invalidKeyLength expected actual =>
      "Invalid key length: expected " ++ toString expected ++ ", got " ++ toString actual
  | .signatureVerificationFailed => "Signature verification failed"
  | .invalidPublicKey => "Invalid public key"
  | .invalidPrivateKey => "Invalid private key"
  | .invalidSignature => "Invalid signature"
  | .invalidHex reason => "Invalid hex encoding: " ++ reason
  | .unknownKeyType name => "Unknown key type: " ++ name

/-- The kind of a key. -/
inductive KeyType where
  | ed25519
  | ecdsaSecp256k1
  deriving DecidableEq

namespace KeyType

/-- The name of the kind. -/
def text : KeyType → String
  | .ed25519 => "ed25519"
  | .ecdsaSecp256k1 => "ecdsa"

/-- The kind a name stands for, in any case. -/
def ofText (text : String) : Except CryptoError KeyType :=
  match text.toLower with
  | "ed25519" => .ok .ed25519
  | "ecdsa" | "secp256k1" | "ecdsa_secp256k1" => .ok .ecdsaSecp256k1
  | other => .error (.unknownKeyType other)

end KeyType

/-- A public key: 32 octets of the first kind, 33 of the second. -/
structure PublicKey where
  type : KeyType
  bytes : Bytes
  deriving DecidableEq

namespace PublicKey

/-- The public key of a kind with the given octets, if they are the octets of a point. -/
def ofBytes (type : KeyType) (bytes : Bytes) : Except CryptoError PublicKey :=
  let length := match type with
    | .ed25519 => 32
    | .ecdsaSecp256k1 => 33
  if bytes.length ≠ length then .error (.invalidKeyLength length bytes.length)
  else
    let isPoint := match type with
      | .ed25519 => (Crypto.Ed25519.Point.decode bytes).isSome
      | .ecdsaSecp256k1 => (Crypto.Secp256k1.Point.decode bytes).isSome
    if isPoint then .ok ⟨type, bytes⟩ else .error .invalidPublicKey

/-- Checks a signature of a message. -/
def verify (key : PublicKey) (message signature : Bytes) : Except CryptoError Unit :=
  match key.type with
  | .ed25519 =>
      if signature.length ≠ 64 then .error .invalidSignature
      else if Crypto.Ed25519.verify key.bytes message signature then .ok ()
      else .error .signatureVerificationFailed
  | .ecdsaSecp256k1 =>
      match Crypto.Secp256k1.Point.decode key.bytes with
      | none => .error .invalidPublicKey
      | some point =>
          match Crypto.Secp256k1.halves? signature with
          | none => .error .invalidSignature
          | some (r, s) =>
              if Crypto.Secp256k1.verify point message r s then .ok ()
              else .error .signatureVerificationFailed

/-- Whether `signature` is a signature of `message`. -/
def verifies (key : PublicKey) (message signature : Bytes) : Bool :=
  match key.verify message signature with
  | .ok () => true
  | .error _ => false

/-- The kind and the octets. -/
def text (key : PublicKey) : String := key.type.text ++ ":" ++ Hex.encode key.bytes

end PublicKey

/-- A private key: a seed of the first kind, a secret scalar of the second. -/
structure PrivateKey where
  type : KeyType
  secret : Bytes

namespace PrivateKey

/-- Reads a secret in hexadecimal, with blanks around it and `0x` markers in front. -/
def ofHex (type : KeyType) (text : String) : Except CryptoError PrivateKey :=
  match Hex.decode (String.ofList (Text.dropHexMarkers (Text.trim text.toList))) with
  | .error fault => .error (.invalidHex fault.text)
  | .ok secret =>
      if secret.length ≠ 32 then .error (.invalidKeyLength 32 secret.length)
      else match type with
        | .ed25519 => .ok ⟨type, secret⟩
        | .ecdsaSecp256k1 =>
            if Crypto.Secp256k1.isKey (Bytes.toNatBE secret) then .ok ⟨type, secret⟩
            else .error .invalidPrivateKey

/-- The key that 32 random octets stand for: a scalar of the second kind is brought into the
range of keys. -/
def ofEntropy (type : KeyType) (entropy : Bytes) : PrivateKey :=
  match type with
  | .ed25519 => ⟨type, entropy⟩
  | .ecdsaSecp256k1 =>
      ⟨type, Bytes.ofNatBE 32 (Bytes.toNatBE entropy % (Crypto.Secp256k1.order - 1) + 1)⟩

/-- The secret in hexadecimal. -/
def hex (key : PrivateKey) : String := Hex.encode key.secret

/-- The public half. -/
def publicKey (key : PrivateKey) : PublicKey :=
  ⟨key.type, match key.type with
    | .ed25519 => Crypto.Ed25519.publicKey key.secret
    | .ecdsaSecp256k1 => Crypto.Secp256k1.publicKey (Bytes.toNatBE key.secret)⟩

/-- The signature of a message, 64 octets. -/
def sign (key : PrivateKey) (message : Bytes) : Bytes :=
  match key.type with
  | .ed25519 => Crypto.Ed25519.sign key.secret message
  | .ecdsaSecp256k1 => Crypto.Secp256k1.sign (Bytes.toNatBE key.secret) message

/-- What may be shown of the key: its public half. -/
def shown (key : PrivateKey) : String :=
  "PrivateKey \x7b public_key: " ++ key.publicKey.text ++ ", .. \x7d"

end PrivateKey

end LedgerClient
