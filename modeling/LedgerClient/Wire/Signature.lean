import LedgerClient.Crypto.Key
import LedgerClient.Error

/-!
# Keys of signatures

The wire does not say of which kind the key of a signature is: its length does.
-/

namespace LedgerClient.SignaturePair

/-- The key that made the signature. -/
def key (pair : SignaturePair) : Outcome PublicKey :=
  let read (type : KeyType) := (PublicKey.ofBytes type pair.publicKey).mapError .signing
  if pair.publicKey.length = 32 then read .ed25519
  else if pair.publicKey.length = 33 then read .ecdsaSecp256k1
  else .error (.codec (.badKeyLength pair.publicKey.length))

end LedgerClient.SignaturePair
