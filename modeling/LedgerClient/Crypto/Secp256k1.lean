import LedgerClient.Crypto.Modular
import LedgerClient.Crypto.Sha2

/-!
# ECDSA over secp256k1

Signatures of SHA-256 digests over the curve `y² = x³ + 7`. The nonce is derived
from the key and the digest, so signing is deterministic, and of the two valid
second halves the smaller is used; checking refuses the larger. Keys are 33
octets: the parity of the second coordinate, then the first coordinate.
-/

namespace LedgerClient.Crypto.Secp256k1

/-- The prime of the coordinates. -/
def p : Nat := 0xfffffffffffffffffffffffffffffffffffffffffffffffffffffffefffffc2f

/-- The order of the group. -/
def order : Nat := 0xfffffffffffffffffffffffffffffffebaaedce6af48a03bbfd25e8cd0364141

/-- A point in Jacobian coordinates, `x = X/Z²` and `y = Y/Z³`; the neutral point has `Z = 0`. -/
structure Point where
  X : Nat
  Y : Nat
  Z : Nat

namespace Point

/-- The neutral point. -/
def neutral : Point := ⟨1, 1, 0⟩

/-- The base point. -/
def base : Point :=
  ⟨0x79be667ef9dcbbac55a06295ce870b07029bfcdb2dce28d959f2815b16f81798,
   0x483ada7726a3c4655da4fbfc0e1108a8fd17b448a68554199c47d08ffb10d4b8, 1⟩

/-- Twice a point. -/
def double (P : Point) : Point :=
  if P.Z = 0 || P.Y = 0 then neutral
  else
    let yy := P.Y * P.Y % p
    let s := 4 * P.X * yy % p
    let m := 3 * P.X * P.X % p
    let x := subMod p (m * m) (2 * s % p)
    ⟨x, subMod p (m * subMod p s x) (8 * yy * yy % p), 2 * P.Y * P.Z % p⟩

/-- The sum of two points. -/
def add (P Q : Point) : Point :=
  if P.Z = 0 then Q
  else if Q.Z = 0 then P
  else
    let zz1 := P.Z * P.Z % p
    let zz2 := Q.Z * Q.Z % p
    let u1 := P.X * zz2 % p
    let u2 := Q.X * zz1 % p
    let s1 := P.Y * zz2 % p * Q.Z % p
    let s2 := Q.Y * zz1 % p * P.Z % p
    if u1 = u2 then (if s1 = s2 then P.double else neutral)
    else
      let h := subMod p u2 u1
      let r := subMod p s2 s1
      let hh := h * h % p
      let hhh := hh * h % p
      let v := u1 * hh % p
      let x := subMod p (subMod p (r * r) hhh) (2 * v % p)
      ⟨x, subMod p (r * subMod p v x) (s1 * hhh % p), P.Z * Q.Z % p * h % p⟩

/-- `scalar` times `P`, added to `acc`. -/
def timesFrom (P : Point) (scalar : Nat) (acc : Point) : Point :=
  if scalar = 0 then acc
  else timesFrom P.double (scalar / 2) (if scalar % 2 = 1 then acc.add P else acc)
  termination_by scalar

/-- `scalar` times `P`. -/
def times (P : Point) (scalar : Nat) : Point := timesFrom P scalar neutral

/-- The two coordinates of a point that is not neutral. -/
def affine? (P : Point) : Option (Nat × Nat) :=
  if P.Z = 0 then none
  else
    let inverse := invMod p P.Z
    let square := inverse * inverse % p
    some (P.X * square % p, P.Y * square % p * inverse % p)

/-- The 33 octets of a point. -/
def encode (P : Point) : Bytes :=
  match P.affine? with
  | none => []
  | some (x, y) => UInt8.ofNat (2 + y % 2) :: Bytes.ofNatBE 32 x

/-- Whether the second coordinate is odd, as the first octet says: two for even and three for odd.
Five leaves it out, and means the even one. -/
def oddOfTag? (tag : UInt8) : Option Nat :=
  if tag = 2 || tag = 5 then some 0 else if tag = 3 then some 1 else none

/-- The point of 33 octets. -/
def decode : Bytes → Option Point
  | [] => none
  | tag :: rest => do
      let odd ← oddOfTag? tag
      let x := Bytes.toNatBE rest
      let square := (x * x % p * x + 7) % p
      let root := powMod p square ((p + 1) / 4)
      if x < p && root * root % p = square then
        some ⟨x, if root % 2 = odd then root else subMod p 0 root, 1⟩
      else none

end Point

/-- Whether a number is a scalar that can be a key. -/
def isKey (secret : Nat) : Bool := 0 < secret && secret < order

/-- The public key of a secret scalar. -/
def publicKey (secret : Nat) : Bytes := (Point.base.times secret).encode

/-- A deterministic stream of candidates for a nonce: the first scalar it gives that can be a
key. Each failed candidate mixes the state once more. -/
def nonceFrom : (tries : Nat) → (key value : Bytes) → Nat
  | 0, _, _ => 1
  | tries + 1, key, value =>
      let value := hmac256 key value
      let candidate := Bytes.toNatBE value
      if isKey candidate then candidate
      else
        let key := hmac256 key (value ++ [0])
        nonceFrom tries key (hmac256 key value)

/-- The nonce for a secret and a digest. -/
def nonce (secret digest : Nat) : Nat :=
  let seed := Bytes.ofNatBE 32 secret ++ Bytes.ofNatBE 32 (digest % order)
  let key := List.replicate 32 0
  let value := List.replicate 32 1
  let key := hmac256 key (value ++ 0 :: seed)
  let value := hmac256 key value
  let key := hmac256 key (value ++ 1 :: seed)
  let value := hmac256 key value
  nonceFrom 128 key value

/-- The signature of a message by a secret scalar. -/
def sign (secret : Nat) (message : Bytes) : Bytes :=
  let digest := Bytes.toNatBE (sha256 message)
  let k := nonce secret digest
  let r := match (Point.base.times k).affine? with
    | some (x, _) => x % order
    | none => 0
  let s := invMod order k * ((digest + r * secret) % order) % order
  let s := if order / 2 < s then order - s else s
  Bytes.ofNatBE 32 r ++ Bytes.ofNatBE 32 s

/-- The two halves of a signature, both of which can be keys. -/
def halves? (signature : Bytes) : Option (Nat × Nat) :=
  let r := Bytes.toNatBE (signature.take 32)
  let s := Bytes.toNatBE (signature.drop 32)
  if signature.length = 64 && isKey r && isKey s then some (r, s) else none

/-- Whether two halves are a signature of a message by a key. -/
def verify (key : Point) (message : Bytes) (r s : Nat) : Bool :=
  s ≤ order / 2 &&
    let inverse := invMod order s
    let digest := Bytes.toNatBE (sha256 message)
    let sum := (Point.base.times (digest * inverse % order)).add
      (key.times (r * inverse % order))
    match sum.affine? with
    | some (x, _) => x % order == r
    | none => false

end LedgerClient.Crypto.Secp256k1
