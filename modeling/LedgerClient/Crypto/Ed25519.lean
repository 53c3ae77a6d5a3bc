import LedgerClient.Crypto.Modular
import LedgerClient.Crypto.Sha2

/-!
# Ed25519

Deterministic signatures over the twisted Edwards curve of the prime 2^255 - 19.
A key or a signature point is 32 octets: the second coordinate, and the parity of
the first in the top bit. Checking a signature recomputes its point and compares
the octets; a scalar that is not below the group order is refused.
-/

namespace LedgerClient.Crypto.Ed25519

/-- The prime of the coordinates. -/
def p : Nat := 0x7fffffffffffffffffffffffffffffffffffffffffffffffffffffffffffffed

/-- The order of the base point. -/
def order : Nat := 0x1000000000000000000000000000000014def9dea2f79cd65812631a5cf5d3ed

/-- The coefficient of the curve `-x² + y² = 1 + d x² y²`. -/
def d : Nat := 37095705934669439343138083508754565189542113879843219016388785533085940283555

/-- The weight of the bit that carries the parity of the first coordinate. -/
def parityWeight : Nat := 0x8000000000000000000000000000000000000000000000000000000000000000

/-- The weight of the highest bit of a scalar made from a seed. -/
def scalarTop : Nat := 0x4000000000000000000000000000000000000000000000000000000000000000

/-- A square root of minus one. -/
def rootOfMinusOne : Nat :=
  19681161376707505956807079304988542015446066515923890162744021073123829784752

/-- A point in extended coordinates: `x = X/Z`, `y = Y/Z`, `x y = T/Z`. -/
structure Point where
  X : Nat
  Y : Nat
  Z : Nat
  T : Nat

namespace Point

/-- The neutral point. -/
def neutral : Point := ⟨0, 1, 1, 0⟩

/-- The sum of two points, valid for every pair. -/
def add (P Q : Point) : Point :=
  let a := subMod p P.Y P.X * subMod p Q.Y Q.X % p
  let b := (P.Y + P.X) * (Q.Y + Q.X) % p
  let c := P.T * (2 * d * Q.T % p) % p
  let z := 2 * P.Z * Q.Z % p
  let e := subMod p b a
  let f := subMod p z c
  let g := (z + c) % p
  let h := (b + a) % p
  ⟨e * f % p, g * h % p, f * g % p, e * h % p⟩

/-- The point with the other sign. -/
def neg (P : Point) : Point := ⟨subMod p 0 P.X, P.Y, P.Z, subMod p 0 P.T⟩

/-- `scalar` times `P`, added to `acc`. -/
def timesFrom (P : Point) (scalar : Nat) (acc : Point) : Point :=
  if scalar = 0 then acc
  else timesFrom (P.add P) (scalar / 2) (if scalar % 2 = 1 then acc.add P else acc)
  termination_by scalar

/-- `scalar` times `P`. -/
def times (P : Point) (scalar : Nat) : Point := timesFrom P scalar neutral

/-- The base point. -/
def base : Point :=
  let x := 15112221349535400772501151409588531511454012693041857206046113283949847762202
  let y := 46316835694926478169428394003475163141307993866256225615783033603165251855960
  ⟨x, y, 1, x * y % p⟩

/-- The 32 octets of a point. -/
def encode (P : Point) : Bytes :=
  let inverse := invMod p P.Z
  let x := P.X * inverse % p
  let y := P.Y * inverse % p
  Bytes.ofNatLE 32 (y + (x % 2) * parityWeight)

/-- The point with a given second coordinate and parity of the first. The coordinate is taken
modulo the prime, and the parity of a zero is ignored. -/
def decode (bytes : Bytes) : Option Point :=
  let value := Bytes.toNatLE bytes
  let parity := value / parityWeight % 2
  let y := value % parityWeight % p
  let u := subMod p (y * y % p) 1
  let v := (d * (y * y % p) + 1) % p
  let v3 := v * v % p * v % p
  let candidate := u * v3 % p * powMod p (u * v3 % p * (v3 * v % p) % p) ((p - 5) / 8) % p
  let check := v * (candidate * candidate % p) % p
  let root :=
    if check = u then some candidate
    else if check = subMod p 0 u then some (candidate * rootOfMinusOne % p)
    else none
  root.map fun x =>
    let x := if x % 2 = parity then x else subMod p 0 x
    ⟨x, y, 1, x * y % p⟩

end Point

/-- The scalar and the signing half that a seed expands to. -/
def expand (seed : Bytes) : Nat × Bytes :=
  let digest := sha512 seed
  let low := Bytes.toNatLE (digest.take 32)
  (low % scalarTop / 8 * 8 + scalarTop, digest.drop 32)

/-- The public key of a seed. -/
def publicKey (seed : Bytes) : Bytes := (Point.base.times (expand seed).1).encode

/-- A number made from the SHA-512 digest of a message. -/
def hashScalar (message : Bytes) : Nat := Bytes.toNatLE (sha512 message) % order

/-- The signature of a message by the key of a seed. -/
def sign (seed message : Bytes) : Bytes :=
  let (scalar, half) := expand seed
  let key := publicKey seed
  let nonce := hashScalar (half ++ message)
  let point := (Point.base.times nonce).encode
  let challenge := hashScalar (point ++ key ++ message)
  point ++ Bytes.ofNatLE 32 ((nonce + challenge * scalar) % order)

/-- Whether 64 octets are a signature of a message by a key. -/
def verify (key message signature : Bytes) : Bool :=
  let point := signature.take 32
  let scalar := Bytes.toNatLE (signature.drop 32)
  match Point.decode key with
  | none => false
  | some keyPoint =>
      scalar < order &&
        let challenge := hashScalar (point ++ key ++ message)
        ((Point.base.times scalar).add (keyPoint.neg.times challenge)).encode == point

end LedgerClient.Crypto.Ed25519
