import LedgerClient.Entity.Id
import LedgerClient.Entity.LedgerId

/-!
# Checksums of entity identifiers

Five letters bind an address `shard.realm.num` to a ledger. They are the base-26
digits of a number below 26^5 made from four residues of the address (its length
modulo 5, the sums of its even and odd positions modulo 11, and a base-31 hash
modulo 26^3) and a base-31 hash of the ledger identity. The same letters are
computed by every client of the network.
-/

namespace LedgerClient.Checksum

/-- 26^3, the modulus of the address hash. -/
def addressModulus : Nat := 17576

/-- 26^5, the number of checksums. -/
def modulus : Nat := 11881376

/-- The factor that spreads neighbouring values over all letters. -/
def multiplier : Nat := 1000003

/-- Zero octets hashed after the ledger identity. -/
def ledgerPadding : Bytes := List.replicate 6 0

/-- Weight of a character: a digit's value, and ten for any other. -/
def weight (c : Char) : Nat := if c.isDigit then c.toNat - 48 else 10

/-- Sum of the weights at even positions, modulo 11. -/
def evenSum : List Char → Nat
  | [] => 0
  | [c] => weight c % 11
  | c :: _ :: rest => (weight c + evenSum rest) % 11

/-- Sum of the weights at odd positions, modulo 11. -/
def oddSum : List Char → Nat
  | [] => 0
  | _ :: rest => evenSum rest

/-- Base-31 hash of the weights, modulo 26^3. -/
def addressHash (address : List Char) : Nat :=
  address.foldl (fun value c => (31 * value + weight c) % addressModulus) 0

/-- Base-31 hash of the ledger identity and its padding, modulo 26^5. -/
def ledgerHash (ledger : LedgerId) : Nat :=
  (ledger.bytes ++ ledgerPadding).foldl (fun value b => (31 * value + b.toNat) % modulus) 0

/-- The residues of the address packed into one number. -/
def packed (address : List Char) : Nat :=
  (((address.length % 5) * 11 + evenSum address) * 11 + oddSum address) * addressModulus +
    addressHash address

/-- The number whose letters are the checksum. -/
def value (ledger : LedgerId) (address : List Char) : Nat :=
  (packed address + ledgerHash ledger) % modulus * multiplier % modulus

/-- The letter of a base-26 digit. -/
def letter (digit : Nat) : Char := Char.ofNat (97 + digit % 26)

/-- `count` base-26 digits of a number as letters, most significant first. -/
def letters : (count : Nat) → Nat → List Char
  | 0, _ => []
  | count + 1, n => letters count (n / 26) ++ [letter n]

/-- The checksum of an address on a ledger. -/
def generate (ledger : LedgerId) (address : String) : String :=
  String.ofList (letters 5 (value ledger address.toList))

/-- A checksum that is not the one its address has on the ledger. -/
structure Mismatch where
  entity : String
  expected : String
  actual : String
  deriving DecidableEq

end LedgerClient.Checksum

namespace LedgerClient.EntityId

/-- An identifier that carries a checksum carries the one of its address on the ledger. -/
def validate (id : EntityId) (ledger : LedgerId) : Except Checksum.Mismatch Unit :=
  match id.checksum with
  | none => .ok ()
  | some actual =>
      let expected := Checksum.generate ledger id.text
      if expected = actual then .ok () else .error ⟨id.text, expected, actual⟩

/-- The address followed by a dash and its checksum on the ledger. -/
def textWithChecksum (id : EntityId) (ledger : LedgerId) : String :=
  id.text ++ "-" ++ Checksum.generate ledger id.text

end LedgerClient.EntityId
