import LedgerClient.Text.Utf8

/-!
# The binary format

Values are written without names or padding: integers in a fixed number of octets,
least significant first; a truth value as one octet; an optional value after an
octet that says whether it is there; a sequence or a text after its length in
eight octets; an alternative after its number in four. Reading takes a value off
the front of a byte string and leaves the rest.
-/

namespace LedgerClient

/-- Why octets are no encoding. -/
inductive CodecError where
  /-- The octets end inside a value. -/
  | endOfInput
  /-- The octets end inside a text. -/
  | endOfText
  /-- An alternative has a number that is not below `count`. -/
  | noVariant (found count : Nat)
  | badOptionTag (found : UInt8)
  | badBool (found : UInt8)
  | badText (fault : Utf8.Fault)
  /-- A signature names a key of a length that no kind of key has. -/
  | badKeyLength (length : Nat)
  /-- A fault described elsewhere. -/
  | described (text : String)
  deriving DecidableEq

/-- The error in words. -/
def CodecError.text : CodecError → String
  | .endOfInput => "io error: unexpected end of file"
  | .endOfText => "io error: "
  | .noVariant found count =>
      "invalid value: integer \x60" ++ toString found ++
        "\x60, expected variant index 0 <= i < " ++ toString count
  | .badOptionTag found => "tag for enum is not valid, found " ++ toString found.toNat
  | .badBool found =>
      "invalid u8 while decoding bool, expected 0 or 1, found " ++ toString found.toNat
  | .badText fault => "string is not valid utf8: " ++ fault.text
  | .badKeyLength length => "signature pair has a " ++ toString length ++ "-byte public key"
  | .described text => text

namespace Wire

/-- Takes a value off the front of a byte string. -/
abbrev Reader := StateT Bytes (Except CodecError)

/-- Values that have an encoding. -/
class Encoded (α : Type) where
  write : α → Bytes
  read : Reader α

export Encoded (write read)

/-- The encoding of a value. -/
def encode {α : Type} [Encoded α] (value : α) : Bytes := write value

/-- The value at the front of a byte string. What follows it is ignored. -/
def decode (α : Type) [Encoded α] (bytes : Bytes) : Except CodecError α :=
  (read bytes).map (·.1)

/-- Takes `count` octets. -/
def takeBytes (count : Nat) : Reader Bytes := fun bytes =>
  if count ≤ bytes.length then .ok (bytes.take count, bytes.drop count) else .error .endOfInput

/-- Takes a number of `count` octets. -/
def readNat (count : Nat) : Reader Nat := do
  return Bytes.toNatLE (← takeBytes count)

instance : Encoded UInt8 where
  write n := [n]
  read := fun bytes => match bytes with
    | [] => .error .endOfInput
    | b :: rest => .ok (b, rest)

instance : Encoded UInt16 where
  write n := Bytes.ofNatLE 2 n.toNat
  read := UInt16.ofNat <$> readNat 2

instance : Encoded UInt32 where
  write n := Bytes.ofNatLE 4 n.toNat
  read := UInt32.ofNat <$> readNat 4

instance : Encoded UInt64 where
  write n := Bytes.ofNatLE 8 n.toNat
  read := UInt64.ofNat <$> readNat 8

instance : Encoded Int32 where
  write n := write n.toUInt32
  read := UInt32.toInt32 <$> read

instance : Encoded Int64 where
  write n := write n.toUInt64
  read := UInt64.toInt64 <$> read

instance : Encoded Bool where
  write b := [if b then 1 else 0]
  read := do
    let tag : UInt8 ← read
    if tag = 0 then return false
    else if tag = 1 then return true
    else throw (.badBool tag)

instance {α : Type} [Encoded α] : Encoded (Option α) where
  write
    | none => [0]
    | some value => 1 :: write value
  read := do
    let tag : UInt8 ← read
    if tag = 0 then return none
    else if tag = 1 then some <$> read
    else throw (.badOptionTag tag)

/-- Writes a length or a count. -/
def writeLength (length : Nat) : Bytes := Bytes.ofNatLE 8 length

/-- Takes `count` values. A count that the octets cannot hold fails where they end. -/
def readMany {α : Type} (item : Reader α) : (count : Nat) → Reader (List α)
  | 0 => return []
  | count + 1 => do
      let first ← item
      let others ← readMany item count
      return first :: others

/-- Takes a count and that many values. -/
def readList {α : Type} (item : Reader α) : Reader (List α) := do
  readMany item (← readNat 8)

instance {α : Type} [Encoded α] : Encoded (List α) where
  write values := writeLength values.length ++ values.flatMap write
  read := readList read

/-- Takes the octets of a text. -/
def takeText (count : Nat) : Reader Bytes := fun bytes =>
  if count ≤ bytes.length then .ok (bytes.take count, bytes.drop count) else .error .endOfText

instance : Encoded String where
  write text := writeLength (Utf8.encode text).length ++ Utf8.encode text
  read := do
    let octets ← takeText (← readNat 8)
    match Utf8.decode octets with
    | .ok text => return text
    | .error fault => throw (.badText fault)

/-- Writes the number of an alternative. -/
def writeVariant (index : Nat) : Bytes := Bytes.ofNatLE 4 index

/-- Takes the number of one of `count` alternatives. -/
def readVariant (count : Nat) : Reader Nat := do
  let index ← readNat 4
  if index < count then return index else throw (.noVariant index count)

end Wire

end LedgerClient
