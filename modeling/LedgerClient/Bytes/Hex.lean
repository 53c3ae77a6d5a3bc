import LedgerClient.Bytes
import LedgerClient.Text.Quoted
import LedgerClient.Text.Utf8

/-!
# Hexadecimal text

Bytes are shown with two lower-case digits each. Reading accepts both cases and
says what is wrong with a text it refuses: an odd number of digits first, else
the first octet that is no digit. Positions count octets of the UTF-8 text.
-/

namespace LedgerClient.Hex

/-- Why a text is not the hexadecimal form of a byte string. -/
inductive Fault where
  /-- The text has an odd number of octets. -/
  | oddLength
  /-- The octet at `position` is no digit. -/
  | notDigit (byte : UInt8) (position : Nat)
  deriving DecidableEq

/-- The fault in words. -/
def Fault.text : Fault → String
  | .oddLength => "Odd number of digits"
  | .notDigit byte position =>
      "Invalid character " ++ Text.quotedChar (Char.ofNat byte.toNat) ++ " at position " ++
        toString position

/-- The digit of a value below sixteen. -/
def digitChar (value : UInt8) : Char :=
  if value < 10 then Char.ofNat (48 + value.toNat) else Char.ofNat (87 + value.toNat)

/-- The two digits of an octet, high half first. -/
def pair (byte : UInt8) : List Char :=
  [digitChar (byte / 16), digitChar (byte % 16)]

/-- Lower-case hexadecimal text of a byte string. -/
def encode (bytes : Bytes) : String :=
  String.ofList (bytes.flatMap pair)

/-- Value of an octet read as a digit of either case. -/
def digitValue? (byte : UInt8) : Option UInt8 :=
  if 48 ≤ byte ∧ byte ≤ 57 then some (byte - 48)
  else if 97 ≤ byte ∧ byte ≤ 102 then some (byte - 87)
  else if 65 ≤ byte ∧ byte ≤ 70 then some (byte - 55)
  else none

/-- Value of the digit at `position`, or the fault it is. -/
def digitAt (byte : UInt8) (position : Nat) : Except Fault UInt8 :=
  match digitValue? byte with
  | some value => .ok value
  | none => .error (.notDigit byte position)

/-- Reads pairs of digits; `position` is the place of the first octet. -/
def decodePairs (position : Nat) : Bytes → Except Fault Bytes
  | high :: low :: rest => do
      let upper ← digitAt high position
      let lower ← digitAt low (position + 1)
      let others ← decodePairs (position + 2) rest
      return (upper * 16 + lower) :: others
  | [_] => .error .oddLength
  | [] => .ok []

/-- The byte string a text stands for. -/
def decode (text : String) : Except Fault Bytes :=
  let octets := Utf8.encode text
  if octets.length % 2 = 1 then .error .oddLength else decodePairs 0 octets

end LedgerClient.Hex
