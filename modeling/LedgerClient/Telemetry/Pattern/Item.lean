import LedgerClient.Bytes.Hex
import LedgerClient.Telemetry.Pattern.Mode

/-!
# Items of patterns

A backslash gives the character after it another meaning: a character that is hard to
write, a class of characters, or a place between characters.
-/

namespace LedgerClient.Telemetry.Pattern

/-- What one item of a pattern stands for. -/
inductive Item where
  | literal (c : Char)
  /-- One of a class of characters. -/
  | several
  /-- A place between characters. -/
  | place

/-- The character that a letter after a backslash stands for. -/
def control? : Char → Option Char
  | 'a' => some '\x07'
  | 't' => some '\t'
  | 'n' => some '\n'
  | 'v' => some '\x0b'
  | 'f' => some '\x0c'
  | 'r' => some '\r'
  | _ => none

/-- The value of a number of hexadecimal digits, behind digits of the value `number`. -/
def digits? (mode : Mode) (number : Nat) : (count : Nat) → List Char → Option (Nat × List Char)
  | 0, chars => some (number, chars)
  | count + 1, chars =>
      match mode.skip chars with
      | [] => none
      | c :: rest =>
          if c.toNat < 128 then
            (Hex.digitValue? c.toNat.toUInt8).bind fun digit =>
              digits? mode (16 * number + digit.toNat) count rest
          else none

/-- A character given by a number of hexadecimal digits. In ASCII two digits give an octet, which
is a character only below 128. -/
def numbered? (mode : Mode) (count : Nat) (chars : List Char) : Option (Item × List Char) :=
  (digits? mode 0 count chars).bind fun (number, rest) =>
    if number.isValidChar ∧ (mode.unicode ∨ count ≠ 2 ∨ number < 128) then
      some (.literal (Char.ofNat number), rest)
    else none

/-- What follows a backslash. -/
def escaped? (mode : Mode) : List Char → Option (Item × List Char)
  | [] => none
  | 'x' :: rest => numbered? mode 2 rest
  | 'u' :: rest => numbered? mode 4 rest
  | 'U' :: rest => numbered? mode 8 rest
  | 'A' :: rest | 'z' :: rest => some (.place, rest)
  | c :: rest =>
      if ['d', 's', 'w'].contains c then if mode.unicode then none else some (.several, rest)
      else if ['b', 'B', '<', '>'].contains c then
        if mode.unicode then none else some (.place, rest)
      else match control? c with
        | some control => some (.literal control, rest)
        | none => if c.toNat < 128 && !c.isAlphanum then some (.literal c, rest) else none

end LedgerClient.Telemetry.Pattern
