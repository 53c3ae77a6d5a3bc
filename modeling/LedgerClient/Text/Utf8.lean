import LedgerClient.Bytes

/-!
# UTF-8

Texts are written as the octets of their characters and read back octet by
octet. A refused byte string is refused at the first character that is cut short
or that holds an octet out of place; the fault says where that character begins.
-/

namespace LedgerClient.Utf8

/-- Why octets are no text. -/
inductive Fault where
  /-- The character at `index` breaks after `count` octets. -/
  | invalid (count index : Nat)
  /-- The octets end inside the character at `index`. -/
  | incomplete (index : Nat)
  deriving DecidableEq

/-- The fault in words. -/
def Fault.text : Fault → String
  | .invalid count index =>
      "invalid utf-8 sequence of " ++ toString count ++ " bytes from index " ++ toString index
  | .incomplete index => "incomplete utf-8 byte sequence from index " ++ toString index

/-- The octet `marker + n`. -/
def octet (marker n : Nat) : UInt8 := UInt8.ofNat (marker + n)

/-- The octets of a character. -/
def encodeChar (c : Char) : Bytes :=
  let n := c.toNat
  if n < 0x80 then [octet 0 n]
  else if n < 0x800 then [octet 0xC0 (n / 64), octet 0x80 (n % 64)]
  else if n < 0x10000 then
    [octet 0xE0 (n / 4096), octet 0x80 (n / 64 % 64), octet 0x80 (n % 64)]
  else
    [octet 0xF0 (n / 262144), octet 0x80 (n / 4096 % 64), octet 0x80 (n / 64 % 64),
      octet 0x80 (n % 64)]

/-- The octets of a text. -/
def encode (text : String) : Bytes := text.toList.flatMap encodeChar

/-- Whether an octet continues a character. -/
def continues (b : UInt8) : Bool := 0x80 ≤ b && b ≤ 0xBF

/-- Whether `b` may follow the first octet `a` of a character of three octets. -/
def continuesThree (a b : UInt8) : Bool :=
  if a = 0xE0 then 0xA0 ≤ b && b ≤ 0xBF
  else if a = 0xED then 0x80 ≤ b && b ≤ 0x9F
  else continues b

/-- Whether `b` may follow the first octet `a` of a character of four octets. -/
def continuesFour (a b : UInt8) : Bool :=
  if a = 0xF0 then 0x90 ≤ b && b ≤ 0xBF
  else if a = 0xF4 then 0x80 ≤ b && b ≤ 0x8F
  else continues b

/-- The low six bits of an octet. -/
def low (b : UInt8) : Nat := b.toNat % 64

/-- Reads characters; `index` is the place of the first octet. -/
def decodeFrom (index : Nat) : Bytes → Except Fault (List Char)
  | [] => .ok []
  | a :: rest =>
      if a < 0x80 then (decodeFrom (index + 1) rest).map (Char.ofNat a.toNat :: ·)
      else if 0xC2 ≤ a && a ≤ 0xDF then
        match rest with
        | [] => .error (.incomplete index)
        | b :: rest =>
            if continues b then
              (decodeFrom (index + 2) rest).map (Char.ofNat (a.toNat % 32 * 64 + low b) :: ·)
            else .error (.invalid 1 index)
      else if 0xE0 ≤ a && a ≤ 0xEF then
        match rest with
        | [] => .error (.incomplete index)
        | b :: rest =>
            if continuesThree a b then
              match rest with
              | [] => .error (.incomplete index)
              | c :: rest =>
                  if continues c then
                    (decodeFrom (index + 3) rest).map
                      (Char.ofNat (a.toNat % 16 * 4096 + low b * 64 + low c) :: ·)
                  else .error (.invalid 2 index)
            else .error (.invalid 1 index)
      else if 0xF0 ≤ a && a ≤ 0xF4 then
        match rest with
        | [] => .error (.incomplete index)
        | b :: rest =>
            if continuesFour a b then
              match rest with
              | [] => .error (.incomplete index)
              | c :: rest =>
                  if continues c then
                    match rest with
                    | [] => .error (.incomplete index)
                    | d :: rest =>
                        if continues d then
                          (decodeFrom (index + 4) rest).map
                            (Char.ofNat
                              (a.toNat % 8 * 262144 + low b * 4096 + low c * 64 + low d) :: ·)
                        else .error (.invalid 3 index)
                  else .error (.invalid 2 index)
            else .error (.invalid 1 index)
      else .error (.invalid 1 index)

/-- The text a byte string holds. -/
def decode (bytes : Bytes) : Except Fault String :=
  (decodeFrom 0 bytes).map String.ofList

end LedgerClient.Utf8
