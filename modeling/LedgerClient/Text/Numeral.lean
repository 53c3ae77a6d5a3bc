/-!
# Decimal numerals

Reading is strict: ASCII digits only, at least one of them, and a value within
the bounds the caller states. Signed numerals, and the unsigned ones that allow
it, may carry one sign in front.
-/

namespace LedgerClient.Numeral

/-- Value of a non-empty run of ASCII digits. -/
def natOf? (chars : List Char) : Option Nat :=
  if chars ≠ [] ∧ chars.all Char.isDigit then some (Nat.ofDigitChars 10 chars 0) else none

/-- Value of a run of digits below `bound`. -/
def below? (bound : Nat) (chars : List Char) : Option Nat :=
  (natOf? chars).filter (· < bound)

/-- Value below `bound` of a run of digits that may follow a plus sign. -/
def plusBelow? (bound : Nat) : List Char → Option Nat
  | '+' :: rest => below? bound rest
  | chars => below? bound chars

/-- Value of a run of digits that may follow one sign. -/
def intOf? : List Char → Option Int
  | '+' :: rest => (natOf? rest).map Int.ofNat
  | '-' :: rest => (natOf? rest).map fun n => -(Int.ofNat n)
  | chars => (natOf? chars).map Int.ofNat

/-- Value of a signed numeral from `-bound` up to, and without, `bound`. -/
def signedBelow? (bound : Nat) (chars : List Char) : Option Int :=
  (intOf? chars).filter fun value => -(bound : Int) ≤ value ∧ value < bound

/-- The numeral of `n`, with zeros in front up to `width` digits. -/
def padded (width n : Nat) : List Char :=
  let digits := Nat.toDigits 10 n
  List.replicate (width - digits.length) '0' ++ digits

end LedgerClient.Numeral
