import LedgerClient.Text.Numeral

/-!
# Shortest decimals

The decimal with the fewest digits that reads back as a given binary fraction, and
of those the nearest one. All comparisons are exact, on natural numbers. Decimals
are written out in full, without an exponent.
-/

namespace LedgerClient.Decimal

/-- The positive number `mantissa * 2 ^ exponent`, with the numbers that round to it. -/
structure Binary where
  mantissa : Nat
  exponent : Int
  /-- The next smaller number is only half as far away as the next larger one. -/
  narrowBelow : Bool

/-- The positive number `digits * 10 ^ exponent`. -/
structure Digits where
  digits : Nat
  exponent : Int
  deriving DecidableEq, Inhabited

/-- A quotient of natural numbers. -/
structure Fraction where
  num : Nat
  den : Nat

namespace Fraction

/-- `factor * base ^ exponent`. -/
def ofPower (factor base : Nat) (exponent : Int) : Fraction :=
  if 0 ≤ exponent then ⟨factor * Nat.pow base exponent.toNat, 1⟩
  else ⟨factor, Nat.pow base (-exponent).toNat⟩

def le (a b : Fraction) : Bool := a.num * b.den ≤ b.num * a.den
def lt (a b : Fraction) : Bool := a.num * b.den < b.num * a.den

end Fraction

namespace Binary

/-- The number. -/
def value (b : Binary) : Fraction := .ofPower b.mantissa 2 b.exponent

/-- Whether a number rounds to this one: it is no farther than half the way to a neighbour, where
the way itself counts for even mantissas. -/
def covers (b : Binary) (x : Fraction) : Bool :=
  let low := Fraction.ofPower (4 * b.mantissa - (if b.narrowBelow then 1 else 2)) 2 (b.exponent - 2)
  let high := Fraction.ofPower (4 * b.mantissa + 2) 2 (b.exponent - 2)
  if b.mantissa % 2 = 0 then low.le x && x.le high else low.lt x && x.lt high

/-- The least `count + start` such that `10 ^ (count + start)` is above the number, looking at no
more than `fuel` candidates. -/
def magnitudeFrom (b : Binary) : (fuel : Nat) → (start : Int) → Int
  | 0, start => start
  | fuel + 1, start =>
      if b.value.lt (.ofPower 1 10 start) then start else magnitudeFrom b fuel (start + 1)

/-- The count of digits before the point, negative for zeros after it. -/
def magnitude (b : Binary) : Int := b.magnitudeFrom 640 (-325)

/-- The nearest decimal of `count` digits that reads back, if there is one. -/
def nearest? (b : Binary) (magnitude : Int) (count : Nat) : Option Digits :=
  let exponent := magnitude - count
  let step := Fraction.ofPower 1 10 exponent
  let below := b.value.num * step.den / (b.value.den * step.num)
  let point (digits : Nat) := Fraction.ofPower digits 10 exponent
  let lower := 0 < below && b.covers (point below)
  let upper := b.covers (point (below + 1))
  -- the middle between the two decides which of them is nearer; from the middle on it is the upper
  let middle := Fraction.ofPower (10 * below + 5) 10 (exponent - 1)
  if upper && (!lower || middle.le b.value) then some ⟨below + 1, exponent⟩
  else if lower then some ⟨below, exponent⟩
  else none

/-- The shortest decimal that reads back. Seventeen digits always do. -/
def shortest (b : Binary) : Digits :=
  let magnitude := b.magnitude
  ((List.range 17).findSome? fun n => b.nearest? magnitude (n + 1)).getD default

end Binary

/-- The digits written out around the point, without needless zeros. -/
def Digits.text (d : Digits) : List Char :=
  let digits := Nat.toDigits 10 d.digits
  if 0 ≤ d.exponent then digits ++ List.replicate d.exponent.toNat '0'
  else
    let places := (-d.exponent).toNat
    let padded := List.replicate (places + 1 - digits.length) '0' ++ digits
    let fraction := (padded.drop (padded.length - places)).reverse.dropWhile (· = '0')
    let whole := padded.take (padded.length - places)
    if fraction = [] then whole else whole ++ '.' :: fraction.reverse

/-- The sign, the biased exponent and the fraction of a double. -/
def fields (bits : UInt64) : Bool × Nat × Nat :=
  (bits >>> 63 != 0, (bits >>> 52 &&& 2047).toNat, (bits &&& 0xfffffffffffff).toNat)

/-- The text of a double: its shortest decimal, or a word where it is not a number. -/
def text (x : Float) : String :=
  let (negative, exponent, fraction) := fields x.toBits
  if exponent = 2047 ∧ fraction ≠ 0 then "NaN"
  else
    let digits :=
      if exponent = 2047 then "inf".toList
      else if exponent = 0 ∧ fraction = 0 then ['0']
      else if exponent = 0 then (Binary.mk fraction (-1074) false).shortest.text
      else
        (Binary.mk (0x10000000000000 + fraction) (exponent - 1075)
          (fraction = 0 ∧ 1 < exponent)).shortest.text
    String.ofList (if negative then '-' :: digits else digits)

end LedgerClient.Decimal
