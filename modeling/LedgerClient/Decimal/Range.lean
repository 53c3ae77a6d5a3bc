import LedgerClient.Decimal.Shortest

/-!
# The range of doubles

A decimal is rounded to the nearest double, and to infinity from the middle between
the largest double and the power of two after it on.
-/

namespace LedgerClient.Decimal

/-- The middle between the largest double and the power of two after it. -/
def overflow : Nat := Nat.pow 2 1024 - Nat.pow 2 970

/-- Whether `digits * 10 ^ exponent` rounds to a finite number. Only decimals with 309 digits before
the point have to be compared. -/
def isFinite (digits : Nat) (exponent : Int) : Bool :=
  let magnitude := (Nat.toDigits 10 digits).length + exponent
  digits = 0 || magnitude < 309 ||
    (magnitude = 309 && (Fraction.ofPower digits 10 exponent).lt ⟨overflow, 1⟩)

end LedgerClient.Decimal
