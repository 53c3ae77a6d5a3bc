/-!
# Arithmetic modulo a number

Powers and inverses for the prime fields and scalar groups of the two curves.
-/

namespace LedgerClient.Crypto

/-- `base ^ exponent * acc` modulo `m`. -/
def powModFrom (m base exponent acc : Nat) : Nat :=
  if exponent = 0 then acc
  else powModFrom m (base * base % m) (exponent / 2)
    (if exponent % 2 = 1 then acc * base % m else acc)
  termination_by exponent

/-- `base ^ exponent` modulo `m`. -/
def powMod (m base exponent : Nat) : Nat := powModFrom m (base % m) exponent (1 % m)

/-- The inverse modulo a prime; zero for zero. -/
def invMod (p x : Nat) : Nat := powMod p x (p - 2)

/-- `x - y` modulo `m`, for `y < m`. -/
def subMod (m x y : Nat) : Nat := (x + (m - y)) % m

end LedgerClient.Crypto
