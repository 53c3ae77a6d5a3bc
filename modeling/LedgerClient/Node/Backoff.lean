import LedgerClient.Error

/-!
# Backoff bounds of a node

A node that fails is left alone for a while, longer after each failure in a row.
The bounds say how long at least and at most.
-/

namespace LedgerClient

/-- How long a failing node is left alone. -/
structure BackoffBounds where
  /-- The backoff of a fresh node, and the one successes lead back to. -/
  shortest : Duration
  /-- The backoff that failures lead up to. -/
  longest : Duration
  deriving DecidableEq

namespace BackoffBounds

/-- Eight seconds to an hour. -/
def standard : BackoffBounds := ⟨Duration.ofSeconds 8, Duration.ofSeconds 3600⟩

/-- A quarter of a second to eight seconds. -/
def quick : BackoffBounds := ⟨Duration.ofMillis 250, Duration.ofSeconds 8⟩

/-- The bounds are in order, and the lower one is positive. -/
def IsValid (bounds : BackoffBounds) : Prop :=
  bounds.shortest ≠ .zero ∧ bounds.shortest ≤ bounds.longest

instance (bounds : BackoffBounds) : Decidable bounds.IsValid :=
  inferInstanceAs (Decidable (_ ∧ _))

/-- Refuses bounds that are not valid. -/
def validate (bounds : BackoffBounds) : Outcome Unit :=
  if bounds.shortest = .zero then .error (.config .noNodeBackoff)
  else if bounds.longest < bounds.shortest then
    .error (.config (.nodeBackoffOrder bounds.shortest bounds.longest))
  else .ok ()

/-- Bounds are accepted exactly when they are valid. -/
theorem validate_eq_ok_iff {bounds : BackoffBounds} :
    bounds.validate = .ok () ↔ bounds.IsValid := by
  unfold validate IsValid
  by_cases hzero : bounds.shortest = .zero
  · simp [hzero]
  · by_cases horder : bounds.longest < bounds.shortest
    · have : ¬ bounds.shortest ≤ bounds.longest := Nat.not_le.2 horder
      simp [hzero, horder, this]
    · have : bounds.shortest ≤ bounds.longest := Nat.not_lt.1 horder
      simp [hzero, horder, this]

end BackoffBounds

end LedgerClient
