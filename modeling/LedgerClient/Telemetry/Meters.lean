/-!
# Meters

Calls count what they do: attempts, retries, failures charged to nodes, rejections
and exhausted budgets, each under its labels. They also note how long each attempt
took.
-/

namespace LedgerClient

/-- What is counted, with its labels. -/
inductive Counter where
  /-- Attempts sent to nodes. -/
  | attempts (operation : String)
  /-- Attempts after which the call went on. -/
  | retries (operation reason : String)
  /-- Failures charged to a node. -/
  | nodeFailures (node : String)
  /-- Final refusals. -/
  | rejections (status : String)
  /-- Calls that used up their attempts. -/
  | exhausted (operation : String)
  deriving DecidableEq

/-- The counter that stands for all that are counted as one. The values of labels are kept as one
text without a mark between them, so labels that read the same together are not told apart. -/
def Counter.place : Counter → Counter
  | .retries operation reason => .retries (operation ++ reason) ""
  | counter => counter

/-- All counts, each under the first counter of its place, and the durations noted for each operation
in order. -/
structure Meters where
  counts : List (Counter × Nat) := []
  durations : List (String × List Float) := []
  deriving Inhabited

namespace Meters

section Pairs

variable {κ π ν : Type} [DecidableEq π] (place : κ → π)

/-- Changes the value at the place of a key in a list of pairs; `start` stands for a value that is
not there. A key that is there stays as it is. -/
def update (key : κ) (start : ν) (change : ν → ν) : List (κ × ν) → List (κ × ν)
  | [] => [(key, change start)]
  | (other, value) :: rest =>
      if place other = place key then (other, change value) :: rest
      else (other, value) :: update key start change rest

/-- The value at the place of a key in a list of pairs. -/
def valueOr (key : κ) (start : ν) : List (κ × ν) → ν
  | [] => start
  | (other, value) :: rest => if place other = place key then value else valueOr key start rest

theorem valueOr_update (key other : κ) (start : ν) (change : ν → ν) (pairs : List (κ × ν)) :
    valueOr place other start (update place key start change pairs) =
      if place key = place other then change (valueOr place key start pairs)
      else valueOr place other start pairs := by
  induction pairs with
  | nil => by_cases h : place key = place other <;> simp [update, valueOr, h]
  | cons pair rest ih =>
      obtain ⟨first, value⟩ := pair
      by_cases hkey : place first = place key
      · by_cases h : place key = place other <;> simp [update, valueOr, hkey, h]
      · by_cases hother : place first = place other
        · have hne : place other ≠ place key := hother ▸ hkey
          simp [update, valueOr, hother, hne, hne.symm]
        · simp [update, valueOr, hkey, hother, ih]

theorem valueOr_eq_of_place_eq {key other : κ} (hplace : place key = place other) (start : ν)
    (pairs : List (κ × ν)) : valueOr place key start pairs = valueOr place other start pairs := by
  induction pairs with
  | nil => rfl
  | cons pair rest ih => simp only [valueOr, hplace, ih]

end Pairs

/-- How often something was counted. -/
def count (meters : Meters) (counter : Counter) : Nat :=
  valueOr Counter.place counter 0 meters.counts

/-- Counts something `times` over. -/
def add (meters : Meters) (counter : Counter) (times : Nat) : Meters :=
  { meters with counts := update Counter.place counter 0 (· + times) meters.counts }

/-- Counts something once. -/
def bump (meters : Meters) (counter : Counter) : Meters := meters.add counter 1

/-- Notes how many seconds an attempt of an operation took. -/
def observe (meters : Meters) (operation : String) (seconds : Float) : Meters :=
  { meters with durations := update id operation [] (· ++ [seconds]) meters.durations }

theorem count_add (meters : Meters) (counter other : Counter) (times : Nat) :
    (meters.add counter times).count other =
      if counter.place = other.place then meters.count counter + times else meters.count other :=
  valueOr_update Counter.place counter other 0 (· + times) meters.counts

theorem count_bump (meters : Meters) (counter other : Counter) :
    (meters.bump counter).count other =
      meters.count other + if counter.place = other.place then 1 else 0 := by
  unfold bump
  rw [count_add]
  split
  next hplace => rw [count, count, valueOr_eq_of_place_eq Counter.place hplace]
  next => rfl

@[simp] theorem count_observe (meters : Meters) (operation : String) (seconds : Float)
    (counter : Counter) : (meters.observe operation seconds).count counter = meters.count counter :=
  rfl

end Meters

end LedgerClient
