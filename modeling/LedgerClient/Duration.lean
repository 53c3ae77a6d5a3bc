/-!
# Durations

A span of time is a whole number of nanoseconds below 2^64 seconds. Doubling
saturates at the longest span; multiplying says when it would pass it.
-/

namespace LedgerClient

/-- Nanoseconds in a second. -/
def nanosPerSecond : Nat := 1000000000

/-- A span of time, shorter than 2^64 seconds. -/
structure Duration where
  /-- The whole span in nanoseconds. -/
  nanos : Nat
  nanos_lt : nanos < 18446744073709551616 * 1000000000 := by decide
  deriving DecidableEq

namespace Duration

/-- The longest span. -/
def longest : Duration := ⟨18446744073709551616 * 1000000000 - 1, by decide⟩

/-- The empty span. -/
def zero : Duration := ⟨0, by decide⟩

/-- A span of `n` nanoseconds, or the longest one. -/
def saturate (n : Nat) : Duration :=
  ⟨min n longest.nanos, Nat.lt_of_le_of_lt (Nat.min_le_right _ _) longest.nanos_lt⟩

/-- A span of `n` nanoseconds, if there is one. -/
def ofNanos? (n : Nat) : Option Duration :=
  if h : n < 18446744073709551616 * 1000000000 then some ⟨n, h⟩ else none

/-- A span of whole milliseconds. -/
def ofMillis (ms : UInt64) : Duration :=
  ⟨ms.toNat * 1000000, by have := ms.toNat_lt; omega⟩

/-- A span of whole seconds. -/
def ofSeconds (s : UInt64) : Duration :=
  ⟨s.toNat * 1000000000, by have := s.toNat_lt; omega⟩

/-- Whole seconds of a span. -/
def seconds (d : Duration) : UInt64 := UInt64.ofNat (d.nanos / 1000000000)

/-- Nanoseconds beyond the whole seconds. -/
def subsecond (d : Duration) : Nat := d.nanos % 1000000000

/-- Twice the span, or the longest one. -/
def double (d : Duration) : Duration := saturate (2 * d.nanos)

/-- `factor` times the span, if that is a span. -/
def times? (d : Duration) (factor : Nat) : Option Duration := ofNanos? (d.nanos * factor)

/-- Half the span, rounded down. -/
def half (d : Duration) : Duration :=
  ⟨d.nanos / 2, Nat.lt_of_le_of_lt (Nat.div_le_self _ _) d.nanos_lt⟩

instance : LE Duration := ⟨fun a b => a.nanos ≤ b.nanos⟩
instance : LT Duration := ⟨fun a b => a.nanos < b.nanos⟩
instance (a b : Duration) : Decidable (a ≤ b) := inferInstanceAs (Decidable (a.nanos ≤ b.nanos))
instance (a b : Duration) : Decidable (a < b) := inferInstanceAs (Decidable (a.nanos < b.nanos))
instance : Min Duration := ⟨fun a b => if a ≤ b then a else b⟩
instance : Max Duration := ⟨fun a b => if a ≤ b then b else a⟩

/-- Whole milliseconds, a begun one counted in full. -/
def ceilMillis (d : Duration) : Nat := (d.nanos + 999999) / 1000000

/-- Digits of `fraction` in `width` places, without the zeros at the end. -/
def fractionDigits (width fraction : Nat) : List Char :=
  let digits := Nat.toDigits 10 fraction
  let placed := List.replicate (width - digits.length) '0' ++ digits
  (placed.reverse.dropWhile (· = '0')).reverse

/-- A count of units with a fraction of `width` places. -/
def inUnits (whole fraction width : Nat) (unit : String) : String :=
  let digits := if fraction = 0 then [] else '.' :: fractionDigits width fraction
  toString whole ++ String.ofList digits ++ unit

/-- The span in the largest of the units s, ms, µs and ns that is not below one, with as many
decimals as it has. -/
def text (d : Duration) : String :=
  if 1000000000 ≤ d.nanos then inUnits (d.nanos / 1000000000) (d.nanos % 1000000000) 9 "s"
  else if 1000000 ≤ d.nanos then inUnits (d.nanos / 1000000) (d.nanos % 1000000) 6 "ms"
  else if 1000 ≤ d.nanos then inUnits (d.nanos / 1000) (d.nanos % 1000) 3 "µs"
  else inUnits d.nanos 0 0 "ns"

theorem ext_nanos {a b : Duration} (h : a.nanos = b.nanos) : a = b := by
  cases a; cases b; simp_all

theorem le_def {a b : Duration} : a ≤ b ↔ a.nanos ≤ b.nanos := Iff.rfl

theorem lt_def {a b : Duration} : a < b ↔ a.nanos < b.nanos := Iff.rfl

@[simp] theorem nanos_min (a b : Duration) : (min a b).nanos = min a.nanos b.nanos := by
  show (if a ≤ b then a else b).nanos = _
  simp only [le_def, Nat.min_def]
  split <;> rfl

@[simp] theorem nanos_max (a b : Duration) : (max a b).nanos = max a.nanos b.nanos := by
  show (if a ≤ b then b else a).nanos = _
  simp only [le_def, Nat.max_def]
  split <;> rfl

@[simp] theorem nanos_double (d : Duration) :
    d.double.nanos = min (2 * d.nanos) longest.nanos := rfl

@[simp] theorem nanos_half (d : Duration) : d.half.nanos = d.nanos / 2 := rfl

end Duration

end LedgerClient
