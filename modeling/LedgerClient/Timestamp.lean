import LedgerClient.Duration
import LedgerClient.Text.Numeral

/-!
# Points in time

A point in time is a signed count of seconds and a count of nanoseconds. All
arithmetic goes through the exact total of nanoseconds; writing a total back
splits it so that the nanoseconds are below one second, and wraps the seconds
at 64 bits. A point read from elsewhere may carry any 32-bit count of
nanoseconds, which the order and the text show as it is.
-/

namespace LedgerClient

/-- A point in time. -/
structure Timestamp where
  seconds : Int64
  nanos : UInt32
  deriving DecidableEq, Hashable

namespace Timestamp

/-- Nanoseconds since the epoch. -/
def total (t : Timestamp) : Int := t.seconds.toInt * 1000000000 + t.nanos.toNat

/-- The point `total` nanoseconds after the epoch. -/
def ofTotal (total : Int) : Timestamp :=
  ⟨Int64.ofInt (total / 1000000000), UInt32.ofNat (total % 1000000000).toNat⟩

/-- The epoch. -/
def epoch : Timestamp := ⟨0, 0⟩

instance : Inhabited Timestamp := ⟨epoch⟩

/-- The point `seconds` and `nanos` after the epoch, the nanoseconds carried over. -/
def normal (seconds : Int64) (nanos : UInt32) : Timestamp :=
  ofTotal (Timestamp.mk seconds nanos).total

/-- The nanoseconds are below one second. -/
def IsNormal (t : Timestamp) : Prop := t.nanos.toNat < 1000000000

instance (t : Timestamp) : Decidable t.IsNormal :=
  inferInstanceAs (Decidable (t.nanos.toNat < 1000000000))

/-- The point `ms` milliseconds after the epoch. -/
def ofMillis (ms : Int64) : Timestamp := ofTotal (ms.toInt * 1000000)

/-- Whole milliseconds since the epoch, rounded toward it. -/
def millis (t : Timestamp) : Int64 := Int64.ofInt (t.total.tdiv 1000000)

instance : HAdd Timestamp Duration Timestamp := ⟨fun t d => ofTotal (t.total + d.nanos)⟩
instance : HSub Timestamp Duration Timestamp := ⟨fun t d => ofTotal (t.total - d.nanos)⟩

theorem add_def (t : Timestamp) (d : Duration) : t + d = ofTotal (t.total + d.nanos) := rfl
theorem sub_def (t : Timestamp) (d : Duration) : t - d = ofTotal (t.total - d.nanos) := rfl

/-- The span from `earlier` to `t`: none when it is negative or does not fit 64 bits of
nanoseconds. -/
def since? (t earlier : Timestamp) : Option Duration :=
  let span := t.total - earlier.total
  if h : 0 ≤ span ∧ span < 18446744073709551616 then some ⟨span.toNat, by omega⟩ else none

/-- Order by seconds, then by nanoseconds as they stand. -/
def compare (a b : Timestamp) : Ordering :=
  (Ord.compare a.seconds.toInt b.seconds.toInt).then (Ord.compare a.nanos.toNat b.nanos.toNat)

instance : Ord Timestamp := ⟨compare⟩
instance : LT Timestamp := ⟨fun a b => compare a b = .lt⟩
instance : LE Timestamp := ⟨fun a b => compare a b ≠ .gt⟩
instance (a b : Timestamp) : Decidable (a < b) := inferInstanceAs (Decidable (compare a b = .lt))
instance (a b : Timestamp) : Decidable (a ≤ b) := inferInstanceAs (Decidable (compare a b ≠ .gt))

/-- Seconds, a point, and the nanoseconds in at least nine digits. -/
def text (t : Timestamp) : String :=
  toString t.seconds.toInt ++ "." ++ String.ofList (Numeral.padded 9 t.nanos.toNat)

end Timestamp

end LedgerClient
