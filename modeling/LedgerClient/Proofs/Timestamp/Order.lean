import LedgerClient.Timestamp
import Mathlib.Algebra.Group.Int.Defs

/-!
# The order of points in time

Between normal points the order is that of the totals of nanoseconds, and the total
of a point that is written back is exact as long as its seconds fit.
-/

namespace LedgerClient.Timestamp

theorem lt_iff {a b : Timestamp} :
    a < b ↔ a.seconds.toInt < b.seconds.toInt ∨
      a.seconds.toInt = b.seconds.toInt ∧ a.nanos.toNat < b.nanos.toNat := by
  show compare a b = .lt ↔ _
  unfold compare
  rw [Ordering.then_eq_lt]
  simp [Int.compare_eq_lt, Nat.compare_eq_lt]

theorem le_iff {a b : Timestamp} :
    a ≤ b ↔ a.seconds.toInt < b.seconds.toInt ∨
      a.seconds.toInt = b.seconds.toInt ∧ a.nanos.toNat ≤ b.nanos.toNat := by
  show compare a b ≠ .gt ↔ _
  unfold compare
  rw [Ne, Ordering.then_eq_gt]
  simp [Int.compare_eq_gt, Nat.compare_eq_gt]
  omega

theorem eq_iff {a b : Timestamp} :
    a = b ↔ a.seconds.toInt = b.seconds.toInt ∧ a.nanos.toNat = b.nanos.toNat := by
  rw [Int64.toInt_inj, UInt32.toNat_inj]
  exact Timestamp.mk.injEq .. ▸ Iff.rfl

theorem lt_irrefl (a : Timestamp) : ¬ a < a := by
  rw [lt_iff]
  omega

theorem le_of_le_of_lt {a b c : Timestamp} (hab : a ≤ b) (hbc : b < c) : a ≤ c := by
  rw [le_iff] at hab ⊢
  rw [lt_iff] at hbc
  omega

theorem lt_iff_total_lt {a b : Timestamp} (ha : a.IsNormal) (hb : b.IsNormal) :
    a < b ↔ a.total < b.total := by
  unfold IsNormal at ha hb
  rw [lt_iff]
  unfold total
  omega

theorem le_iff_total_le {a b : Timestamp} (ha : a.IsNormal) (hb : b.IsNormal) :
    a ≤ b ↔ a.total ≤ b.total := by
  unfold IsNormal at ha hb
  rw [le_iff]
  unfold total
  omega

theorem toNat_nanos_ofTotal (total : Int) :
    (ofTotal total).nanos.toNat = (total % 1000000000).toNat := by
  unfold ofTotal
  exact UInt32.toNat_ofNat_of_lt' (by
    show (total % 1000000000).toNat < 4294967296
    omega)

theorem isNormal_ofTotal (total : Int) : (ofTotal total).IsNormal := by
  unfold IsNormal
  rw [toNat_nanos_ofTotal]
  omega

/-- A normal point is what its total is written back to. -/
theorem ofTotal_total {t : Timestamp} (hnormal : t.IsNormal) : ofTotal t.total = t := by
  have hlow := t.seconds.le_toInt
  have hhigh := t.seconds.toInt_lt
  unfold IsNormal at hnormal
  have hseconds : t.total / 1000000000 = t.seconds.toInt := by
    unfold total
    omega
  have hnanos : (t.total % 1000000000).toNat = t.nanos.toNat := by
    unfold total
    omega
  rw [ofTotal, hseconds, hnanos, Int64.ofInt_toInt, UInt32.ofNat_toNat]

theorem isNormal_add (t : Timestamp) (d : Duration) : (t + d).IsNormal := isNormal_ofTotal _

/-- A total is kept when its seconds have 64 bits. -/
theorem total_ofTotal {total : Int} (hlow : -2 ^ 63 ≤ total / 1000000000)
    (hhigh : total / 1000000000 < 2 ^ 63) : (ofTotal total).total = total := by
  have hseconds : (ofTotal total).seconds.toInt = total / 1000000000 :=
    Int64.toInt_ofInt_of_le hlow hhigh
  unfold Timestamp.total
  rw [hseconds, toNat_nanos_ofTotal]
  omega

/-- A span is added exactly as long as the seconds fit. -/
theorem total_add {t : Timestamp} {d : Duration} (hrange : t.total + d.nanos < 2 ^ 63 * 1000000000) :
    (t + d).total = t.total + d.nanos := by
  have hlow := t.seconds.le_toInt
  rw [add_def]
  refine total_ofTotal ?_ ?_ <;> unfold total at * <;> omega

/-- What is not before the nanosecond after a point is what is after the point. -/
theorem add_nano_le_iff {a b : Timestamp} {nano : Duration} (hnano : nano.nanos = 1)
    (ha : a.IsNormal) (hseconds : a.seconds.toInt < 2 ^ 63 - 1) (hb : b.IsNormal) :
    a + nano ≤ b ↔ a < b := by
  have hlow := a.seconds.le_toInt
  have hsum : (a + nano).total = a.total + 1 := by
    rw [add_def, hnano]
    unfold IsNormal at ha
    refine total_ofTotal ?_ ?_ <;> unfold total <;> omega
  have hnormal : (a + nano).IsNormal := isNormal_ofTotal _
  rw [le_iff_total_le hnormal hb, lt_iff_total_lt ha hb, hsum]
  omega

end LedgerClient.Timestamp
