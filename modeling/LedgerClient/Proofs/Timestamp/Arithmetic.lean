import LedgerClient.Proofs.Timestamp.Order
import Mathlib.Data.Int.ModEq

/-!
# Spans added to points in time

Points in time repeat after 2^64 seconds, and a span is added and taken off exactly up to that. So
a span that is taken off again leaves a normal point as it was, and two spans are added like their
sum. The order does not see the repetition: a span leads to a later point as long as the seconds of
that point fit 64 bits.

The span back to an earlier point is counted in nanoseconds of 64 bits. So there is none over 2^64
nanoseconds or more, though spans as long as that can be added; a shorter one leads from the earlier
point to the later.
-/

namespace LedgerClient

namespace Duration

/-- The sum of two spans, if it is a span. -/
def plus? (a b : Duration) : Option Duration := ofNanos? (a.nanos + b.nanos)

theorem plus?_eq_some_iff {a b sum : Duration} :
    a.plus? b = some sum ↔ a.nanos + b.nanos = sum.nanos := by
  rw [plus?, ofNanos?, Option.dite_none_right_eq_some]
  constructor
  · rintro ⟨_, hsum⟩
    exact congrArg nanos (Option.some.inj hsum)
  · intro hsum
    exact ⟨hsum ▸ sum.nanos_lt, congrArg some (ext_nanos hsum)⟩

end Duration

namespace Timestamp

/-! ### Points repeat -/

/-- The nanoseconds after which points repeat. -/
def period : Int := 2 ^ 64 * 1000000000

theorem toInt_seconds_ofTotal (total : Int) :
    (ofTotal total).seconds.toInt = (total / 1000000000).bmod (2 ^ 64) := Int64.toInt_ofInt

theorem ofTotal_eq_ofTotal_iff {m n : Int} : ofTotal m = ofTotal n ↔ m ≡ n [ZMOD period] := by
  rw [eq_iff, toInt_seconds_ofTotal, toInt_seconds_ofTotal, toNat_nanos_ofTotal,
    toNat_nanos_ofTotal, Int.bmod_def, Int.bmod_def]
  unfold Int.ModEq period
  omega

theorem total_ofTotal_modEq (total : Int) : (ofTotal total).total ≡ total [ZMOD period] :=
  ofTotal_eq_ofTotal_iff.mp (ofTotal_total (isNormal_ofTotal total))

/-! ### Sums and differences -/

theorem isNormal_sub (t : Timestamp) (d : Duration) : (t - d).IsNormal := isNormal_ofTotal _

theorem add_sub_cancel {t : Timestamp} (hnormal : t.IsNormal) (d : Duration) : t + d - d = t := by
  have hsame : (t + d).total - d.nanos ≡ t.total + d.nanos - d.nanos [ZMOD period] :=
    (total_ofTotal_modEq _).sub_right _
  rw [sub_def, ofTotal_eq_ofTotal_iff.mpr hsame, Int.add_sub_cancel, ofTotal_total hnormal]

theorem add_add {t : Timestamp} {a b sum : Duration} (hsum : a.plus? b = some sum) :
    t + a + b = t + sum := by
  have hsame : (t + a).total + b.nanos ≡ t.total + a.nanos + b.nanos [ZMOD period] :=
    (total_ofTotal_modEq _).add_right _
  have hnanos := Duration.plus?_eq_some_iff.mp hsum
  rw [add_def (t + a), ofTotal_eq_ofTotal_iff.mpr hsame, add_def, ← hnanos, Int.natCast_add,
    Int.add_assoc]

/-- Two spans that lead to a point within 64 bits have a sum: the longest span is longer than the
way from the first point to the last. -/
theorem exists_plus {t : Timestamp} {a b : Duration}
    (hrange : t.total + a.nanos + b.nanos < 2 ^ 63 * 1000000000) :
    ∃ sum, a.plus? b = some sum := by
  have hlow := t.seconds.le_toInt
  have hsum : a.nanos + b.nanos < 18446744073709551616 * 1000000000 := by
    unfold total at hrange
    omega
  exact ⟨⟨_, hsum⟩, Duration.plus?_eq_some_iff.mpr rfl⟩

/-! ### The order of sums -/

theorem compare_eq_compare_total {a b : Timestamp} (ha : a.IsNormal) (hb : b.IsNormal) :
    compare a b = Ord.compare a.total b.total := by
  cases htotal : Ord.compare a.total b.total with
  | lt => exact (lt_iff_total_lt ha hb).mpr (Int.compare_eq_lt.mp htotal)
  | eq =>
      have hsame : a = b := by
        rw [← ofTotal_total ha, ← ofTotal_total hb, Int.compare_eq_eq.mp htotal]
      rw [hsame]
      unfold compare
      simp
  | gt =>
      have hgreater := Int.compare_eq_gt.mp htotal
      refine Classical.not_not.mp fun hle => ?_
      exact absurd ((le_iff_total_le ha hb).mp hle) (by omega)

theorem le_add {t : Timestamp} {d : Duration} (hnormal : t.IsNormal)
    (hrange : t.total + d.nanos < 2 ^ 63 * 1000000000) : t ≤ t + d := by
  rw [le_iff_total_le hnormal (isNormal_add t d), total_add hrange]
  omega

/-- No span is as long as the time after which points repeat. -/
theorem add_eq_self_iff {t : Timestamp} (hnormal : t.IsNormal) {d : Duration} :
    t + d = t ↔ d = .zero := by
  constructor
  · intro hsame
    have hmod : t.total + d.nanos ≡ t.total [ZMOD period] := by
      rw [← ofTotal_eq_ofTotal_iff, ofTotal_total hnormal]
      exact hsame
    have hlt := d.nanos_lt
    refine Duration.ext_nanos ?_
    show d.nanos = 0
    unfold Int.ModEq period at hmod
    omega
  · rintro rfl
    show ofTotal (t.total + 0) = t
    rw [Int.add_zero, ofTotal_total hnormal]

/-! ### Milliseconds -/

theorem total_ofMillis (ms : Int64) : (ofMillis ms).total = ms.toInt * 1000000 := by
  have hlow := ms.le_toInt
  have hhigh := ms.toInt_lt
  exact total_ofTotal (by omega) (by omega)

theorem millis_ofMillis (ms : Int64) : (ofMillis ms).millis = ms := by
  rw [millis, total_ofMillis, Int.mul_tdiv_cancel _ (by decide), Int64.ofInt_toInt]

/-- What is made or computed is normal, and normal points are ordered like their totals. A span
that is taken off again leaves the point as it was. As long as the seconds fit 64 bits, two spans
are added like their sum, which there is then, and a span leads to a point that is not earlier, and
is the same one only if the span is empty. Milliseconds read back. -/
theorem span_arithmetic_lawful :
    ((∀ seconds nanos, (normal seconds nanos).IsNormal) ∧ (∀ ms, (ofMillis ms).IsNormal) ∧
      ∀ (t : Timestamp) (d : Duration), (t + d).IsNormal ∧ (t - d).IsNormal) ∧
    (∀ s t : Timestamp, s.IsNormal → t.IsNormal →
      compare s t = Ord.compare s.total t.total) ∧
    (∀ (t : Timestamp) (a : Duration), t.IsNormal → t + a - a = t) ∧
    (∀ (t : Timestamp) (a b : Duration), t.total + a.nanos + b.nanos < 2 ^ 63 * 1000000000 →
      ∃ sum, a.plus? b = some sum ∧ t + a + b = t + sum) ∧
    (∀ (t : Timestamp) (a : Duration), t.IsNormal → t.total + a.nanos < 2 ^ 63 * 1000000000 →
      t ≤ t + a ∧ (t + a = t ↔ a = .zero)) ∧
    ∀ ms, (ofMillis ms).millis = ms := by
  refine ⟨⟨fun _ _ => isNormal_ofTotal _, fun _ => isNormal_ofTotal _, fun t d => ?_⟩,
    fun _ _ => compare_eq_compare_total, fun t a hnormal => add_sub_cancel hnormal a,
    fun t a b hrange => ?_, fun t a hnormal hrange => ?_, millis_ofMillis⟩
  · exact ⟨isNormal_add t d, isNormal_sub t d⟩
  · obtain ⟨sum, hsum⟩ := exists_plus hrange
    exact ⟨sum, hsum, add_add hsum⟩
  · exact ⟨le_add hnormal hrange, add_eq_self_iff hnormal⟩

/-- Two spans from the first second there is to the last. -/
theorem span_arithmetic_lawful_first_to_last :
    let t : Timestamp := ⟨Int64.minValue, 999999999⟩
    let a := Duration.ofSeconds 18446744073709551614
    let b := Duration.ofSeconds 1
    t.IsNormal ∧ epoch.IsNormal ∧ t.total + a.nanos + b.nanos < 2 ^ 63 * 1000000000 ∧
      t.total + a.nanos < 2 ^ 63 * 1000000000 ∧
      compare t epoch = Ord.compare t.total epoch.total ∧ t + a - a = t ∧
      (∃ sum, a.plus? b = some sum ∧ t + a + b = t + sum) ∧ t ≤ t + a ∧
      (t + a = t ↔ a = .zero) := by
  intro t a b
  have hnormal : t.IsNormal := by decide
  have hepoch : epoch.IsNormal := by decide
  have hboth : t.total + a.nanos + b.nanos < 2 ^ 63 * 1000000000 := by decide
  have hfirst : t.total + a.nanos < 2 ^ 63 * 1000000000 := by decide
  obtain ⟨_, horder, hback, hsum, hlater, _⟩ := span_arithmetic_lawful
  exact ⟨hnormal, hepoch, hboth, hfirst, horder t epoch hnormal hepoch, hback t a hnormal,
    hsum t a b hboth, hlater t a hnormal hfirst⟩

/-- Behind the last second a span leads back to the first one. -/
example : (Timestamp.mk Int64.maxValue 0) + Duration.ofSeconds 1 = ⟨Int64.minValue, 0⟩ := by
  decide

/-! ### The span back -/

theorem since?_eq_none_iff {t earlier : Timestamp} :
    t.since? earlier = none ↔ t.total < earlier.total ∨ earlier.total + 2 ^ 64 ≤ t.total := by
  unfold since?
  rw [dite_eq_right_iff]
  simp only [reduceCtorEq, imp_false]
  omega

theorem since?_eq_some_iff {t earlier : Timestamp} {d : Duration} :
    t.since? earlier = some d ↔ earlier.total + d.nanos = t.total ∧ d.nanos < 2 ^ 64 := by
  unfold since?
  rw [Option.dite_none_right_eq_some]
  constructor
  · rintro ⟨hfits, hspan⟩
    have hnanos : (t.total - earlier.total).toNat = d.nanos :=
      congrArg Duration.nanos (Option.some.inj hspan)
    omega
  · rintro ⟨htotal, hfits⟩
    have hnanos : (t.total - earlier.total).toNat = d.nanos := by omega
    exact ⟨by omega, congrArg some (Duration.ext_nanos hnanos)⟩

theorem add_of_since? {t earlier : Timestamp} {d : Duration} (hnormal : t.IsNormal)
    (hspan : t.since? earlier = some d) : earlier + d = t := by
  rw [add_def, (since?_eq_some_iff.mp hspan).1, ofTotal_total hnormal]

/-- The span back to another point is missing exactly when that point is later, or earlier by 2^64
nanoseconds or more. Otherwise it leads from that point to this one. -/
theorem elapsed_span_outcome {t earlier : Timestamp} (ht : t.IsNormal)
    (hearlier : earlier.IsNormal) :
    (t.since? earlier = none ↔ t < earlier ∨ earlier.total + 2 ^ 64 ≤ t.total) ∧
    ∀ d, t.since? earlier = some d → earlier + d = t := by
  rw [lt_iff_total_lt ht hearlier]
  exact ⟨since?_eq_none_iff, fun _ => add_of_since? ht⟩

/-- The longest span that is found, over the epoch. -/
theorem elapsed_span_outcome_longest :
    let t : Timestamp := ⟨9223372036, 854775807⟩
    let earlier : Timestamp := ⟨-9223372037, 145224192⟩
    let d : Duration := ⟨18446744073709551615, by decide⟩
    t.IsNormal ∧ earlier.IsNormal ∧ t.since? earlier = some d ∧ earlier + d = t ∧
      ¬ (t < earlier ∨ earlier.total + 2 ^ 64 ≤ t.total) := by
  intro t earlier d
  have ht : t.IsNormal := by decide
  have hearlier : earlier.IsNormal := by decide
  have hspan : t.since? earlier = some d := by decide
  obtain ⟨hmissing, hleads⟩ := elapsed_span_outcome ht hearlier
  refine ⟨ht, hearlier, hspan, hleads d hspan, ?_⟩
  rw [← hmissing, hspan]
  exact Option.some_ne_none d

/-- The epoch is not later than the point 2^64 nanoseconds after it, and a span leads to that point,
but none is found. -/
theorem too_long_span_is_missing :
    let t : Timestamp := ⟨18446744073, 709551616⟩
    let d : Duration := ⟨18446744073709551616, by decide⟩
    t.IsNormal ∧ epoch.IsNormal ∧ ¬ t < epoch ∧ epoch + d = t ∧ t.since? epoch = none := by
  decide

end Timestamp

end LedgerClient
