import LedgerClient.Node.Health
import LedgerClient.Proofs.Timestamp.Order
import Mathlib.Algebra.Order.Ring.Nat
import Mathlib.Data.List.Induction
import Mathlib.Data.Nat.Find

/-!
# The course of a health record

Whatever is entered in a record, its backoff stays within the bounds, and the node is
readmitted when the backoff that the last failure led to has passed since that failure.
Failures in a row take the backoff from the lower bound to the upper one.
-/

namespace LedgerClient

namespace BackoffBounds

theorem exists_doublings {bounds : BackoffBounds} (hvalid : bounds.IsValid) :
    ∃ count, bounds.longest.nanos ≤ bounds.shortest.nanos * 2 ^ count := by
  have hpos : 0 < bounds.shortest.nanos := by
    refine Nat.pos_of_ne_zero fun hzero => hvalid.1 (Duration.ext_nanos hzero)
  refine ⟨bounds.longest.nanos, ?_⟩
  calc bounds.longest.nanos ≤ 2 ^ bounds.longest.nanos := Nat.le_of_lt Nat.lt_two_pow_self
    _ ≤ bounds.shortest.nanos * 2 ^ bounds.longest.nanos := Nat.le_mul_of_pos_left _ hpos

/-- How often the lower bound has to be doubled, at the least, to reach the upper one. -/
def doublings (bounds : BackoffBounds) (hvalid : bounds.IsValid) : Nat :=
  Nat.find (exists_doublings hvalid)

theorem longest_le_of_doublings_le {bounds : BackoffBounds} (hvalid : bounds.IsValid) {count : Nat}
    (hcount : bounds.doublings hvalid ≤ count) :
    bounds.longest.nanos ≤ bounds.shortest.nanos * 2 ^ count :=
  Nat.le_trans (Nat.find_spec (exists_doublings hvalid))
    (Nat.mul_le_mul_left _ (Nat.pow_le_pow_right (by decide) hcount))

end BackoffBounds

namespace Health

/-- What is entered in a record. -/
inductive Entry where
  | failure (now : Timestamp)
  | success
  | use (now : Timestamp)

/-- Makes an entry. -/
def enter (health : Health) : Entry → Health
  | .failure now => health.fail now
  | .success => health.succeed
  | .use now => health.use now

/-- The record of a node after some entries. -/
def ofEntries (bounds : BackoffBounds) (entries : List Entry) : Health :=
  entries.foldl enter (.fresh bounds)

theorem ofEntries_append_singleton (bounds : BackoffBounds) (entries : List Entry) (entry : Entry) :
    ofEntries bounds (entries ++ [entry]) = (ofEntries bounds entries).enter entry := by
  rw [ofEntries, List.foldl_append]
  rfl

theorem ofEntries_append (bounds : BackoffBounds) (earlier later : List Entry) :
    ofEntries bounds (earlier ++ later) = later.foldl enter (ofEntries bounds earlier) :=
  List.foldl_append

theorem nanos_backoff_fail (health : Health) (now : Timestamp) :
    (health.fail now).backoff.nanos =
      min (2 * health.backoff.nanos) health.bounds.longest.nanos := by
  have hlongest : health.bounds.longest.nanos ≤ Duration.longest.nanos :=
    Nat.le_pred_of_lt health.bounds.longest.nanos_lt
  simp only [fail, Duration.nanos_min, Duration.nanos_double]
  omega

theorem nanos_backoff_succeed (health : Health) :
    health.succeed.backoff.nanos =
      max (health.backoff.nanos / 2) health.bounds.shortest.nanos := by
  simp only [succeed, Duration.nanos_max, Duration.nanos_half]

/-! ### Bounds -/

/-- The backoff is within given bounds, which are those of the record. -/
structure IsWithin (health : Health) (bounds : BackoffBounds) : Prop where
  bounds_eq : health.bounds = bounds
  shortest_le : bounds.shortest.nanos ≤ health.backoff.nanos
  le_longest : health.backoff.nanos ≤ bounds.longest.nanos

theorem IsWithin.enter {health : Health} {bounds : BackoffBounds} (hvalid : bounds.IsValid)
    (hwithin : health.IsWithin bounds) (entry : Entry) : (health.enter entry).IsWithin bounds := by
  obtain ⟨rfl, hlow, hhigh⟩ := hwithin
  have horder : health.bounds.shortest.nanos ≤ health.bounds.longest.nanos := hvalid.2
  cases entry with
  | failure now =>
      have hbackoff := health.nanos_backoff_fail now
      exact ⟨rfl, by rw [Health.enter, hbackoff]; omega, by rw [Health.enter, hbackoff]; omega⟩
  | success =>
      have hbackoff := health.nanos_backoff_succeed
      exact ⟨rfl, by rw [Health.enter, hbackoff]; omega, by rw [Health.enter, hbackoff]; omega⟩
  | use now => exact ⟨rfl, hlow, hhigh⟩

theorem isWithin_ofEntries {bounds : BackoffBounds} (hvalid : bounds.IsValid)
    (entries : List Entry) : (ofEntries bounds entries).IsWithin bounds := by
  induction entries using List.reverseRecOn with
  | nil => exact ⟨rfl, Nat.le_refl _, hvalid.2⟩
  | append_singleton entries entry ih =>
      rw [ofEntries_append_singleton]
      exact ih.enter hvalid entry

/-- A failure more leaves the backoff at the upper bound, or twice as far from the lower one. -/
theorem le_backoff_fail {health : Health} {bounds : BackoffBounds}
    (hwithin : health.IsWithin bounds) {count : Nat}
    (hgrown : min (bounds.shortest.nanos * 2 ^ count) bounds.longest.nanos ≤ health.backoff.nanos)
    (now : Timestamp) :
    min (bounds.shortest.nanos * 2 ^ (count + 1)) bounds.longest.nanos ≤
      (health.fail now).backoff.nanos := by
  rw [nanos_backoff_fail, hwithin.bounds_eq, Nat.pow_succ, ← Nat.mul_assoc]
  omega

/-! ### Readmission -/

theorem readmitAt_of_no_failure (health : Health) {later : List Entry}
    (hnone : ∀ now, .failure now ∉ later) :
    (later.foldl enter health).readmitAt = health.readmitAt := by
  induction later generalizing health with
  | nil => rfl
  | cons entry rest ih =>
      rw [List.foldl_cons, ih _ fun now hmem => hnone now (List.mem_cons_of_mem _ hmem)]
      cases entry with
      | failure now => exact absurd List.mem_cons_self (hnone now)
      | success => rfl
      | use now => rfl

theorem readmitAt_of_last_failure (bounds : BackoffBounds) (earlier : List Entry) (now : Timestamp)
    {later : List Entry} (hnone : ∀ other, .failure other ∉ later) :
    (ofEntries bounds (earlier ++ .failure now :: later)).readmitAt =
      some (now + ((ofEntries bounds earlier).fail now).backoff) := by
  rw [ofEntries_append, List.foldl_cons, readmitAt_of_no_failure _ hnone]
  rfl

/-- There is no failure among some entries, or there is a last one. -/
theorem exists_last_failure (entries : List Entry) :
    (∀ now, .failure now ∉ entries) ∨
      ∃ earlier now later, entries = earlier ++ .failure now :: later ∧
        ∀ other, .failure other ∉ later := by
  induction entries with
  | nil => exact .inl fun _ => List.not_mem_nil
  | cons entry rest ih =>
      rcases ih with hnone | ⟨earlier, now, later, rfl, hlater⟩
      · cases entry with
        | failure now => exact .inr ⟨[], now, rest, rfl, hnone⟩
        | success => exact .inl fun now hmem => hnone now (by simpa using hmem)
        | use moment => exact .inl fun now hmem => hnone now (by simpa using hmem)
      · exact .inr ⟨entry :: earlier, now, later, rfl, hlater⟩

/-- A node is readmitted when the backoff has passed that its last failure led to. -/
theorem readmitAt_ofEntries_eq_some {bounds : BackoffBounds} {entries : List Entry}
    {readmitAt : Timestamp} (hreadmitted : (ofEntries bounds entries).readmitAt = some readmitAt) :
    ∃ earlier now later, entries = earlier ++ .failure now :: later ∧
      (∀ other, .failure other ∉ later) ∧
      readmitAt = now + ((ofEntries bounds earlier).fail now).backoff := by
  rcases exists_last_failure entries with hnone | ⟨earlier, now, later, rfl, hlater⟩
  · cases (readmitAt_of_no_failure (fresh bounds) hnone).symm.trans hreadmitted
  · rw [readmitAt_of_last_failure bounds earlier now hlater] at hreadmitted
    exact ⟨earlier, now, later, rfl, hlater, (Option.some.inj hreadmitted).symm⟩

end Health

end LedgerClient
