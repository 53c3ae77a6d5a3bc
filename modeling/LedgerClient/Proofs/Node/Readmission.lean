import LedgerClient.Proofs.Node.Health

/-!
# Benching and readmission

A record is told by its entries. Failures alone double the backoff from the lower bound to
the upper one, and successes alone halve it back. The node is benched until the backoff has
passed that its last failure led to. A failure puts the readmission anew, so it is the
successes since the failure before that may let it come sooner.
-/

namespace LedgerClient

namespace Health

variable {bounds : BackoffBounds}

/-! ### Kinds of entries -/

namespace Entry

def isFailure : Entry → Bool
  | .failure _ => true
  | _ => false

def isSuccess : Entry → Bool
  | .success => true
  | _ => false

def isUse : Entry → Bool
  | .use _ => true
  | _ => false

/-- The moment of an entry, if it has one. -/
def moment? : Entry → Option Timestamp
  | .failure now | .use now => some now
  | .success => none

end Entry

/-- The entries are made in the order of their times. -/
def InOrder (entries : List Entry) : Prop :=
  (entries.filterMap Entry.moment?).Pairwise fun a b => a.total ≤ b.total

instance (entries : List Entry) : Decidable (InOrder entries) :=
  inferInstanceAs (Decidable (List.Pairwise _ _))

/-! ### Counts -/

theorem failures_ofEntries (bounds : BackoffBounds) (entries : List Entry) :
    (ofEntries bounds entries).failures = UInt64.ofNat (entries.countP Entry.isFailure) := by
  induction entries using List.reverseRecOn with
  | nil => rfl
  | append_singleton entries entry ih =>
      rw [ofEntries_append_singleton, List.countP_append, UInt64.ofNat_add, ← ih]
      cases entry <;> simp [enter, Entry.isFailure, fail, succeed, use]

theorem uses_ofEntries (bounds : BackoffBounds) (entries : List Entry) :
    (ofEntries bounds entries).uses = UInt64.ofNat (entries.countP Entry.isUse) := by
  induction entries using List.reverseRecOn with
  | nil => rfl
  | append_singleton entries entry ih =>
      rw [ofEntries_append_singleton, List.countP_append, UInt64.ofNat_add, ← ih]
      cases entry <;> simp [enter, Entry.isUse, fail, succeed, use]

/-! ### Growing and healing -/

/-- As long as there is no success, each failure doubles the backoff, up to the upper bound. -/
theorem backoff_of_no_success (hvalid : bounds.IsValid) {entries : List Entry}
    (hnone : .success ∉ entries) :
    (ofEntries bounds entries).backoff.nanos =
      min (bounds.shortest.nanos * 2 ^ entries.countP Entry.isFailure) bounds.longest.nanos := by
  induction entries using List.reverseRecOn with
  | nil =>
      have horder : bounds.shortest.nanos ≤ bounds.longest.nanos := hvalid.2
      show bounds.shortest.nanos = min (bounds.shortest.nanos * 1) bounds.longest.nanos
      omega
  | append_singleton entries entry ih =>
      have hgrown := ih fun hmem => hnone (List.mem_append_left _ hmem)
      rw [ofEntries_append_singleton, List.countP_append]
      cases entry with
      | failure now =>
          have hbounds := (isWithin_ofEntries hvalid entries).bounds_eq
          show ((ofEntries bounds entries).fail now).backoff.nanos =
            min (bounds.shortest.nanos * 2 ^ (entries.countP Entry.isFailure + 1)) _
          rw [nanos_backoff_fail, hbounds, hgrown, Nat.pow_succ, ← Nat.mul_assoc]
          omega
      | success => exact absurd (List.mem_append_right _ (List.mem_singleton.mpr rfl)) hnone
      | use now => exact hgrown

theorem bounds_foldl (health : Health) (entries : List Entry) :
    (entries.foldl enter health).bounds = health.bounds := by
  induction entries generalizing health with
  | nil => rfl
  | cons entry rest ih =>
      rw [List.foldl_cons, ih]
      cases entry <;> rfl

/-- As long as there is no failure, each success halves the backoff, down to the lower bound. -/
theorem backoff_of_no_failure {health : Health}
    (hlow : health.bounds.shortest.nanos ≤ health.backoff.nanos) {later : List Entry}
    (hnone : ∀ now, .failure now ∉ later) :
    (later.foldl enter health).backoff.nanos =
      max (health.backoff.nanos / 2 ^ later.countP Entry.isSuccess)
        health.bounds.shortest.nanos := by
  induction later using List.reverseRecOn with
  | nil =>
      show health.backoff.nanos = max (health.backoff.nanos / 1) _
      omega
  | append_singleton later entry ih =>
      have hhealed := ih fun now hmem => hnone now (List.mem_append_left _ hmem)
      rw [List.foldl_append, List.countP_append]
      cases entry with
      | failure now =>
          exact absurd (List.mem_append_right _ (List.mem_singleton.mpr rfl)) (hnone now)
      | success =>
          show (later.foldl enter health).succeed.backoff.nanos =
            max (health.backoff.nanos / 2 ^ (later.countP Entry.isSuccess + 1)) _
          -- halving what was held at the lower bound is halving, held there once more
          rw [nanos_backoff_succeed, bounds_foldl, hhealed, Nat.pow_succ,
            ← Nat.div_div_eq_div_mul]
          omega
      | use now => exact hhealed

/-- As many successes as the lower bound takes doublings to the upper one heal any backoff. -/
theorem backoff_of_doublings_le (hvalid : bounds.IsValid) (entries : List Entry)
    {later : List Entry} (hnone : ∀ now, .failure now ∉ later)
    (hmany : bounds.doublings hvalid ≤ later.countP Entry.isSuccess) :
    (ofEntries bounds (entries ++ later)).backoff = bounds.shortest := by
  obtain ⟨hbounds, hlow, hhigh⟩ := isWithin_ofEntries hvalid entries
  refine Duration.ext_nanos ?_
  rw [ofEntries_append, backoff_of_no_failure (by rwa [hbounds]) hnone, hbounds]
  refine Nat.max_eq_right ?_
  calc (ofEntries bounds entries).backoff.nanos / 2 ^ later.countP Entry.isSuccess
    _ ≤ bounds.longest.nanos / 2 ^ later.countP Entry.isSuccess := Nat.div_le_div_right hhigh
    _ ≤ bounds.shortest.nanos :=
        Nat.div_le_of_le_mul (Nat.mul_comm _ _ ▸ BackoffBounds.longest_le_of_doublings_le hvalid hmany)

/-! ### Readmission -/

theorem isHealthy_iff_of_readmitAt {health : Health} {readmitAt : Timestamp}
    (hreadmitAt : health.readmitAt = some readmitAt) (moment : Timestamp) :
    health.isHealthy moment = true ↔ readmitAt < moment := by
  simp [isHealthy, hreadmitAt]

/-- A node that failed is benched until a backoff has passed: up to that moment it is not healthy,
and from then on it is. As long as the moment has 64 bits of seconds, it is the exact sum. -/
structure IsBenched (health : Health) (now : Timestamp) (backoff : Duration) : Prop where
  readmitAt_eq : health.readmitAt = some (now + backoff)
  isHealthy_iff : ∀ moment, health.isHealthy moment = true ↔ now + backoff < moment
  total_eq : now.total + backoff.nanos < 2 ^ 63 * 1000000000 →
    (now + backoff).total = now.total + backoff.nanos
  isHealthy_iff_total : now.total + backoff.nanos < 2 ^ 63 * 1000000000 →
    ∀ moment : Timestamp, moment.IsNormal →
      (health.isHealthy moment = true ↔ now.total + backoff.nanos < moment.total)

theorem isBenched_of_readmitAt {health : Health} {now : Timestamp} {backoff : Duration}
    (hreadmitAt : health.readmitAt = some (now + backoff)) : health.IsBenched now backoff where
  readmitAt_eq := hreadmitAt
  isHealthy_iff := isHealthy_iff_of_readmitAt hreadmitAt
  total_eq := Timestamp.total_add
  isHealthy_iff_total hrange moment hmoment := by
    rw [isHealthy_iff_of_readmitAt hreadmitAt, ← Timestamp.total_add hrange]
    exact Timestamp.lt_iff_total_lt (Timestamp.isNormal_add _ _) hmoment

/-! ### The whole course -/

/-- What a record tells after its entries. -/
structure Tells (bounds : BackoffBounds) (hvalid : bounds.IsValid) (entries : List Entry) : Prop where
  within : (ofEntries bounds entries).IsWithin bounds
  failures_eq :
    (ofEntries bounds entries).failures.toNat = entries.countP Entry.isFailure % 2 ^ 64
  uses_eq : (ofEntries bounds entries).uses.toNat = entries.countP Entry.isUse % 2 ^ 64
  /-- Failures in a row double the backoff. -/
  grown : .success ∉ entries → (ofEntries bounds entries).backoff.nanos =
    min (bounds.shortest.nanos * 2 ^ entries.countP Entry.isFailure) bounds.longest.nanos
  /-- Whatever there was before, enough successes lead back to the lower bound. -/
  healed : ∀ later, (∀ now, .failure now ∉ later) →
    bounds.doublings hvalid ≤ later.countP Entry.isSuccess →
    (ofEntries bounds (entries ++ later)).backoff = bounds.shortest
  /-- A node that never failed is not benched. -/
  unbenched : (∀ now, .failure now ∉ entries) →
    (ofEntries bounds entries).readmitAt = none ∧
      ∀ moment, (ofEntries bounds entries).isHealthy moment = true
  /-- A node is benched by its last failure, whatever else is entered after it. -/
  benched : ∀ earlier now later, entries = earlier ++ .failure now :: later →
    (∀ other, .failure other ∉ later) →
    (ofEntries bounds entries).IsBenched now ((ofEntries bounds earlier).fail now).backoff

/-- The entries of a fresh record under valid bounds tell its backoff, its counts and when the node
is healthy, in whatever order and at whatever times they are made. -/
theorem ofEntries_tells (hvalid : bounds.validate = .ok ()) (entries : List Entry) :
    Tells bounds (BackoffBounds.validate_eq_ok_iff.mp hvalid) entries where
  within := isWithin_ofEntries (BackoffBounds.validate_eq_ok_iff.mp hvalid) entries
  failures_eq := by rw [failures_ofEntries, UInt64.toNat_ofNat']
  uses_eq := by rw [uses_ofEntries, UInt64.toNat_ofNat']
  grown := backoff_of_no_success (BackoffBounds.validate_eq_ok_iff.mp hvalid)
  healed _ := backoff_of_doublings_le (BackoffBounds.validate_eq_ok_iff.mp hvalid) entries
  unbenched hnone := by
    have hreadmitAt : (ofEntries bounds entries).readmitAt = none :=
      readmitAt_of_no_failure (fresh bounds) hnone
    exact ⟨hreadmitAt, fun moment => by simp [isHealthy, hreadmitAt]⟩
  benched earlier now later hentries hnone := by
    subst hentries
    exact isBenched_of_readmitAt (readmitAt_of_last_failure bounds earlier now hnone)

/-- A node that failed twice, was of use while it was benched, and answered once. -/
def recovering : List Entry :=
  [.use ⟨1000, 0⟩, .failure ⟨1000, 0⟩, .failure ⟨1000, 0⟩, .use ⟨1000, 5⟩, .success]

theorem ofEntries_tells_recovering :
    BackoffBounds.quick.validate = .ok () ∧
    (ofEntries .quick recovering).failures = 2 ∧ (ofEntries .quick recovering).uses = 2 ∧
    (ofEntries .quick recovering).isHealthy ⟨1001, 0⟩ = false ∧
    (ofEntries .quick recovering).isHealthy ⟨1001, 1⟩ = true ∧
    (ofEntries .quick (recovering ++ List.replicate 5 .success)).backoff =
      Duration.ofMillis 250 := by
  have hvalid : BackoffBounds.quick.validate = .ok () :=
    BackoffBounds.validate_eq_ok_iff.mpr (by decide)
  have htells := ofEntries_tells hvalid recovering
  have hbenched := htells.benched [.use ⟨1000, 0⟩, .failure ⟨1000, 0⟩] ⟨1000, 0⟩
    [.use ⟨1000, 5⟩, .success] rfl (by simp)
  refine ⟨hvalid, UInt64.toNat_inj.mp htells.failures_eq, UInt64.toNat_inj.mp htells.uses_eq,
    ?_, ?_, ?_⟩
  · rw [Bool.eq_false_iff, Ne, hbenched.isHealthy_iff]
    decide +kernel
  · rw [hbenched.isHealthy_iff]
    decide +kernel
  · refine htells.healed _ (by simp) (Nat.find_le ?_)
    decide +kernel

/-! ### Another failure -/

/-- The backoff, in nanoseconds, that a failure leads to if the one before led to another backoff
and some successes came between them. -/
def backoffAgain (bounds : BackoffBounds) (backoff : Duration) (successes : Nat) : Nat :=
  min (2 * max (backoff.nanos / 2 ^ successes) bounds.shortest.nanos) bounds.longest.nanos

theorem backoff_of_next_failure (hvalid : bounds.IsValid) (earlier : List Entry)
    (first next : Timestamp) {between : List Entry} (hnone : ∀ now, .failure now ∉ between) :
    ((ofEntries bounds (earlier ++ .failure first :: between)).fail next).backoff.nanos =
      backoffAgain bounds ((ofEntries bounds earlier).fail first).backoff
        (between.countP Entry.isSuccess) := by
  obtain ⟨hbounds, hlow, _⟩ := (isWithin_ofEntries hvalid earlier).enter hvalid (.failure first)
  rw [nanos_backoff_fail, ofEntries_append, List.foldl_cons, bounds_foldl,
    backoff_of_no_failure (by rwa [hbounds]) hnone, hbounds]
  rfl

theorem le_backoffAgain_zero (hvalid : bounds.IsValid) (earlier : List Entry) (first : Timestamp) :
    ((ofEntries bounds earlier).fail first).backoff.nanos ≤
      backoffAgain bounds ((ofEntries bounds earlier).fail first).backoff 0 := by
  obtain ⟨_, _, hhigh⟩ := (isWithin_ofEntries hvalid earlier).enter hvalid (.failure first)
  have hhigh' : ((ofEntries bounds earlier).fail first).backoff.nanos ≤ bounds.longest.nanos := hhigh
  unfold backoffAgain
  omega

theorem total_le_of_inOrder {earlier between : List Entry} {first next : Timestamp}
    (hordered : InOrder (earlier ++ .failure first :: between ++ [.failure next])) :
    first.total ≤ next.total := by
  unfold InOrder at hordered
  rw [List.filterMap_append, List.pairwise_append] at hordered
  exact hordered.2.2 first (List.mem_filterMap.mpr ⟨.failure first, by simp, rfl⟩) next (by
    simp [Entry.moment?])

/-- A failure after another one puts the readmission anew: its backoff after its moment. The
readmission comes sooner than it would have just when that sum is smaller, and never if there was
no success between the two. -/
theorem readmission_of_next_failure (hvalid : bounds.validate = .ok ())
    (earlier between : List Entry) (first next : Timestamp) {backoff : Duration}
    (hnone : ∀ now, .failure now ∉ between)
    (hordered : InOrder (earlier ++ .failure first :: between ++ [.failure next]))
    (hbackoff : ((ofEntries bounds earlier).fail first).backoff = backoff)
    (hfirst : first.total + backoff.nanos < 2 ^ 63 * 1000000000)
    (hnext : next.total + backoffAgain bounds backoff (between.countP Entry.isSuccess) <
      2 ^ 63 * 1000000000) :
    ∃ before after,
      (ofEntries bounds (earlier ++ .failure first :: between)).readmitAt = some before ∧
      (ofEntries bounds (earlier ++ .failure first :: between ++ [.failure next])).readmitAt =
        some after ∧
      before.total = first.total + backoff.nanos ∧
      after.total = next.total + backoffAgain bounds backoff (between.countP Entry.isSuccess) ∧
      (after < before ↔
        next.total + backoffAgain bounds backoff (between.countP Entry.isSuccess) <
          first.total + backoff.nanos) ∧
      (.success ∉ between → before ≤ after) := by
  have hbounds := BackoffBounds.validate_eq_ok_iff.mp hvalid
  have hagain := backoff_of_next_failure hbounds earlier first next hnone
  rw [hbackoff] at hagain
  have hbefore := Timestamp.total_add hfirst
  have hafter : (next + ((ofEntries bounds (earlier ++ .failure first :: between)).fail
      next).backoff).total =
      next.total + backoffAgain bounds backoff (between.countP Entry.isSuccess) := by
    rw [← hagain] at hnext ⊢
    exact Timestamp.total_add hnext
  refine ⟨_, _, readmitAt_of_last_failure bounds earlier first hnone, ?_, ?_, hafter, ?_, ?_⟩
  · rw [ofEntries_append_singleton]
    rfl
  · rw [hbackoff, hbefore]
  · rw [Timestamp.lt_iff_total_lt (Timestamp.isNormal_add _ _) (Timestamp.isNormal_add _ _),
      hafter, hbackoff, hbefore]
  -- without a success the backoff has only grown, and the time is no earlier
  · intro hnoSuccess
    have hcount : between.countP Entry.isSuccess = 0 := by
      rw [List.countP_eq_zero]
      intro entry hentry hsuccess
      cases entry with
      | success => exact hnoSuccess hentry
      | failure now => cases hsuccess
      | use now => cases hsuccess
    have htimes := total_le_of_inOrder hordered
    have hgrown := le_backoffAgain_zero hbounds earlier first
    rw [Timestamp.le_iff_total_le (Timestamp.isNormal_add _ _) (Timestamp.isNormal_add _ _),
      hafter, hbackoff, hbefore, hcount]
    rw [hbackoff] at hgrown
    omega

/-- At the upper bound a failure more still benches the node for longer. -/
theorem readmission_of_next_failure_at_longest :
    let entries : List Entry := List.replicate 5 (.failure ⟨1000, 0⟩) ++ [.use ⟨1003, 0⟩]
    InOrder (entries ++ [.failure ⟨1004, 0⟩]) ∧
    ∃ before after, (ofEntries .quick entries).readmitAt = some before ∧
      (ofEntries .quick (entries ++ [.failure ⟨1004, 0⟩])).readmitAt = some after ∧
      before ≤ after := by
  intro entries
  have hvalid : BackoffBounds.quick.validate = .ok () :=
    BackoffBounds.validate_eq_ok_iff.mpr (by decide)
  have hordered : InOrder (entries ++ [.failure ⟨1004, 0⟩]) := by decide +kernel
  obtain ⟨before, after, hbefore, hafter, _, _, _, hlater⟩ :=
    readmission_of_next_failure hvalid (List.replicate 4 (.failure ⟨1000, 0⟩)) [.use ⟨1003, 0⟩]
      ⟨1000, 0⟩ ⟨1004, 0⟩ (by simp) hordered rfl (by decide +kernel) (by decide +kernel)
  exact ⟨hordered, before, after, hbefore, hafter, hlater (by simp)⟩

/-- A node that failed twice and then answered twice. -/
def healing : List Entry :=
  [.failure ⟨1000, 0⟩, .failure ⟨1000, 0⟩, .success, .success]

/-- A failure so late that a few seconds more are beyond the 64 bits of a timestamp. -/
def lateFailure : Entry := .failure ⟨9223372036854775787, 0⟩

/-- A failure may bring a readmission forward: behind successes, which make its backoff shorter, and
where the moment of the readmission does not have 64 bits of seconds. -/
theorem failure_brings_readmission_forward :
    BackoffBounds.standard.validate = .ok () ∧
    InOrder (healing ++ [.failure ⟨1001, 0⟩]) ∧
    (ofEntries .standard healing).readmitAt = some ⟨1032, 0⟩ ∧
    (ofEntries .standard (healing ++ [.failure ⟨1001, 0⟩])).readmitAt = some ⟨1017, 0⟩ ∧
    (⟨1017, 0⟩ : Timestamp) < ⟨1032, 0⟩ ∧
    InOrder [lateFailure, lateFailure] ∧
    (ofEntries .standard [lateFailure]).readmitAt = some ⟨9223372036854775803, 0⟩ ∧
    (ofEntries .standard [lateFailure, lateFailure]).readmitAt =
      some ⟨-9223372036854775797, 0⟩ ∧
    (⟨-9223372036854775797, 0⟩ : Timestamp) < ⟨9223372036854775803, 0⟩ := by
  refine ⟨BackoffBounds.validate_eq_ok_iff.mpr (by decide), ?_⟩
  decide +kernel

end Health

end LedgerClient
