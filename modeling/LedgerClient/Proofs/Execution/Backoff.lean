import LedgerClient.Execution.Settings
import Mathlib.Algebra.Group.Nat.Defs

/-!
# Pauses that double

The pause after an attempt is the first pause times a factor, and no longer than the longest one.
The factor is a power of two while the power has 32 bits, and then stays where it is. So pauses
never shrink, and they double up to the longest one, except where 32 doublings of the first pause
do not come to the longest: there they stop short of it for good.
-/

namespace LedgerClient.ExecuteSettings

/-- The first pause doubled with each attempt, up to the longest one, in nanoseconds. -/
def doubled (settings : ExecuteSettings) (attempt : Nat) : Nat :=
  min (settings.minBackoff.nanos * 2 ^ attempt) settings.maxBackoff.nanos

/-- The largest factor is not yet reached at an attempt, or does no harm: there is nothing to
double, or the longest pause is reached before. -/
def HasRoom (settings : ExecuteSettings) (attempt : Nat) : Prop :=
  attempt < 32 ∨ settings.minBackoff = .zero ∨
    settings.maxBackoff.nanos ≤ settings.minBackoff.nanos * largestFactor

theorem factor_eq_min (attempt : Nat) : factor attempt = min (2 ^ attempt) largestFactor := by
  unfold factor largestFactor
  split
  next hsmall =>
    have hpower : 2 ^ attempt ≤ 2 ^ 31 := Nat.pow_le_pow_right (by decide) (by omega)
    change 2 ^ attempt = _
    omega
  next hlarge =>
    have hpower : 2 ^ 32 ≤ 2 ^ attempt := Nat.pow_le_pow_right (by decide) (by omega)
    omega

theorem factor_pos (attempt : Nat) : 0 < factor attempt := by
  rw [factor_eq_min]
  exact Nat.lt_min.mpr ⟨Nat.two_pow_pos attempt, by decide⟩

theorem factor_le_factor {earlier later : Nat} (horder : earlier ≤ later) :
    factor earlier ≤ factor later := by
  rw [factor_eq_min, factor_eq_min]
  have hpower : 2 ^ earlier ≤ 2 ^ later := Nat.pow_le_pow_right (by decide) horder
  omega

/-- A product that is no span of time is cut off at the longest pause like all the others. -/
theorem nanos_backoffFor (settings : ExecuteSettings) (attempt : Nat) :
    (settings.backoffFor attempt).nanos =
      min (settings.minBackoff.nanos * factor attempt) settings.maxBackoff.nanos := by
  have hlongest := settings.maxBackoff.nanos_lt
  unfold backoffFor Duration.times? Duration.ofNanos?
  by_cases hfits : settings.minBackoff.nanos * factor attempt < 18446744073709551616 * 1000000000
  · simp [hfits]
  · simp only [dif_neg hfits]
    exact (Nat.min_eq_right (by omega)).symm

theorem backoffFor_le_maxBackoff (settings : ExecuteSettings) (attempt : Nat) :
    settings.backoffFor attempt ≤ settings.maxBackoff := by
  rw [Duration.le_def, nanos_backoffFor]
  exact Nat.min_le_right _ _

theorem minBackoff_le_backoffFor {settings : ExecuteSettings}
    (horder : settings.minBackoff ≤ settings.maxBackoff) (attempt : Nat) :
    settings.minBackoff ≤ settings.backoffFor attempt := by
  rw [Duration.le_def, nanos_backoffFor]
  exact Nat.le_min.mpr ⟨Nat.le_mul_of_pos_right _ (factor_pos attempt), horder⟩

/-- Pauses never shrink. -/
theorem backoffFor_le_backoffFor (settings : ExecuteSettings) {earlier later : Nat}
    (horder : earlier ≤ later) : settings.backoffFor earlier ≤ settings.backoffFor later := by
  rw [Duration.le_def, nanos_backoffFor, nanos_backoffFor]
  have hproduct := Nat.mul_le_mul_left settings.minBackoff.nanos (factor_le_factor horder)
  omega

theorem nanos_backoffFor_of_hasRoom {settings : ExecuteSettings} {attempt : Nat}
    (hroom : settings.HasRoom attempt) :
    (settings.backoffFor attempt).nanos = settings.doubled attempt := by
  rw [nanos_backoffFor, doubled]
  by_cases hsmall : attempt < 32
  · rw [factor, if_pos hsmall]
    rfl
  · rw [factor, if_neg hsmall]
    obtain hsmall' | hzero | hlongest := hroom
    · exact absurd hsmall' hsmall
    · simp [hzero, Duration.zero]
    · -- Both products are past the longest pause.
      have hpower : largestFactor ≤ 2 ^ attempt := by
        have : 2 ^ 32 ≤ 2 ^ attempt := Nat.pow_le_pow_right (by decide) (by omega)
        unfold largestFactor
        omega
      have hproduct := Nat.mul_le_mul_left settings.minBackoff.nanos hpower
      omega

theorem nanos_backoffFor_of_not_hasRoom {settings : ExecuteSettings} {attempt : Nat}
    (hroom : ¬ settings.HasRoom attempt) :
    (settings.backoffFor attempt).nanos = settings.minBackoff.nanos * largestFactor ∧
      (settings.backoffFor attempt).nanos < settings.doubled attempt := by
  simp only [HasRoom, not_or, Nat.not_lt, Nat.not_le] at hroom
  obtain ⟨hlarge, hnonzero, hlongest⟩ := hroom
  have hpause : (settings.backoffFor attempt).nanos =
      settings.minBackoff.nanos * largestFactor := by
    rw [nanos_backoffFor, factor, if_neg (Nat.not_lt.mpr hlarge)]
    exact Nat.min_eq_left (Nat.le_of_lt hlongest)
  have hfirst : 0 < settings.minBackoff.nanos :=
    Nat.pos_of_ne_zero fun hzero => hnonzero (Duration.ext_nanos hzero)
  have hpower : largestFactor < 2 ^ attempt := by
    have : 2 ^ 32 ≤ 2 ^ attempt := Nat.pow_le_pow_right (by decide) hlarge
    unfold largestFactor
    omega
  refine ⟨hpause, ?_⟩
  rw [hpause, doubled]
  exact Nat.lt_min.mpr ⟨Nat.mul_lt_mul_of_pos_left hpower hfirst, hlongest⟩

/-- The pause after an attempt is the first one doubled with each attempt up to the longest, unless
the largest factor is reached before the longest pause: then it is the first pause times that
factor, and falls short. -/
theorem backoffFor_doubles_while_hasRoom (settings : ExecuteSettings) (attempt : Nat) :
    ((settings.backoffFor attempt).nanos = settings.doubled attempt ↔ settings.HasRoom attempt) ∧
    (¬ settings.HasRoom attempt →
      (settings.backoffFor attempt).nanos = settings.minBackoff.nanos * largestFactor ∧
        (settings.backoffFor attempt).nanos < settings.doubled attempt) := by
  refine ⟨⟨?_, nanos_backoffFor_of_hasRoom⟩, nanos_backoffFor_of_not_hasRoom⟩
  intro hdoubled
  refine Classical.not_not.mp fun hroom => ?_
  exact Nat.ne_of_lt (nanos_backoffFor_of_not_hasRoom hroom).2 hdoubled

/-- Forty attempts, with pauses from a nanosecond to eight seconds. -/
def fromANanosecond : ExecuteSettings :=
  ⟨40, Duration.ofSeconds 10, Duration.saturate 1, Duration.ofSeconds 8⟩

/-- Settings are accepted whose pauses stop doubling at half of the longest one. -/
theorem backoffFor_stops_doubling :
    fromANanosecond.validate = .ok () ∧ 33 < fromANanosecond.maxAttempts.toNat ∧
      (fromANanosecond.backoffFor 33).nanos = 4294967295 ∧
      fromANanosecond.doubled 33 = 8000000000 :=
  ⟨rfl, by decide, by decide, by decide⟩

end LedgerClient.ExecuteSettings
