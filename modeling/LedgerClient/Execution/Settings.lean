import LedgerClient.Error

/-!
# Settings of the attempt loop

A call makes a bounded number of attempts. Each one is bounded in time, and the
pauses between attempts double from the first up to the longest.
-/

namespace LedgerClient

/-- Bounds of the attempts one call makes. -/
structure ExecuteSettings where
  maxAttempts : UInt32
  /-- How long an attempt waits for its answer. -/
  requestTimeout : Duration
  /-- The first pause. -/
  minBackoff : Duration
  /-- The longest pause. -/
  maxBackoff : Duration
  deriving DecidableEq

namespace ExecuteSettings

/-- Ten attempts of ten seconds, with pauses from a quarter of a second to eight seconds. -/
def standard : ExecuteSettings :=
  ⟨10, Duration.ofSeconds 10, Duration.ofMillis 250, Duration.ofSeconds 8⟩

/-- Five attempts of a second, with pauses from ten to a hundred milliseconds. -/
def quick : ExecuteSettings :=
  ⟨5, Duration.ofSeconds 1, Duration.ofMillis 10, Duration.ofMillis 100⟩

/-- There is an attempt to make, time for it, and the pauses are in order. -/
def IsValid (settings : ExecuteSettings) : Prop :=
  settings.maxAttempts ≠ 0 ∧ settings.requestTimeout ≠ .zero ∧
    settings.minBackoff ≤ settings.maxBackoff

instance (settings : ExecuteSettings) : Decidable settings.IsValid :=
  inferInstanceAs (Decidable (_ ∧ _))

/-- Refuses settings that are not valid. -/
def validate (settings : ExecuteSettings) : Outcome Unit :=
  if settings.maxAttempts = 0 then .error (.config .noAttempts)
  else if settings.requestTimeout = .zero then .error (.config .noRequestTimeout)
  else if settings.maxBackoff < settings.minBackoff then
    .error (.config (.pauseOrder settings.minBackoff settings.maxBackoff))
  else .ok ()

/-- Settings are accepted exactly when they are valid. -/
theorem validate_eq_ok_iff {settings : ExecuteSettings} :
    settings.validate = .ok () ↔ settings.IsValid := by
  unfold validate IsValid
  by_cases hattempts : settings.maxAttempts = 0
  · simp [hattempts]
  by_cases htimeout : settings.requestTimeout = .zero
  · simp [htimeout, hattempts]
  by_cases horder : settings.maxBackoff < settings.minBackoff
  · have : ¬ settings.minBackoff ≤ settings.maxBackoff := Nat.not_le.2 horder
    simp [hattempts, htimeout, horder, this]
  · have : settings.minBackoff ≤ settings.maxBackoff := Nat.not_lt.1 horder
    simp [hattempts, htimeout, horder, this]

/-- The largest factor of a pause. -/
def largestFactor : Nat := 4294967295

/-- The factor of the pause after the attempt numbered `attempt`: a power of two, or the largest
factor where the power has no 32 bits. -/
def factor (attempt : Nat) : Nat := if attempt < 32 then Nat.pow 2 attempt else largestFactor

/-- The pause after the attempt numbered `attempt`, the first one being zero. -/
def backoffFor (settings : ExecuteSettings) (attempt : Nat) : Duration :=
  match settings.minBackoff.times? (factor attempt) with
  | none => settings.maxBackoff
  | some pause => min pause settings.maxBackoff

end ExecuteSettings

end LedgerClient
