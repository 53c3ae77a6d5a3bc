import LedgerClient.Proofs.Execution.Backoff
import LedgerClient.Proofs.Execution.Course
import LedgerClient.Proofs.Network.Channels
import Mathlib.Algebra.Group.Action.Defs
import Mathlib.Algebra.Order.BigOperators.Group.List
import Mathlib.Algebra.Order.Ring.Nat

/-!
# How long a call waits

A call waits for channels, for answers and in pauses. It pauses between two attempts, where the
first of them ended in a status to be retried, for as long as the number of that attempt says; a
failure to get an answer, or an answer that is no response, is followed by the next attempt at
once. Pauses never shrink, and with the time an attempt may take they bound what the whole call
takes.
-/

namespace LedgerClient

variable {ω χ α : Type}

/-! ### What is waited for -/

/-- Something that a call waits for. -/
inductive Wait where
  /-- A channel to an address. -/
  | channel (address : NodeAddress) (allowed : Duration)
  /-- The answer to a request. -/
  | answer (request : Bytes) (allowed : Duration)
  | pause (length : Duration)

/-- It is waited for within an attempt: for a channel to its node, or for the answer to its
request. -/
def Wait.IsWithin (attempt : Attempt) : Wait → Prop
  | .channel address _ => address = attempt.member.address
  | .answer request _ => attempt.request = some request
  | .pause _ => False

/-- What is waited for in the course of attempts: at each one, if it has a request, for a channel or
an answer or both, and then in its pause. -/
inductive Spends : List Attempt → List Wait → Prop where
  | nil : Spends [] []
  | cons {attempt : Attempt} {rest : List Attempt} {within later : List Wait}
      (hwithin : ∀ wait ∈ within, wait.IsWithin attempt)
      (hrequest : attempt.request.isSome → within ≠ []) (hrest : Spends rest later) :
      Spends (attempt :: rest) (within ++ attempt.pause.toList.map .pause ++ later)

namespace Surroundings

/-- The same surroundings, in which all that is waited for is noted in order. -/
def watched (surroundings : Surroundings ω χ) : Surroundings (ω × List Wait) χ where
  clock world :=
    let (now, after) := surroundings.clock world.1
    (now, (after, world.2))
  stopwatch world := surroundings.stopwatch world.1
  openChannel address tls allowed world :=
    let (reply, after) := surroundings.openChannel address tls allowed world.1
    (reply, (after, world.2 ++ [.channel address allowed]))
  send channel request allowed world :=
    let (reply, after) := surroundings.send channel request allowed world.1
    (reply, (after, world.2 ++ [.answer request allowed]))
  close channel world := (surroundings.close channel world.1, world.2)
  sleep pause world := (surroundings.sleep pause world.1, world.2 ++ [.pause pause])
  draw world :=
    let (backtrack, after) := surroundings.draw world.1
    (backtrack, (after, world.2))

/-- Nothing takes longer than the time it is given, and to read the clock takes none. -/
structure IsPunctual (surroundings : Surroundings ω χ) : Prop where
  clock : ∀ world, (surroundings.stopwatch (surroundings.clock world).2).nanos ≤
    (surroundings.stopwatch world).nanos
  openChannel : ∀ address tls allowed world,
    (surroundings.stopwatch (surroundings.openChannel address tls allowed world).2).nanos ≤
      (surroundings.stopwatch world).nanos + allowed.nanos
  send : ∀ channel request allowed world,
    (surroundings.stopwatch (surroundings.send channel request allowed world).2).nanos ≤
      (surroundings.stopwatch world).nanos + allowed.nanos
  sleep : ∀ pause world,
    (surroundings.stopwatch (surroundings.sleep pause world)).nanos ≤
      (surroundings.stopwatch world).nanos + pause.nanos

theorem IsPunctual.watched {surroundings : Surroundings ω χ} (hpunctual : surroundings.IsPunctual) :
    surroundings.watched.IsPunctual where
  clock world := hpunctual.clock world.1
  openChannel address tls allowed world := hpunctual.openChannel address tls allowed world.1
  send channel request allowed world := hpunctual.send channel request allowed world.1
  sleep pause world := hpunctual.sleep pause world.1

end Surroundings

theorem Ending.pauses_iff {ending : Ending} :
    ending.pauses = true ↔ ∃ response, ending = .retry response := by
  cases ending <;> simp [Ending.pauses]

namespace Execution

variable {surroundings : Surroundings ω χ} {operation : Operation α} {settings : ExecuteSettings}

/-! ### The world of an attempt -/

theorem world_turnAt_of_error {member : Member} {error : ClientError}
    (hrequest : operation.request member.account = .error error) (allowed : Duration)
    (now : Timestamp) (scene : Scene ω χ) :
    (turnAt surroundings operation allowed member now scene).scene.world = scene.world := by
  simp only [turnAt, attempt, hrequest]
  rfl

/-- Behind an exchange the clock may be read once more. -/
theorem world_turnAt_of_ok {member : Member} {request : Request}
    (hrequest : operation.request member.account = .ok request) (allowed : Duration)
    (now : Timestamp) (scene : Scene ω χ) :
    let asked := (exchange surroundings allowed member (Wire.encode request)
      (enter operation member now scene)).2.world
    let after := (turnAt surroundings operation allowed member now scene).scene.world
    after = asked ∨ after = (surroundings.clock asked).2 := by
  simp only [turnAt, attempt, hrequest, ask, world_settle]
  split
  · exact .inr rfl
  · exact .inl rfl

/-! ### Rounds -/

/-- Where a node is found, an attempt is made. -/
theorem attempts_ne_nil {scene : Scene ω χ} {made : Turn ω χ}
    (hmade : turn surroundings operation settings scene = .ok made) (left number : Nat)
    (last : Option (AccountId × AttemptCause)) :
    (attempts surroundings operation settings (left + 1) number last scene).attempts ≠ [] := by
  rw [attempts_of_turn hmade]
  split <;> simp [Run.after]

/-- What holds of a used up budget, of a node that is not found, of a turn that is final and of one
that uses up the budget, and is kept when a turn with its pause comes before a run that makes
attempts, holds of all runs of the loop, given what is left of the budget and the number of the
first attempt. -/
theorem attempts_rounds {motive : Nat → Nat → Scene ω χ → Run ω χ α → Prop}
    (hspent : ∀ number scene error, motive 0 number scene
      ⟨[], .error error, scene.bump (.exhausted operation.name)⟩)
    (hlost : ∀ left number scene error,
      motive (left + 1) number scene (.refused error (scene.now surroundings).2))
    (hfinal : ∀ left number scene made outcome,
      turn surroundings operation settings scene = .ok made →
      motive (left + 1) number scene ⟨[made.attempt operation none], outcome, made.scene⟩)
    (hlast : ∀ number scene made error, turn surroundings operation settings scene = .ok made →
      motive 1 number scene ⟨[made.attempt operation none], .error error,
        made.scene.bump (.exhausted operation.name)⟩)
    (hagain : ∀ left number scene made run,
      turn surroundings operation settings scene = .ok made →
      motive (left + 1) (number + 1)
        (rest surroundings (made.pause operation settings number) made.scene) run →
      run.attempts ≠ [] →
      motive (left + 2) number scene
        (run.after (made.attempt operation (made.pause operation settings number))))
    (left number : Nat) (last : Option (AccountId × AttemptCause)) (scene : Scene ω χ) :
    motive left number scene (attempts surroundings operation settings left number last scene) := by
  induction left generalizing number last scene with
  | zero => exact hspent number scene _
  | succ left ih =>
      cases hturn : turn surroundings operation settings scene with
      | error error =>
          have hpick := turn_eq_error_iff.mp hturn
          simp only [attempts, hpick]
          exact hlost left number scene error
      | ok made =>
          rcases retries_or_concludes operation made.member.account made.answer with
            ⟨cause, hretries⟩ | ⟨outcome, hconcludes⟩
          · rw [attempts_of_turn_retries hturn hretries]
            cases left with
            | zero => exact hlast number scene made _ hturn
            | succ left =>
                -- A node is found again, so there is another attempt to pause for.
                obtain ⟨next, hnext⟩ :=
                  exists_turn_after hturn (made.pause operation settings number)
                rw [if_neg (Nat.succ_ne_zero left)]
                exact hagain left number scene made _ hturn (ih _ _ _)
                  (attempts_ne_nil hnext left _ _)
          · rw [attempts_of_turn_concludes hturn hconcludes]
            exact hfinal left number scene made outcome hturn

/-! ### Pauses -/

/-- Attempts, the first one numbered `number`, pause where they are to: behind a status to be
retried, if there is another attempt. -/
def PausesFrom (settings : ExecuteSettings) (number : Nat) (attempts : List Attempt) : Prop :=
  ∀ i attempt, attempts[i]? = some attempt →
    attempt.pause = if attempt.ending.pauses ∧ i + 1 < attempts.length then
      some (settings.backoffFor (number + i)) else none

theorem PausesFrom.cons {number : Nat} {attempt : Attempt} {rest : List Attempt}
    (hfirst : attempt.pause = if attempt.ending.pauses ∧ rest ≠ [] then
      some (settings.backoffFor number) else none)
    (hrest : PausesFrom settings (number + 1) rest) :
    PausesFrom settings number (attempt :: rest) := by
  intro i other hother
  cases i with
  | zero =>
      obtain rfl : attempt = other := by simpa using hother
      simpa [List.length_pos_iff] using hfirst
  | succ i =>
      have hlater := hrest i other (by simpa using hother)
      have hnumber : number + 1 + i = number + (i + 1) := by omega
      simpa [hnumber] using hlater

theorem pausesFrom_attempts (left number : Nat) (last : Option (AccountId × AttemptCause))
    (scene : Scene ω χ) :
    PausesFrom settings number
      (attempts surroundings operation settings left number last scene).attempts := by
  have hone : ∀ number (made : Turn ω χ),
      PausesFrom settings number [made.attempt operation none] :=
    fun number made => .cons (by simp [Turn.attempt]) (by simp [PausesFrom])
  refine attempts_rounds (motive := fun _ number _ run => PausesFrom settings number run.attempts)
    ?_ ?_ ?_ ?_ ?_ left number last scene
  · simp [PausesFrom]
  · simp [PausesFrom, Run.refused]
  · exact fun left number scene made outcome _ => hone number made
  · exact fun number scene made error _ => hone number made
  · intro left number scene made run _ hrun hsome
    refine .cons ?_ hrun
    simp only [Turn.attempt, ne_eq, hsome, not_false_eq_true, and_true]
    rfl

theorem length_attempts_le (left number : Nat) (last : Option (AccountId × AttemptCause))
    (scene : Scene ω χ) :
    (attempts surroundings operation settings left number last scene).attempts.length ≤ left := by
  refine attempts_rounds (motive := fun left _ _ run => run.attempts.length ≤ left)
    ?_ ?_ ?_ ?_ ?_ left number last scene
  · simp
  · simp [Run.refused]
  · simp
  · simp
  · intro left number scene made run _ hrun _
    exact Nat.succ_le_succ hrun

/-- The pauses of attempts, in order. -/
def pausesOf (attempts : List Attempt) : List Duration := attempts.filterMap (·.pause)

/-- The pauses between attempts are those that the settings say. -/
structure IsPaced (settings : ExecuteSettings) (attempts : List Attempt) : Prop where
  /-- There is a pause just between an attempt that ended in a status to be retried and the next. -/
  paused : ∀ i attempt, attempts[i]? = some attempt → ∀ pause, attempt.pause = some pause ↔
    (∃ response, attempt.ending = .retry response) ∧ i + 1 < attempts.length ∧
      pause = settings.backoffFor i
  failed : ∀ attempt ∈ attempts, (∃ error, attempt.ending = .failed error) ∨
    (∃ error, attempt.ending = .malformed error) → attempt.pause = none
  last : ∀ attempt, attempts.getLast? = some attempt → attempt.pause = none
  bounds : ∀ pause ∈ pausesOf attempts,
    settings.minBackoff ≤ pause ∧ pause ≤ settings.maxBackoff
  growing : (pausesOf attempts).Pairwise (· ≤ ·)
  total : ((pausesOf attempts).map Duration.nanos).sum ≤
    (settings.maxAttempts.toNat - 1) * settings.maxBackoff.nanos

section Paced

variable {attempts : List Attempt}

theorem PausesFrom.exists_number {number i : Nat} {attempt : Attempt} {pause : Duration}
    (hpauses : PausesFrom settings number attempts) (hattempt : attempts[i]? = some attempt)
    (hpause : attempt.pause = some pause) :
    pause = settings.backoffFor (number + i) ∧ i + 1 < attempts.length := by
  have hlaw := hpauses i attempt hattempt
  rw [hpause] at hlaw
  split at hlaw
  next hthere => exact ⟨Option.some.inj hlaw, hthere.2⟩
  next => cases hlaw

theorem PausesFrom.exists_backoffFor {number : Nat}
    (hpauses : PausesFrom settings number attempts) :
    ∀ pause ∈ pausesOf attempts, ∃ number, pause = settings.backoffFor number := by
  intro pause hpause
  obtain ⟨attempt, hattempt, hof⟩ := List.mem_filterMap.mp hpause
  obtain ⟨i, hi⟩ := List.mem_iff_getElem?.mp hattempt
  exact ⟨number + i, (hpauses.exists_number hi hof).1⟩

theorem PausesFrom.growing {number : Nat} (hpauses : PausesFrom settings number attempts) :
    (pausesOf attempts).Pairwise (· ≤ ·) := by
  rw [pausesOf, List.pairwise_filterMap, List.pairwise_iff_getElem]
  intro i j hi hj horder pause hpause later hlater
  obtain ⟨rfl, _⟩ := hpauses.exists_number (List.getElem?_eq_getElem hi) hpause
  obtain ⟨rfl, _⟩ := hpauses.exists_number (List.getElem?_eq_getElem hj) hlater
  exact settings.backoffFor_le_backoffFor (by omega)

/-- There are fewer pauses than attempts: there is none after the last one. -/
theorem PausesFrom.length_le {number : Nat} (hpauses : PausesFrom settings number attempts) :
    (pausesOf attempts).length ≤ attempts.length - 1 := by
  rcases List.eq_nil_or_concat attempts with rfl | ⟨before, final, rfl⟩
  · simp [pausesOf]
  · have hfinal : final.pause = none := by
      rcases hpause : final.pause with _ | pause
      · rfl
      · have hlast := (hpauses.exists_number (i := before.length) (by simp) hpause).2
        simp at hlast
    have hbefore := List.length_filterMap_le (fun attempt : Attempt => attempt.pause) before
    simpa [pausesOf, hfinal] using hbefore

/-- Attempts that pause where they are to are paced as the settings say, if there are no more of
them than the settings allow. -/
theorem PausesFrom.isPaced (hpauses : PausesFrom settings 0 attempts)
    (horder : settings.minBackoff ≤ settings.maxBackoff)
    (hbudget : attempts.length ≤ settings.maxAttempts.toNat) : IsPaced settings attempts where
  paused i attempt hattempt pause := by
    rw [hpauses i attempt hattempt, Nat.zero_add, ← Ending.pauses_iff]
    split
    next hboth => simp only [Option.some.injEq, hboth, true_and, eq_comm]
    next hneither =>
      simp only [reduceCtorEq, false_iff]
      exact fun hboth => hneither ⟨hboth.1, hboth.2.1⟩
  failed attempt hattempt hending := by
    obtain ⟨i, hi⟩ := List.mem_iff_getElem?.mp hattempt
    rw [hpauses i attempt hi]
    obtain ⟨error, hending⟩ | ⟨error, hending⟩ := hending <;> simp [hending, Ending.pauses]
  last attempt hattempt := by
    rw [List.getLast?_eq_getElem?] at hattempt
    rw [hpauses _ attempt hattempt]
    exact if_neg fun hpause => by omega
  bounds pause hpause := by
    obtain ⟨number, rfl⟩ := hpauses.exists_backoffFor pause hpause
    exact ⟨ExecuteSettings.minBackoff_le_backoffFor horder number,
      settings.backoffFor_le_maxBackoff number⟩
  growing := hpauses.growing
  total := by
    have hbound := List.sum_le_card_nsmul ((pausesOf attempts).map Duration.nanos)
      settings.maxBackoff.nanos (by
        intro length hlength
        obtain ⟨pause, hpause, rfl⟩ := List.mem_map.mp hlength
        obtain ⟨number, rfl⟩ := hpauses.exists_backoffFor pause hpause
        exact settings.backoffFor_le_maxBackoff number)
    rw [List.length_map, smul_eq_mul] at hbound
    refine hbound.trans (Nat.mul_le_mul_right _ ?_)
    have hfewer := hpauses.length_le
    omega

end Paced

/-! ### Exchanges -/

theorem nanos_between (start stop : Duration) :
    (between start stop).nanos = stop.nanos - start.nanos := by
  have hbound := stop.nanos_lt
  exact Nat.min_eq_left (by change _ ≤ 18446744073709551616 * 1000000000 - 1; omega)

/-- An exchange waits for the answer over a channel that is kept, or for a channel to be opened, and
then, if one is, for the answer in the time that is left. -/
theorem world_exchange_cases (surroundings : Surroundings ω χ) (allowed : Duration)
    (member : Member) (request : Bytes) (scene : Scene ω χ) :
    let after := (exchange surroundings allowed member request scene).2.world
    let opened := (surroundings.openChannel member.address scene.network.options.tls allowed
      scene.world).2
    (∃ channel left, left.nanos ≤ allowed.nanos ∧
      after = (surroundings.send channel request left scene.world).2) ∨
    after = opened ∨
    ∃ channel left, left.nanos = allowed.nanos -
        ((surroundings.stopwatch opened).nanos - (surroundings.stopwatch scene.world).nanos) ∧
      after = (surroundings.send channel request left opened).2 := by
  intro after opened
  rcases scene.network.channel_spec surroundings member allowed scene.world with
    ⟨channel, _, hdone⟩ |
    ⟨_, ⟨channel, later, hopened, hdone⟩ | ⟨reply, later, hreply, hopened, hdone⟩⟩
  · refine .inl ⟨channel, _, ?_, by simp only [after, exchange, hdone]; rfl⟩
    rw [nanos_between]
    exact Nat.sub_le _ _
  · refine .inr (.inr ⟨channel, between (between (surroundings.stopwatch scene.world)
      (surroundings.stopwatch opened)) allowed, ?_, ?_⟩)
    · rw [nanos_between, nanos_between]
    · simp only [after, exchange, hdone, opened, hopened]
  · refine .inr (.inl ?_)
    rcases reply with _ | error | channel
    · simp only [after, exchange, hdone, opened, hopened]
    · simp only [after, exchange, hdone, opened, hopened]
    · exact absurd rfl (hreply channel)

/-! ### What is noted -/

/-- An exchange waits for a channel, for the answer, or for both, and does not pause. -/
theorem exists_waits_exchange (surroundings : Surroundings ω χ) (allowed : Duration)
    (member : Member) (request : Bytes) (scene : Scene (ω × List Wait) χ) :
    ∃ waits, waits ≠ [] ∧
      (exchange surroundings.watched allowed member request scene).2.world.2 =
        scene.world.2 ++ waits ∧
      ∀ wait ∈ waits, (∃ left, wait = .channel member.address left) ∨
        ∃ left, wait = .answer request left := by
  rcases world_exchange_cases surroundings.watched allowed member request scene with
    ⟨channel, left, _, hafter⟩ | hafter | ⟨channel, left, _, hafter⟩
  · refine ⟨[.answer request left], by simp, by rw [hafter]; rfl, ?_⟩
    simp
  · refine ⟨[.channel member.address allowed], by simp, by rw [hafter]; rfl, ?_⟩
    simp
  · refine ⟨[.channel member.address allowed, .answer request left], by simp, ?_, ?_⟩
    · rw [hafter]
      exact List.append_assoc scene.world.2 [_] [_]
    · simp

/-- The waits of a turn are for what its attempt needs. -/
theorem exists_waits_turn {scene : Scene (ω × List Wait) χ} {made : Turn (ω × List Wait) χ}
    (hmade : turn surroundings.watched operation settings scene = .ok made)
    (pause : Option Duration) :
    ∃ within, made.scene.world.2 = scene.world.2 ++ within ∧
      (∀ wait ∈ within, wait.IsWithin (made.attempt operation pause)) ∧
      ((made.attempt operation pause).request.isSome → within ≠ []) := by
  obtain ⟨member, picked, hpick, rfl⟩ := turn_eq_ok_iff.mp hmade
  -- Reading the clock is nothing that is waited for.
  have hworld : picked.world.2 = scene.world.2 := by
    rw [(members_pick hpick).2.2.2]
    rfl
  cases hrequest : operation.request member.account with
  | error error =>
      refine ⟨[], ?_, by simp, ?_⟩
      · rw [world_turnAt_of_error hrequest, hworld, List.append_nil]
      · simp [Turn.attempt, turnAt, hrequest, Except.toOption]
  | ok request =>
      obtain ⟨waits, hsome, hnoted, hwaits⟩ := exists_waits_exchange surroundings
        settings.requestTimeout member (Wire.encode request)
        (enter operation member (scene.now surroundings.watched).1 picked)
      refine ⟨waits, ?_, fun wait hwait => ?_, fun _ => hsome⟩
      · rw [← hworld]
        rcases world_turnAt_of_ok hrequest settings.requestTimeout
          (scene.now surroundings.watched).1 picked with hafter | hafter
        · exact (congrArg Prod.snd hafter).trans hnoted
        · exact (congrArg Prod.snd hafter).trans hnoted
      · obtain ⟨left, rfl⟩ | ⟨left, rfl⟩ := hwaits wait hwait
        · rfl
        · simp [Wait.IsWithin, Turn.attempt, turnAt, hrequest, Except.toOption]

theorem noted_rest (pause : Option Duration) (scene : Scene (ω × List Wait) χ) :
    (rest surroundings.watched pause scene).world.2 =
      scene.world.2 ++ pause.toList.map .pause := by
  cases pause with
  | none => exact (List.append_nil _).symm
  | some pause => rfl

/-- What is noted in a run is what its attempts say. -/
theorem spends_attempts (left number : Nat) (last : Option (AccountId × AttemptCause))
    (scene : Scene (ω × List Wait) χ) :
    let run := attempts surroundings.watched operation settings left number last scene
    ∃ waits, run.scene.world.2 = scene.world.2 ++ waits ∧ Spends run.attempts waits := by
  refine attempts_induction (motive := fun (scene : Scene (ω × List Wait) χ) run =>
    ∃ waits, run.scene.world.2 = scene.world.2 ++ waits ∧ Spends run.attempts waits) ?_ ?_ ?_ ?_
    _ _ _ _
  · exact fun scene error => ⟨[], (List.append_nil _).symm, .nil⟩
  · exact fun scene error _ => ⟨[], (List.append_nil _).symm, .nil⟩
  · intro scene made outcome hmade _
    obtain ⟨within, hnoted, hwithin, hsome⟩ := exists_waits_turn hmade none
    refine ⟨within, hnoted, ?_⟩
    simpa [Turn.attempt] using Spends.cons hwithin hsome .nil
  · rintro scene made cause pause run hmade _ ⟨later, hlater, hrest⟩
    obtain ⟨within, hnoted, hwithin, hsome⟩ := exists_waits_turn hmade pause
    refine ⟨_, ?_, .cons hwithin hsome hrest⟩
    change run.scene.world.2 = _
    rw [hlater, noted_rest, hnoted]
    simp only [List.append_assoc, Turn.attempt]

/-! ### The time it takes -/

section Punctual

variable (hpunctual : surroundings.IsPunctual)

include hpunctual

/-- Opening a channel and waiting for the answer take no longer together than is allowed. -/
theorem elapsed_exchange (allowed : Duration) (member : Member) (request : Bytes)
    (scene : Scene ω χ) :
    (surroundings.stopwatch (exchange surroundings allowed member request scene).2.world).nanos ≤
      (surroundings.stopwatch scene.world).nanos + allowed.nanos := by
  have hopening := hpunctual.openChannel member.address scene.network.options.tls allowed
    scene.world
  rcases world_exchange_cases surroundings allowed member request scene with
    ⟨channel, left, hleft, hafter⟩ | hafter | ⟨channel, left, hleft, hafter⟩
  · rw [hafter]
    exact (hpunctual.send channel request left scene.world).trans (Nat.add_le_add_left hleft _)
  · rw [hafter]
    exact hopening
  · -- What the opening took is not there for the answer.
    rw [hafter]
    have hsending := hpunctual.send channel request left (surroundings.openChannel member.address
      scene.network.options.tls allowed scene.world).2
    omega

theorem elapsed_turn {scene : Scene ω χ} {made : Turn ω χ}
    (hmade : turn surroundings operation settings scene = .ok made) :
    (surroundings.stopwatch made.scene.world).nanos ≤
      (surroundings.stopwatch scene.world).nanos + settings.requestTimeout.nanos := by
  obtain ⟨member, picked, hpick, rfl⟩ := turn_eq_ok_iff.mp hmade
  have hread : (surroundings.stopwatch picked.world).nanos ≤
      (surroundings.stopwatch scene.world).nanos := by
    rw [(members_pick hpick).2.2.2]
    exact hpunctual.clock scene.world
  cases hrequest : operation.request member.account with
  | error error =>
      rw [world_turnAt_of_error hrequest]
      exact hread.trans (Nat.le_add_right _ _)
  | ok request =>
      have hasked := (elapsed_exchange hpunctual settings.requestTimeout member
        (Wire.encode request) (enter operation member (scene.now surroundings).1 picked)).trans
          (Nat.add_le_add_right hread _)
      rcases world_turnAt_of_ok hrequest settings.requestTimeout (scene.now surroundings).1 picked
        with hafter | hafter
      · rw [hafter]
        exact hasked
      · rw [hafter]
        exact (hpunctual.clock _).trans hasked

/-- A pause takes no longer than the longest one. -/
theorem elapsed_rest (operation : Operation α) (settings : ExecuteSettings) (made : Turn ω χ)
    (number : Nat) :
    (surroundings.stopwatch
        (rest surroundings (made.pause operation settings number) made.scene).world).nanos ≤
      (surroundings.stopwatch made.scene.world).nanos + settings.maxBackoff.nanos := by
  unfold Turn.pause
  split
  · have hlength := settings.backoffFor_le_maxBackoff number
    exact (hpunctual.sleep _ made.scene.world).trans (Nat.add_le_add_left hlength _)
  · exact Nat.le_add_right _ _

/-- A run takes no longer than its attempts may and the longest pauses between them. -/
theorem elapsed_attempts (left number : Nat) (last : Option (AccountId × AttemptCause))
    (scene : Scene ω χ) :
    (surroundings.stopwatch
        (attempts surroundings operation settings left number last scene).scene.world).nanos ≤
      (surroundings.stopwatch scene.world).nanos +
        ((left - 1) * settings.maxBackoff.nanos + left * settings.requestTimeout.nanos) := by
  refine attempts_rounds (motive := fun left _ scene run =>
    (surroundings.stopwatch run.scene.world).nanos ≤ (surroundings.stopwatch scene.world).nanos +
      ((left - 1) * settings.maxBackoff.nanos + left * settings.requestTimeout.nanos))
    ?_ ?_ ?_ ?_ ?_ left number last scene
  · exact fun number scene error => Nat.le_add_right _ _
  · exact fun left number scene error => (hpunctual.clock scene.world).trans (Nat.le_add_right _ _)
  · intro left number scene made outcome hmade
    refine (elapsed_turn hpunctual hmade).trans (Nat.add_le_add_left ?_ _)
    rw [Nat.succ_mul]
    omega
  · intro number scene made error hmade
    have hturn := elapsed_turn hpunctual hmade
    simpa [Scene.bump] using hturn
  · intro left number scene made run hmade hrun _
    have hturn := elapsed_turn hpunctual hmade
    have hpause := elapsed_rest hpunctual operation settings made number
    have hpauses : (left + 2 - 1) * settings.maxBackoff.nanos =
        (left + 1 - 1) * settings.maxBackoff.nanos + settings.maxBackoff.nanos := Nat.succ_mul _ _
    have hturns : (left + 2) * settings.requestTimeout.nanos =
        (left + 1) * settings.requestTimeout.nanos + settings.requestTimeout.nanos :=
      Nat.succ_mul _ _
    refine hrun.trans ?_
    omega

end Punctual

/-- A call with accepted settings pauses just between two attempts the first of which ended in a
status to be retried, as long as the number of that attempt says, and waits for nothing else but the
channels and the answers of its attempts. No pause is shorter than the first one or longer than the
longest, and none is shorter than one before it. Where nothing takes longer than the time it is
given, the call takes no longer than the attempts allowed and the longest pauses between them. -/
theorem execute_waits_as_settings_say (surroundings : Surroundings ω χ) (operation : Operation α)
    {settings : ExecuteSettings} (haccepted : settings.validate = .ok ())
    (scene : Scene (ω × List Wait) χ) :
    let run := execute surroundings.watched operation settings scene
    IsPaced settings run.attempts ∧
    (∃ waits, run.scene.world.2 = scene.world.2 ++ waits ∧ Spends run.attempts waits) ∧
    (surroundings.IsPunctual →
      (surroundings.stopwatch run.scene.world.1).nanos ≤
        (surroundings.stopwatch scene.world.1).nanos +
          ((settings.maxAttempts.toNat - 1) * settings.maxBackoff.nanos +
            settings.maxAttempts.toNat * settings.requestTimeout.nanos)) := by
  have horder := (ExecuteSettings.validate_eq_ok_iff.mp haccepted).2.2
  simp only [execute, haccepted]
  refine ⟨?_, ?_, fun hpunctual => ?_⟩
  · exact (pausesFrom_attempts _ _ _ _).isPaced horder (length_attempts_le _ _ _ _)
  · exact spends_attempts _ _ _ _
  · exact elapsed_attempts hpunctual.watched _ _ _ _

/-- Nodes that take their time for the answers of a list, with a clock that shows it. -/
def leisurely : Surroundings (Duration × List (Duration × Except TransportError Bytes)) Unit where
  clock world := (.epoch, world)
  stopwatch world := world.1
  openChannel _ _ _ world := (some (.ok ()), world)
  send _ _ allowed world :=
    let next := world.2.head?.filter (·.1 ≤ allowed)
    let took := (next.map (·.1)).getD allowed
    (next.map (·.2), (.saturate (world.1.nanos + took.nanos), world.2.tail))
  close _ world := world
  sleep pause world := (.saturate (world.1.nanos + pause.nanos), world.2)
  draw world := ((scripted.draw []).1, world)

theorem isPunctual_leisurely : leisurely.IsPunctual where
  clock _ := Nat.le_refl _
  openChannel _ _ _ world := Nat.le_add_right _ _
  send channel request allowed world := by
    refine (Nat.min_le_left _ _).trans (Nat.add_le_add_left ?_ _)
    cases hnext : world.2.head?.filter (·.1 ≤ allowed) with
    | none => exact Nat.le_refl _
    | some next =>
        have hintime := (Option.filter_eq_some_iff.mp hnext).2
        exact Duration.le_def.mp (of_decide_eq_true hintime)
  sleep pause world := Nat.min_le_left _ _

/-- Takes the balance of the node, if it is not busy. -/
def inquire : Operation Unit := { hail with judge response := .ofPrecheck response.precheck }

/-- A node is busy, the next one takes too long, the one after that does not answer with a response,
and the others are busy. -/
def sceneOfDelays :
    Scene ((Duration × List (Duration × Except TransportError Bytes)) × List Wait) Unit where
  network := (rehearsed []).network
  health := .empty
  world :=
    let busy := Wire.encode ({ precheck := .busy } : Response)
    ((.ofSeconds 60, [(.ofMillis 300, .ok busy), (.ofSeconds 5, .ok busy),
      (.ofMillis 20, .ok [255]), (.ofMillis 700, .ok busy), (.ofMillis 5, .ok busy)]), [])

theorem execute_waits_as_settings_say_delayed :
    ExecuteSettings.quick.validate = .ok () ∧
      let run := execute leisurely.watched inquire .quick sceneOfDelays
      run.attempts.map (·.pause) = [some (.ofMillis 10), none, none, some (.ofMillis 80), none] ∧
      IsPaced .quick run.attempts ∧
      Duration.ofMillis 62115 = run.scene.world.1.1 ∧
      run.scene.world.1.1.nanos ≤ (Duration.ofMillis 65400).nanos := by
  have haccepted : ExecuteSettings.quick.validate = .ok () := rfl
  obtain ⟨hpaced, _, helapsed⟩ :=
    execute_waits_as_settings_say leisurely inquire haccepted sceneOfDelays
  exact ⟨haccepted, by decide +kernel, hpaced, by decide +kernel, helapsed isPunctual_leisurely⟩

end Execution

end LedgerClient
