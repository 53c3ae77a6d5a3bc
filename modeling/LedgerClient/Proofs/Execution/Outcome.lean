import LedgerClient.Proofs.Execution.Books

/-!
# What a call comes to

A call that makes attempts ends as the last of them says: with its outcome, or, where even
the last one is to be retried, with the budget used up. The others were all to be retried. A
call that goes to one node throughout finds that node whatever its health, and leaves the
place where the next walk over the nodes starts.
-/

namespace LedgerClient

variable {ω χ α : Type}

namespace Ending

/-- The response that an ending is made of means what the ending says. -/
def IsJudged (operation : Operation α) : Ending → Prop
  | .finished response => operation.judge response = .finished
  | .retry response => operation.judge response = .retry
  | .rejected response => operation.judge response = .rejected
  | .unbuilt _ | .unusable _ | .failed _ | .malformed _ => True

theorem isJudged_endingOf (operation : Operation α) (answer : Execution.Answer) :
    (Execution.endingOf operation answer).IsJudged operation := by
  rcases Execution.retries_or_concludes operation default answer with
    ⟨_, hretries⟩ | ⟨_, hconcludes⟩
  · cases hretries with
    | transport hnode => simp [Execution.endingOf, ofReply, hnode, IsJudged]
    | malformed hdecode => simp [Execution.endingOf, ofReply, hdecode, IsJudged]
    | status hdecode hjudge => simp [Execution.endingOf, ofReply, hdecode, hjudge, IsJudged]
  · cases hconcludes with
    | unbuilt => simp [Execution.endingOf, IsJudged]
    | clientSide hclient => simp [Execution.endingOf, ofReply, hclient, IsJudged]
    | finished hdecode hjudge => simp [Execution.endingOf, ofReply, hdecode, hjudge, IsJudged]
    | rejected hdecode hjudge => simp [Execution.endingOf, ofReply, hdecode, hjudge, IsJudged]

end Ending

namespace Execution

/-! ### The last attempt -/

/-- A run that made attempts, with a budget: all but the last are to be retried, and the last one
either is final, or is the last of the budget. -/
def Ends (operation : Operation α) (settings : ExecuteSettings) (budget : Nat)
    (run : Run ω χ α) : Prop :=
  ∃ before last, run.attempts = before ++ [last] ∧
    (∀ attempt ∈ before, attempt.ending.IsRetried) ∧
    (last.ending.sequel operation last.member.account = .final run.outcome ∨
      ∃ cause, last.ending.sequel operation last.member.account = .again cause ∧
        run.attempts.length = budget ∧
        run.outcome = .error (.attemptsExhausted settings.maxAttempts (some last.member.account)
          (some cause)))

section Loop

variable {surroundings : Surroundings ω χ} {operation : Operation α} {settings : ExecuteSettings}
  {scene : Scene ω χ} {made : Turn ω χ}

/-- One more attempt to be retried, and one more in the budget, leave the end of a run as it is. -/
theorem Ends.after {budget : Nat} {run : Run ω χ α} {attempt : Attempt}
    (hends : Ends operation settings budget run) (hretried : attempt.ending.IsRetried) :
    Ends operation settings (budget + 1) (run.after attempt) := by
  obtain ⟨before, last, hattempts, hbefore, hlast⟩ := hends
  refine ⟨attempt :: before, last, ?_, ?_, ?_⟩
  · simp only [Run.after, hattempts, List.cons_append]
  · intro other hother
    rcases List.mem_cons.mp hother with rfl | hlater
    · exact hretried
    · exact hbefore other hlater
  · rcases hlast with hfinal | ⟨cause, hagain, hlength, houtcome⟩
    · exact .inl hfinal
    · refine .inr ⟨cause, hagain, ?_, houtcome⟩
      simp only [Run.after, List.length_cons, hlength]

theorem ends_of_concludes {outcome : Outcome α}
    (hconcludes : Concludes operation made.member.account made.answer outcome) (budget : Nat) :
    Ends operation settings budget
      (⟨[made.attempt operation none], outcome, made.scene⟩ : Run ω χ α) :=
  ⟨[], made.attempt operation none, rfl, by simp, .inl (sequel_of_concludes hconcludes)⟩

/-- Where a node is found, the loop ends as its last attempt says. -/
theorem ends_attempts (hmade : turn surroundings operation settings scene = .ok made)
    (left number : Nat) (last : Option (AccountId × AttemptCause)) :
    Ends operation settings (left + 1)
      (attempts surroundings operation settings (left + 1) number last scene) := by
  induction left generalizing number last scene made with
  | zero =>
      rcases retries_or_concludes operation made.member.account made.answer with
        ⟨cause, hretries⟩ | ⟨outcome, hconcludes⟩
      · rw [attempts_of_turn_retries hmade hretries]
        exact ⟨[], made.attempt operation none, rfl, by simp,
          .inr ⟨cause, sequel_of_retries hretries, rfl, rfl⟩⟩
      · rw [attempts_of_turn_concludes hmade hconcludes]
        exact ends_of_concludes hconcludes _
  | succ left ih =>
      rcases retries_or_concludes operation made.member.account made.answer with
        ⟨cause, hretries⟩ | ⟨outcome, hconcludes⟩
      · -- A node is found again, so the run behind the turn is one with attempts.
        rw [attempts_of_turn_retries hmade hretries]
        obtain ⟨next, hnext⟩ := exists_turn_after hmade
          (if left + 1 = 0 then none else made.pause operation settings number)
        exact (ih hnext _ _).after (Ending.isRetried_of_retries hretries)
      · rw [attempts_of_turn_concludes hmade hconcludes]
        exact ends_of_concludes hconcludes _

theorem config_of_validate_eq_error {error : ClientError}
    (hinvalid : settings.validate = .error error) : ∃ fault, error = .config fault := by
  unfold ExecuteSettings.validate at hinvalid
  split at hinvalid
  next => exact ⟨_, (Except.error.inj hinvalid).symm⟩
  next =>
    split at hinvalid
    next => exact ⟨_, (Except.error.inj hinvalid).symm⟩
    next =>
      split at hinvalid
      next => exact ⟨_, (Except.error.inj hinvalid).symm⟩
      next => cases hinvalid

/-- A call is refused for its settings or for want of a node, or it ends as its last attempt
says. -/
theorem refused_or_ends (surroundings : Surroundings ω χ) (operation : Operation α)
    (settings : ExecuteSettings) (scene : Scene ω χ) :
    let run := execute surroundings operation settings scene
    (∃ fault, settings.validate = .error (.config fault) ∧ run = .refused (.config fault) scene) ∨
      (∃ error, turn surroundings operation settings scene = .error error ∧
        run = .refused error (scene.now surroundings).2) ∨
      settings.IsValid ∧ Ends operation settings settings.maxAttempts.toNat run := by
  intro run
  have hrun : run = execute surroundings operation settings scene := rfl
  unfold execute at hrun
  split at hrun
  next error hinvalid =>
    obtain ⟨fault, rfl⟩ := config_of_validate_eq_error hinvalid
    exact .inl ⟨fault, hinvalid, hrun⟩
  next hok =>
    have hvalid := ExecuteSettings.validate_eq_ok_iff.mp hok
    obtain ⟨left, hleft⟩ := budget_eq_add_one hvalid
    rw [hleft] at hrun ⊢
    cases hturn : turn surroundings operation settings scene with
    | error error =>
        refine .inr (.inl ⟨error, rfl, ?_⟩)
        rw [hrun]
        simp only [attempts, turn_eq_error_iff.mp hturn]
    | ok made =>
        rw [hrun]
        exact .inr (.inr ⟨hvalid, ends_attempts hturn left 0 none⟩)

theorem isJudged_of_mem_execute :
    ∀ attempt ∈ (execute surroundings operation settings scene).attempts,
      attempt.ending.IsJudged operation := by
  refine forall_mem_execute (fun attempt => attempt.ending.IsJudged operation) ?_
  intro scene made pause _
  exact Ending.isJudged_endingOf operation made.answer

end Loop

/-! ### Calls that go to one node -/

section Pinned

variable {surroundings : Surroundings ω χ} {operation : Operation α} {settings : ExecuteSettings}
  {account : AccountId}

/-- The pinned node is found whatever its health, and finding it changes nothing. -/
theorem pick_of_pinned (hpinned : operation.pinned = some account) {now : Timestamp}
    {scene next : Scene ω χ} {member : Member} :
    pick operation now scene = .ok (member, next) ↔
      scene.network.member? account = some member ∧ next = scene := by
  unfold pick
  cases hfound : scene.network.member? account with
  | none => simp [hpinned, hfound]
  | some found =>
      simp only [hpinned, hfound, Except.ok.injEq, Prod.mk.injEq, Option.some.injEq]
      exact and_congr_right fun _ => eq_comm

theorem member?_of_mem_execute (hpinned : operation.pinned = some account) (scene : Scene ω χ) :
    ∀ attempt ∈ (execute surroundings operation settings scene).attempts,
      scene.network.member? account = some attempt.member := by
  unfold execute
  split
  next => simp [Run.refused]
  next =>
    -- Which member it is depends on the members of the network only, and those stay.
    refine forall_mem_attempts
      (fun members attempt => members.find? (·.account == account) = some attempt.member) ?_ _ _ _ _
    intro scene made pause hmade
    obtain ⟨member, picked, hpick, rfl⟩ := turn_eq_ok_iff.mp hmade
    have hmember := ((pick_of_pinned hpinned).mp hpick).1
    rwa [Scene.network_now] at hmember

theorem attempts_ne_nil_of_pinned (hpinned : operation.pinned = some account) {scene : Scene ω χ}
    {member : Member} (hmember : scene.network.member? account = some member)
    (hvalid : settings.IsValid) :
    (execute surroundings operation settings scene).attempts ≠ [] := by
  have hturn : ∃ made, turn surroundings operation settings scene = .ok made :=
    ⟨_, turn_eq_ok_iff.mpr ⟨member, _, (pick_of_pinned hpinned).mpr ⟨hmember, rfl⟩, rfl⟩⟩
  rcases refused_or_ends surroundings operation settings scene with
    ⟨fault, hinvalid, _⟩ | ⟨error, hlost, _⟩ | ⟨_, before, last, hattempts, _⟩
  · rw [ExecuteSettings.validate_eq_ok_iff.mpr hvalid] at hinvalid
    cases hinvalid
  · obtain ⟨made, hmade⟩ := hturn
    cases hmade.symm.trans hlost
  · simp [hattempts]

end Pinned

end Execution

/-! ### The place where the next walk starts -/

theorem Network.cursor_channel (network : Network χ) (surroundings : Surroundings ω χ)
    (member : Member) (allowed : Duration) (world : ω) :
    (network.channel surroundings member allowed world).2.1.cursor = network.cursor := by
  simp only [channel]
  split
  next => rfl
  next => split <;> rfl

namespace Execution

section Cursor

variable {surroundings : Surroundings ω χ} {operation : Operation α} {settings : ExecuteSettings}

theorem cursor_exchange (surroundings : Surroundings ω χ) (allowed : Duration)
    (member : Member) (request : Bytes) (scene : Scene ω χ) :
    (exchange surroundings allowed member request scene).2.network.cursor =
      scene.network.cursor := by
  have hchannel := scene.network.cursor_channel surroundings member allowed scene.world
  unfold exchange
  split <;> simp_all

theorem cursor_attempt (surroundings : Surroundings ω χ) (operation : Operation α)
    (allowed : Duration) (member : Member) (now : Timestamp) (scene : Scene ω χ) :
    (attempt surroundings operation allowed member now scene).2.2.network.cursor =
      scene.network.cursor := by
  unfold attempt
  split
  · rfl
  · simp [ask, cursor_exchange]

theorem cursor_of_turn {account : AccountId} (hpinned : operation.pinned = some account)
    {scene : Scene ω χ} {made : Turn ω χ}
    (hmade : turn surroundings operation settings scene = .ok made) :
    made.scene.network.cursor = scene.network.cursor := by
  obtain ⟨member, picked, hpick, rfl⟩ := turn_eq_ok_iff.mp hmade
  obtain ⟨_, rfl⟩ := (pick_of_pinned hpinned).mp hpick
  exact cursor_attempt surroundings operation settings.requestTimeout member _ _

theorem cursor_execute {account : AccountId} (hpinned : operation.pinned = some account)
    (scene : Scene ω χ) :
    (execute surroundings operation settings scene).scene.network.cursor =
      scene.network.cursor := by
  unfold execute
  split
  next => rfl
  next =>
    refine attempts_induction
      (motive := fun scene run => run.scene.network.cursor = scene.network.cursor)
      ?_ ?_ ?_ ?_ _ _ _ _
    · intro scene error
      rfl
    · intro scene error _
      rfl
    · intro scene made outcome hmade _
      exact cursor_of_turn hpinned hmade
    · intro scene made cause pause run hmade _ hrun
      rw [network_rest] at hrun
      exact hrun.trans (cursor_of_turn hpinned hmade)

end Cursor

end Execution

end LedgerClient
