import LedgerClient.Proofs.Entity.RoundTrip
import LedgerClient.Proofs.Execution.Course
import Mathlib.Algebra.GroupWithZero.Nat

/-!
# The books of a call

A call enters each of its attempts in the health record of the node and in the
meters. Health records, meters and attempts tell the same story of a call, whatever
the nodes and the clock do.
-/

namespace LedgerClient

variable {ω χ α : Type}

/-! ### What the ending of an attempt stands for -/

namespace Ending

/-- The ending is a fault of the node: no answer came, the client's own settings not being the
reason, or the answer was no response, or it is to be retried and blamed on the node. -/
def IsFault (operation : Operation α) : Ending → Prop
  | .failed error => error.isClientSide = false
  | .malformed _ => True
  | .retry response => operation.isNodeFault response = true
  | .unbuilt _ | .unusable _ | .finished _ | .rejected _ => False

/-- Another attempt may follow. -/
def IsRetried : Ending → Prop
  | .failed _ | .malformed _ | .retry _ => True
  | .unbuilt _ | .unusable _ | .finished _ | .rejected _ => False

/-- The node gave the final answer. -/
def IsFinished : Ending → Prop
  | .finished _ => True
  | _ => False

instance (operation : Operation α) : DecidablePred (IsFault operation)
  | .failed error => inferInstanceAs (Decidable (error.isClientSide = false))
  | .malformed _ => inferInstanceAs (Decidable True)
  | .retry response => inferInstanceAs (Decidable (operation.isNodeFault response = true))
  | .unbuilt _ | .unusable _ | .finished _ | .rejected _ => inferInstanceAs (Decidable False)

instance : DecidablePred IsRetried
  | .failed _ | .malformed _ | .retry _ => inferInstanceAs (Decidable True)
  | .unbuilt _ | .unusable _ | .finished _ | .rejected _ => inferInstanceAs (Decidable False)

instance : DecidablePred IsFinished
  | .finished _ => inferInstanceAs (Decidable True)
  | .unbuilt _ | .unusable _ | .failed _ | .malformed _ | .retry _ | .rejected _ =>
      inferInstanceAs (Decidable False)

/-- What an attempt that ended so makes of the record of its node, given the moments at which it was
sent and at which it ended. -/
def enter (operation : Operation α) (moments : Timestamp × Timestamp) (ending : Ending)
    (health : Health) : Health :=
  let used := health.use moments.1
  if ending.IsFault operation then used.fail moments.2
  else if ending.IsFinished then used.succeed
  else used

@[simp] theorem uses_enter (operation : Operation α) (moments : Timestamp × Timestamp)
    (ending : Ending) (health : Health) :
    (ending.enter operation moments health).uses = health.uses + 1 := by
  unfold enter
  split
  · rfl
  · split <;> rfl

@[simp] theorem failures_enter (operation : Operation α) (moments : Timestamp × Timestamp)
    (ending : Ending) (health : Health) :
    (ending.enter operation moments health).failures =
      health.failures + UInt64.ofNat (if ending.IsFault operation then 1 else 0) := by
  unfold enter
  by_cases hfault : ending.IsFault operation
  · simp only [if_pos hfault]
    rfl
  · rw [if_neg hfault, if_neg hfault]
    refine Eq.trans ?_ (UInt64.add_zero _).symm
    split <;> rfl

/-- The endings of answers are charged to the node exactly when they are its fault. -/
theorem isCharged_endingOf (operation : Operation α) (answer : Execution.Answer) :
    (Execution.endingOf operation answer).isCharged operation = true ↔
      (Execution.endingOf operation answer).IsFault operation := by
  rcases Execution.retries_or_concludes operation default answer with
    ⟨_, hretries⟩ | ⟨_, hconcludes⟩
  · cases hretries with
    | transport hnode => simp [Execution.endingOf, ofReply, hnode, isCharged, IsFault]
    | malformed hdecode => simp [Execution.endingOf, ofReply, hdecode, isCharged, IsFault]
    | status hdecode hjudge =>
        simp [Execution.endingOf, ofReply, hdecode, hjudge, isCharged, IsFault]
  · cases hconcludes with
    | unbuilt => simp [Execution.endingOf, isCharged, IsFault]
    | clientSide hclient => simp [Execution.endingOf, ofReply, hclient, isCharged, IsFault]
    | finished hdecode hjudge =>
        simp [Execution.endingOf, ofReply, hdecode, hjudge, isCharged, IsFault]
    | rejected hdecode hjudge =>
        simp [Execution.endingOf, ofReply, hdecode, hjudge, isCharged, IsFault]

theorem isRetried_of_retries {operation : Operation α} {answer : Execution.Answer}
    {cause : AttemptCause} (hretries : Execution.Retries operation answer cause) :
    (Execution.endingOf operation answer).IsRetried := by
  cases hretries with
  | transport hnode => simp [Execution.endingOf, ofReply, hnode, IsRetried]
  | malformed hdecode => simp [Execution.endingOf, ofReply, hdecode, IsRetried]
  | status hdecode hjudge => simp [Execution.endingOf, ofReply, hdecode, hjudge, IsRetried]

theorem not_isFinished_of_isRetried {ending : Ending} (hretried : ending.IsRetried) :
    ¬ ending.IsFinished := by
  cases ending <;> simp_all [IsRetried, IsFinished]

end Ending

namespace Execution

/-! ### The health records -/

@[simp] theorem health_rest (surroundings : Surroundings ω χ) (pause : Option Duration)
    (scene : Scene ω χ) : (rest surroundings pause scene).health = scene.health := by
  cases pause <;> rfl

theorem health_settle (surroundings : Surroundings ω χ) (operation : Operation α)
    (member : Member) (ending : Ending) (scene : Scene ω χ) :
    (settle surroundings operation member ending scene).health =
      if ending.isCharged operation then
        scene.health.modify member.record (·.fail (scene.now surroundings).1)
      else if ending.IsFinished then scene.health.modify member.record (·.succeed)
      else scene.health := by
  unfold settle
  rw [foldl_bump]
  split
  · rfl
  · cases ending <;> rfl

/-- A turn ends as it was entered where there was nothing to send. Otherwise its ending is settled
in a scene whose records and counts are as they were entered. -/
theorem scene_turnAt (surroundings : Surroundings ω χ) (operation : Operation α)
    (allowed : Duration) (member : Member) (now : Timestamp) (scene : Scene ω χ) :
    let made := turnAt surroundings operation allowed member now scene
    let entered := enter operation member now scene
    (∃ error, made.answer = .error error ∧ made.scene = entered) ∨
      ∃ asked, asked.health = entered.health ∧
        (∀ counter, asked.meters.count counter = entered.meters.count counter) ∧
        made.scene = settle surroundings operation member (endingOf operation made.answer) asked := by
  intro made entered
  cases hrequest : operation.request member.account with
  | error error =>
      refine .inl ⟨error, ?_, ?_⟩
      · simp only [made, turnAt, hrequest]
        rfl
      · simp only [made, turnAt, attempt, hrequest, entered]
  | ok request =>
      let asked := (ask surroundings operation allowed member (Wire.encode request) entered).2
      refine .inr ⟨asked, ?_, fun counter => ?_, ?_⟩
      · exact health_exchange surroundings allowed member (Wire.encode request) entered
      · have hmeters := meters_exchange surroundings allowed member (Wire.encode request) entered
        exact (Meters.count_observe ..).trans (congrArg (Meters.count · counter) hmeters)
      · simp only [made, turnAt, attempt, hrequest]
        rfl

/-- A turn enters its ending in the record of its member, and leaves the other records alone. -/
theorem health_turnAt (surroundings : Surroundings ω χ) (operation : Operation α)
    (allowed : Duration) (member : Member) (now : Timestamp) (scene : Scene ω χ) :
    let made := turnAt surroundings operation allowed member now scene
    ∃ moments, ∀ name, made.scene.health.get name =
      if member.record = name then
        (endingOf operation made.answer).enter operation moments (scene.health.get name)
      else scene.health.get name := by
  intro made
  have henter : ∀ name, (enter operation member now scene).health.get name =
      if member.record = name then (scene.health.get name).use now
      else scene.health.get name :=
    fun name => HealthBook.get_modify scene.health member.record name (·.use now)
  rcases scene_turnAt surroundings operation allowed member now scene with
    ⟨error, hanswer, hscene⟩ | ⟨asked, hasked, _, hscene⟩
  · refine ⟨(now, now), fun name => ?_⟩
    rw [hscene, hanswer, henter]
    rfl
  · refine ⟨(now, (asked.now surroundings).1), fun name => ?_⟩
    rw [hscene, health_settle, hasked]
    simp only [Ending.isCharged_endingOf, Ending.enter]
    split
    · rw [HealthBook.get_modify, henter]
      split <;> rfl
    · split
      · rw [HealthBook.get_modify, henter]
        split <;> rfl
      · exact henter name

theorem health_of_turn {surroundings : Surroundings ω χ} {operation : Operation α}
    {settings : ExecuteSettings} {scene : Scene ω χ} {made : Turn ω χ}
    (hmade : turn surroundings operation settings scene = .ok made) :
    ∃ moments, ∀ name, made.scene.health.get name =
      if made.member.record = name then
        (endingOf operation made.answer).enter operation moments (scene.health.get name)
      else scene.health.get name := by
  obtain ⟨member, picked, hpick, rfl⟩ := turn_eq_ok_iff.mp hmade
  obtain ⟨moments, hmoments⟩ := health_turnAt surroundings operation settings.requestTimeout
    member (scene.now surroundings).1 picked
  rw [(members_pick hpick).2.1] at hmoments
  exact ⟨moments, hmoments⟩

/-- An attempt with the moments at which it was sent and at which it ended. -/
abbrev Entry := Attempt × Timestamp × Timestamp

/-- What entries make of the record they are all about. -/
def enterAll (operation : Operation α) (entries : List Entry) (health : Health) : Health :=
  entries.foldl (fun health entry => entry.1.ending.enter operation entry.2 health) health

/-- The entries about one record. -/
def about (name : RecordName) (entries : List Entry) : List Entry :=
  entries.filter fun entry => entry.1.member.record = name

theorem enterAll_about_cons (operation : Operation α) (name : RecordName) (entry : Entry)
    (entries : List Entry) (health : Health) :
    enterAll operation (about name (entry :: entries)) health =
      enterAll operation (about name entries)
        (if entry.1.member.record = name then entry.1.ending.enter operation entry.2 health
          else health) := by
  by_cases hname : entry.1.member.record = name <;> simp [enterAll, about, hname]

/-- The records that a run leaves are the ones it found, with one entry for each of its attempts, in
order, in the record of the attempt's member. -/
def KeepsRecords (operation : Operation α) (scene : Scene ω χ) (run : Run ω χ α) : Prop :=
  ∃ entries : List Entry, entries.map Prod.fst = run.attempts ∧
    ∀ name, run.scene.health.get name =
      enterAll operation (about name entries) (scene.health.get name)

theorem keepsRecords_attempts (surroundings : Surroundings ω χ) (operation : Operation α)
    (settings : ExecuteSettings) (left number : Nat) (last : Option (AccountId × AttemptCause))
    (scene : Scene ω χ) : KeepsRecords operation scene
      (attempts surroundings operation settings left number last scene) := by
  refine attempts_induction (motive := KeepsRecords operation) ?_ ?_ ?_ ?_ _ _ _ _
  · intro scene error
    exact ⟨[], rfl, fun _ => rfl⟩
  · intro scene error hlost
    exact ⟨[], rfl, fun _ => rfl⟩
  · intro scene made outcome hmade _
    obtain ⟨moments, hmoments⟩ := health_of_turn hmade
    refine ⟨[(made.attempt operation none, moments)], rfl, fun name => ?_⟩
    rw [enterAll_about_cons, hmoments]
    rfl
  · intro scene made cause pause run hmade _ hrun
    obtain ⟨moments, hmoments⟩ := health_of_turn hmade
    obtain ⟨entries, hentries, hrecords⟩ := hrun
    -- The later entries were made in what the turn left of the record.
    refine ⟨(made.attempt operation pause, moments) :: entries, ?_, fun name => ?_⟩
    · rw [List.map_cons, hentries]
      rfl
    · rw [enterAll_about_cons]
      refine (hrecords name).trans ?_
      rw [health_rest, hmoments]
      rfl

/-! ### The meters -/

theorem count_foldl_bump (counters : List Counter) (meters : Meters) (counter : Counter) :
    (counters.foldl (·.bump ·) meters).count counter =
      meters.count counter + counters.countP (·.place = counter.place) := by
  induction counters generalizing meters with
  | nil => rfl
  | cons first rest ih =>
      rw [List.foldl_cons, ih, Meters.count_bump, List.countP_cons]
      simp only [decide_eq_true_eq]
      omega

@[simp] theorem meters_rest (surroundings : Surroundings ω χ) (pause : Option Duration)
    (scene : Scene ω χ) : (rest surroundings pause scene).meters = scene.meters := by
  cases pause <;> rfl

theorem count_settle (surroundings : Surroundings ω χ) (operation : Operation α)
    (member : Member) (ending : Ending) (scene : Scene ω χ) (counter : Counter) :
    (settle surroundings operation member ending scene).meters.count counter =
      scene.meters.count counter +
        (ending.counters operation member.account).countP (·.place = counter.place) := by
  unfold settle
  rw [foldl_bump]
  refine (count_foldl_bump _ _ counter).trans ?_
  split
  · rfl
  · split <;> rfl

/-- A turn counts as one attempt, and as what its ending counts as. -/
theorem count_of_turn {surroundings : Surroundings ω χ} {operation : Operation α}
    {settings : ExecuteSettings} {scene : Scene ω χ} {made : Turn ω χ}
    (hmade : turn surroundings operation settings scene = .ok made) (counter : Counter) :
    made.scene.meters.count counter = scene.meters.count counter +
      (if (Counter.attempts operation.name).place = counter.place then 1 else 0) +
      ((endingOf operation made.answer).counters operation made.member.account).countP
        (·.place = counter.place) := by
  obtain ⟨member, picked, hpick, rfl⟩ := turn_eq_ok_iff.mp hmade
  have hmeters : picked.meters = scene.meters := (members_pick hpick).2.2.1
  rw [← hmeters]
  have henter : (enter operation member (scene.now surroundings).1 picked).meters.count counter =
      picked.meters.count counter +
        if (Counter.attempts operation.name).place = counter.place then 1 else 0 :=
    Meters.count_bump ..
  rcases scene_turnAt surroundings operation settings.requestTimeout member _ picked with
    ⟨error, hanswer, hscene⟩ | ⟨asked, _, hasked, hscene⟩
  · rw [hscene, henter, hanswer]
    rfl
  · rw [hscene, count_settle, hasked, henter]
    rfl

/-- A measure of the meters that is not touched when the budget is spent, and that a turn raises by one
where its attempt is of a kind, and else leaves, is raised by a run by the attempts of that kind. -/
theorem measure_attempts {surroundings : Surroundings ω χ} {operation : Operation α}
    {settings : ExecuteSettings} (measure : Meters → Nat) (kind : Attempt → Bool)
    (hspent : ∀ meters : Meters,
      measure (meters.bump (.exhausted operation.name)) = measure meters)
    (hturn : ∀ scene made pause, turn surroundings operation settings scene = .ok made →
      measure made.scene.meters =
        measure scene.meters + if kind (made.attempt operation pause) then 1 else 0)
    (left number : Nat) (last : Option (AccountId × AttemptCause)) (scene : Scene ω χ) :
    let run := attempts surroundings operation settings left number last scene
    measure run.scene.meters = measure scene.meters + run.attempts.countP kind := by
  refine attempts_induction (motive := fun scene run =>
    measure run.scene.meters = measure scene.meters + run.attempts.countP kind)
    ?_ ?_ ?_ ?_ left number last scene
  · intro scene error
    exact hspent scene.meters
  · intro scene error hlost
    rfl
  · intro scene made outcome hmade _
    simpa using hturn scene made none hmade
  · intro scene made cause pause run hmade _ hrun
    rw [meters_rest, hturn scene made pause hmade] at hrun
    simp only [Run.after, List.countP_cons]
    omega

end Execution

/-! ### What is read off the meters -/

/-- The attempts counted for an operation. -/
def Meters.attempts (meters : Meters) (operation : String) : Nat :=
  meters.count (.attempts operation)

/-- The reasons for which another attempt is made. -/
def retryReasons : List String := ["transport", "malformed", "node_fault", "not_yet_available"]

/-- The retries counted for an operation, whatever the reason. -/
def Meters.retries (meters : Meters) (operation : String) : Nat :=
  (retryReasons.map fun reason => meters.count (.retries operation reason)).sum

/-- The failures counted for an account. -/
def Meters.nodeFailures (meters : Meters) (account : AccountId) : Nat :=
  meters.count (.nodeFailures account.text)

namespace Ending

theorem countP_counters_attempts (operation : Operation α) (node : AccountId) (ending : Ending)
    (name : String) :
    (ending.counters operation node).countP (·.place = (Counter.attempts name).place) = 0 := by
  cases ending with
  | retry response => cases hfault : operation.isNodeFault response <;>
      simp [counters, isCharged, retryReason?, Counter.place, hfault]
  | _ => simp [counters, isCharged, retryReason?, Counter.place]

theorem countP_counters_nodeFailures (operation : Operation α) (node account : AccountId)
    (ending : Ending) :
    (ending.counters operation node).countP
        (·.place = (Counter.nodeFailures account.text).place) =
      if ending.isCharged operation ∧ node == account then 1 else 0 := by
  have htext : node.text = account.text ↔ (node == account) = true :=
    EntityId.text_eq_iff.trans EntityId.beq_iff.symm
  cases ending with
  | retry response => cases hfault : operation.isNodeFault response <;>
      simp [counters, isCharged, retryReason?, Counter.place, hfault, htext, List.countP_cons]
  | _ => simp [counters, isCharged, retryReason?, Counter.place, htext, List.countP_cons]

/-- An ending counts as a retry under one reason when it is one, and under none when it is not. -/
theorem sum_countP_counters_retries (operation : Operation α) (node : AccountId)
    (ending : Ending) :
    (retryReasons.map fun reason => (ending.counters operation node).countP
        (·.place = (Counter.retries operation.name reason).place)).sum =
      if ending.IsRetried then 1 else 0 := by
  cases ending with
  | retry response => cases hfault : operation.isNodeFault response <;>
      simp [retryReasons, counters, isCharged, retryReason?, Counter.place, hfault,
        List.countP_cons, IsRetried, String.append_right_inj]
  | _ => simp [retryReasons, counters, isCharged, retryReason?, Counter.place, List.countP_cons,
      IsRetried, String.append_right_inj]

end Ending

namespace Execution

section Loop

variable (surroundings : Surroundings ω χ) (operation : Operation α) (settings : ExecuteSettings)
  (left number : Nat) (last : Option (AccountId × AttemptCause)) (scene : Scene ω χ)

theorem meters_attempts :
    let run := attempts surroundings operation settings left number last scene
    run.scene.meters.attempts operation.name =
      scene.meters.attempts operation.name + run.attempts.length := by
  rw [← List.countP_true]
  refine measure_attempts (Meters.attempts · operation.name) (fun _ => true) ?_ ?_ _ _ _ _
  · intro meters
    simp [Meters.attempts, Meters.count_bump, Counter.place]
  · intro scene made pause hmade
    have hcount := count_of_turn hmade (.attempts operation.name)
    rw [Ending.countP_counters_attempts] at hcount
    simpa [Meters.attempts] using hcount

theorem meters_nodeFailures (account : AccountId) :
    let run := attempts surroundings operation settings left number last scene
    run.scene.meters.nodeFailures account = scene.meters.nodeFailures account +
      run.attempts.countP fun attempt =>
        decide (attempt.ending.IsFault operation) && attempt.member.account == account := by
  refine measure_attempts (Meters.nodeFailures · account) _ ?_ ?_ _ _ _ _
  · intro meters
    simp [Meters.nodeFailures, Meters.count_bump, Counter.place]
  · intro scene made pause hmade
    have hcount := count_of_turn hmade (.nodeFailures account.text)
    rw [Ending.countP_counters_nodeFailures] at hcount
    show _ = _ + if decide ((endingOf operation made.answer).IsFault operation) &&
      made.member.account == account then 1 else 0
    simpa [Meters.nodeFailures, Ending.isCharged_endingOf, Counter.place] using hcount

theorem meters_retries :
    let run := attempts surroundings operation settings left number last scene
    run.scene.meters.retries operation.name = scene.meters.retries operation.name +
      run.attempts.countP fun attempt => attempt.ending.IsRetried := by
  refine measure_attempts (Meters.retries · operation.name) _ ?_ ?_ _ _ _ _
  · intro meters
    simp [Meters.retries, Meters.count_bump, Counter.place]
  · intro scene made pause hmade
    -- The counts for the single reasons may stay or grow; their sum is what grows by one.
    have hsum := Ending.sum_countP_counters_retries operation made.member.account
      (endingOf operation made.answer)
    have hcount : ∀ reason, made.scene.meters.count (.retries operation.name reason) =
        scene.meters.count (.retries operation.name reason) +
          ((endingOf operation made.answer).counters operation made.member.account).countP
            (·.place = (Counter.retries operation.name reason).place) := by
      intro reason
      have hturn := count_of_turn hmade (.retries operation.name reason)
      rwa [if_neg (by simp [Counter.place]), Nat.add_zero] at hturn
    simp only [retryReasons, List.map_cons, List.map_nil, List.sum_cons, List.sum_nil] at hsum
    show _ = _ + if decide (endingOf operation made.answer).IsRetried then 1 else 0
    simp only [Meters.retries, hcount, retryReasons, List.map_cons, List.map_nil, List.sum_cons,
      List.sum_nil, decide_eq_true_eq]
    omega

/-! ### Whom the attempts go to, and how they end -/

/-- All attempts go to nodes of the network. -/
theorem member_mem_of_mem_attempts :
    ∀ attempt ∈ (attempts surroundings operation settings left number last scene).attempts,
      attempt.member ∈ scene.network.members := by
  refine forall_mem_attempts (fun members attempt => attempt.member ∈ members) ?_ _ _ _ _
  intro scene made pause hmade
  obtain ⟨member, picked, hpick, rfl⟩ := turn_eq_ok_iff.mp hmade
  have hmember := mem_members_of_pick hpick
  rwa [Scene.network_now] at hmember

/-- Only the last attempt may be one that is not to be retried. -/
theorem isRetried_of_mem_dropLast :
    ∀ attempt ∈ (attempts surroundings operation settings left number last scene).attempts.dropLast,
      attempt.ending.IsRetried := by
  refine attempts_induction (motive := fun _ run =>
    ∀ attempt ∈ run.attempts.dropLast, attempt.ending.IsRetried) ?_ ?_ ?_ ?_ _ _ _ _
  · simp
  · simp [Run.refused]
  · simp
  · intro scene made cause pause run hmade hretries hrun attempt hattempt
    -- Behind a turn to be retried the loop may end without another attempt.
    cases hattempts : run.attempts with
    | nil => simp [Run.after, hattempts] at hattempt
    | cons first rest =>
        simp only [Run.after, hattempts, List.dropLast_cons_cons, List.mem_cons] at hattempt
        rw [hattempts] at hrun
        rcases hattempt with rfl | hlater
        · exact Ending.isRetried_of_retries hretries
        · exact hrun attempt hlater

end Loop

/-- The last attempt is not one to be retried. -/
def IsSettled (attempts : List Attempt) : Prop :=
  ∃ attempt ∈ attempts.getLast?, ¬ attempt.ending.IsRetried

/-- Where only the last attempt may be one that is not to be retried, there is at most one more
attempt than there are retries: the one that settles the call. -/
theorem length_eq_countP_isRetried {attempts : List Attempt}
    (hretried : ∀ attempt ∈ attempts.dropLast, attempt.ending.IsRetried) :
    let retries := attempts.countP fun attempt => attempt.ending.IsRetried
    (IsSettled attempts → attempts.length = retries + 1) ∧
      (¬ IsSettled attempts → attempts.length = retries) := by
  rcases List.eq_nil_or_concat attempts with rfl | ⟨before, last, rfl⟩
  · simp [IsSettled]
  · have hbefore : before.countP (fun attempt => decide attempt.ending.IsRetried) =
        before.length := by
      rw [List.countP_eq_length]
      simpa using hretried
    by_cases hlast : last.ending.IsRetried <;> simp [IsSettled, hbefore, hlast]

theorem countP_isFinished_le_one {attempts : List Attempt}
    (hretried : ∀ attempt ∈ attempts.dropLast, attempt.ending.IsRetried) :
    attempts.countP (fun attempt => attempt.ending.IsFinished) ≤ 1 := by
  rcases List.eq_nil_or_concat attempts with rfl | ⟨before, last, rfl⟩
  · simp
  · have hbefore : before.countP (fun attempt => decide attempt.ending.IsFinished) = 0 := by
      rw [List.countP_eq_zero]
      intro attempt hattempt
      have hending := hretried attempt (by simpa using hattempt)
      simpa using Ending.not_isFinished_of_isRetried hending
    rw [List.concat_eq_append, List.countP_append, hbefore, List.countP_singleton]
    split <;> omega

theorem uses_enterAll (operation : Operation α) (entries : List Entry) (health : Health) :
    (enterAll operation entries health).uses = health.uses + UInt64.ofNat entries.length := by
  induction entries generalizing health with
  | nil => exact (UInt64.add_zero _).symm
  | cons entry rest ih =>
      have hrest := ih (entry.1.ending.enter operation entry.2 health)
      rw [Ending.uses_enter] at hrest
      rw [List.length_cons, Nat.add_comm, UInt64.ofNat_add, ← UInt64.add_assoc]
      exact hrest

theorem failures_enterAll (operation : Operation α) (entries : List Entry) (health : Health) :
    (enterAll operation entries health).failures = health.failures +
      UInt64.ofNat (entries.countP fun entry => entry.1.ending.IsFault operation) := by
  induction entries generalizing health with
  | nil => exact (UInt64.add_zero _).symm
  | cons entry rest ih =>
      have hrest := ih (entry.1.ending.enter operation entry.2 health)
      rw [Ending.failures_enter] at hrest
      rw [List.countP_cons, Nat.add_comm, UInt64.ofNat_add, ← UInt64.add_assoc]
      simp only [decide_eq_true_eq]
      exact hrest

/-- Entries that are neither faults nor final answers only count uses. -/
theorem enterAll_of_quiet (operation : Operation α) (entries : List Entry) (health : Health)
    (hquiet : ∀ entry ∈ entries,
      ¬ entry.1.ending.IsFault operation ∧ ¬ entry.1.ending.IsFinished) :
    let entered := enterAll operation entries health
    entered = { health with uses := entered.uses, lastUsed := entered.lastUsed } := by
  induction entries generalizing health with
  | nil => rfl
  | cons entry rest ih =>
      obtain ⟨hfault, hfinished⟩ := hquiet entry List.mem_cons_self
      have henter : entry.1.ending.enter operation entry.2 health = health.use entry.2.1 := by
        simp only [Ending.enter, if_neg hfault, if_neg hfinished]
      have hcons : enterAll operation (entry :: rest) health =
          enterAll operation rest (health.use entry.2.1) := by
        rw [← henter]
        rfl
      simp only [hcons]
      exact ih (health.use entry.2.1)
        fun later hlater => hquiet later (List.mem_cons_of_mem entry hlater)

/-- The books after a run, and what the attempts of the run say. -/
structure BooksAgree (operation : Operation α) (scene : Scene ω χ) (run : Run ω χ α) : Prop where
  /-- The record of a node is the one before the run, with the attempts at the node entered in
  order. -/
  records : ∃ entries : List Entry, entries.map Prod.fst = run.attempts ∧
    ∀ node ∈ scene.network.members, run.scene.healthOf node =
      enterAll operation (entries.filter (·.1.member.account == node.account)) (scene.healthOf node)
  uses : ∀ node ∈ scene.network.members,
    let tries := run.attempts.filter (·.member.account == node.account)
    (run.scene.healthOf node).uses = (scene.healthOf node).uses + UInt64.ofNat tries.length
  failures : ∀ node ∈ scene.network.members,
    let tries := run.attempts.filter (·.member.account == node.account)
    let faults := tries.countP (·.ending.IsFault operation)
    (run.scene.healthOf node).failures = (scene.healthOf node).failures + UInt64.ofNat faults ∧
      run.scene.meters.nodeFailures node.account =
        scene.meters.nodeFailures node.account + faults
  /-- Other endings than faults and final answers leave their mark in the uses only. -/
  quiet : ∀ node ∈ scene.network.members,
    let tries := run.attempts.filter (·.member.account == node.account)
    let after := run.scene.healthOf node
    (∀ attempt ∈ tries, ¬ attempt.ending.IsFault operation ∧ ¬ attempt.ending.IsFinished) →
      after = { scene.healthOf node with uses := after.uses, lastUsed := after.lastUsed }
  untouched : ∀ name, (∀ attempt ∈ run.attempts, attempt.member.record ≠ name) →
    run.scene.health.get name = scene.health.get name
  finished : run.attempts.countP (·.ending.IsFinished) ≤ 1
  attempts : run.scene.meters.attempts operation.name =
    scene.meters.attempts operation.name + run.attempts.length
  /-- All attempts are retries but one that settles the call. -/
  retries :
    (IsSettled run.attempts → scene.meters.retries operation.name + run.attempts.length =
      run.scene.meters.retries operation.name + 1) ∧
    (¬ IsSettled run.attempts → scene.meters.retries operation.name + run.attempts.length =
      run.scene.meters.retries operation.name)

theorem booksAgree_refused (operation : Operation α) (error : ClientError) (scene : Scene ω χ) :
    BooksAgree operation scene (.refused error scene) where
  records := ⟨[], rfl, fun _ _ => rfl⟩
  uses _ _ := (UInt64.add_zero _).symm
  failures _ _ := ⟨(UInt64.add_zero _).symm, rfl⟩
  quiet _ _ _ := rfl
  untouched _ _ := rfl
  finished := Nat.zero_le 1
  attempts := rfl
  retries := by simp [Run.refused, IsSettled]

/-- Entries about the record of a node of the network are those with the account of the node. -/
theorem about_record {network : Network χ} {node : Member} (hnode : node ∈ network.members)
    {entries : List Entry} (hentries : ∀ entry ∈ entries, entry.1.member ∈ network.members) :
    about node.record entries = entries.filter (·.1.member.account == node.account) := by
  refine List.filter_congr fun entry hentry => ?_
  rw [Bool.eq_iff_iff, decide_eq_true_eq]
  exact Network.record_eq_iff (hentries entry hentry) hnode

theorem booksAgree_attempts (surroundings : Surroundings ω χ) (operation : Operation α)
    (settings : ExecuteSettings) (left number : Nat) (last : Option (AccountId × AttemptCause))
    (scene : Scene ω χ) : BooksAgree operation scene
      (attempts surroundings operation settings left number last scene) := by
  have hmembers := member_mem_of_mem_attempts surroundings operation settings left number last scene
  have hretried := isRetried_of_mem_dropLast surroundings operation settings left number last scene
  have hretries := meters_retries surroundings operation settings left number last scene
  obtain ⟨hsettled, hunsettled⟩ := length_eq_countP_isRetried hretried
  obtain ⟨entries, hentries, hrecords⟩ :=
    keepsRecords_attempts surroundings operation settings left number last scene
  have hrecord : ∀ node ∈ scene.network.members,
      (attempts surroundings operation settings left number last scene).scene.healthOf node =
        enterAll operation (entries.filter (·.1.member.account == node.account))
          (scene.healthOf node) := by
    intro node hnode
    refine (hrecords node.record).trans ?_
    -- Records are told apart by accounts only among nodes of the network.
    rw [about_record hnode]
    · rfl
    · intro entry hentry
      refine hmembers entry.1 ?_
      rw [← hentries]
      exact List.mem_map_of_mem hentry
  have htries : ∀ node : Member,
      (attempts surroundings operation settings left number last scene).attempts.filter
          (·.member.account == node.account) =
        (entries.filter (·.1.member.account == node.account)).map Prod.fst := by
    intro node
    rw [← hentries, List.filter_map]
    rfl
  refine ⟨⟨entries, hentries, hrecord⟩, ?_, ?_, ?_, ?_, ?_, ?_, ?_⟩
  · intro node hnode tries
    rw [hrecord node hnode, uses_enterAll]
    simp only [tries, htries, List.length_map]
  · intro node hnode tries faults
    refine ⟨?_, ?_⟩
    · rw [hrecord node hnode, failures_enterAll]
      simp only [faults, tries, htries, List.countP_map]
      rfl
    · -- The meters count faults by account, which is what the attempts are filtered by.
      rw [meters_nodeFailures, ← List.countP_filter]
  · intro node hnode tries after hquiet
    have hentered := enterAll_of_quiet operation
      (entries.filter (·.1.member.account == node.account)) (scene.healthOf node)
      (by
        intro entry hentry
        refine hquiet entry.1 ?_
        simp only [tries, htries]
        exact List.mem_map_of_mem hentry)
    simp only [after, hrecord node hnode]
    exact hentered
  · intro name hname
    rw [hrecords name]
    have habout : about name entries = [] := by
      refine List.filter_eq_nil_iff.mpr fun entry hentry => ?_
      rw [decide_eq_true_eq]
      refine hname entry.1 ?_
      rw [← hentries]
      exact List.mem_map_of_mem hentry
    rw [habout]
    rfl
  · exact countP_isFinished_le_one hretried
  · exact meters_attempts surroundings operation settings left number last scene
  · refine ⟨fun hlast => ?_, fun hlast => ?_⟩
    · rw [hretries, hsettled hlast]
      omega
    · rw [hretries, hunsettled hlast]

/-- The books of a call agree, for all nodes, clocks and settings. -/
theorem execute_books (surroundings : Surroundings ω χ) (operation : Operation α)
    (settings : ExecuteSettings) (scene : Scene ω χ) :
    BooksAgree operation scene (execute surroundings operation settings scene) := by
  unfold execute
  split
  · exact booksAgree_refused operation _ scene
  · exact booksAgree_attempts ..

end Execution

end LedgerClient
