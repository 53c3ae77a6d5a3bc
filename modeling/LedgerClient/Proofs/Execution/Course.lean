import LedgerClient.Execution.Run
import LedgerClient.Proofs.Network.Choice

/-!
# The course of a call

A call is compared with the course it would take if it could make any number of
attempts and went on after each of them. The attempts of the loop are the first ones
of that course: they end at the first attempt that is not to be retried, and without
one they use up the budget. Nodes do not leave a network during a call, so looking
for one fails before the first attempt or never.
-/

namespace LedgerClient

variable {ω χ α : Type}

/-- A run with one more attempt in front. -/
def Run.after (attempt : Attempt) (run : Run ω χ α) : Run ω χ α :=
  { run with attempts := attempt :: run.attempts }

/-- A run with more attempts in front. -/
def Run.afterAll (attempts : List Attempt) (run : Run ω χ α) : Run ω χ α :=
  { run with attempts := attempts ++ run.attempts }

/-! ### The nodes of a network during a call -/

namespace Network

@[simp] theorem members_channel (network : Network χ) (surroundings : Surroundings ω χ)
    (member : Member) (allowed : Duration) (world : ω) :
    (network.channel surroundings member allowed world).2.1.members = network.members := by
  simp only [channel]
  split
  next => rfl
  next => split <;> rfl

end Network

namespace Execution

@[simp] theorem members_exchange (surroundings : Surroundings ω χ) (allowed : Duration)
    (member : Member) (request : Bytes) (scene : Scene ω χ) :
    (exchange surroundings allowed member request scene).2.network.members =
      scene.network.members := by
  have hchannel := scene.network.members_channel surroundings member allowed scene.world
  unfold exchange
  split <;> simp_all

@[simp] theorem health_exchange (surroundings : Surroundings ω χ) (allowed : Duration)
    (member : Member) (request : Bytes) (scene : Scene ω χ) :
    (exchange surroundings allowed member request scene).2.health = scene.health := by
  unfold exchange
  split <;> rfl

@[simp] theorem meters_exchange (surroundings : Surroundings ω χ) (allowed : Duration)
    (member : Member) (request : Bytes) (scene : Scene ω χ) :
    (exchange surroundings allowed member request scene).2.meters = scene.meters := by
  unfold exchange
  split <;> rfl

@[simp] theorem network_enter (operation : Operation α) (member : Member) (now : Timestamp)
    (scene : Scene ω χ) : (enter operation member now scene).network = scene.network := rfl

/-- Counting changes the meters only. -/
theorem foldl_bump (counters : List Counter) (scene : Scene ω χ) :
    counters.foldl (·.bump ·) scene =
      { scene with meters := counters.foldl (·.bump ·) scene.meters } := by
  induction counters generalizing scene with
  | nil => rfl
  | cons counter rest ih => exact ih (scene.bump counter)

@[simp] theorem network_settle (surroundings : Surroundings ω χ) (operation : Operation α)
    (member : Member) (ending : Ending) (scene : Scene ω χ) :
    (settle surroundings operation member ending scene).network = scene.network := by
  unfold settle
  simp only [foldl_bump]
  split
  · rfl
  · split <;> rfl

/-- The clock is read for what is charged to the node only. -/
theorem world_settle (surroundings : Surroundings ω χ) (operation : Operation α)
    (member : Member) (ending : Ending) (scene : Scene ω χ) :
    (settle surroundings operation member ending scene).world =
      if ending.isCharged operation then (surroundings.clock scene.world).2 else scene.world := by
  unfold settle
  simp only [foldl_bump]
  split
  · rfl
  · split <;> rfl

@[simp] theorem network_rest (surroundings : Surroundings ω χ) (pause : Option Duration)
    (scene : Scene ω χ) : (rest surroundings pause scene).network = scene.network := by
  cases pause <;> rfl

@[simp] theorem members_attempt (surroundings : Surroundings ω χ) (operation : Operation α)
    (allowed : Duration) (member : Member) (now : Timestamp) (scene : Scene ω χ) :
    (attempt surroundings operation allowed member now scene).2.2.network.members =
      scene.network.members := by
  unfold attempt
  split
  · rfl
  · simp [ask]

theorem members_pick {operation : Operation α} {now : Timestamp} {scene next : Scene ω χ}
    {member : Member} (hpick : pick operation now scene = .ok (member, next)) :
    next.network.members = scene.network.members ∧ next.health = scene.health ∧
      next.meters = scene.meters ∧ next.world = scene.world := by
  unfold pick at hpick
  split at hpick
  · split at hpick
    · cases hpick
      exact ⟨rfl, rfl, rfl, rfl⟩
    · cases hpick
  · unfold Network.select at hpick
    split at hpick
    · cases hpick
    · cases hpick
      exact ⟨rfl, rfl, rfl, rfl⟩

/-- The node an attempt goes to is one of the network. -/
theorem mem_members_of_pick {operation : Operation α} {now : Timestamp} {scene next : Scene ω χ}
    {member : Member} (hpick : pick operation now scene = .ok (member, next)) :
    member ∈ scene.network.members := by
  unfold pick at hpick
  split at hpick
  · split at hpick
    next found hfound =>
      cases hpick
      exact List.mem_of_find?_eq_some hfound
    next => cases hpick
  · unfold Network.select at hpick
    split at hpick
    next => cases hpick
    next found position hchoice =>
      cases hpick
      have hplaced := Network.mem_zipIdx_of_choice hchoice
      exact Network.mem_members_of_mem_eligible (List.fst_mem_of_mem_zipIdx hplaced)

/-- Whether a node is found depends on the nodes of the network only. -/
theorem pick_isOk_of_members_eq {operation : Operation α} {now : Timestamp}
    {scene later : Scene ω χ} (hmembers : later.network.members = scene.network.members)
    (hpick : ∃ found, pick operation now scene = .ok found) (moment : Timestamp) :
    ∃ found, pick operation moment later = .ok found := by
  obtain ⟨found, hfound⟩ := hpick
  unfold pick at hfound ⊢
  cases hpinned : operation.pinned with
  | some account =>
      have hsame : later.network.member? account = scene.network.member? account := by
        simp only [Network.member?, hmembers]
      rw [hpinned] at hfound
      simp only [hsame]
      cases hmember : scene.network.member? account with
      | none => simp [hmember] at hfound
      | some member => exact ⟨_, rfl⟩
  | none =>
      rw [hpinned] at hfound
      -- Health and the cursor decide which node it is, but not whether there is one.
      have hsame : later.network.eligible operation.candidates =
          scene.network.eligible operation.candidates := by
        simp only [Network.eligible, hmembers]
      have hsome : scene.network.eligible operation.candidates ≠ [] := by
        intro hempty
        have hnone :=
          (scene.network.choice_eq_none_iff scene.health operation.candidates now).mpr hempty
        simp [Network.select, hnone, bind, Except.bind] at hfound
      cases hchoice : later.network.choice later.health operation.candidates moment with
      | none =>
          rw [Network.choice_eq_none_iff, hsame] at hchoice
          exact absurd hchoice hsome
      | some chosen =>
          simp only [Network.select, hchoice]
          exact ⟨_, rfl⟩

/-! ### What an attempt comes to -/

/-- What came back for a request, or why there was no request. -/
abbrev Answer := Outcome (Except TransportError Bytes)

/-- An answer after which another attempt is made, and the cause it gives: no reply where the
client's own settings are not at fault, a reply that is no response, or a response to be retried. -/
inductive Retries (operation : Operation α) : Answer → AttemptCause → Prop where
  | transport {error : TransportError} (hnode : error.isClientSide = false) :
      Retries operation (.ok (.error error)) (.transport error)
  | malformed {bytes : Bytes} {error : CodecError}
      (hdecode : Wire.decode Response bytes = .error error) :
      Retries operation (.ok (.ok bytes)) (.transport (.io ("Codec error: " ++ error.text)))
  | status {bytes : Bytes} {response : Response}
      (hdecode : Wire.decode Response bytes = .ok response)
      (hjudge : operation.judge response = .retry) :
      Retries operation (.ok (.ok bytes)) (.status (operation.status response))

/-- An answer of a node that ends the call, and what the call then comes to. -/
inductive Concludes (operation : Operation α) (node : AccountId) : Answer → Outcome α → Prop where
  | unbuilt {error : ClientError} : Concludes operation node (.error error) (.error error)
  | clientSide {error : TransportError} (hclient : error.isClientSide = true) :
      Concludes operation node (.ok (.error error)) (.error (.transport error))
  | finished {bytes : Bytes} {response : Response}
      (hdecode : Wire.decode Response bytes = .ok response)
      (hjudge : operation.judge response = .finished) :
      Concludes operation node (.ok (.ok bytes)) (operation.output response node)
  | rejected {bytes : Bytes} {response : Response}
      (hdecode : Wire.decode Response bytes = .ok response)
      (hjudge : operation.judge response = .rejected) :
      Concludes operation node (.ok (.ok bytes)) (.error (operation.refusal response node))

/-- How an attempt with an answer ends. -/
def endingOf (operation : Operation α) : Answer → Ending
  | .error error => .unbuilt error
  | .ok reply => .ofReply operation reply

theorem ofReply_ne_unbuilt (operation : Operation α) (reply : Except TransportError Bytes)
    (error : ClientError) : Ending.ofReply operation reply ≠ .unbuilt error := by
  unfold Ending.ofReply
  split
  next => split <;> simp
  next =>
    split
    next => simp
    next => split <;> simp

theorem sequel_of_retries {operation : Operation α} {node : AccountId} {answer : Answer}
    {cause : AttemptCause} (hretries : Retries operation answer cause) :
    (endingOf operation answer).sequel operation node = .again cause := by
  cases hretries with
  | transport hnode => simp [endingOf, Ending.ofReply, hnode, Ending.sequel]
  | malformed hdecode =>
      simp only [endingOf, Ending.ofReply, hdecode, Ending.sequel]
      rfl
  | status hdecode hjudge => simp [endingOf, Ending.ofReply, hdecode, hjudge, Ending.sequel]

theorem sequel_of_concludes {operation : Operation α} {node : AccountId} {answer : Answer}
    {outcome : Outcome α} (hconcludes : Concludes operation node answer outcome) :
    (endingOf operation answer).sequel operation node = .final outcome := by
  cases hconcludes with
  | unbuilt => rfl
  | clientSide hclient => simp [endingOf, Ending.ofReply, hclient, Ending.sequel]
  | finished hdecode hjudge => simp [endingOf, Ending.ofReply, hdecode, hjudge, Ending.sequel]
  | rejected hdecode hjudge => simp [endingOf, Ending.ofReply, hdecode, hjudge, Ending.sequel]

/-- Every answer either is to be retried, for one cause, or ends the call, in one way. -/
theorem retries_or_concludes (operation : Operation α) (node : AccountId) (answer : Answer) :
    (∃ cause, Retries operation answer cause) ∨ ∃ outcome, Concludes operation node answer outcome := by
  rcases answer with error | error | bytes
  · exact .inr ⟨_, .unbuilt⟩
  · cases hclient : error.isClientSide with
    | false => exact .inl ⟨_, .transport hclient⟩
    | true => exact .inr ⟨_, .clientSide hclient⟩
  · cases hdecode : Wire.decode Response bytes with
    | error error => exact .inl ⟨_, .malformed hdecode⟩
    | ok response =>
        cases hjudge : operation.judge response with
        | finished => exact .inr ⟨_, .finished hdecode hjudge⟩
        | retry => exact .inl ⟨_, .status hdecode hjudge⟩
        | rejected => exact .inr ⟨_, .rejected hdecode hjudge⟩

theorem Concludes.not_retries {operation : Operation α} {node : AccountId} {answer : Answer}
    {outcome : Outcome α} (hconcludes : Concludes operation node answer outcome)
    (cause : AttemptCause) : ¬ Retries operation answer cause := by
  intro hretries
  have hsequel := sequel_of_concludes hconcludes
  rw [sequel_of_retries hretries] at hsequel
  cases hsequel

/-! ### Turns -/

/-- An attempt as it is seen from outside the loop. -/
structure Turn (ω χ : Type) where
  member : Member
  /-- What there was to send, if a request could be built. -/
  sent : Option Bytes
  answer : Answer
  /-- The scene with the attempt in the books. -/
  scene : Scene ω χ

/-- The attempt at a member that begins at a moment. -/
def turnAt (surroundings : Surroundings ω χ) (operation : Operation α) (allowed : Duration)
    (member : Member) (now : Timestamp) (scene : Scene ω χ) : Turn ω χ where
  member
  sent := (operation.request member.account).toOption.map Wire.encode
  answer := (operation.request member.account).map fun request =>
    (exchange surroundings allowed member (Wire.encode request)
      (enter operation member now scene)).1
  scene := (attempt surroundings operation allowed member now scene).2.2

/-- The attempt at the node that comes next. -/
def turn (surroundings : Surroundings ω χ) (operation : Operation α) (settings : ExecuteSettings)
    (scene : Scene ω χ) : Outcome (Turn ω χ) :=
  let (now, scene) := scene.now surroundings
  (pick operation now scene).map fun (member, scene) =>
    turnAt surroundings operation settings.requestTimeout member now scene

/-- The pause after a turn, the turn being the one numbered `number`. -/
def Turn.pause (operation : Operation α) (settings : ExecuteSettings) (number : Nat)
    (turn : Turn ω χ) : Option Duration :=
  if (endingOf operation turn.answer).pauses then some (settings.backoffFor number) else none

/-- The attempts of a call that goes on after each of them, by number. -/
def course (surroundings : Surroundings ω χ) (operation : Operation α)
    (settings : ExecuteSettings) (scene : Scene ω χ) : Nat → Outcome (Turn ω χ)
  | 0 => turn surroundings operation settings scene
  | number + 1 => do
      let last ← course surroundings operation settings scene number
      turn surroundings operation settings
        (rest surroundings (last.pause operation settings number) last.scene)

theorem attempt_eq_turnAt (surroundings : Surroundings ω χ) (operation : Operation α)
    (allowed : Duration) (member : Member) (now : Timestamp) (scene : Scene ω χ) :
    attempt surroundings operation allowed member now scene =
      ((turnAt surroundings operation allowed member now scene).sent,
        endingOf operation (turnAt surroundings operation allowed member now scene).answer,
        (turnAt surroundings operation allowed member now scene).scene) := by
  simp only [turnAt, attempt]
  cases operation.request member.account <;> rfl

theorem turn_eq_ok_iff {surroundings : Surroundings ω χ} {operation : Operation α}
    {settings : ExecuteSettings} {scene : Scene ω χ} {made : Turn ω χ} :
    turn surroundings operation settings scene = .ok made ↔
      ∃ member picked,
        pick operation (scene.now surroundings).1 (scene.now surroundings).2 =
          .ok (member, picked) ∧
        made = turnAt surroundings operation settings.requestTimeout member
          (scene.now surroundings).1 picked := by
  unfold turn
  cases hpick : pick operation (scene.now surroundings).1 (scene.now surroundings).2 with
  | error error => simp [hpick, Except.map]
  | ok found =>
      obtain ⟨member, picked⟩ := found
      simp [hpick, Except.map, eq_comm]

/-- A turn has no answer just where no request can be built. -/
theorem answer_eq_error_iff {surroundings : Surroundings ω χ} {operation : Operation α}
    {settings : ExecuteSettings} {scene : Scene ω χ} {made : Turn ω χ} {error : ClientError}
    (hmade : turn surroundings operation settings scene = .ok made) :
    made.answer = .error error ↔ operation.request made.member.account = .error error := by
  obtain ⟨member, picked, _, rfl⟩ := turn_eq_ok_iff.mp hmade
  simp only [turnAt]
  cases hrequest : operation.request member.account <;> simp [Except.map]

theorem members_of_turn {surroundings : Surroundings ω χ} {operation : Operation α}
    {settings : ExecuteSettings} {scene : Scene ω χ} {made : Turn ω χ}
    (hmade : turn surroundings operation settings scene = .ok made) (pause : Option Duration) :
    (rest surroundings pause made.scene).network.members = scene.network.members := by
  obtain ⟨member, picked, hpick, rfl⟩ := turn_eq_ok_iff.mp hmade
  rw [network_rest]
  exact (members_attempt surroundings operation settings.requestTimeout member _ picked).trans
    (members_pick hpick).1

/-- After a turn the next node is found as surely as the one of the turn was. -/
theorem exists_turn_after {surroundings : Surroundings ω χ} {operation : Operation α}
    {settings : ExecuteSettings} {scene : Scene ω χ} {made : Turn ω χ}
    (hmade : turn surroundings operation settings scene = .ok made) (pause : Option Duration) :
    ∃ next, turn surroundings operation settings (rest surroundings pause made.scene) = .ok next := by
  obtain ⟨member, picked, hpick, hfound⟩ := turn_eq_ok_iff.mp hmade
  have hmembers : ((rest surroundings pause made.scene).now surroundings).2.network.members =
      (scene.now surroundings).2.network.members := members_of_turn hmade pause
  obtain ⟨⟨nextMember, nextPicked⟩, hnext⟩ := pick_isOk_of_members_eq hmembers ⟨_, hpick⟩
    ((rest surroundings pause made.scene).now surroundings).1
  exact ⟨_, turn_eq_ok_iff.mpr ⟨nextMember, nextPicked, hnext, rfl⟩⟩

/-- The scene in which the turn numbered `number` of a course is made. -/
def sceneBefore (surroundings : Surroundings ω χ) (operation : Operation α)
    (settings : ExecuteSettings) (scene : Scene ω χ) (turns : Nat → Turn ω χ) : Nat → Scene ω χ
  | 0 => scene
  | number + 1 =>
      rest surroundings ((turns number).pause operation settings number) (turns number).scene

theorem turn_sceneBefore {surroundings : Surroundings ω χ} {operation : Operation α}
    {settings : ExecuteSettings} {scene : Scene ω χ} {turns : Nat → Turn ω χ}
    (hturns : ∀ number, course surroundings operation settings scene number = .ok (turns number))
    (number : Nat) :
    turn surroundings operation settings
      (sceneBefore surroundings operation settings scene turns number) = .ok (turns number) := by
  cases number with
  | zero => exact hturns 0
  | succ number =>
      have hnext := hturns (number + 1)
      simp only [course, hturns number] at hnext
      exact hnext

/-- A course that has a first turn has all of them. -/
theorem exists_course_of_first {surroundings : Surroundings ω χ} {operation : Operation α}
    {settings : ExecuteSettings} {scene : Scene ω χ} {first : Turn ω χ}
    (hfirst : course surroundings operation settings scene 0 = .ok first) (number : Nat) :
    ∃ made earlier, course surroundings operation settings scene number = .ok made ∧
      turn surroundings operation settings earlier = .ok made := by
  induction number with
  | zero => exact ⟨first, scene, hfirst, hfirst⟩
  | succ number ih =>
      obtain ⟨before, earlier, hbefore, hearlier⟩ := ih
      obtain ⟨made, hmade⟩ := exists_turn_after hearlier (before.pause operation settings number)
      refine ⟨made, _, ?_, hmade⟩
      simp only [course, hbefore]
      exact hmade

theorem exists_turns_of_first {surroundings : Surroundings ω χ} {operation : Operation α}
    {settings : ExecuteSettings} {scene : Scene ω χ} {first : Turn ω χ}
    (hfirst : course surroundings operation settings scene 0 = .ok first) :
    ∃ turns : Nat → Turn ω χ,
      ∀ number, course surroundings operation settings scene number = .ok (turns number) := by
  have hall : ∀ number, ∃ made,
      course surroundings operation settings scene number = .ok made := by
    intro number
    obtain ⟨made, _, hmade, _⟩ := exists_course_of_first hfirst number
    exact ⟨made, hmade⟩
  exact Classical.axiomOfChoice hall

/-! ### The loop follows the course -/

/-- An attempt for a turn. -/
def Turn.attempt (operation : Operation α) (pause : Option Duration) (turn : Turn ω χ) : Attempt :=
  ⟨turn.member, turn.sent, endingOf operation turn.answer, pause⟩

section Round

variable {surroundings : Surroundings ω χ} {operation : Operation α} {settings : ExecuteSettings}
  {scene : Scene ω χ} {made : Turn ω χ}

/-- What one round of the loop does, in terms of its turn. -/
theorem attempts_of_turn (hmade : turn surroundings operation settings scene = .ok made)
    (left number : Nat) (last : Option (AccountId × AttemptCause)) :
    attempts surroundings operation settings (left + 1) number last scene =
      match (endingOf operation made.answer).sequel operation made.member.account with
      | .final outcome => ⟨[made.attempt operation none], outcome, made.scene⟩
      | .again cause =>
          let pause := if left = 0 then none else made.pause operation settings number
          (attempts surroundings operation settings left (number + 1)
            (some (made.member.account, cause)) (rest surroundings pause made.scene)).after
              (made.attempt operation pause) := by
  obtain ⟨member, picked, hpick, rfl⟩ := turn_eq_ok_iff.mp hmade
  -- The loop pauses only when an attempt is left.
  have hpause (made : Turn ω χ) :
      (if (endingOf operation made.answer).pauses && left != 0 then
          some (settings.backoffFor number) else none) =
        if left = 0 then none else made.pause operation settings number := by
    by_cases hleft : left = 0 <;> simp [hleft, Turn.pause]
  rw [attempts]
  simp only [hpick, attempt_eq_turnAt, hpause]
  rfl

/-- A turn that ends the call is the last one. -/
theorem attempts_of_turn_concludes {outcome : Outcome α}
    (hmade : turn surroundings operation settings scene = .ok made)
    (hconcludes : Concludes operation made.member.account made.answer outcome) (left number : Nat)
    (last : Option (AccountId × AttemptCause)) :
    attempts surroundings operation settings (left + 1) number last scene =
      ⟨[made.attempt operation none], outcome, made.scene⟩ := by
  rw [attempts_of_turn hmade, sequel_of_concludes hconcludes]

/-- After a turn to be retried the loop goes on behind the pause, with what the turn says in hand. -/
theorem attempts_of_turn_retries {cause : AttemptCause}
    (hmade : turn surroundings operation settings scene = .ok made)
    (hretries : Retries operation made.answer cause) (left number : Nat)
    (last : Option (AccountId × AttemptCause)) :
    attempts surroundings operation settings (left + 1) number last scene =
      let pause := if left = 0 then none else made.pause operation settings number
      (attempts surroundings operation settings left (number + 1)
        (some (made.member.account, cause)) (rest surroundings pause made.scene)).after
          (made.attempt operation pause) := by
  rw [attempts_of_turn hmade, sequel_of_retries hretries]

theorem turn_eq_error_iff {error : ClientError} :
    turn surroundings operation settings scene = .error error ↔
      pick operation (scene.now surroundings).1 (scene.now surroundings).2 = .error error := by
  unfold turn
  cases hpick : pick operation (scene.now surroundings).1 (scene.now surroundings).2 with
  | error other => simp [hpick, Except.map]
  | ok found => simp [hpick, Except.map]

end Round

/-- What holds of a used up budget, of a node that is not found and of a last turn, and is kept when
a turn to be retried comes before a run, holds of all runs of the loop. -/
theorem attempts_induction {surroundings : Surroundings ω χ} {operation : Operation α}
    {settings : ExecuteSettings} {motive : Scene ω χ → Run ω χ α → Prop}
    (hspent : ∀ scene error, motive scene
      ⟨[], .error error, scene.bump (.exhausted operation.name)⟩)
    (hlost : ∀ scene error, turn surroundings operation settings scene = .error error →
      motive scene (.refused error (scene.now surroundings).2))
    (hfinal : ∀ scene made outcome, turn surroundings operation settings scene = .ok made →
      Concludes operation made.member.account made.answer outcome →
      motive scene ⟨[made.attempt operation none], outcome, made.scene⟩)
    (hagain : ∀ scene made cause pause run, turn surroundings operation settings scene = .ok made →
      Retries operation made.answer cause → motive (rest surroundings pause made.scene) run →
      motive scene (run.after (made.attempt operation pause)))
    (left number : Nat) (last : Option (AccountId × AttemptCause)) (scene : Scene ω χ) :
    motive scene (attempts surroundings operation settings left number last scene) := by
  -- The number, the cause in hand and the scene all change from one round to the next.
  induction left generalizing number last scene with
  | zero => exact hspent scene _
  | succ left ih =>
      cases hturn : turn surroundings operation settings scene with
      | error error =>
          simp only [attempts, turn_eq_error_iff.mp hturn]
          exact hlost scene error hturn
      | ok made =>
          rcases retries_or_concludes operation made.member.account made.answer with
            ⟨cause, hretries⟩ | ⟨outcome, hconcludes⟩
          · rw [attempts_of_turn_retries hturn hretries]
            exact hagain scene made cause _ _ hturn hretries (ih _ _ _)
          · rw [attempts_of_turn_concludes hturn hconcludes]
            exact hfinal scene made outcome hturn hconcludes

/-- What holds of the attempt for every turn, given the nodes of the network, holds of all attempts
of a run. -/
theorem forall_mem_attempts {surroundings : Surroundings ω χ} {operation : Operation α}
    {settings : ExecuteSettings} (holds : List Member → Attempt → Prop)
    (hturn : ∀ scene made pause, turn surroundings operation settings scene = .ok made →
      holds scene.network.members (made.attempt operation pause))
    (left number : Nat) (last : Option (AccountId × AttemptCause)) (scene : Scene ω χ) :
    ∀ attempt ∈ (attempts surroundings operation settings left number last scene).attempts,
      holds scene.network.members attempt := by
  refine attempts_induction (motive := fun scene run =>
    ∀ attempt ∈ run.attempts, holds scene.network.members attempt) ?_ ?_ ?_ ?_ _ _ _ _
  · simp
  · simp [Run.refused]
  · intro scene made outcome hmade _ attempt hattempt
    rw [List.mem_singleton.mp hattempt]
    exact hturn scene made none hmade
  · intro scene made cause pause run hmade _ hrun attempt hattempt
    rcases List.mem_cons.mp hattempt with rfl | hlater
    · exact hturn scene made pause hmade
    · -- The run behind the turn began with the same nodes.
      rw [← members_of_turn hmade pause]
      exact hrun attempt hlater

section Call

variable {surroundings : Surroundings ω χ} {operation : Operation α} {settings : ExecuteSettings}
  {scene : Scene ω χ}

/-- What holds of the attempt for every turn holds of all attempts of a call. -/
theorem forall_mem_execute (holds : Attempt → Prop)
    (hturn : ∀ scene made pause, turn surroundings operation settings scene = .ok made →
      holds (made.attempt operation pause)) :
    ∀ attempt ∈ (execute surroundings operation settings scene).attempts, holds attempt := by
  unfold execute
  split
  next => simp [Run.refused]
  next => exact forall_mem_attempts (fun _ => holds) hturn _ _ _ _

/-- What is sent to a node is the request for it. -/
theorem request_of_mem_execute {attempt : Attempt}
    (hattempt : attempt ∈ (execute surroundings operation settings scene).attempts) :
    attempt.request = (operation.request attempt.member.account).toOption.map Wire.encode := by
  refine forall_mem_execute (fun attempt =>
    attempt.request = (operation.request attempt.member.account).toOption.map Wire.encode) ?_
    attempt hattempt
  intro scene made pause hmade
  obtain ⟨member, picked, _, rfl⟩ := turn_eq_ok_iff.mp hmade
  rfl

/-- A call asks candidates only, if it has any, and the pinned node is the only one. -/
theorem candidate_of_mem_execute (hsome : operation.candidates ≠ [])
    (hpinned : ∀ account, operation.pinned = some account → account ∈ operation.candidates) :
    ∀ attempt ∈ (execute surroundings operation settings scene).attempts,
      ∃ candidate ∈ operation.candidates, (candidate == attempt.member.account) = true := by
  refine forall_mem_execute (fun attempt =>
    ∃ candidate ∈ operation.candidates, (candidate == attempt.member.account) = true) ?_
  intro scene made pause hmade
  obtain ⟨member, picked, hpick, rfl⟩ := turn_eq_ok_iff.mp hmade
  change ∃ candidate ∈ operation.candidates, (candidate == member.account) = true
  unfold pick at hpick
  cases hpin : operation.pinned with
  | some account =>
      simp only [hpin] at hpick
      split at hpick
      next found hfound =>
        cases hpick
        have hsame := List.find?_some hfound
        exact ⟨account, hpinned account hpin, BEq.symm hsame⟩
      next => cases hpick
  | none =>
      simp only [hpin] at hpick
      unfold Network.select at hpick
      split at hpick
      next => cases hpick
      next found position hchoice =>
        cases hpick
        have hplaced := List.fst_mem_of_mem_zipIdx (Network.mem_zipIdx_of_choice hchoice)
        exact Network.exists_candidate_of_mem_eligible hsome hplaced

/-- An attempt in which nothing could be sent is one for which there is no request. -/
theorem request_of_unbuilt {error : ClientError} :
    ∀ attempt ∈ (execute surroundings operation settings scene).attempts,
      attempt.ending = .unbuilt error →
        operation.request attempt.member.account = .error error := by
  refine forall_mem_execute (fun attempt =>
    attempt.ending = .unbuilt error → operation.request attempt.member.account = .error error) ?_
  intro scene made pause hmade hunbuilt
  refine (answer_eq_error_iff hmade).mp ?_
  change endingOf operation made.answer = .unbuilt error at hunbuilt
  rcases hanswer : made.answer with other | reply
  · rw [hanswer] at hunbuilt
    cases hunbuilt
    rfl
  · rw [hanswer] at hunbuilt
    exact absurd hunbuilt (ofReply_ne_unbuilt operation reply error)

end Call

/-- Whom an attempt went to, and what was sent. -/
def asked (attempt : Attempt) : Member × Option Bytes := (attempt.member, attempt.request)

/-- Whom a turn went to, and what was sent. -/
def Turn.asked (turn : Turn ω χ) : Member × Option Bytes := (turn.member, turn.sent)

section Loop

variable {surroundings : Surroundings ω χ} {operation : Operation α} {settings : ExecuteSettings}
  {scene : Scene ω χ} {turns : Nat → Turn ω χ}

/-- The attempts for the first turns of a course, each with the pause after it. -/
def firstAttempts (operation : Operation α) (settings : ExecuteSettings) (turns : Nat → Turn ω χ)
    (count : Nat) : List Attempt :=
  (List.range count).map fun number =>
    (turns number).attempt operation ((turns number).pause operation settings number)

theorem firstAttempts_succ (count : Nat) :
    firstAttempts operation settings turns (count + 1) =
      firstAttempts operation settings turns count ++
        [(turns count).attempt operation ((turns count).pause operation settings count)] := by
  simp only [firstAttempts, List.range_succ, List.map_append, List.map_cons, List.map_nil]

/-- While the turns are to be retried and the budget lasts, the loop goes along with the course. -/
theorem attempts_of_firstAttempts
    (hturns : ∀ number, course surroundings operation settings scene number = .ok (turns number))
    (count : Nat) (hbefore : ∀ i < count, ∃ cause, Retries operation (turns i).answer cause)
    (left : Nat) (last : Option (AccountId × AttemptCause)) :
    ∃ later, attempts surroundings operation settings (left + 1 + count) 0 last scene =
      (attempts surroundings operation settings (left + 1) count later
        (sceneBefore surroundings operation settings scene turns count)).afterAll
          (firstAttempts operation settings turns count) := by
  -- The turn that is added is the last one, and before it the budget has one attempt more.
  induction count generalizing left with
  | zero => exact ⟨last, rfl⟩
  | succ count ih =>
      obtain ⟨later, hlater⟩ := ih (fun i hi => hbefore i (Nat.lt_succ_of_lt hi)) (left + 1)
      obtain ⟨cause, hcause⟩ := hbefore count (Nat.lt_succ_self count)
      refine ⟨some ((turns count).member.account, cause), ?_⟩
      have hbudget : left + 1 + (count + 1) = left + 1 + 1 + count := by omega
      rw [hbudget, hlater, attempts_of_turn_retries (turn_sceneBefore hturns count) hcause,
        firstAttempts_succ]
      simp only [if_neg (Nat.succ_ne_zero left), Run.afterAll, Run.after, List.append_assoc]
      rfl

theorem asked_firstAttempts_append (count : Nat) (pause : Option Duration) :
    (firstAttempts operation settings turns count ++
        [(turns count).attempt operation pause]).map asked =
      (List.range (count + 1)).map fun i => (turns i).asked := by
  rw [List.range_succ, List.map_append, List.map_append, firstAttempts, List.map_map]
  rfl

/-- The loop ends with the first turn that ends the call. -/
theorem attempts_of_concludes
    (hturns : ∀ number, course surroundings operation settings scene number = .ok (turns number))
    {count left : Nat} {outcome : Outcome α}
    (hbefore : ∀ i < count, ∃ cause, Retries operation (turns i).answer cause)
    (hlast : Concludes operation (turns count).member.account (turns count).answer outcome)
    (hleft : count < left) (last : Option (AccountId × AttemptCause)) :
    let run := attempts surroundings operation settings left 0 last scene
    run.attempts.map asked = (List.range (count + 1)).map (fun i => (turns i).asked) ∧
      run.outcome = outcome ∧ run.scene = (turns count).scene := by
  obtain ⟨spare, hspare⟩ : ∃ spare, left = spare + 1 + count := ⟨left - count - 1, by omega⟩
  obtain ⟨later, hrun⟩ := attempts_of_firstAttempts hturns count hbefore spare last
  rw [hspare, hrun, attempts_of_turn_concludes (turn_sceneBefore hturns count) hlast]
  exact ⟨asked_firstAttempts_append count none, rfl, rfl⟩

/-- Where all turns of the budget are to be retried, the loop uses it up. -/
theorem attempts_of_retries
    (hturns : ∀ number, course surroundings operation settings scene number = .ok (turns number))
    (left : Nat) {cause : AttemptCause}
    (hbefore : ∀ i < left, ∃ cause, Retries operation (turns i).answer cause)
    (hlast : Retries operation (turns left).answer cause)
    (last : Option (AccountId × AttemptCause)) :
    let run := attempts surroundings operation settings (left + 1) 0 last scene
    run.attempts.map asked = (List.range (left + 1)).map (fun i => (turns i).asked) ∧
      run.outcome = .error (.attemptsExhausted settings.maxAttempts
        (some (turns left).member.account) (some cause)) ∧
      run.scene = (turns left).scene.bump (.exhausted operation.name) := by
  have hbudget : 0 + 1 + left = left + 1 := by omega
  obtain ⟨later, hrun⟩ := attempts_of_firstAttempts hturns left hbefore 0 last
  rw [hbudget] at hrun
  rw [hrun, attempts_of_turn_retries (turn_sceneBefore hturns left) hlast]
  exact ⟨asked_firstAttempts_append left none, rfl, rfl⟩

end Loop

theorem pick_error {operation : Operation α} {now : Timestamp} {scene : Scene ω χ}
    {error : ClientError} (hpick : pick operation now scene = .error error) :
    error = .noEligibleNodes ∨ ∃ account, operation.pinned = some account ∧
      error = .unknownNode account := by
  unfold pick at hpick
  cases hpinned : operation.pinned with
  | some account =>
      rw [hpinned] at hpick
      cases hmember : scene.network.member? account with
      | none =>
          simp only [hmember] at hpick
          cases hpick
          exact .inr ⟨account, rfl, rfl⟩
      | some member => simp [hmember] at hpick
  | none =>
      rw [hpinned] at hpick
      cases hchoice : scene.network.choice scene.health operation.candidates now with
      | none =>
          simp only [Network.select, hchoice] at hpick
          cases hpick
          exact .inl rfl
      | some chosen => simp [Network.select, hchoice, bind, Except.bind, pure, Except.pure] at hpick

theorem budget_eq_add_one {settings : ExecuteSettings} (hvalid : settings.IsValid) :
    ∃ left, settings.maxAttempts.toNat = left + 1 := by
  refine Nat.exists_eq_add_one_of_ne_zero ?_
  intro hzero
  exact hvalid.1 (UInt32.toNat_inj.mp hzero)

/-- A call is the first attempts of its course. Settings that are refused leave everything as it is,
and a first node that is not found all but the clock, which was read; the later nodes are always
found. Every answer is to be retried or ends the call. The first turn that ends the call is the last
attempt and alone decides what the call comes to; where no turn of the budget does, the budget is
used up, and the error tells the node and the cause of the last turn. -/
theorem execute_follows_course (surroundings : Surroundings ω χ) (operation : Operation α)
    (settings : ExecuteSettings) (scene : Scene ω χ) :
    let run := execute surroundings operation settings scene
    let budget := settings.maxAttempts.toNat
    (∀ error, settings.validate = .error error → run = .refused error scene) ∧
    (settings.IsValid → ∀ error,
      course surroundings operation settings scene 0 = .error error →
        run = .refused error (scene.now surroundings).2 ∧ (error = .noEligibleNodes ∨
          ∃ account, operation.pinned = some account ∧ error = .unknownNode account)) ∧
    (settings.IsValid → ∀ first, course surroundings operation settings scene 0 = .ok first →
      ∃ turns : Nat → Turn ω χ,
        (∀ number, course surroundings operation settings scene number = .ok (turns number)) ∧
        (∀ number, (∃ cause, Retries operation (turns number).answer cause) ↔
          ¬ ∃ outcome, Concludes operation (turns number).member.account (turns number).answer
            outcome) ∧
        (∀ count < budget, ∀ outcome,
          (∀ i < count, ∃ cause, Retries operation (turns i).answer cause) →
          Concludes operation (turns count).member.account (turns count).answer outcome →
            run.attempts.map asked = (List.range (count + 1)).map (fun i => (turns i).asked) ∧
              run.outcome = outcome ∧ run.scene = (turns count).scene) ∧
        ((∀ i < budget, ∃ cause, Retries operation (turns i).answer cause) →
          ∃ cause, Retries operation (turns (budget - 1)).answer cause ∧
            run.attempts.map asked = (List.range budget).map (fun i => (turns i).asked) ∧
            run.outcome = .error (.attemptsExhausted settings.maxAttempts
              (some (turns (budget - 1)).member.account) (some cause)) ∧
            run.scene = (turns (budget - 1)).scene.bump (.exhausted operation.name))) := by
  intro run budget
  have hrun : settings.IsValid → run =
      attempts surroundings operation settings budget 0 none scene := by
    intro hvalid
    simp only [run, execute, ExecuteSettings.validate_eq_ok_iff.mpr hvalid]
    rfl
  refine ⟨?_, ?_, ?_⟩
  · intro error hrefused
    simp only [run, execute, hrefused]
  · intro hvalid error hlost
    obtain ⟨left, hleft⟩ := budget_eq_add_one hvalid
    have hpick := turn_eq_error_iff.mp hlost
    refine ⟨?_, pick_error hpick⟩
    rw [hrun hvalid]
    simp only [budget, hleft, attempts, hpick]
  · intro hvalid first hfirst
    obtain ⟨left, hleft⟩ := budget_eq_add_one hvalid
    -- With a first turn there are all of them, so the loop can only end as its turns say.
    obtain ⟨turns, hcourse⟩ := exists_turns_of_first hfirst
    rw [hrun hvalid]
    refine ⟨turns, hcourse, ?_, ?_, ?_⟩
    · intro number
      constructor
      · rintro ⟨cause, hretries⟩ ⟨outcome, hconcludes⟩
        exact hconcludes.not_retries cause hretries
      · intro hnot
        exact (retries_or_concludes operation _ _).resolve_right hnot
    · intro count hcount outcome hbefore hlast
      exact attempts_of_concludes hcourse hbefore hlast hcount none
    · intro hall
      have hbudget : budget = left + 1 := hleft
      have hlast : budget - 1 = left := by omega
      obtain ⟨cause, hcause⟩ := hall left (by omega)
      rw [hlast, hbudget]
      exact ⟨cause, hcause, attempts_of_retries hcourse left
        (fun i hi => hall i (by omega)) hcause none⟩

/-- Nodes that answer from a list. -/
def scripted : Surroundings (List (Except TransportError Bytes)) Unit where
  clock script := (.epoch, script)
  stopwatch _ := .zero
  openChannel _ _ _ script := (some (.ok ()), script)
  send _ _ _ script := (script.head?, script.tail)
  close _ script := script
  sleep _ script := script
  draw script := (⟨0, Nat.succ_pos _⟩, script)

/-- Two nodes, and the answers they will give. -/
def rehearsed (script : List (Except TransportError Bytes)) :
    Scene (List (Except TransportError Bytes)) Unit where
  network := {
    members := [⟨⟨.ofNum 3, "three", plainPort, none⟩, 0⟩, ⟨⟨.ofNum 4, "four", plainPort, none⟩, 1⟩]
    ledgerId := .mainnet
    mirror := none
    options := {}
    members_ne_nil := by decide
    keys_nodup := by decide }
  health := .empty
  world := script

/-- Asks for the balance of the node. -/
def hail : Operation Unit where
  name := "hail"
  candidates := []
  request node := .ok (.query ⟨⟨none, .answerOnly⟩, .accountBalance node⟩)
  judge _ := .finished
  output _ _ := .ok ()

theorem execute_follows_course_past_failures :
    ExecuteSettings.quick.IsValid ∧
      let run := execute scripted hail .quick
        (rehearsed [.error .closed, .ok [], .error .tlsUnsupported])
      run.attempts.length = 3 ∧ run.outcome = .error (.transport .tlsUnsupported) := by
  have hvalid : ExecuteSettings.quick.IsValid := by decide
  obtain ⟨_, _, hcourse⟩ := execute_follows_course scripted hail .quick
    (rehearsed [.error .closed, .ok [], .error .tlsUnsupported])
  obtain ⟨turns, hturns, _, hfinal, _⟩ := hcourse hvalid _ rfl
  have hanswer : ∀ number, Except.map Turn.answer (course scripted hail .quick
      (rehearsed [.error .closed, .ok [], .error .tlsUnsupported]) number) =
        .ok (turns number).answer := fun number => by
    rw [hturns]
    rfl
  have hfirst : (turns 0).answer = .ok (.error .closed) := (Except.ok.inj (hanswer 0)).symm
  have hsecond : (turns 1).answer = .ok (.ok []) := (Except.ok.inj (hanswer 1)).symm
  have hthird : (turns 2).answer = .ok (.error .tlsUnsupported) := (Except.ok.inj (hanswer 2)).symm
  have hloop := hfinal 2 (by decide) (.error (.transport .tlsUnsupported))
    (by
      intro i hi
      match i with
      | 0 => rw [hfirst]; exact ⟨_, .transport rfl⟩
      | 1 => rw [hsecond]; exact ⟨_, .malformed rfl⟩)
    (by rw [hthird]; exact .clientSide rfl)
  refine ⟨hvalid, ?_, hloop.2.1⟩
  simpa using congrArg List.length hloop.1

end Execution

end LedgerClient
