import LedgerClient.Proofs.Network.Channels
import LedgerClient.Proofs.Network.Rebuilding

/-!
# What is handed to channels

In a recorded world each send is noted, with the channel and the octets that are handed to it.
Nothing else is different: a call goes the same way there, and its record is made up of the requests
of its attempts, each one handed to the channel that the network keeps for the node.
-/

namespace LedgerClient

variable {ω χ α : Type}

/-! ### Recorded worlds -/

/-- Octets that were handed to a channel. -/
structure Handed (χ : Type) where
  channel : χ
  octets : Bytes

/-- A world with what was handed to channels in it, in order. -/
abbrev Recorded (ω χ : Type) := ω × List (Handed χ)

/-- The same surroundings, in which what is handed to a channel is noted. -/
def Surroundings.recorded (surroundings : Surroundings ω χ) : Surroundings (Recorded ω χ) χ where
  clock world :=
    let (now, after) := surroundings.clock world.1
    (now, (after, world.2))
  stopwatch world := surroundings.stopwatch world.1
  openChannel address tls allowed world :=
    let (reply, after) := surroundings.openChannel address tls allowed world.1
    (reply, (after, world.2))
  send channel request allowed world :=
    let (reply, after) := surroundings.send channel request allowed world.1
    (reply, (after, world.2 ++ [⟨channel, request⟩]))
  close channel world := (surroundings.close channel world.1, world.2)
  sleep pause world := (surroundings.sleep pause world.1, world.2)
  draw world :=
    let (backtrack, after) := surroundings.draw world.1
    (backtrack, (after, world.2))

/-- The scene in a recorded world, behind what was noted before. -/
def Scene.recorded (scene : Scene ω χ) (record : List (Handed χ)) : Scene (Recorded ω χ) χ where
  network := scene.network
  health := scene.health
  meters := scene.meters
  world := (scene.world, record)

@[simp] theorem Scene.network_recorded (scene : Scene ω χ) (record : List (Handed χ)) :
    (scene.recorded record).network = scene.network := rfl

/-- The run in a recorded world. -/
def Run.recorded (run : Run ω χ α) (record : List (Handed χ)) : Run (Recorded ω χ) χ α where
  attempts := run.attempts
  outcome := run.outcome
  scene := run.scene.recorded record

/-! ### Channels that are kept -/

namespace Network

/-- The channel that a network keeps for a node. -/
def kept? (network : Network χ) (account : AccountId) : Option χ := do
  network.channels.lookup (network.endpoint (← network.member? account))

/-- What one network keeps for its nodes, the other one does as well. -/
def Retains (network later : Network χ) : Prop :=
  ∀ account channel, network.kept? account = some channel → later.kept? account = some channel

variable {network next later : Network χ}

theorem Retains.refl (network : Network χ) : network.Retains network :=
  fun _ _ hkept => hkept

theorem Retains.trans (hnext : network.Retains next) (hlater : next.Retains later) :
    network.Retains later :=
  fun account channel hkept => hlater account channel (hnext account channel hkept)

/-- Channels are added behind those there are, so none of these is lost. -/
theorem retains_append (network : Network χ) (added : List (String × χ)) :
    network.Retains { network with channels := network.channels ++ added } := by
  intro account channel hkept
  obtain ⟨member, hmember, hlookup⟩ := Option.bind_eq_some_iff.mp hkept
  apply Option.bind_eq_some_iff.mpr
  refine ⟨member, hmember, ?_⟩
  change (network.channels ++ added).lookup (network.endpoint member) = some channel
  rw [List.lookup_append, hlookup]
  rfl

theorem retains_channel (network : Network χ) (surroundings : Surroundings ω χ) (member : Member)
    (allowed : Duration) (world : ω) :
    network.Retains (network.channel surroundings member allowed world).2.1 := by
  rcases network.channel_spec surroundings member allowed world with
    ⟨channel, _, hdone⟩ | ⟨_, ⟨channel, after, _, hdone⟩ | ⟨reply, after, _, _, hdone⟩⟩
  · rw [hdone]
    exact .refl network
  · rw [hdone]
    exact network.retains_append _
  · rw [hdone]
    exact .refl network

/-- A channel to a node is kept for the node. -/
theorem kept?_of_channel {surroundings : Surroundings ω χ} {member : Member} {allowed : Duration}
    {world after : ω} {channel : χ} (hmember : member ∈ network.members)
    (hchannel : network.channel surroundings member allowed world =
      (some (.ok channel), later, after)) : later.kept? member.account = some channel := by
  have hfound : network.member? member.account = some member :=
    member?_eq_some_iff.mpr ⟨hmember, BEq.rfl⟩
  rcases network.channel_spec surroundings member allowed world with
    ⟨kept, hkept, hdone⟩ | ⟨hnone, ⟨opened, left, _, hdone⟩ | ⟨reply, left, hreply, _, hdone⟩⟩
  · cases hchannel.symm.trans hdone
    exact Option.bind_eq_some_iff.mpr ⟨member, hfound, hkept⟩
  · cases hchannel.symm.trans hdone
    apply Option.bind_eq_some_iff.mpr
    refine ⟨member, hfound, ?_⟩
    change (network.channels ++ [_]).lookup (network.endpoint member) = some channel
    rw [List.lookup_append, hnone]
    exact List.lookup_cons_self
  · cases hchannel.symm.trans hdone
    exact absurd rfl (hreply channel)

/-- A channel is found or opened in a recorded world as in the world itself. -/
theorem channel_recorded (network : Network χ) (surroundings : Surroundings ω χ) (member : Member)
    (allowed : Duration) (world : ω) (record : List (Handed χ)) :
    network.channel surroundings.recorded member allowed (world, record) =
      ((network.channel surroundings member allowed world).1,
        (network.channel surroundings member allowed world).2.1,
        ((network.channel surroundings member allowed world).2.2, record)) := by
  unfold channel
  cases hkept : network.channels.lookup (network.endpoint member) with
  | some channel => simp only [hkept]
  | none =>
      rcases hopen : surroundings.openChannel member.address network.options.tls allowed world
        with ⟨_ | error | channel, after⟩
      · simp only [hkept, Surroundings.recorded, hopen]
      · simp only [hkept, Surroundings.recorded, hopen]
      · simp only [hkept, Surroundings.recorded, hopen]

end Network

/-! ### Calls -/

/-- What is handed to channels in attempts: the octets are the request of one of them, and the
channel is kept for its node. -/
def HandedIn (attempts : List Attempt) (network : Network χ) (handed : List (Handed χ)) : Prop :=
  ∀ one ∈ handed, ∃ attempt ∈ attempts, attempt.request = some one.octets ∧
    network.kept? attempt.member.account = some one.channel

theorem HandedIn.mono {attempts more : List Attempt} {network later : Network χ}
    {handed : List (Handed χ)} (hhanded : HandedIn attempts network handed)
    (hattempts : attempts ⊆ more) (hretains : network.Retains later) :
    HandedIn more later handed := by
  intro one hone
  obtain ⟨attempt, hattempt, hrequest, hkept⟩ := hhanded one hone
  exact ⟨attempt, hattempts hattempt, hrequest, hretains _ _ hkept⟩

theorem HandedIn.append {attempts : List Attempt} {network : Network χ}
    {handed later : List (Handed χ)} (hhanded : HandedIn attempts network handed)
    (hlater : HandedIn attempts network later) : HandedIn attempts network (handed ++ later) :=
  List.forall_mem_append.mpr ⟨hhanded, hlater⟩

/-- How a run goes in a world with a record: in the same way, and what is noted behind the record is
what was handed to channels in its attempts. -/
def Run.IsRecordedAs (run : Run ω χ α) (record : List (Handed χ))
    (noted : Run (Recorded ω χ) χ α) : Prop :=
  ∃ handed, noted = run.recorded (record ++ handed) ∧
    HandedIn run.attempts run.scene.network handed

/-- A run that hands nothing over leaves the record as it was. -/
theorem Run.isRecordedAs_recorded (run : Run ω χ α) (record : List (Handed χ)) :
    run.IsRecordedAs record (run.recorded record) := by
  refine ⟨[], ?_, nofun⟩
  rw [List.append_nil]

namespace Execution

variable {surroundings : Surroundings ω χ} {operation : Operation α} {settings : ExecuteSettings}

theorem retains_exchange (surroundings : Surroundings ω χ) (allowed : Duration) (member : Member)
    (request : Bytes) (scene : Scene ω χ) :
    scene.network.Retains (exchange surroundings allowed member request scene).2.network := by
  have hretains := scene.network.retains_channel surroundings member allowed scene.world
  unfold exchange
  split <;> simp_all

theorem retains_pick {now : Timestamp} {scene next : Scene ω χ} {member : Member}
    (hpick : pick operation now scene = .ok (member, next)) :
    scene.network.Retains next.network := by
  unfold pick at hpick
  split at hpick
  · split at hpick
    · cases hpick
      exact .refl _
    · cases hpick
  · unfold Network.select at hpick
    split at hpick
    · cases hpick
    · cases hpick
      exact .refl _

theorem retains_attempt (surroundings : Surroundings ω χ) (operation : Operation α)
    (allowed : Duration) (member : Member) (now : Timestamp) (scene : Scene ω χ) :
    scene.network.Retains
      (attempt surroundings operation allowed member now scene).2.2.network := by
  unfold attempt
  split
  · exact .refl _
  · simp only [ask, network_settle]
    exact retains_exchange surroundings allowed member _ (enter operation member now scene)

theorem retains_turn {scene : Scene ω χ} {made : Turn ω χ}
    (hmade : turn surroundings operation settings scene = .ok made) :
    scene.network.Retains made.scene.network := by
  obtain ⟨member, picked, hpick, rfl⟩ := turn_eq_ok_iff.mp hmade
  exact (retains_pick hpick).trans (retains_attempt surroundings operation _ member _ picked)

/-- No channel that is kept is lost in a run. -/
theorem retains_attempts (surroundings : Surroundings ω χ) (operation : Operation α)
    (settings : ExecuteSettings) (left number : Nat) (last : Option (AccountId × AttemptCause))
    (scene : Scene ω χ) : scene.network.Retains
      (attempts surroundings operation settings left number last scene).scene.network := by
  refine attempts_induction (motive := fun scene run =>
    scene.network.Retains run.scene.network) ?_ ?_ ?_ ?_ _ _ _ _
  · exact fun scene _ => .refl _
  · exact fun scene _ _ => .refl _
  · exact fun scene made outcome hmade _ => retains_turn hmade
  · intro scene made cause pause run hmade _ hrun
    rw [network_rest] at hrun
    exact (retains_turn hmade).trans hrun

/-! ### Calls in a recorded world -/

/-- An exchange hands the request to the channel to the member, or nothing where there is none. -/
theorem exchange_recorded (surroundings : Surroundings ω χ) (allowed : Duration) {member : Member}
    (request : Bytes) {scene : Scene ω χ} (hmember : member ∈ scene.network.members)
    (record : List (Handed χ)) :
    ∃ handed, exchange surroundings.recorded allowed member request (scene.recorded record) =
        ((exchange surroundings allowed member request scene).1,
          (exchange surroundings allowed member request scene).2.recorded (record ++ handed)) ∧
      ∀ one ∈ handed, one.octets = request ∧
        (exchange surroundings allowed member request scene).2.network.kept? member.account =
          some one.channel := by
  have hrecorded := scene.network.channel_recorded surroundings member allowed scene.world record
  rcases hchannel : scene.network.channel surroundings member allowed scene.world with
    ⟨_ | error | channel, network, world⟩
  · rw [hchannel] at hrecorded
    refine ⟨[], ?_, by simp⟩
    simp [exchange, Scene.recorded, hchannel, hrecorded]
  · rw [hchannel] at hrecorded
    refine ⟨[], ?_, by simp⟩
    simp [exchange, Scene.recorded, hchannel, hrecorded]
  · rw [hchannel] at hrecorded
    have hkept := Network.kept?_of_channel hmember hchannel
    refine ⟨[⟨channel, request⟩], ?_, ?_⟩
    · simp only [exchange, Scene.recorded, hchannel, hrecorded]
      rfl
    · intro one hone
      rw [List.mem_singleton.mp hone]
      simp only [exchange, hchannel]
      exact ⟨trivial, hkept⟩

theorem pick_recorded (operation : Operation α) (now : Timestamp) (scene : Scene ω χ)
    (record : List (Handed χ)) :
    pick operation now (scene.recorded record) =
      (pick operation now scene).map fun found => (found.1, found.2.recorded record) := by
  unfold pick
  cases hpinned : operation.pinned with
  | some account =>
      cases hfound : scene.network.member? account with
      | none => simp only [Scene.recorded, hfound, Except.map]
      | some member => simp only [Scene.recorded, hfound, Except.map]
  | none =>
      cases hselect : scene.network.select scene.health operation.candidates now with
      | error error => simp only [Scene.recorded, hselect, bind, Except.bind, Except.map]
      | ok found =>
          simp only [Scene.recorded, hselect, bind, Except.bind, pure, Except.pure, Except.map]

theorem settle_recorded (operation : Operation α) (member : Member) (ending : Ending)
    (scene : Scene ω χ) (record : List (Handed χ)) :
    settle surroundings.recorded operation member ending (scene.recorded record) =
      (settle surroundings operation member ending scene).recorded record := by
  unfold settle
  simp only [foldl_bump]
  split
  · rfl
  · split <;> rfl

theorem rest_recorded (pause : Option Duration) (scene : Scene ω χ) (record : List (Handed χ)) :
    rest surroundings.recorded pause (scene.recorded record) =
      (rest surroundings pause scene).recorded record := by
  cases pause <;> rfl

theorem ask_recorded (surroundings : Surroundings ω χ) (operation : Operation α)
    (allowed : Duration) {member : Member} (request : Bytes) {scene : Scene ω χ}
    (hmember : member ∈ scene.network.members) (record : List (Handed χ)) :
    let asked := ask surroundings operation allowed member request scene
    ∃ handed, ask surroundings.recorded operation allowed member request (scene.recorded record) =
        (asked.1, asked.2.recorded (record ++ handed)) ∧
      ∀ one ∈ handed, one.octets = request ∧
        asked.2.network.kept? member.account = some one.channel := by
  obtain ⟨handed, hexchange, hhanded⟩ :=
    exchange_recorded surroundings allowed request hmember record
  refine ⟨handed, ?_, hhanded⟩
  unfold ask
  rw [hexchange]
  rfl

/-- An attempt hands its request to the channel that is kept for the member, or hands over
nothing. -/
theorem attempt_recorded (surroundings : Surroundings ω χ) (operation : Operation α)
    (allowed : Duration) {member : Member} (now : Timestamp) {scene : Scene ω χ}
    (hmember : member ∈ scene.network.members) (record : List (Handed χ)) :
    let made := attempt surroundings operation allowed member now scene
    ∃ handed, attempt surroundings.recorded operation allowed member now (scene.recorded record) =
        (made.1, made.2.1, made.2.2.recorded (record ++ handed)) ∧
      ∀ pause, HandedIn [⟨member, made.1, made.2.1, pause⟩] made.2.2.network handed := by
  have henter : enter operation member now (scene.recorded record) =
      (enter operation member now scene).recorded record := rfl
  cases hrequest : operation.request member.account with
  | error error =>
      refine ⟨[], ?_, fun _ => nofun⟩
      simp only [attempt, hrequest, henter, List.append_nil]
  | ok request =>
      have hentered : member ∈ (enter operation member now scene).network.members := hmember
      obtain ⟨handed, hask, hhanded⟩ :=
        ask_recorded surroundings operation allowed (Wire.encode request) hentered record
      refine ⟨handed, ?_, fun pause one hone => ?_⟩
      · simp only [attempt, hrequest, henter, hask, settle_recorded]
      · obtain ⟨hoctets, hkept⟩ := hhanded one hone
        refine ⟨_, List.mem_singleton.mpr rfl, ?_, ?_⟩
        · simp only [attempt, hrequest, hoctets]
        · simp only [attempt, hrequest, network_settle]
          exact hkept

theorem attempts_recorded (left number : Nat) (last : Option (AccountId × AttemptCause))
    (scene : Scene ω χ) (record : List (Handed χ)) :
    (attempts surroundings operation settings left number last scene).IsRecordedAs record
      (attempts surroundings.recorded operation settings left number last
        (scene.recorded record)) := by
  -- Each round leaves more of a record to the next one.
  induction left generalizing number last scene record with
  | zero => exact Run.isRecordedAs_recorded _ record
  | succ left ih =>
      have hnow : (scene.recorded record).now surroundings.recorded =
          ((scene.now surroundings).1, (scene.now surroundings).2.recorded record) := rfl
      rw [attempts, attempts]
      simp only [hnow, pick_recorded]
      cases hpick : pick operation (scene.now surroundings).1 (scene.now surroundings).2 with
      | error error => exact Run.isRecordedAs_recorded _ record
      | ok found =>
          obtain ⟨member, picked⟩ := found
          have hmember : member ∈ picked.network.members := by
            rw [(members_pick hpick).1]
            exact mem_members_of_pick hpick
          obtain ⟨handed, hattempt, hhanded⟩ := attempt_recorded surroundings operation
            settings.requestTimeout (scene.now surroundings).1 hmember record
          simp only [Except.map, hattempt]
          generalize attempt surroundings operation settings.requestTimeout member
            (scene.now surroundings).1 picked = made at hhanded ⊢
          obtain ⟨request, ending, next⟩ := made
          dsimp only at hhanded ⊢
          cases hsequel : ending.sequel operation member.account with
          | final outcome => exact ⟨handed, rfl, hhanded none⟩
          | again cause =>
              dsimp only
              generalize (if ending.pauses && left != 0 then some (settings.backoffFor number)
                else none) = pause
              rw [rest_recorded]
              obtain ⟨later, hrun, hlater⟩ := ih (number + 1) (some (member.account, cause))
                (rest surroundings pause next) (record ++ handed)
              have hretains := retains_attempts surroundings operation settings left
                (number + 1) (some (member.account, cause)) (rest surroundings pause next)
              rw [network_rest] at hretains
              refine ⟨handed ++ later, ?_, ?_⟩
              · rw [hrun, List.append_assoc]
                rfl
              · -- The channel that the attempt used is kept to the end of the run.
                apply HandedIn.append
                · exact (hhanded pause).mono
                    (List.cons_subset_cons _ (List.nil_subset _)) hretains
                · exact hlater.mono (List.subset_cons_self _ _) (.refl _)

/-- A call goes in a recorded world as in the world itself. -/
theorem execute_recorded (surroundings : Surroundings ω χ) (operation : Operation α)
    (settings : ExecuteSettings) (scene : Scene ω χ) (record : List (Handed χ)) :
    (execute surroundings operation settings scene).IsRecordedAs record
      (execute surroundings.recorded operation settings (scene.recorded record)) := by
  unfold execute
  cases settings.validate with
  | error error => exact Run.isRecordedAs_recorded _ record
  | ok => exact attempts_recorded _ _ _ scene record

end Execution

end LedgerClient
