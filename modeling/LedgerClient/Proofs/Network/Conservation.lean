import LedgerClient.Proofs.Network.Channels
import LedgerClient.Proofs.Network.Rebuilding
import Mathlib.Data.List.Perm.Basic

/-!
# Where channels go

A network is used, closed and put over other addresses, one call after the other. At every
point each channel that was ever opened is kept for one endpoint, or it has been closed once. The
law behind this is a ledger: the numbers of the channels that are kept and of those that were
closed are, in some order, those of all openings.
-/

namespace LedgerClient

variable {ω χ : Type}

namespace NodeAddress

/-- Equal addresses are dialled at one endpoint. -/
theorem endpoint_of_beq {a b : NodeAddress} (hequal : (a == b) = true) (tls : TlsSettings) :
    a.endpoint tls = b.endpoint tls := by
  obtain ⟨_, hhost, hport, _⟩ := beq_iff.mp hequal
  simp only [endpoint, portFor, hhost, hport]

end NodeAddress

/-! ### Closings -/

/-- A world with its openings, and the numbers of the channels that were closed in it, in order. -/
abbrev Audited (ω : Type) := Logged ω × List Nat

namespace Surroundings

/-- The same surroundings, in which the number of each channel that is closed is noted. -/
def noting (surroundings : Surroundings ω (Numbered χ)) :
    Surroundings (ω × List Nat) (Numbered χ) where
  clock world :=
    let (now, after) := surroundings.clock world.1
    (now, (after, world.2))
  stopwatch world := surroundings.stopwatch world.1
  openChannel address tls allowed world :=
    let (reply, after) := surroundings.openChannel address tls allowed world.1
    (reply, (after, world.2))
  send channel request allowed world :=
    let (reply, after) := surroundings.send channel request allowed world.1
    (reply, (after, world.2))
  close channel world := (surroundings.close channel world.1, world.2 ++ [channel.1])
  sleep pause world := (surroundings.sleep pause world.1, world.2)
  draw world :=
    let (backtrack, after) := surroundings.draw world.1
    (backtrack, (after, world.2))

/-- The same surroundings, with each opening logged and each closing noted. -/
def audited (surroundings : Surroundings ω χ) : Surroundings (Audited ω) (Numbered χ) :=
  surroundings.logged.noting

/-- A channel that is opened has the number of its opening; without one there is no opening more. No
channel is closed. -/
theorem openChannel_audited (surroundings : Surroundings ω χ) (address : NodeAddress)
    (tls : TlsSettings) (allowed : Duration) (world : Audited ω) :
    let opened := surroundings.audited.openChannel address tls allowed world
    opened.2.2 = world.2 ∧
      ((∃ channel, opened.1 = some (.ok (world.1.2.length, channel)) ∧
        opened.2.1.2.length = world.1.2.length + 1) ∨
      (∀ channel, opened.1 ≠ some (.ok channel)) ∧ opened.2.1.2 = world.1.2) := by
  intro opened
  refine ⟨rfl, ?_⟩
  rcases surroundings.openChannel_logged address tls allowed world.1 with
    ⟨channel, after, hlogged⟩ | ⟨reply, after, hreply, hlogged⟩
  · refine .inl ⟨channel, ?_, ?_⟩
    · simp only [opened, audited, noting, hlogged]
    · simp only [opened, audited, noting, hlogged, List.length_append, List.length_singleton]
  · refine .inr ⟨?_, ?_⟩
    · simpa only [opened, audited, noting, hlogged] using hreply
    · simp only [opened, audited, noting, hlogged]

end Surroundings

namespace Network

/-- The numbers of the channels that are kept. -/
def keptNumbers (channels : List (String × Numbered χ)) : List Nat :=
  channels.map fun placed => placed.2.1

/-- Some channels and the others are all channels. -/
theorem perm_keptNumbers_filter (isKept : String × Numbered χ → Bool)
    (channels : List (String × Numbered χ)) :
    (keptNumbers (channels.filter isKept) ++
      keptNumbers (channels.filter fun placed => !isKept placed)).Perm (keptNumbers channels) := by
  unfold keptNumbers
  rw [← List.map_append]
  exact (List.filter_append_perm isKept channels).map _

/-- Closing channels opens none, and notes their numbers. -/
theorem closeAll_audited (surroundings : Surroundings ω χ) (channels : List (String × Numbered χ))
    (world : Audited ω) :
    (closeAll surroundings.audited channels world).1.2 = world.1.2 ∧
      (closeAll surroundings.audited channels world).2 = world.2 ++ keptNumbers channels := by
  induction channels generalizing world with
  | nil => exact ⟨rfl, (List.append_nil _).symm⟩
  | cons placed rest ih =>
      obtain ⟨hlog, hnoted⟩ := ih (surroundings.audited.close placed.2 world)
      refine ⟨hlog, hnoted.trans ?_⟩
      exact List.append_assoc world.2 [placed.2.1] (keptNumbers rest)

end Network

/-! ### Calls -/

/-- A call that opens, closes or hands on channels. A channel may be asked for with any node. -/
inductive ChannelCall where
  | channel (member : Member) (allowed : Duration)
  | close
  | rebuild (addresses : List NodeAddress)

namespace Scene

/-- Makes a call on the network as it is. -/
def call (surroundings : Surroundings ω χ) (scene : Scene ω χ) : ChannelCall → Scene ω χ
  | .channel member allowed =>
      let (_, network, world) := scene.network.channel surroundings member allowed scene.world
      { scene with network, world }
  | .close => scene.close surroundings
  | .rebuild addresses => (scene.setNetwork surroundings addresses).2

/-- Makes calls one after the other. -/
def calls (surroundings : Surroundings ω χ) (scene : Scene ω χ) (calls : List ChannelCall) :
    Scene ω χ :=
  calls.foldl (call surroundings) scene

variable {scene : Scene (Audited ω) (Numbered χ)}

/-- How many channels were opened. -/
def openings (scene : Scene (Audited ω) (Numbered χ)) : Nat := scene.world.1.2.length

/-- The numbers of the channels that were closed, in order. -/
def closings (scene : Scene (Audited ω) (Numbered χ)) : List Nat := scene.world.2

/-- The numbers of the channels that are kept. -/
def kept (scene : Scene (Audited ω) (Numbered χ)) : List Nat :=
  Network.keptNumbers scene.network.channels

/-- The endpoints that a channel is kept for. -/
def endpoints (scene : Scene (Audited ω) (Numbered χ)) : List String :=
  scene.network.channels.map Prod.fst

/-- How a call may move channels: not at all, or by opening one for an endpoint that has none, or by
closing those of all endpoints that are not used any more. -/
inductive Moves (before after : Scene (Audited ω) (Numbered χ)) : Prop where
  | idle (hchannels : after.network.channels = before.network.channels)
      (hclosings : after.closings = before.closings) (hopenings : after.openings = before.openings)
  | opened (endpoint : String) (channel : χ) (hunused : endpoint ∉ before.endpoints)
      (hchannels : after.network.channels =
        before.network.channels ++ [(endpoint, (before.openings, channel))])
      (hclosings : after.closings = before.closings)
      (hopenings : after.openings = before.openings + 1)
  | closed (isUsed : String → Bool)
      (hchannels : after.network.channels =
        before.network.channels.filter fun placed => isUsed placed.1)
      (hclosings : after.closings = before.closings ++
        Network.keptNumbers (before.network.channels.filter fun placed => !isUsed placed.1))
      (hopenings : after.openings = before.openings)

theorem notMem_endpoints_of_lookup_eq_none {endpoint : String}
    (hnone : scene.network.channels.lookup endpoint = none) : endpoint ∉ scene.endpoints := by
  intro hmem
  obtain ⟨placed, hplaced, hendpoint⟩ := List.mem_map.mp hmem
  have hother := List.lookup_eq_none_iff.mp hnone placed hplaced
  exact absurd hendpoint.symm (bne_iff_ne.mp hother)

theorem moves_channel (surroundings : Surroundings ω χ) (scene : Scene (Audited ω) (Numbered χ))
    (member : Member) (allowed : Duration) :
    Moves scene (scene.call surroundings.audited (.channel member allowed)) := by
  obtain ⟨hnoted, hopens⟩ := surroundings.openChannel_audited member.address
    scene.network.options.tls allowed scene.world
  simp only [call]
  rcases scene.network.channel_spec surroundings.audited member allowed scene.world with
    ⟨channel, _, hdone⟩ |
    ⟨hnone, ⟨channel, after, hopen, hdone⟩ | ⟨reply, after, hreply, hopen, hdone⟩⟩
  · rw [hdone]
    exact .idle rfl rfl rfl
  · rw [hdone]
    rw [hopen] at hnoted hopens
    rcases hopens with ⟨opened, hnumber, hlog⟩ | ⟨hnot, _⟩
    · cases hnumber
      exact .opened _ opened (notMem_endpoints_of_lookup_eq_none hnone) rfl hnoted hlog
    · exact absurd rfl (hnot channel)
  · rw [hdone]
    rw [hopen] at hnoted hopens
    rcases hopens with ⟨opened, hnumber, _⟩ | ⟨_, hlog⟩
    · exact absurd hnumber (hreply _)
    · exact .idle rfl hnoted (congrArg List.length hlog)

theorem moves_close (surroundings : Surroundings ω χ) (scene : Scene (Audited ω) (Numbered χ)) :
    Moves scene (scene.call surroundings.audited .close) := by
  obtain ⟨hlog, hnoted⟩ :=
    Network.closeAll_audited surroundings scene.network.channels scene.world
  refine .closed (fun _ => false) ?_ ?_ (congrArg List.length hlog)
  · exact (List.filter_false _).symm
  · simp only [Bool.not_false, List.filter_true]
    exact hnoted

theorem moves_rebuild (surroundings : Surroundings ω χ) (scene : Scene (Audited ω) (Numbered χ))
    (addresses : List NodeAddress) :
    Moves scene (scene.call surroundings.audited (.rebuild addresses)) := by
  simp only [call, setNetwork]
  rcases scene.network.rebuild_cases surroundings.audited addresses scene.health scene.world with
    ⟨error, _, hdone⟩ | ⟨assembled, _, hdone⟩
  · rw [hdone]
    exact .idle rfl rfl rfl
  · rw [hdone]
    obtain ⟨hlog, hnoted⟩ := Network.closeAll_audited surroundings
      (scene.network.inherit assembled).2 scene.world
    simp only [Network.inherit, List.partition_eq_filter_filter] at hlog hnoted ⊢
    exact .closed _ rfl hnoted (congrArg List.length hlog)

theorem moves_call (surroundings : Surroundings ω χ) (scene : Scene (Audited ω) (Numbered χ))
    (call : ChannelCall) : Moves scene (scene.call surroundings.audited call) := by
  cases call with
  | channel member allowed => exact moves_channel surroundings scene member allowed
  | close => exact moves_close surroundings scene
  | rebuild addresses => exact moves_rebuild surroundings scene addresses

/-! ### The ledger -/

/-- No endpoint has two channels, and the channels kept and closed make up all that were opened. -/
structure IsBalanced (scene : Scene (Audited ω) (Numbered χ)) : Prop where
  endpoints : scene.endpoints.Nodup
  ledger : (scene.closings ++ scene.kept).Perm (List.range scene.openings)

theorem isBalanced_of_unopened (hchannels : scene.network.channels = [])
    (hworld : scene.world.1.2 = [] ∧ scene.world.2 = []) : scene.IsBalanced := by
  obtain ⟨hopened, hclosed⟩ := hworld
  constructor
  · rw [endpoints, hchannels]
    exact List.nodup_nil
  · rw [kept, closings, openings, hchannels, hopened, hclosed]
    exact .refl []

theorem IsBalanced.of_moves {before after : Scene (Audited ω) (Numbered χ)}
    (hbalanced : before.IsBalanced) (hmoves : Moves before after) : after.IsBalanced := by
  obtain ⟨hendpoints, hledger⟩ := hbalanced
  unfold Scene.endpoints at hendpoints
  unfold kept at hledger
  cases hmoves with
  | idle hchannels hclosings hopenings =>
      constructor
      · rwa [Scene.endpoints, hchannels]
      · rwa [kept, hchannels, hclosings, hopenings]
  | opened endpoint channel hunused hchannels hclosings hopenings =>
      constructor
      · rw [Scene.endpoints, hchannels, List.map_append, List.map_singleton,
          ← List.concat_eq_append]
        exact hendpoints.concat hunused
      · rw [kept, hchannels, hclosings, hopenings, Network.keptNumbers, List.map_append,
          ← List.append_assoc, List.range_succ]
        exact hledger.append_right [before.openings]
  | closed isUsed hchannels hclosings hopenings =>
      constructor
      · rw [Scene.endpoints, hchannels]
        exact hendpoints.sublist (List.filter_sublist.map Prod.fst)
      · -- What is not kept any more has moved from one side to the other.
        have hmoved := List.perm_append_comm.trans (Network.perm_keptNumbers_filter
          (fun placed => isUsed placed.1) before.network.channels)
        rw [kept, hchannels, hclosings, hopenings, List.append_assoc]
        exact (hmoved.append_left before.closings).trans hledger

theorem IsBalanced.calls (surroundings : Surroundings ω χ) (hbalanced : scene.IsBalanced)
    (calls : List ChannelCall) : (scene.calls surroundings.audited calls).IsBalanced := by
  induction calls generalizing scene with
  | nil => exact hbalanced
  | cons call rest ih => exact ih (hbalanced.of_moves (moves_call surroundings scene call))

/-- The channel of an opening is kept for an endpoint. -/
def Keeps (scene : Scene (Audited ω) (Numbered χ)) (endpoint : String) (number : Nat) : Prop :=
  ∃ channel, (endpoint, (number, channel)) ∈ scene.network.channels

theorem mem_kept_iff {number : Nat} :
    number ∈ scene.kept ↔ ∃ endpoint, scene.Keeps endpoint number := by
  unfold kept Network.keptNumbers Keeps
  rw [List.mem_map]
  constructor
  · rintro ⟨⟨endpoint, _, channel⟩, hplaced, rfl⟩
    exact ⟨endpoint, channel, hplaced⟩
  · rintro ⟨endpoint, channel, hplaced⟩
    exact ⟨_, hplaced, rfl⟩

namespace IsBalanced

theorem nodup (hbalanced : scene.IsBalanced) : (scene.closings ++ scene.kept).Nodup :=
  hbalanced.ledger.nodup_iff.mpr List.nodup_range

theorem lt_openings_iff (hbalanced : scene.IsBalanced) {number : Nat} :
    number < scene.openings ↔
      number ∈ scene.closings ∨ ∃ endpoint, scene.Keeps endpoint number := by
  rw [← mem_kept_iff, ← List.mem_append, hbalanced.ledger.mem_iff, List.mem_range]

/-- A channel is kept for no more than one endpoint. -/
theorem endpoint_unique (hbalanced : scene.IsBalanced) {a b : String} {number : Nat}
    (ha : scene.Keeps a number) (hb : scene.Keeps b number) : a = b := by
  obtain ⟨first, hfirst⟩ := ha
  obtain ⟨second, hsecond⟩ := hb
  have hkept : scene.kept.Nodup := (List.nodup_append.mp hbalanced.nodup).2.1
  exact congrArg Prod.fst (List.inj_on_of_nodup_map hkept hfirst hsecond rfl)

/-- A channel that was opened is kept for one endpoint, or it was closed once. -/
theorem kept_or_closed (hbalanced : scene.IsBalanced) {number : Nat}
    (hopened : number < scene.openings) :
    (∃! endpoint, scene.Keeps endpoint number) ∧ scene.closings.count number = 0 ∨
      (∀ endpoint, ¬ scene.Keeps endpoint number) ∧ scene.closings.count number = 1 := by
  obtain ⟨hclosings, _, hdisjoint⟩ := List.nodup_append.mp hbalanced.nodup
  by_cases hkept : number ∈ scene.kept
  · left
    obtain ⟨endpoint, hkeeps⟩ := mem_kept_iff.mp hkept
    refine ⟨⟨endpoint, hkeeps, fun other hother => hbalanced.endpoint_unique hother hkeeps⟩, ?_⟩
    exact List.count_eq_zero.mpr fun hclosed => hdisjoint number hclosed number hkept rfl
  · right
    have hnone : ∀ endpoint, ¬ scene.Keeps endpoint number :=
      fun endpoint hkeeps => hkept (mem_kept_iff.mpr ⟨endpoint, hkeeps⟩)
    refine ⟨hnone, List.count_eq_one_of_mem hclosings ?_⟩
    exact (hbalanced.lt_openings_iff.mp hopened).resolve_right fun ⟨endpoint, hkeeps⟩ =>
      hnone endpoint hkeeps

end IsBalanced

/-- Once a network is put over other addresses, channels are kept for these only. -/
theorem endpoints_setNetwork {surroundings : Surroundings (Audited ω) (Numbered χ)}
    {addresses : List NodeAddress} (hok : (scene.setNetwork surroundings addresses).1 = .ok ())
    {endpoint : String}
    (hendpoint : endpoint ∈ (scene.setNetwork surroundings addresses).2.endpoints) :
    ∃ address ∈ addresses, address.endpoint scene.network.options.tls = endpoint := by
  simp only [setNetwork] at hok hendpoint
  rcases scene.network.rebuild_cases surroundings addresses scene.health scene.world with
    ⟨error, _, hdone⟩ | ⟨assembled, hmade, hdone⟩
  · rw [hdone] at hok
    cases hok
  · rw [hdone] at hendpoint
    obtain ⟨placed, hplaced, rfl⟩ := List.mem_map.mp hendpoint
    obtain ⟨member, hmember, hdialled⟩ := List.mem_map.mp (Network.mem_inherit hplaced).2
    obtain ⟨hmembers, _, _, hoptions, _⟩ := Network.assemble_eq_ok hmade
    rw [hmembers] at hmember
    obtain ⟨address, haddress, hequal⟩ := Network.exists_address_of_mem
      (Network.forall₂_enlist _ scene.network.address_eq_of_known?_eq_some addresses _) hmember
    refine ⟨address, haddress, ?_⟩
    calc address.endpoint scene.network.options.tls
      _ = member.address.endpoint scene.network.options.tls :=
        (NodeAddress.endpoint_of_beq hequal _).symm
      _ = assembled.endpoint member := by rw [Network.endpoint, hoptions]
      _ = placed.1 := hdialled

/-- Every channel that was ever opened is, after any calls, kept for one endpoint or closed, and
closed once; no endpoint has two. After one more rebuilding the channels are for the addresses
it was given, and after one more closing there are none. -/
theorem channels_conserved (surroundings : Surroundings ω χ)
    (scene : Scene (Audited ω) (Numbered χ)) (hchannels : scene.network.channels = [])
    (hworld : scene.world.1.2 = [] ∧ scene.world.2 = []) (calls : List ChannelCall) :
    let now := scene.calls surroundings.audited calls
    now.endpoints.Nodup ∧
    (∀ number, number < now.openings ↔
      number ∈ now.closings ∨ ∃ endpoint, now.Keeps endpoint number) ∧
    (∀ number < now.openings,
      (∃! endpoint, now.Keeps endpoint number) ∧ now.closings.count number = 0 ∨
        (∀ endpoint, ¬ now.Keeps endpoint number) ∧ now.closings.count number = 1) ∧
    (∀ addresses, (now.setNetwork surroundings.audited addresses).1 = .ok () →
      ∀ endpoint ∈ (now.call surroundings.audited (.rebuild addresses)).endpoints,
        ∃ address ∈ addresses, address.endpoint now.network.options.tls = endpoint) ∧
    (now.call surroundings.audited .close).endpoints = [] := by
  intro now
  have hbalanced : now.IsBalanced :=
    (isBalanced_of_unopened hchannels hworld).calls surroundings calls
  refine ⟨hbalanced.endpoints, fun number => hbalanced.lt_openings_iff,
    fun number hopened => hbalanced.kept_or_closed hopened, ?_, rfl⟩
  intro addresses hok endpoint hendpoint
  exact endpoints_setNetwork hok hendpoint

/-- Two nodes, and no channel yet. -/
def untouched : Scene (Audited (List (Except TransportError Bytes))) (Numbered Unit) where
  network := (Network.Registry.twoHosts "three" "four").network
  health := .empty
  world := (([], []), [])

/-- A channel to each node, a network without the first, and a channel to that node all the same. -/
def withoutFirst : List ChannelCall :=
  [.channel ⟨⟨.ofNum 3, "three", plainPort, none⟩, 0⟩ .zero,
    .channel ⟨⟨.ofNum 4, "four", plainPort, none⟩, 1⟩ .zero,
    .rebuild [⟨.ofNum 4, "four", plainPort, none⟩],
    .channel ⟨⟨.ofNum 3, "three", plainPort, none⟩, 0⟩ .zero]

theorem channels_conserved_moved :
    untouched.network.channels = [] ∧ (untouched.world.1.2 = [] ∧ untouched.world.2 = []) ∧
      let now := untouched.calls Execution.scripted.audited withoutFirst
      now.openings = 3 ∧ now.closings = [0] ∧ now.endpoints = ["four:50211", "three:50211"] ∧
      (∃! endpoint, now.Keeps endpoint 1) ∧ ∀ endpoint, ¬ now.Keeps endpoint 0 := by
  obtain ⟨_, _, haccounted, _⟩ :=
    channels_conserved Execution.scripted untouched rfl ⟨rfl, rfl⟩ withoutFirst
  have hopenings : (untouched.calls Execution.scripted.audited withoutFirst).openings = 3 := rfl
  have hclosings : (untouched.calls Execution.scripted.audited withoutFirst).closings = [0] := rfl
  refine ⟨rfl, ⟨rfl, rfl⟩, hopenings, hclosings, by decide, ?_, ?_⟩
  · rcases haccounted 1 (by rw [hopenings]; decide) with ⟨hkept, _⟩ | ⟨_, hclosed⟩
    · exact hkept
    · rw [hclosings] at hclosed
      exact absurd hclosed (by decide)
  · rcases haccounted 0 (by rw [hopenings]; decide) with ⟨_, hclosed⟩ | ⟨hnone, _⟩
    · rw [hclosings] at hclosed
      exact absurd hclosed (by decide)
    · exact hnone

end Scene

end LedgerClient
