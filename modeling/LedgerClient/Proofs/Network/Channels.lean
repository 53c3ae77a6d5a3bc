import LedgerClient.Proofs.Text.Numeral
import LedgerClient.Proofs.Execution.Course
import LedgerClient.Proofs.Network.Assembly
import LedgerClient.Scene

/-!
# Where channels lead

A network keeps one channel for an endpoint, and all nodes that are dialled there share it.
Whatever sequence of uses a network has gone through, the channel to a node was opened with
the settings of the network, for an address that was registered at the endpoint of the node.
Where no other address was registered there, that is the address of the node.
-/

namespace LedgerClient

variable {ω χ : Type}

/-! ### Endpoints -/

namespace NodeAddress

theorem colon_notMem_toDigits (n : Nat) : ':' ∉ Nat.toDigits 10 n := by
  intro hmem
  have hdigit := Nat.isDigit_of_mem_toDigits (by decide) (by decide) hmem
  exact absurd hdigit (by decide)

theorem toList_endpoint (address : NodeAddress) (tls : TlsSettings) :
    (address.endpoint tls).toList =
      address.host.toList ++ ':' :: Nat.toDigits 10 (address.portFor tls).toNat := by
  simp [endpoint]

/-- Two addresses are dialled at one endpoint exactly when host and port are the same. The port
holds no colon, so a host may. -/
theorem endpoint_eq_iff {a b : NodeAddress} {tls : TlsSettings} :
    a.endpoint tls = b.endpoint tls ↔ a.host = b.host ∧ a.portFor tls = b.portFor tls := by
  constructor
  · intro hendpoint
    have hchars := congrArg (fun text => text.toList.reverse) hendpoint
    simp only [toList_endpoint, List.reverse_append, List.reverse_cons, List.append_assoc,
      List.singleton_append] at hchars
    have hcut := congrArg (Text.splitFirst ':') hchars
    rw [Text.splitFirst_append (by simp [colon_notMem_toDigits]),
      Text.splitFirst_append (by simp [colon_notMem_toDigits])] at hcut
    obtain ⟨hport, hhost⟩ := Prod.mk.inj (Option.some.inj hcut)
    have hdigits := Numeral.toDigits_injective (List.reverse_inj.mp hport)
    exact ⟨String.toList_inj.mp (List.reverse_inj.mp hhost), UInt16.toNat_inj.mp hdigits⟩
  · rintro ⟨hhost, hport⟩
    simp only [endpoint, hhost, hport]

end NodeAddress

/-! ### Openings -/

/-- A channel that was opened: for which address, and with which settings. -/
structure Opening where
  address : NodeAddress
  tls : TlsSettings

/-- A world with the openings that succeeded in it, in order. -/
abbrev Logged (ω : Type) := ω × List Opening

/-- A channel with the number of its opening. -/
abbrev Numbered (χ : Type) := Nat × χ

namespace Surroundings

/-- The same surroundings, in which each channel that is opened is a new one and is logged. -/
def logged (surroundings : Surroundings ω χ) : Surroundings (Logged ω) (Numbered χ) where
  clock world :=
    let (now, after) := surroundings.clock world.1
    (now, (after, world.2))
  stopwatch world := surroundings.stopwatch world.1
  openChannel address tls allowed world :=
    match surroundings.openChannel address tls allowed world.1 with
    | (some (.ok channel), after) =>
        (some (.ok (world.2.length, channel)), (after, world.2 ++ [⟨address, tls⟩]))
    | (some (.error error), after) => (some (.error error), (after, world.2))
    | (none, after) => (none, (after, world.2))
  send channel request allowed world :=
    let (reply, after) := surroundings.send channel.2 request allowed world.1
    (reply, (after, world.2))
  close channel world := (surroundings.close channel.2 world.1, world.2)
  sleep pause world := (surroundings.sleep pause world.1, world.2)
  draw world :=
    let (backtrack, after) := surroundings.draw world.1
    (backtrack, (after, world.2))

/-- A channel that is opened is a new one and is logged; without one the log is the same. -/
theorem openChannel_logged (surroundings : Surroundings ω χ) (address : NodeAddress)
    (tls : TlsSettings) (allowed : Duration) (world : Logged ω) :
    (∃ channel after, surroundings.logged.openChannel address tls allowed world =
      (some (.ok (world.2.length, channel)), (after, world.2 ++ [⟨address, tls⟩]))) ∨
    ∃ reply after, (∀ channel, reply ≠ some (.ok channel)) ∧
      surroundings.logged.openChannel address tls allowed world = (reply, (after, world.2)) := by
  simp only [logged]
  rcases surroundings.openChannel address tls allowed world.1 with ⟨_ | error | channel, after⟩
  · exact .inr ⟨none, after, by simp, rfl⟩
  · exact .inr ⟨some (.error error), after, by simp, rfl⟩
  · exact .inl ⟨channel, after, rfl⟩

end Surroundings

namespace Network

/-- A channel is the one that is kept for the endpoint; or where there is none, one that is opened
and kept from then on, or there is no channel and nothing more is kept. -/
theorem channel_spec (network : Network χ) (surroundings : Surroundings ω χ) (member : Member)
    (allowed : Duration) (world : ω) :
    let done := network.channel surroundings member allowed world
    let kept := network.channels.lookup (network.endpoint member)
    let opened := surroundings.openChannel member.address network.options.tls allowed world
    (∃ channel, kept = some channel ∧ done = (some (.ok channel), network, world)) ∨
    kept = none ∧
      ((∃ channel after, opened = (some (.ok channel), after) ∧ done = (some (.ok channel),
        { network with channels := network.channels ++ [(network.endpoint member, channel)] },
        after)) ∨
      ∃ reply after, (∀ channel, reply ≠ some (.ok channel)) ∧ opened = (reply, after) ∧
        done = (reply, network, after)) := by
  intro done kept opened
  have hdone : done = network.channel surroundings member allowed world := rfl
  unfold channel at hdone
  cases hkept : network.channels.lookup (network.endpoint member) with
  | some channel =>
      simp only [hkept] at hdone
      exact .inl ⟨channel, hkept, hdone⟩
  | none =>
      refine .inr ⟨hkept, ?_⟩
      simp only [hkept] at hdone
      rcases hopen : surroundings.openChannel member.address network.options.tls allowed world
        with ⟨_ | error | channel, after⟩
      · simp only [hopen] at hdone
        exact .inr ⟨none, after, by simp, hopen, hdone⟩
      · simp only [hopen] at hdone
        exact .inr ⟨some (.error error), after, by simp, hopen, hdone⟩
      · simp only [hopen] at hdone
        exact .inl ⟨channel, after, hopen, hdone⟩

/-- A network takes over the channels of endpoints that it uses. -/
theorem mem_inherit {network rebuilt : Network χ} {entry : String × χ}
    (hentry : entry ∈ (network.inherit rebuilt).1.channels) :
    entry ∈ network.channels ∧ entry.1 ∈ rebuilt.members.map rebuilt.endpoint := by
  simp only [inherit, List.partition_eq_filter_filter] at hentry
  obtain ⟨hmem, hused⟩ := List.mem_filter.mp hentry
  exact ⟨hmem, List.contains_iff_mem.mp hused⟩

def addresses (network : Network χ) : List NodeAddress := network.members.map Member.address

/-- What is done with the channels of a network. -/
inductive ChannelUse where
  | channel (account : AccountId) (allowed : Duration)
  | close
  | rebuild (addresses : List NodeAddress)

/-- A scene, and the addresses that were registered at its endpoints since those are in use. -/
structure Registry (ω χ : Type) where
  scene : Scene (Logged ω) (Numbered χ)
  registered : List NodeAddress

namespace Registry

/-- The registry of a network that has not been used. -/
def fresh (scene : Scene (Logged ω) (Numbered χ)) : Registry ω χ := ⟨scene, scene.network.addresses⟩

/-- What is in use of registered addresses, once a network has taken the place of another. -/
def passedOn (registered : List NodeAddress) (network : Network χ) : List NodeAddress :=
  registered.filter fun address =>
    (network.members.map network.endpoint).contains (address.endpoint network.options.tls)

/-- One use. The channels that are closed lead nowhere, so what was registered when they were opened
is forgotten. -/
def use (surroundings : Surroundings ω χ) (registry : Registry ω χ) : ChannelUse → Registry ω χ
  | .channel account allowed =>
      let scene := registry.scene
      match scene.network.member? account with
      | none => registry
      | some member =>
          let (_, network, world) :=
            scene.network.channel surroundings.logged member allowed scene.world
          { registry with scene := { scene with network, world } }
  | .close => fresh (registry.scene.close surroundings.logged)
  | .rebuild addresses =>
      match registry.scene.setNetwork surroundings.logged addresses with
      | (.error _, scene) => { registry with scene }
      | (.ok (), scene) =>
          ⟨scene, passedOn registry.registered scene.network ++ scene.network.addresses⟩

def uses (surroundings : Surroundings ω χ) (registry : Registry ω χ) (uses : List ChannelUse) :
    Registry ω χ :=
  uses.foldl (use surroundings) registry

/-! ### What is kept by every use -/

/-- The nodes of the network are registered, and each channel that is kept was opened with its
settings for an address that is registered at the endpoint it is kept for. -/
structure IsFiled (registry : Registry ω χ) : Prop where
  served : ∀ address ∈ registry.scene.network.addresses, address ∈ registry.registered
  opened : ∀ entry ∈ registry.scene.network.channels, ∃ address ∈ registry.registered,
    address.endpoint registry.scene.network.options.tls = entry.1 ∧
      registry.scene.world.2[entry.2.1]? = some ⟨address, registry.scene.network.options.tls⟩

theorem isFiled_fresh {scene : Scene (Logged ω) (Numbered χ)}
    (hchannels : scene.network.channels = []) : (fresh scene : Registry ω χ).IsFiled where
  served address haddress := haddress
  opened entry hentry := by
    change entry ∈ scene.network.channels at hentry
    rw [hchannels] at hentry
    cases hentry

/-- A channel is the one that is kept for the endpoint, or a new one that is logged and kept, or
there is none and nothing is logged. -/
theorem channel_cases (surroundings : Surroundings ω χ) (network : Network (Numbered χ))
    (member : Member) (allowed : Duration) (world : Logged ω) :
    let done := network.channel surroundings.logged member allowed world
    let endpoint := network.endpoint member
    (∃ channel, (endpoint, channel) ∈ network.channels ∧
      done = (some (.ok channel), network, world)) ∨
    (∃ channel after, done = (some (.ok (world.2.length, channel)),
      { network with channels := network.channels ++ [(endpoint, (world.2.length, channel))] },
      (after, world.2 ++ [⟨member.address, network.options.tls⟩]))) ∨
    ∃ reply after, (∀ channel, reply ≠ some (.ok channel)) ∧
      done = (reply, network, (after, world.2)) := by
  intro done endpoint
  have hopens := surroundings.openChannel_logged member.address network.options.tls allowed world
  rcases channel_spec network surroundings.logged member allowed world with
    ⟨channel, hkept, hdone⟩ |
    ⟨_, ⟨channel, after, hopen, hdone⟩ | ⟨reply, after, hreply, hopen, hdone⟩⟩
  · obtain ⟨before, behind, hchannels, _⟩ := List.lookup_eq_some_iff.mp hkept
    refine .inl ⟨channel, ?_, hdone⟩
    rw [hchannels]
    exact List.mem_append_right before List.mem_cons_self
  · rcases hopens with ⟨opened, later, hlogged⟩ | ⟨other, later, hother, hlogged⟩
    · cases hopen.symm.trans hlogged
      exact .inr (.inl ⟨opened, later, hdone⟩)
    · cases hopen.symm.trans hlogged
      exact absurd rfl (hother channel)
  · rcases hopens with ⟨opened, later, hlogged⟩ | ⟨other, later, hother, hlogged⟩
    · cases hopen.symm.trans hlogged
      exact absurd rfl (hreply _)
    · cases hopen.symm.trans hlogged
      exact .inr (.inr ⟨reply, later, hreply, hdone⟩)

theorem log_closeAll (surroundings : Surroundings ω χ) (channels : List (String × Numbered χ))
    (world : Logged ω) : (closeAll surroundings.logged channels world).2 = world.2 := by
  induction channels generalizing world with
  | nil => rfl
  | cons placed rest ih => exact ih (surroundings.logged.close placed.2 world)

/-- A rebuilt network has the settings of the one before and, of its channels, those whose endpoint
is still in use. Nothing is opened. -/
theorem rebuild_eq_ok {surroundings : Surroundings ω χ} {network rebuilt : Network (Numbered χ)}
    {addresses : List NodeAddress} {book grown : HealthBook} {world after : Logged ω}
    (hrebuild : network.rebuild surroundings.logged addresses book world =
      (.ok rebuilt, grown, after)) :
    rebuilt.options = network.options ∧ after.2 = world.2 ∧
      ∀ entry ∈ rebuilt.channels, entry ∈ network.channels ∧
        entry.1 ∈ rebuilt.members.map rebuilt.endpoint := by
  rcases rebuild_cases network surroundings.logged addresses book world with
    ⟨error, _, hdone⟩ | ⟨assembled, hmade, hdone⟩
  · cases hrebuild.symm.trans hdone
  · cases hrebuild.symm.trans hdone
    obtain ⟨_, _, _, hoptions, _⟩ := assemble_eq_ok hmade
    exact ⟨hoptions, log_closeAll surroundings _ world, fun entry hentry => mem_inherit hentry⟩

theorem rebuild_eq_error {surroundings : Surroundings ω χ} {network : Network χ}
    {addresses : List NodeAddress} {book grown : HealthBook} {world after : ω} {error : ClientError}
    (hrebuild : network.rebuild surroundings addresses book world =
      (.error error, grown, after)) : after = world := by
  rcases rebuild_cases network surroundings addresses book world with
    ⟨other, _, hdone⟩ | ⟨assembled, _, hdone⟩
  · cases hrebuild.symm.trans hdone
    rfl
  · cases hrebuild.symm.trans hdone

theorem mem_passedOn {registered : List NodeAddress} {network : Network χ} {address : NodeAddress}
    (hmem : address ∈ registered)
    (hused : address.endpoint network.options.tls ∈ network.members.map network.endpoint) :
    address ∈ passedOn registered network :=
  List.mem_filter.mpr ⟨hmem, List.contains_iff_mem.mpr hused⟩

theorem getElem?_append_opening {log : List Opening} {number : Nat} {opening : Opening}
    (hopened : log[number]? = some opening) (later : Opening) :
    (log ++ [later])[number]? = some opening := by
  rw [List.getElem?_append_left (List.getElem?_eq_some_iff.mp hopened).1]
  exact hopened

theorem IsFiled.use {surroundings : Surroundings ω χ} {registry : Registry ω χ}
    (hfiled : registry.IsFiled) (use : ChannelUse) : (registry.use surroundings use).IsFiled := by
  cases use with
  | channel account allowed =>
      unfold Registry.use
      simp only
      split
      next => exact hfiled
      next member hmember =>
        have hserved : member.address ∈ registry.registered :=
          hfiled.served _ (List.mem_map_of_mem (List.mem_of_find?_eq_some hmember))
        rcases channel_cases surroundings registry.scene.network member allowed
          registry.scene.world with
          ⟨channel, _, hdone⟩ | ⟨channel, after, hdone⟩ | ⟨reply, after, _, hdone⟩
        · rw [hdone]
          exact ⟨hfiled.served, hfiled.opened⟩
        · rw [hdone]
          refine ⟨hfiled.served, fun entry hentry => ?_⟩
          rcases List.mem_append.mp hentry with hkept | hnew
          · obtain ⟨address, haddress, hendpoint, hopened⟩ := hfiled.opened entry hkept
            exact ⟨address, haddress, hendpoint, getElem?_append_opening hopened _⟩
          · rw [List.mem_singleton.mp hnew]
            exact ⟨member.address, hserved, rfl, List.getElem?_concat_length⟩
        · rw [hdone]
          exact ⟨hfiled.served, hfiled.opened⟩
  | close => exact isFiled_fresh rfl
  | rebuild addresses =>
      unfold Registry.use Scene.setNetwork
      simp only
      rcases hrebuild : registry.scene.network.rebuild surroundings.logged addresses
        registry.scene.health registry.scene.world with ⟨error | rebuilt, grown, after⟩
      · rw [rebuild_eq_error hrebuild]
        exact ⟨hfiled.served, hfiled.opened⟩
      · obtain ⟨hoptions, hlog, hkept⟩ := rebuild_eq_ok hrebuild
        simp only
        refine ⟨fun address haddress => List.mem_append_right _ haddress, fun entry hentry => ?_⟩
        -- A channel is kept as its endpoint is in use, so what it was opened for is passed on.
        obtain ⟨hmem, hused⟩ := hkept entry hentry
        obtain ⟨address, haddress, hendpoint, hopened⟩ := hfiled.opened entry hmem
        rw [← hoptions] at hendpoint hopened
        refine ⟨address, List.mem_append_left _ (mem_passedOn haddress ?_), hendpoint, ?_⟩
        · rw [hendpoint]
          exact hused
        · simp only [hlog]
          exact hopened

theorem IsFiled.uses {surroundings : Surroundings ω χ} {registry : Registry ω χ}
    (hfiled : registry.IsFiled) (uses : List ChannelUse) :
    (registry.uses surroundings uses).IsFiled := by
  induction uses generalizing registry with
  | nil => exact hfiled
  | cons use rest ih => exact ih (hfiled.use use)

/-- A channel leads to an address: it was opened for it, with the settings of the network. -/
def LeadsTo (network : Network (Numbered χ)) (world : Logged ω) (channel : Numbered χ)
    (address : NodeAddress) : Prop :=
  world.2[channel.1]? = some ⟨address, network.options.tls⟩

def SharesEndpoint (tls : TlsSettings) (a b : NodeAddress) : Prop :=
  a.host = b.host ∧ a.portFor tls = b.portFor tls

/-- The channel to a node, after any sequence of uses of a network that had none open, leads to an
address that is dialled like that of the node, and that was registered while their endpoint was in
use. It leads to the address of the node if no other one like that was. -/
theorem channel_leads_to_registered (surroundings : Surroundings ω χ)
    (scene : Scene (Logged ω) (Numbered χ)) (hchannels : scene.network.channels = [])
    (uses : List ChannelUse) :
    let registry := (fresh scene).uses surroundings uses
    let network := registry.scene.network
    let tls := network.options.tls
    ∀ member ∈ network.members, ∀ allowed channel after world,
      network.channel surroundings.logged member allowed registry.scene.world =
        (some (.ok channel), after, world) →
      ∃ address ∈ registry.registered, LeadsTo network world channel address ∧
        SharesEndpoint tls address member.address ∧
        ((∀ other ∈ registry.registered, SharesEndpoint tls other member.address →
          (other == member.address) = true) → (address == member.address) = true) := by
  intro registry network tls member hmember allowed channel after world hchannel
  -- The one call more is looked at as it is made: its channel is kept, or opened now.
  have hfiled : registry.IsFiled := (isFiled_fresh hchannels).uses uses
  obtain ⟨address, haddress, hleads, hshares⟩ : ∃ address ∈ registry.registered,
      LeadsTo network world channel address ∧ SharesEndpoint tls address member.address := by
    rcases channel_cases surroundings network member allowed registry.scene.world with
      ⟨kept, hkept, hdone⟩ | ⟨opened, later, hdone⟩ | ⟨reply, later, hreply, hdone⟩
    · cases hchannel.symm.trans hdone
      obtain ⟨address, haddress, hendpoint, hopened⟩ := hfiled.opened _ hkept
      exact ⟨address, haddress, hopened, NodeAddress.endpoint_eq_iff.mp hendpoint⟩
    · cases hchannel.symm.trans hdone
      exact ⟨member.address, hfiled.served _ (List.mem_map_of_mem hmember),
        List.getElem?_concat_length, rfl, rfl⟩
    · cases hchannel.symm.trans hdone
      exact absurd rfl (hreply channel)
  exact ⟨address, haddress, hleads, hshares, fun halone => halone address haddress hshares⟩

/-- Two nodes at hosts given in words, and no channel to them. -/
def twoHosts (first second : String) :
    Scene (Logged (List (Except TransportError Bytes))) (Numbered Unit) where
  network := {
    members := [⟨⟨.ofNum 3, first, plainPort, none⟩, 0⟩, ⟨⟨.ofNum 4, second, plainPort, none⟩, 1⟩]
    ledgerId := .mainnet
    mirror := none
    options := {}
    members_ne_nil := by simp
    keys_nodup := by simp [Member.account, EntityId.key, EntityId.ofNum] }
  health := .empty
  world := ([], [])

/-- Channels to both nodes, and then a network of the second one only. -/
def narrowing : List ChannelUse :=
  [.channel (.ofNum 4) .zero, .channel (.ofNum 3) .zero,
    .rebuild [⟨.ofNum 4, "four", plainPort, none⟩]]

/-- What that makes of two nodes at different hosts. -/
def narrowed : Registry (List (Except TransportError Bytes)) Unit :=
  (fresh (twoHosts "three" "four")).uses Execution.scripted narrowing

theorem channel_leads_to_registered_narrowed :
    (twoHosts "three" "four").network.channels = [] ∧ narrowed.scene.world.2.length = 2 ∧
      ∃ channel after world address,
        narrowed.scene.network.channel Execution.scripted.logged
          ⟨⟨.ofNum 4, "four", plainPort, none⟩, 1⟩ .zero narrowed.scene.world =
            (some (.ok channel), after, world) ∧
        LeadsTo narrowed.scene.network world channel address ∧
        (address == ⟨.ofNum 4, "four", plainPort, none⟩) = true := by
  refine ⟨rfl, rfl, ?_⟩
  have hchannel : narrowed.scene.network.channel Execution.scripted.logged
      ⟨⟨.ofNum 4, "four", plainPort, none⟩, 1⟩ .zero narrowed.scene.world =
        (some (.ok (0, ())), narrowed.scene.network, narrowed.scene.world) := rfl
  obtain ⟨address, _, hleads, _, halone⟩ := channel_leads_to_registered Execution.scripted
    (twoHosts "three" "four") rfl narrowing ⟨⟨.ofNum 4, "four", plainPort, none⟩, 1⟩
    List.mem_cons_self .zero _ _ _ hchannel
  refine ⟨_, _, _, address, hchannel, hleads, halone ?_⟩
  have hregistered : narrowed.registered =
      [⟨.ofNum 4, "four", plainPort, none⟩, ⟨.ofNum 4, "four", plainPort, none⟩] := rfl
  intro other hother _
  change other ∈ narrowed.registered at hother
  rw [hregistered] at hother
  simp only [List.mem_cons, List.not_mem_nil, or_self, or_false] at hother
  rw [hother]
  decide

/-- Two nodes at one endpoint share the channel, and one of them is not the node it was opened
for. -/
theorem channel_shared_by_two_nodes :
    let registry := (fresh (twoHosts "one" "one")).uses Execution.scripted
      [.channel (.ofNum 3) .zero]
    let network := registry.scene.network
    ∃ member ∈ network.members, ∃ channel after world address,
      network.channel Execution.scripted.logged member .zero registry.scene.world =
        (some (.ok channel), after, world) ∧
      LeadsTo network world channel address ∧ (address == member.address) = false := by
  refine ⟨⟨⟨.ofNum 4, "one", plainPort, none⟩, 1⟩, ?_, (0, ()), _, _,
    ⟨.ofNum 3, "one", plainPort, none⟩, rfl, rfl, by decide⟩
  exact List.mem_cons_of_mem _ List.mem_cons_self

end Registry

end Network

end LedgerClient
