import LedgerClient.Network.Channels
import LedgerClient.Network.Selection
import LedgerClient.Telemetry.Meters

/-!
# Scenes

Everything that calls change: the network with its cursor and channels, the health
records, the meters, and the world.
-/

namespace LedgerClient

/-- What a call finds, and what it leaves. -/
structure Scene (ω χ : Type) where
  network : Network χ
  health : HealthBook
  meters : Meters := {}
  world : ω

namespace Scene

variable {ω χ : Type}

/-- Reads the clock. -/
def now (surroundings : Surroundings ω χ) (scene : Scene ω χ) : Timestamp × Scene ω χ :=
  let (now, world) := surroundings.clock scene.world
  (now, { scene with world })

@[simp] theorem network_now (surroundings : Surroundings ω χ) (scene : Scene ω χ) :
    (scene.now surroundings).2.network = scene.network := rfl

/-- Changes the health record of a member. -/
def changeHealth (scene : Scene ω χ) (member : Member) (change : Health → Health) : Scene ω χ :=
  { scene with health := scene.health.modify member.record change }

/-- Counts something once. -/
def bump (scene : Scene ω χ) (counter : Counter) : Scene ω χ :=
  { scene with meters := scene.meters.bump counter }

/-- The health record of a member. -/
def healthOf (scene : Scene ω χ) (member : Member) : Health := scene.health.get member.record

/-- Closes all channels of the network. -/
def close (surroundings : Surroundings ω χ) (scene : Scene ω χ) : Scene ω χ :=
  let (network, world) := scene.network.close surroundings scene.world
  { scene with network, world }

/-- Puts the network over other addresses. Where that fails, nothing changes. -/
def setNetwork (surroundings : Surroundings ω χ) (addresses : List NodeAddress)
    (scene : Scene ω χ) : Outcome Unit × Scene ω χ :=
  match scene.network.rebuild surroundings addresses scene.health scene.world with
  | (.error e, health, world) => (.error e, { scene with health, world })
  | (.ok network, health, world) => (.ok (), { scene with network, health, world })

end Scene

end LedgerClient
