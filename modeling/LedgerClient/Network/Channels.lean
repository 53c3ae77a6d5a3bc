import LedgerClient.Network
import LedgerClient.Surroundings

/-!
# Channels of a network

A channel is opened when it is first needed and kept for the endpoint it leads to.
A network can be rebuilt over other addresses: nodes whose address is the same keep
their health record, endpoints that are still in use keep their channel, and the
other channels are closed.
-/

namespace LedgerClient.Network

variable {ω χ : Type}

/-- The endpoint at which a member is dialled. -/
def endpoint (network : Network χ) (member : Member) : String :=
  member.address.endpoint network.options.tls

/-- The channel to a member: the one that is kept for its endpoint, or a new one. -/
def channel (network : Network χ) (surroundings : Surroundings ω χ) (member : Member)
    (allowed : Duration) (world : ω) : Reply χ × Network χ × ω :=
  let endpoint := network.endpoint member
  match network.channels.lookup endpoint with
  | some channel => (some (.ok channel), network, world)
  | none =>
      match surroundings.openChannel member.address network.options.tls allowed world with
      | (some (.ok channel), world) =>
          (some (.ok channel), { network with channels := network.channels ++ [(endpoint, channel)] },
            world)
      | (reply, world) => (reply, network, world)

/-- Closes channels one after the other. -/
def closeAll (surroundings : Surroundings ω χ) (channels : List (String × χ)) (world : ω) : ω :=
  channels.foldl (fun world (_, channel) => surroundings.close channel world) world

/-- Closes all channels. -/
def close (network : Network χ) (surroundings : Surroundings ω χ) (world : ω) : Network χ × ω :=
  ({ network with channels := [] }, closeAll surroundings network.channels world)

/-- The member that has an address already. -/
def known? (network : Network χ) (address : NodeAddress) : Option Member :=
  (network.member? address.account).filter (·.address == address)

/-- The network of other members with the channels whose endpoint it still has, and the channels
it has no use for. -/
def inherit (network rebuilt : Network χ) : Network χ × List (String × χ) :=
  let endpoints := rebuilt.members.map rebuilt.endpoint
  let (kept, dropped) := network.channels.partition fun placed => endpoints.contains placed.1
  ({ rebuilt with channels := kept }, dropped)

/-- The network over other addresses, with the book of its records. Where that fails, nothing
changes. -/
def rebuild (network : Network χ) (surroundings : Surroundings ω χ) (addresses : List NodeAddress)
    (book : HealthBook) (world : ω) : Outcome (Network χ) × HealthBook × ω :=
  let (members, grown) := enlist network.options.backoff network.known? addresses book
  match (assemble members network.ledgerId network.mirror network.options : Outcome (Network χ)) with
  | .error e => (.error e, book, world)
  | .ok rebuilt =>
      let (rebuilt, dropped) := network.inherit rebuilt
      (.ok rebuilt, grown, closeAll surroundings dropped world)

end LedgerClient.Network
