import LedgerClient.Entity.LedgerId
import LedgerClient.Error
import LedgerClient.Node.Address

/-!
# Well-known networks

Networks that are known by name, with their nodes, their mirror and their ledger.
-/

namespace LedgerClient

/-- A network known by name. -/
inductive NetworkPreset where
  | mainnet
  | testnet
  | previewnet
  /-- A single node on the machine at hand. -/
  | localNode
  deriving DecidableEq

namespace NetworkPreset

/-- The name of the network. -/
def name : NetworkPreset → String
  | .mainnet => "mainnet"
  | .testnet => "testnet"
  | .previewnet => "previewnet"
  | .localNode => "local"

/-- The network a name stands for, in any case of its ASCII letters. -/
def ofName (text : String) : Outcome NetworkPreset :=
  match text.toLower with
  | "mainnet" => .ok .mainnet
  | "testnet" => .ok .testnet
  | "previewnet" => .ok .previewnet
  | "local" | "localhost" | "local-node" => .ok .localNode
  | other => .error (.config (.unknownPreset other))

/-- The ledger of the network. -/
def ledgerId : NetworkPreset → LedgerId
  | .mainnet => .mainnet
  | .testnet => .testnet
  | .previewnet => .previewnet
  | .localNode => .localNode

/-- Where the mirror of the network listens. -/
def mirror : NetworkPreset → String
  | .mainnet => "mainnet-public.mirrornode.hedera.com:443"
  | .testnet => "testnet.mirrornode.hedera.com:443"
  | .previewnet => "previewnet.mirrornode.hedera.com:443"
  | .localNode => "127.0.0.1:5600"

/-- Hosts of the nodes, from the account `0.0.3` on. -/
def hosts : NetworkPreset → List String
  | .mainnet => ["35.237.200.180", "35.186.191.247", "35.192.2.25", "35.199.161.108",
      "35.203.82.240", "35.236.5.219", "35.197.192.225", "35.242.233.154", "35.240.118.96",
      "35.204.86.32"]
  | .testnet => (List.range 7).map fun n => toString n ++ ".testnet.hedera.com"
  | .previewnet => (List.range 7).map fun n => toString n ++ ".previewnet.hedera.com"
  | .localNode => ["127.0.0.1"]

/-- The nodes of the network. -/
def nodes (preset : NetworkPreset) : List NodeAddress :=
  preset.hosts.zipIdx.map fun (host, index) =>
    { account := .ofNum (UInt64.ofNat (3 + index)), host, port := plainPort }

end NetworkPreset

end LedgerClient
