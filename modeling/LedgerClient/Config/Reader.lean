import LedgerClient.Config
import LedgerClient.Text.Utf8
import LedgerClient.Toml.Reader

/-!
# Reading configurations

A configuration is a settings text with one table for each section. A name that no
section has is refused, and so is a value of the wrong kind. A section may also be
given as a list of its values in their order, from the first one on.
-/

namespace LedgerClient

open Toml

namespace Config

/-- The values of a section whose values have the given names. -/
def parts? (names : List String) : Value → Option Entries
  | .table _ entries => if entries.all fun (name, _) => names.contains name then some entries else none
  | .list items => some (names.zip items)
  | .tables earlier last => some (names.zip ((earlier ++ [last]).map (.table .stated)))
  | _ => none

/-- A text. -/
def text? : Value → Option String
  | .text value => some value
  | _ => none

/-- A truth value. -/
def flag? : Value → Option Bool
  | .flag value => some value
  | _ => none

/-- A number below a bound. -/
def below? (bound : Nat) : Value → Option Nat
  | .integer value => if 0 ≤ value ∧ value < bound then some value.toNat else none
  | _ => none

/-- A number of 32 bits. -/
def word32? (value : Value) : Option UInt32 := (below? UInt32.size value).map .ofNat

/-- A number of 64 bits. -/
def word64? (value : Value) : Option UInt64 := (below? UInt64.size value).map .ofNat

/-- Values read one after the other. -/
def list? {α : Type} (read : Value → Option α) : Value → Option (List α)
  | .list items => items.mapM read
  | .tables earlier last => (earlier ++ [last]).mapM fun entries => read (.table .stated entries)
  | _ => none

/-- A value of a section, or its default. -/
def withDefault {α : Type} (parts : Entries) (name : String) (read : Value → Option α)
    (default : α) : Option α :=
  match parts.lookup name with
  | none => some default
  | some value => read value

/-- A value of a section that may be missing. -/
def maybe {α : Type} (parts : Entries) (name : String) (read : Value → Option α) :
    Option (Option α) :=
  withDefault parts name (fun value => (read value).map some) none

/-- A value that a section needs. -/
def needed {α : Type} (parts : Entries) (name : String) (read : Value → Option α) : Option α :=
  (parts.lookup name).bind read

/-- A listed node. -/
def node? (value : Value) : Option NodeEntry := do
  let parts ← parts? ["account_id", "address", "cert_hash"] value
  return ⟨← needed parts "account_id" text?, ← needed parts "address" text?,
    ← maybe parts "cert_hash" text?⟩

/-- The network section. -/
def network? (value : Value) : Option NetworkSection := do
  let parts ←
    parts? ["preset", "nodes", "mirror", "ledger_id", "tls", "verify_certificates"] value
  return ⟨← maybe parts "preset" text?, ← withDefault parts "nodes" (list? node?) [],
    ← maybe parts "mirror" text?, ← maybe parts "ledger_id" text?,
    ← withDefault parts "tls" flag? false, ← withDefault parts "verify_certificates" flag? true⟩

/-- The operator section. -/
def operator? (value : Value) : Option OperatorSection := do
  let parts ← parts? ["account_id", "private_key", "key_type"] value
  return ⟨← needed parts "account_id" text?, ← needed parts "private_key" text?,
    ← withDefault parts "key_type" text? "ed25519"⟩

/-- The section of the attempt loop. -/
def execution? (value : Value) : Option ExecutionSection := do
  let parts ←
    parts? ["max_attempts", "request_timeout_ms", "min_backoff_ms", "max_backoff_ms"] value
  let standard : ExecutionSection := {}
  return ⟨← withDefault parts "max_attempts" word32? standard.maxAttempts,
    ← withDefault parts "request_timeout_ms" word64? standard.requestTimeoutMs,
    ← withDefault parts "min_backoff_ms" word64? standard.minBackoffMs,
    ← withDefault parts "max_backoff_ms" word64? standard.maxBackoffMs⟩

/-- The section of the health of nodes. -/
def nodeBackoff? (value : Value) : Option BackoffSection := do
  let parts ← parts? ["min_backoff_ms", "max_backoff_ms"] value
  let standard : BackoffSection := {}
  return ⟨← withDefault parts "min_backoff_ms" word64? standard.minBackoffMs,
    ← withDefault parts "max_backoff_ms" word64? standard.maxBackoffMs⟩

/-- The section of connections. -/
def transport? (value : Value) : Option TransportSection := do
  let parts ← parts? ["max_frame_size"] value
  return ⟨← withDefault parts "max_frame_size" (below? UInt64.size) ({} : TransportSection).maxFrameSize⟩

/-- A configuration. -/
def config? (entries : Entries) : Option ClientConfig := do
  let parts ← parts? ["auto_validate_checksums", "max_nodes_per_transaction", "network", "operator",
    "execution", "node_backoff", "transport"] (.table .stated entries)
  return ⟨← withDefault parts "auto_validate_checksums" flag? false,
    ← maybe parts "max_nodes_per_transaction" (below? UInt64.size),
    ← withDefault parts "network" network? {}, ← maybe parts "operator" operator?,
    ← withDefault parts "execution" execution? {}, ← withDefault parts "node_backoff" nodeBackoff? {},
    ← withDefault parts "transport" transport? {}⟩

end Config

namespace ClientConfig

/-- The configuration of a settings text. -/
def parse (text : String) : Outcome ClientConfig :=
  match (Toml.read text).bind Config.config? with
  | some config => .ok config
  | none => .error (.config .malformed)

/-- The configuration of a file that holds `content`, or that cannot be read for a reason. -/
def load (path : String) (content : Except String Bytes) : Outcome ClientConfig :=
  match content.bind fun bytes =>
      (Utf8.decode bytes).mapError fun _ => "stream did not contain valid UTF-8" with
  | .error reason => .error (.config (.unreadable path reason))
  | .ok text => parse text

end ClientConfig

end LedgerClient
