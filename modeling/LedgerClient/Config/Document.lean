import LedgerClient.Config
import LedgerClient.Error.Document

/-!
# Configurations as documents

A configuration is a document with the names it has in a settings text, and a client
is one with what it was set up with.
-/

namespace LedgerClient

open Document

instance : ToDocument NodeEntry := ⟨fun n => .fields [
  entry "account_id" n.accountId, entry "address" n.address, entry "cert_hash" n.certHash]⟩

instance : ToDocument NetworkSection := ⟨fun s => .fields [
  entry "preset" s.preset, entry "nodes" s.nodes, entry "mirror" s.mirror,
  entry "ledger_id" s.ledgerId, entry "tls" s.tls,
  entry "verify_certificates" s.verifyCertificates]⟩

instance : ToDocument OperatorSection := ⟨fun s => .fields [
  entry "account_id" s.accountId, entry "private_key" s.privateKey, entry "key_type" s.keyType]⟩

instance : ToDocument ExecutionSection := ⟨fun s => .fields [
  entry "max_attempts" s.maxAttempts, entry "request_timeout_ms" s.requestTimeoutMs,
  entry "min_backoff_ms" s.minBackoffMs, entry "max_backoff_ms" s.maxBackoffMs]⟩

instance : ToDocument BackoffSection := ⟨fun s => .fields [
  entry "min_backoff_ms" s.minBackoffMs, entry "max_backoff_ms" s.maxBackoffMs]⟩

instance : ToDocument TransportSection :=
  ⟨fun s => .fields [entry "max_frame_size" s.maxFrameSize]⟩

instance : ToDocument ClientConfig := ⟨fun c => .fields [
  entry "auto_validate_checksums" c.autoValidate, entry "max_nodes_per_transaction" c.maxNodes,
  entry "network" c.network, entry "operator" c.operator, entry "execution" c.execution,
  entry "node_backoff" c.nodeBackoff, entry "transport" c.transport]⟩

instance : ToDocument ResolvedNetwork := ⟨fun r => .fields [
  entry "nodes" r.addresses, entry "mirror" r.mirror, entry "ledger_id" r.ledgerId.text]⟩

instance : ToDocument BackoffBounds := ⟨fun b => document (b.shortest, b.longest)⟩

instance {ω χ : Type} : ToDocument (ClientSetup ω χ) := ⟨fun s =>
  let signer (operator : Operator ω) := (operator.account.text, operator.signer.publicKey.text)
  .fields [
    entry "ledger_id" s.network.ledgerId.text, entry "mirror" s.network.mirror,
    entry "mirror_connector" s.client.dialsMirrors,
    entry "nodes" (s.network.members.map (·.address)),
    entry "endpoints" (s.network.members.map s.network.endpoint),
    entry "operator" (s.client.operator.map signer), entry "settings" s.client.settings,
    entry "auto_validate" s.client.autoValidate, entry "max_nodes" s.client.maxNodes]⟩

/-- A configuration, what its sections come to, and the clients it makes. -/
def ClientConfig.report {ω χ : Type} (surroundings : Surroundings ω χ) (c : ClientConfig) :
    Document :=
  let operator : Outcome (Option (Operator ω)) := c.resolveOperator
  .fields [
    entry "parsed" c, entry "validate" c.validate, entry "resolve" c.network.resolve,
    entry "operator" (operator.map fun operator => operator.map (·.shown)),
    entry "settings" c.executeSettings, entry "backoff" c.backoffBounds,
    entry "tls" c.networkOptions.tls, entry "client" (ClientSetup.overSockets surroundings c),
    entry "client_with" (ClientSetup.ofConfig surroundings c)]

end LedgerClient
