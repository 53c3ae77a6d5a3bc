import LedgerClient.Error

/-!
# Surroundings

A client acts on a world it does not control: nodes that answer or do not, a clock,
chance, and keys held elsewhere. The world is a value of any type, and each way to
act on it is a function from worlds to worlds; nothing is assumed of them, so what
is shown of a client holds for every behaviour of its surroundings.
-/

namespace LedgerClient

/-- What came of waiting for an answer: nothing in the time allowed, an error, or the answer. -/
abbrev Reply (α : Type) := Option (Except TransportError α)

/-- What a client needs of a world `ω` with channels `χ`. -/
structure Surroundings (ω χ : Type) where
  /-- Reads the clock for the health of nodes and for transaction identifiers. -/
  clock : ω → Timestamp × ω
  /-- Time that has gone by since some start. -/
  stopwatch : ω → Duration
  /-- Opens a channel to an address, within the time allowed. -/
  openChannel : NodeAddress → TlsSettings → (allowed : Duration) → ω → Reply χ × ω
  /-- Sends octets over a channel and waits for the answer, within the time allowed. -/
  send : χ → Bytes → (allowed : Duration) → ω → Reply Bytes × ω
  /-- Closes a channel. -/
  close : χ → ω → ω
  /-- Lets time go by. -/
  sleep : Duration → ω → ω
  /-- Draws how far back the validity of a new transaction starts. -/
  draw : ω → TransactionId.Backtrack × ω

/-- A key held in the world: its public half, and a way to have octets signed. -/
structure Signer (ω : Type) where
  publicKey : PublicKey
  sign : Bytes → ω → Outcome Bytes × ω

/-- The signer of a key at hand. It always signs, and leaves the world alone. -/
def PrivateKey.signer {ω : Type} (key : PrivateKey) : Signer ω where
  publicKey := key.publicKey
  sign message world := (.ok (key.sign message), world)

/-- Says whether a signature of octets is by a key. -/
abbrev Verifier := PublicKey → Bytes → Bytes → Bool

/-- The account that pays for transactions, and signs them. -/
structure Operator (ω : Type) where
  account : AccountId
  signer : Signer ω

/-- The operator in words. -/
def Operator.shown {ω : Type} (operator : Operator ω) : String :=
  "Operator \x7b account_id: " ++ operator.account.shown.text ++ ", public_key: " ++
    Text.quoted operator.signer.publicKey.text ++ " \x7d"

end LedgerClient
