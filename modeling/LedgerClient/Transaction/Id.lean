import LedgerClient.Entity.Id
import LedgerClient.Timestamp

/-!
# Transaction identifiers

A transaction is named by the account that pays for it and the moment from which
it is valid, with a mark for scheduled transactions and a number that tells
transactions of one moment apart. The text is `account@seconds.fraction`, then
`?scheduled` and `/nonce` where they apply.
-/

namespace LedgerClient

/-- The name of a transaction. -/
structure TransactionId where
  account : AccountId
  validStart : Timestamp
  scheduled : Bool := false
  nonce : Int32 := 0
  deriving BEq, Inhabited

namespace TransactionId

/-- The mark of a scheduled transaction. -/
def scheduledMark : String := "?scheduled"

/-- A generated identifier starts to be valid between five and eight seconds before the moment it
is made at: five seconds and this many milliseconds. -/
abbrev Backtrack := Fin 3000

/-- The span a backtrack stands for. -/
def backtrackSpan (backtrack : Backtrack) : Duration :=
  Duration.ofMillis (UInt64.ofNat (5000 + backtrack.val))

/-- The identifier of a transaction that `account` pays for, made at `now`. -/
def generate (account : AccountId) (now : Timestamp) (backtrack : Backtrack) : TransactionId :=
  { account, validStart := now - backtrackSpan backtrack }

/-- Account, moment, and the two marks where they apply. -/
def text (id : TransactionId) : String :=
  id.account.text ++ "@" ++ id.validStart.text ++
    (if id.scheduled then scheduledMark else "") ++
    (if id.nonce ≠ 0 then "/" ++ toString id.nonce.toInt else "")

instance : ToString TransactionId := ⟨text⟩

/-- Reads one to nine digits as a fraction of a second, in nanoseconds. -/
def fraction? (chars : List Char) : Option UInt32 :=
  if chars.length ≤ 9 then
    (Numeral.natOf? chars).map fun n => UInt32.ofNat (n * Nat.pow 10 (9 - chars.length))
  else none

/-- Reads `seconds.fraction`. -/
def moment? (chars : List Char) : Option Timestamp := do
  let (seconds, fraction) ← Text.splitFirst '.' chars
  let nanos ← fraction? fraction
  let seconds ← Numeral.signedBelow? (UInt64.size / 2) seconds
  return Timestamp.normal (Int64.ofInt seconds) nanos

/-- The part before a slash, and the nonce after it. -/
def nonce? (chars : List Char) : Option (List Char × Int32) :=
  match Text.splitFirst '/' chars with
  | none => some (chars, 0)
  | some (before, nonce) =>
      (Numeral.signedBelow? (UInt32.size / 2) nonce).map fun n => (before, Int32.ofInt n)

/-- The part before the mark of a scheduled transaction, and whether it was there. -/
def scheduled? (chars : List Char) : List Char × Bool :=
  match Text.dropEnding? scheduledMark.toList chars with
  | some before => (before, true)
  | none => (chars, false)

/-- Reads a transaction identifier. -/
def ofChars? (chars : List Char) : Option TransactionId := do
  let (account, rest) ← Text.splitFirst '@' chars
  let account ← EntityId.ofChars? account
  let (rest, nonce) ← nonce? rest
  let (time, scheduled) := scheduled? rest
  let validStart ← moment? time
  return { account, validStart, scheduled, nonce }

/-- The transaction identifier a text names. -/
def ofText? (text : String) : Option TransactionId := ofChars? text.toList

end TransactionId

end LedgerClient
