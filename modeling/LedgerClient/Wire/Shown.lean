import LedgerClient.Text.Quoted
import LedgerClient.Wire.Message

/-!
# Answers in words

An answer that nobody expected is shown whole in the error it causes: every value
by its name, its fields between braces or parentheses, and sequences between
brackets.
-/

namespace LedgerClient

/-- A value taken apart for showing. -/
inductive Shown where
  /-- A value without parts. -/
  | word (text : String)
  /-- A name and parts without names. -/
  | tuple (name : String) (parts : List Shown)
  /-- A name and named parts. -/
  | fields (name : String) (parts : List (String × Shown))
  | sequence (items : List Shown)

namespace Shown

/-- Texts with a comma and a space between them. -/
def commas : List String → String := String.intercalate ", "

mutual

/-- The value in one line. -/
def text : Shown → String
  | .word text => text
  | .tuple name parts => name ++ "(" ++ commas (texts parts) ++ ")"
  | .fields name parts => name ++ " \x7b " ++ commas (namedTexts parts) ++ " \x7d"
  | .sequence items => "[" ++ commas (texts items) ++ "]"

def texts : List Shown → List String
  | [] => []
  | first :: rest => text first :: texts rest

def namedTexts : List (String × Shown) → List String
  | [] => []
  | (name, value) :: rest => (name ++ ": " ++ text value) :: namedTexts rest

end

/-- A value that may be absent. -/
def option : Option Shown → Shown
  | none => .word "None"
  | some value => .tuple "Some" [value]

def nat (n : Nat) : Shown := .word (toString n)
def int (n : Int) : Shown := .word (toString n)
def bool (b : Bool) : Shown := .word (toString b)
def bytes (b : Bytes) : Shown := .sequence (b.map fun byte => nat byte.toNat)
def string (s : String) : Shown := .word (Text.quoted s)

end Shown

def EntityId.shown (id : EntityId) : Shown :=
  .fields "EntityId" [("shard", .nat id.shard.toNat), ("realm", .nat id.realm.toNat),
    ("num", .nat id.num.toNat), ("checksum", .option (id.checksum.map .string))]

def Timestamp.shown (t : Timestamp) : Shown :=
  .fields "Timestamp" [("seconds", .int t.seconds.toInt), ("nanos", .nat t.nanos.toNat)]

def TransactionId.shown (id : TransactionId) : Shown :=
  .fields "TransactionId" [("account_id", id.account.shown), ("valid_start", id.validStart.shown),
    ("scheduled", .bool id.scheduled), ("nonce", .int id.nonce.toInt)]

def Status.shown : Status → Shown
  | .other code => .tuple "Other" [.int code.toInt]
  | status => .word status.name

mutual

def Receipt.shown : Receipt → Shown
  | ⟨status, transactionId, accountId, topicId, sequence, children, duplicates⟩ =>
      .fields "TransactionReceipt" [
        ("status", status.shown),
        ("transaction_id", .option (transactionId.map TransactionId.shown)),
        ("account_id", .option (accountId.map EntityId.shown)),
        ("topic_id", .option (topicId.map EntityId.shown)),
        ("topic_sequence_number", .nat sequence.toNat),
        ("children", .sequence (Receipt.shownAll children)),
        ("duplicates", .sequence (Receipt.shownAll duplicates))]

def Receipt.shownAll : List Receipt → List Shown
  | [] => []
  | first :: rest => Receipt.shown first :: Receipt.shownAll rest

end

mutual

def Record.shown : Record → Shown
  | ⟨outcome, transactionHash, consensusTimestamp, memo, fee, children, duplicates⟩ =>
      .fields "TransactionRecord" [
        ("receipt", outcome.shown),
        ("transaction_hash", .bytes transactionHash),
        ("consensus_timestamp", .option (consensusTimestamp.map Timestamp.shown)),
        ("memo", .string memo),
        ("transaction_fee", .nat fee.toNat),
        ("children", .sequence (Record.shownAll children)),
        ("duplicates", .sequence (Record.shownAll duplicates))]

def Record.shownAll : List Record → List Shown
  | [] => []
  | first :: rest => Record.shown first :: Record.shownAll rest

end

def AccountBalance.shown (b : AccountBalance) : Shown :=
  .fields "AccountBalance" [("account_id", b.accountId.shown), ("balance", .nat b.balance.toNat)]

/-- The body of an answer, shown whole. -/
def ResponseBody.shown : ResponseBody → Shown
  | .empty => .word "Empty"
  | .receipt outcome => .tuple "Receipt" [outcome.shown]
  | .record account => .tuple "Record" [account.shown]
  | .accountBalance balance => .tuple "AccountBalance" [balance.shown]
  | .external payload => .tuple "Opaque" [.bytes payload]

end LedgerClient
