import LedgerClient.Node.Backoff

/-!
# Health records

A failure doubles the backoff of a node, up to its bound, and benches the node for
that long. A success halves the backoff, down to its bound, and leaves a pending
readmission to come of itself. Attempts and failures are counted modulo `2 ^ 64`.
Records are kept in a book under names, so that networks that share a node share its
record; two accounts never share one.
-/

namespace LedgerClient

/-- The health record of one node. -/
structure Health where
  bounds : BackoffBounds
  backoff : Duration
  /-- The last moment at which the node is benched. -/
  readmitAt : Option Timestamp := none
  lastUsed : Option Timestamp := none
  /-- Attempts sent to the node. -/
  uses : UInt64 := 0
  /-- Failures charged to the node. -/
  failures : UInt64 := 0
  deriving DecidableEq

namespace Health

/-- The record of a node nothing is known of. -/
def fresh (bounds : BackoffBounds) : Health := { bounds, backoff := bounds.shortest }

/-- Whether the node is not benched at a moment. -/
def isHealthy (health : Health) (now : Timestamp) : Bool :=
  match health.readmitAt with
  | none => true
  | some readmitAt => decide (readmitAt < now)

/-- Charges a failure at a moment. -/
def fail (health : Health) (now : Timestamp) : Health :=
  let backoff := min health.backoff.double health.bounds.longest
  { health with backoff, readmitAt := some (now + backoff), failures := health.failures + 1 }

/-- Credits a success. -/
def succeed (health : Health) : Health :=
  { health with backoff := max health.backoff.half health.bounds.shortest }

/-- Counts an attempt at a moment. -/
def use (health : Health) (now : Timestamp) : Health :=
  { health with lastUsed := some now, uses := health.uses + 1 }

end Health

/-- Names a health record: the account of the node, and a number that tells the record from those of
nodes that had the account before. -/
structure RecordName where
  account : UInt64 × UInt64 × UInt64
  number : Nat
  deriving DecidableEq

/-- Health records by name. Numbers from `next` on are not taken yet. -/
structure HealthBook where
  next : Nat
  get : RecordName → Health

namespace HealthBook

/-- The book without records. -/
def empty : HealthBook := ⟨0, fun _ => .fresh .standard⟩

/-- Changes one record. -/
def modify (book : HealthBook) (name : RecordName) (change : Health → Health) : HealthBook :=
  let changed := change (book.get name)
  { book with get := fun other => if other = name then changed else book.get other }

/-- Takes a number for the record of a node of an account that nothing is known of. -/
def register (book : HealthBook) (account : AccountId) (bounds : BackoffBounds) : Nat × HealthBook :=
  let health := Health.fresh bounds
  let name : RecordName := ⟨account.key, book.next⟩
  (book.next,
    { next := book.next + 1
      get := fun other => if other = name then health else book.get other })

@[simp] theorem get_modify_self (book : HealthBook) (name : RecordName)
    (change : Health → Health) : (book.modify name change).get name = change (book.get name) := by
  simp [modify]

theorem get_modify_of_ne (book : HealthBook) {name other : RecordName} (hne : other ≠ name)
    (change : Health → Health) : (book.modify name change).get other = book.get other := by
  simp [modify, hne]

theorem get_modify (book : HealthBook) (name other : RecordName) (change : Health → Health) :
    (book.modify name change).get other =
      if name = other then change (book.get other) else book.get other := by
  by_cases hname : name = other
  · rw [if_pos hname, hname, get_modify_self]
  · rw [if_neg hname, get_modify_of_ne _ (Ne.symm hname)]

@[simp] theorem next_modify (book : HealthBook) (name : RecordName) (change : Health → Health) :
    (book.modify name change).next = book.next := rfl

@[simp] theorem fst_register (book : HealthBook) (account : AccountId) (bounds : BackoffBounds) :
    (book.register account bounds).1 = book.next := rfl

@[simp] theorem next_register (book : HealthBook) (account : AccountId) (bounds : BackoffBounds) :
    (book.register account bounds).2.next = book.next + 1 := rfl

@[simp] theorem get_register_self (book : HealthBook) (account : AccountId)
    (bounds : BackoffBounds) :
    (book.register account bounds).2.get ⟨account.key, book.next⟩ = .fresh bounds := by
  simp [register]

theorem get_register_of_lt (book : HealthBook) (account : AccountId) (bounds : BackoffBounds)
    {name : RecordName} (hlt : name.number < book.next) :
    (book.register account bounds).2.get name = book.get name := by
  have hne : name ≠ ⟨account.key, book.next⟩ := by
    intro heq
    rw [heq] at hlt
    exact Nat.lt_irrefl _ hlt
  simp [register, hne]

end HealthBook

end LedgerClient
