import LedgerClient.Network

/-!
# Selection of nodes

The nodes a call may be sent to are walked in a ring, from where the last walk
ended. The first one that is not benched is taken. If all are benched, the one with
the shortest backoff is taken, and of several the one readmitted first.
-/

namespace LedgerClient.Network

variable {χ : Type}

/-- The nodes among the candidates. No candidates stand for all nodes. -/
def eligible (network : Network χ) (candidates : List AccountId) : List Member :=
  if candidates.isEmpty then network.members
  else network.members.filter fun member => candidates.any (· == member.account)

/-- A list with positions, as a ring walked from a start. -/
def ring {α : Type} (start : Nat) (items : List α) : List (α × Nat) :=
  let placed := items.zipIdx
  placed.drop (start % items.length) ++ placed.take (start % items.length)

/-- Order by backoff, then by the moment of readmission, where none comes first. -/
def compareHealth (a b : Health) : Ordering :=
  (compare a.backoff.nanos b.backoff.nanos).then <|
    match a.readmitAt, b.readmitAt with
    | none, none => .eq
    | none, some _ => .lt
    | some _, none => .gt
    | some a, some b => a.compare b

/-- The first of the members whose record comes first in the order. -/
def leastBenched (book : HealthBook) (best : Member × Nat) : List (Member × Nat) → Member × Nat
  | [] => best
  | next :: rest =>
      if compareHealth (book.get next.1.record) (book.get best.1.record) = .lt then
        leastBenched book next rest
      else leastBenched book best rest

/-- The member the next attempt goes to, with its position among the eligible ones. -/
def choice (network : Network χ) (book : HealthBook) (candidates : List AccountId)
    (now : Timestamp) : Option (Member × Nat) :=
  let eligible := network.eligible candidates
  match (ring network.cursor eligible).find? fun placed => isHealthy book now placed.1 with
  | some placed => some placed
  | none =>
      match eligible.zipIdx with
      | [] => none
      | first :: rest => some (leastBenched book first rest)

/-- The member the next attempt goes to, and the network whose next walk starts behind it. -/
def select (network : Network χ) (book : HealthBook) (candidates : List AccountId)
    (now : Timestamp) : Outcome (Member × Network χ) :=
  match network.choice book candidates now with
  | none => .error .noEligibleNodes
  | some (member, position) => .ok (member, { network with cursor := position + 1 })

end LedgerClient.Network
