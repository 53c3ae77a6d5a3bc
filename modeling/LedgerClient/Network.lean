import LedgerClient.Node.Health

/-!
# Networks

A network is a list of nodes, each with a health record, a ledger, a mirror, and
the channels that are open. No network is empty, and no two of its
nodes have one account.
-/

namespace LedgerClient

/-- A node of a network. -/
structure Member where
  address : NodeAddress
  /-- The number of the health record under the account. -/
  number : Nat

/-- The account of the node. -/
def Member.account (member : Member) : AccountId := member.address.account

/-- The name of the health record. -/
def Member.record (member : Member) : RecordName := ⟨member.account.key, member.number⟩

/-- Settings that hold for all nodes of a network. -/
structure NetworkOptions where
  tls : TlsSettings := {}
  backoff : BackoffBounds := .standard
  deriving DecidableEq

/-- The nodes a client talks to, over channels `χ`. -/
structure Network (χ : Type) where
  members : List Member
  ledgerId : LedgerId
  /-- Where the mirror listens. -/
  mirror : Option String
  options : NetworkOptions
  /-- Open channels by endpoint. -/
  channels : List (String × χ) := []
  /-- Where the next walk over the nodes starts. -/
  cursor : Nat := 0
  members_ne_nil : members ≠ []
  keys_nodup : (members.map fun member => member.account.key).Nodup

namespace Network

variable {χ : Type}

/-- The first account that repeats an earlier one, or one in `seen`. -/
def repeated? (seen : List AccountId) : List AccountId → Option AccountId
  | [] => none
  | account :: rest =>
      if seen.any (· == account) then some account else repeated? (account :: seen) rest

/-- Without a repetition the keys are distinct, and none has been seen. -/
theorem nodup_of_repeated?_eq_none {seen accounts : List AccountId}
    (hnone : repeated? seen accounts = none) :
    (accounts.map EntityId.key).Nodup ∧
      ∀ account ∈ accounts, account.key ∉ seen.map EntityId.key := by
  induction accounts generalizing seen with
  | nil => simp
  | cons first rest ih =>
      unfold repeated? at hnone
      split at hnone
      next => simp at hnone
      next hfirst =>
        obtain ⟨hnodup, hunseen⟩ := ih hnone
        have hnotSeen : first.key ∉ seen.map EntityId.key := by
          intro hmem
          obtain ⟨other, hother, hkey⟩ := List.mem_map.1 hmem
          exact hfirst (List.any_eq_true.2 ⟨other, hother, EntityId.beq_iff.2 hkey⟩)
        refine ⟨?_, ?_⟩
        · rw [List.map_cons, List.nodup_cons]
          refine ⟨?_, hnodup⟩
          intro hmem
          obtain ⟨other, hother, hkey⟩ := List.mem_map.1 hmem
          exact hunseen other hother (by simp [hkey])
        · intro account hmem
          rcases List.mem_cons.1 hmem with rfl | hrest
          · exact hnotSeen
          · intro hseen
            exact hunseen account hrest (by simp [hseen])

/-- The network of given nodes, if there is one and all accounts differ. -/
def assemble (members : List Member) (ledgerId : LedgerId) (mirror : Option String)
    (options : NetworkOptions) : Outcome (Network χ) :=
  if hne : members = [] then .error (.config .emptyNetwork)
  else
    match hrepeat : repeated? [] (members.map Member.account) with
    | some account => .error (.config (.duplicateNode account))
    | none => .ok {
        members, ledgerId, mirror, options
        members_ne_nil := hne
        keys_nodup := by
          have hnodup := (nodup_of_repeated?_eq_none hrepeat).1
          rwa [List.map_map] at hnodup }

/-- Gives every address a member: the known one, or a new one with a fresh record. -/
def enlist (bounds : BackoffBounds) (known? : NodeAddress → Option Member) :
    List NodeAddress → HealthBook → List Member × HealthBook
  | [], book => ([], book)
  | address :: rest, book =>
      match known? address with
      | some member =>
          let (members, book) := enlist bounds known? rest book
          (member :: members, book)
      | none =>
          let (number, book) := book.register address.account bounds
          let (members, book) := enlist bounds known? rest book
          (⟨address, number⟩ :: members, book)

/-- The network of nodes nothing is known of, and the book with their records. -/
def ofAddresses (addresses : List NodeAddress) (ledgerId : LedgerId) (mirror : Option String)
    (options : NetworkOptions) (book : HealthBook) : Outcome (Network χ × HealthBook) := do
  options.backoff.validate
  let (members, book) := enlist options.backoff (fun _ => none) addresses book
  return (← assemble members ledgerId mirror options, book)

/-- The member of an account. -/
def member? (network : Network χ) (account : AccountId) : Option Member :=
  network.members.find? (·.account == account)

/-- The accounts of all nodes, in order. -/
def accounts (network : Network χ) : List AccountId := network.members.map Member.account

/-- Whether a member is not benched at a moment. -/
def isHealthy (book : HealthBook) (now : Timestamp) (member : Member) : Bool :=
  (book.get member.record).isHealthy now

/-- The accounts of the nodes that are not benched, in order. -/
def healthy (network : Network χ) (book : HealthBook) (now : Timestamp) : List AccountId :=
  (network.members.filter (isHealthy book now)).map Member.account

/-- A limit where zero is none. -/
def limited {α : Type} (limit : Option Nat) (items : List α) : List α :=
  match limit with
  | none | some 0 => items
  | some limit => items.take limit

/-- The accounts a transaction is made out for when it names none: first the nodes that are not
benched and then the others, each in order, up to a limit. -/
def transactionCandidates (network : Network χ) (book : HealthBook) (limit : Option Nat)
    (now : Timestamp) : List AccountId :=
  let (healthy, benched) := network.members.partition (isHealthy book now)
  (limited limit (healthy ++ benched)).map Member.account

end Network

end LedgerClient
