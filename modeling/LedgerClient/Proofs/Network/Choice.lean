import LedgerClient.Network.Selection
import Mathlib.Data.List.Nodup

/-!
# The node that is chosen

A node is found exactly when one of the network is eligible, and the one that is
found is eligible.
-/

namespace LedgerClient.Network

variable {χ : Type}

/-- A walk over the ring finds no node exactly when there is none to walk over. -/
theorem choice_eq_none_iff (network : Network χ) (book : HealthBook) (candidates : List AccountId)
    (now : Timestamp) :
    network.choice book candidates now = none ↔ network.eligible candidates = [] := by
  simp only [choice]
  constructor
  · intro hnone
    split at hnone
    next => simp at hnone
    next =>
      cases heligible : network.eligible candidates with
      | nil => rfl
      | cons first rest => simp [heligible] at hnone
  · intro hempty
    simp [hempty, ring]

theorem mem_of_mem_ring {α : Type} {start : Nat} {items : List α} {placed : α × Nat}
    (hmem : placed ∈ ring start items) : placed ∈ items.zipIdx := by
  rcases List.mem_append.mp hmem with hdrop | htake
  · exact List.mem_of_mem_drop hdrop
  · exact List.mem_of_mem_take htake

theorem mem_leastBenched (book : HealthBook) (best : Member × Nat) (placed : List (Member × Nat)) :
    leastBenched book best placed ∈ best :: placed := by
  induction placed generalizing best with
  | nil => simp [leastBenched]
  | cons next rest ih =>
      unfold leastBenched
      split
      · exact List.mem_cons_of_mem best (ih next)
      · rcases List.mem_cons.mp (ih best) with hbest | hrest
        · rw [hbest]
          exact List.mem_cons_self
        · exact List.mem_cons_of_mem best (List.mem_cons_of_mem next hrest)

/-- The node that is chosen stands at its position among the eligible ones. -/
theorem mem_zipIdx_of_choice {network : Network χ} {book : HealthBook}
    {candidates : List AccountId} {now : Timestamp} {placed : Member × Nat}
    (hchoice : network.choice book candidates now = some placed) :
    placed ∈ (network.eligible candidates).zipIdx := by
  simp only [choice] at hchoice
  split at hchoice
  next found hfound =>
    cases hchoice
    exact mem_of_mem_ring (List.mem_of_find?_eq_some hfound)
  next =>
    split at hchoice
    next => cases hchoice
    next first rest hplaced =>
      cases hchoice
      rw [hplaced]
      exact mem_leastBenched book first rest

theorem mem_members_of_mem_eligible {network : Network χ} {candidates : List AccountId}
    {member : Member} (hmem : member ∈ network.eligible candidates) : member ∈ network.members := by
  unfold eligible at hmem
  split at hmem
  · exact hmem
  · exact (List.mem_filter.mp hmem).1

theorem exists_candidate_of_mem_eligible {network : Network χ} {candidates : List AccountId}
    {member : Member} (hsome : candidates ≠ []) (hmem : member ∈ network.eligible candidates) :
    ∃ candidate ∈ candidates, (candidate == member.account) = true := by
  unfold eligible at hmem
  rw [if_neg (by simp [hsome])] at hmem
  exact List.any_eq_true.mp (List.mem_filter.mp hmem).2

theorem eq_of_key_eq {network : Network χ} {a b : Member} (ha : a ∈ network.members)
    (hb : b ∈ network.members) (hkey : a.account.key = b.account.key) : a = b :=
  List.inj_on_of_nodup_map network.keys_nodup ha hb hkey

theorem eq_of_record_eq {network : Network χ} {a b : Member} (ha : a ∈ network.members)
    (hb : b ∈ network.members) (hrecord : a.record = b.record) : a = b :=
  eq_of_key_eq ha hb (congrArg RecordName.account hrecord)

/-- Within a network, nodes share a record exactly when they have one account. -/
theorem record_eq_iff {network : Network χ} {a b : Member} (ha : a ∈ network.members)
    (hb : b ∈ network.members) : a.record = b.record ↔ (a.account == b.account) = true := by
  rw [EntityId.beq_iff]
  constructor
  · intro hrecord
    exact congrArg RecordName.account hrecord
  · intro hkey
    rw [eq_of_key_eq ha hb hkey]

/-! ### Nodes for a transaction that names none -/

theorem limited_ne_nil {items : List α} (hsome : items ≠ []) (limit : Option Nat) :
    limited limit items ≠ [] := by
  rcases limit with _ | _ | count
  · exact hsome
  · exact hsome
  · intro hnil
    rcases List.take_eq_nil_iff.mp hnil with hzero | hnone
    · cases hzero
    · exact hsome hnone

theorem transactionCandidates_ne_nil (network : Network χ) (book : HealthBook)
    (limit : Option Nat) (now : Timestamp) :
    network.transactionCandidates book limit now ≠ [] := by
  obtain ⟨member, hmember⟩ := List.exists_mem_of_ne_nil _ network.members_ne_nil
  have hsome : (network.members.partition (isHealthy book now)).1 ++
      (network.members.partition (isHealthy book now)).2 ≠ [] := by
    rw [List.partition_eq_filter_filter]
    intro hnil
    obtain ⟨hhealthy, hbenched⟩ := List.append_eq_nil_iff.mp hnil
    cases hmemberHealthy : isHealthy book now member with
    | true => simpa using List.filter_eq_nil_iff.mp hhealthy member hmember hmemberHealthy
    | false =>
        have hnot := List.filter_eq_nil_iff.mp hbenched member hmember
        simp [hmemberHealthy] at hnot
  intro hnil
  exact limited_ne_nil hsome limit (List.map_eq_nil_iff.mp hnil)

end LedgerClient.Network
