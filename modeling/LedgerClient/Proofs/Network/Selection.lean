import LedgerClient.Proofs.Network.Choice
import LedgerClient.Proofs.Timestamp.Order
import Mathlib.Data.List.Rotate
import Mathlib.Data.Prod.Lex

/-!
# Which node is selected

The nodes that a list names are walked in a ring from the cursor on, and the first one that is
not benched is selected. Where all of them are benched, the selected one precedes the others by
backoff, then by readmission, then by its place in the network. Nothing but the cursor changes.
-/

namespace LedgerClient.Network

variable {χ : Type} {network : Network χ} {book : HealthBook} {candidates : List AccountId}
  {now : Timestamp}

/-! ### Eligible nodes -/

/-- A node is named by a list that has its account, and by the empty list. -/
def IsNamed (candidates : List AccountId) (member : Member) : Prop :=
  candidates = [] ∨ ∃ candidate ∈ candidates, candidate.key = member.account.key

theorem mem_eligible_iff {member : Member} :
    member ∈ network.eligible candidates ↔
      member ∈ network.members ∧ IsNamed candidates member := by
  unfold eligible IsNamed
  cases candidates with
  | nil => simp
  | cons first rest => simp [EntityId.beq_iff]

theorem eligible_sublist (network : Network χ) (candidates : List AccountId) :
    (network.eligible candidates).Sublist network.members := by
  unfold eligible
  split
  · exact List.Sublist.refl _
  · exact List.filter_sublist

theorem eligible_eq_of_members_eq {a b : Network χ} (hmembers : a.members = b.members)
    (candidates : List AccountId) : a.eligible candidates = b.eligible candidates := by
  unfold eligible
  rw [hmembers]

theorem nodup_eligible (network : Network χ) (candidates : List AccountId) :
    (network.eligible candidates).Nodup :=
  (List.Nodup.of_map _ network.keys_nodup).sublist (network.eligible_sublist candidates)

/-! ### The ring -/

theorem ring_eq_rotate {α : Type} (start : Nat) (items : List α) :
    ring start items = items.zipIdx.rotate start := by
  rw [List.rotate_eq_drop_append_take_mod, List.length_zipIdx]
  rfl

theorem getElem?_ring {α : Type} {items : List α} {offset : Nat} (hoffset : offset < items.length)
    (start : Nat) :
    (ring start items)[offset]? = items[(start + offset) % items.length]?.map
      fun item => (item, (start + offset) % items.length) := by
  rw [ring_eq_rotate, List.getElem?_rotate (by simpa using hoffset), List.length_zipIdx,
    List.getElem?_zipIdx, Nat.add_comm offset start]
  simp

/-! ### The order of benched nodes -/

/-- What benched nodes are compared by: backoff, readmission and position. -/
def rank (book : HealthBook) (placed : Member × Nat) : ℕ ×ₗ ℤ ×ₗ ℕ ×ₗ ℕ :=
  let health := book.get placed.1.record
  let readmitAt := health.readmitAt.getD .epoch
  toLex (health.backoff.nanos,
    toLex (readmitAt.seconds.toInt, toLex (readmitAt.nanos.toNat, placed.2)))

theorem exists_readmitAt_of_benched {member : Member}
    (hbenched : isHealthy book now member = false) :
    ∃ readmitAt, (book.get member.record).readmitAt = some readmitAt := by
  unfold isHealthy Health.isHealthy at hbenched
  split at hbenched
  next => cases hbenched
  next readmitAt hreadmitted => exact ⟨readmitAt, hreadmitted⟩

/-- Of two benched nodes, the later one is put first exactly when its rank is lower. -/
theorem compareHealth_eq_lt_iff {best next : Member × Nat}
    (hbest : isHealthy book now best.1 = false) (hnext : isHealthy book now next.1 = false)
    (hbehind : best.2 < next.2) :
    compareHealth (book.get next.1.record) (book.get best.1.record) = .lt ↔
      rank book next < rank book best := by
  obtain ⟨readmitBest, hreadmitBest⟩ := exists_readmitAt_of_benched hbest
  obtain ⟨readmitNext, hreadmitNext⟩ := exists_readmitAt_of_benched hnext
  unfold compareHealth rank
  simp only [hreadmitBest, hreadmitNext, Ordering.then_eq_lt, Option.getD_some,
    Prod.Lex.toLex_lt_toLex, Nat.compare_eq_lt, Nat.compare_eq_eq]
  change _ ∨ _ ∧ readmitNext < readmitBest ↔ _
  rw [Timestamp.lt_iff]
  omega

theorem rank_leastBenched_le {best : Member × Nat} {placed : List (Member × Nat)}
    (hbenched : ∀ other ∈ best :: placed, isHealthy book now other.1 = false)
    (hsorted : (best :: placed).Pairwise fun a b => a.2 < b.2) :
    ∀ other ∈ best :: placed, rank book (leastBenched book best placed) ≤ rank book other := by
  induction placed generalizing best with
  | nil => simp [leastBenched]
  | cons next rest ih =>
      have hcompare := compareHealth_eq_lt_iff (hbenched best (by simp)) (hbenched next (by simp))
        (List.rel_of_pairwise_cons hsorted List.mem_cons_self)
      rw [leastBenched]
      split
      next hless =>
        have hleast := ih (fun other hother => hbenched other (List.mem_cons_of_mem best hother))
          hsorted.of_cons
        intro other hother
        rcases List.mem_cons.mp hother with rfl | hrest
        · exact (hleast next List.mem_cons_self).trans (hcompare.mp hless).le
        · exact hleast other hrest
      next hnot =>
        have hkept : rank book best ≤ rank book next := not_lt.mp (hnot ∘ hcompare.mpr)
        have hleast := @ih best
          (fun other hother => hbenched other (by
            rcases List.mem_cons.mp hother with rfl | hrest
            · simp
            · simp [hrest]))
          (hsorted.sublist (by simp))
        intro other hother
        rcases List.mem_cons.mp hother with rfl | hother
        · exact hleast other List.mem_cons_self
        rcases List.mem_cons.mp hother with rfl | hrest
        · exact (hleast best List.mem_cons_self).trans hkept
        · exact hleast other (List.mem_cons_of_mem best hrest)

/-- Of benched nodes, the one with the shorter backoff comes first, then the one that is readmitted
earlier, then the one that the network lists first. -/
def Precedes (network : Network χ) (book : HealthBook) (a b : Member) : Prop :=
  let first := book.get a.record
  let second := book.get b.record
  first.backoff < second.backoff ∨
    first.backoff = second.backoff ∧ ∃ earlier later,
      first.readmitAt = some earlier ∧ second.readmitAt = some later ∧
        (earlier < later ∨ earlier = later ∧ [a, b].Sublist network.members)

theorem sublist_of_getElem? {α : Type} {items : List α} {i j : Nat} {a b : α} (hlt : i < j)
    (ha : items[i]? = some a) (hb : items[j]? = some b) : [a, b].Sublist items := by
  have hmem : a ∈ items.take j := by
    rw [List.mem_take_iff_getElem]
    obtain ⟨hi, rfl⟩ := List.getElem?_eq_some_iff.mp ha
    exact ⟨i, by omega, rfl⟩
  have hmem' : b ∈ items.drop j := by
    rw [List.mem_drop_iff_getElem]
    obtain ⟨hj, rfl⟩ := List.getElem?_eq_some_iff.mp hb
    exact ⟨0, by omega, by simp⟩
  rw [← List.take_append_drop j items]
  exact (List.singleton_sublist.mpr hmem).append (List.singleton_sublist.mpr hmem')

theorem precedes_of_rank_le {a b : Member} {i j : Nat}
    (ha : (network.eligible candidates)[i]? = some a)
    (hb : (network.eligible candidates)[j]? = some b)
    (hbencheda : isHealthy book now a = false) (hbenchedb : isHealthy book now b = false)
    (hne : b ≠ a) (hrank : rank book (a, i) ≤ rank book (b, j)) :
    network.Precedes book a b := by
  obtain ⟨earlier, hearlier⟩ := exists_readmitAt_of_benched hbencheda
  obtain ⟨later, hlater⟩ := exists_readmitAt_of_benched hbenchedb
  have hplaces : i ≠ j := by
    rintro rfl
    exact hne (Option.some.inj (hb.symm.trans ha))
  simp only [rank, hearlier, hlater, Option.getD_some, Prod.Lex.toLex_le_toLex] at hrank
  rcases hrank with hless | ⟨hsame, hrank⟩
  · exact .inl hless
  refine .inr ⟨Duration.ext_nanos hsame, earlier, later, hearlier, hlater, ?_⟩
  rw [Timestamp.lt_iff, Timestamp.eq_iff]
  by_cases htie : earlier.seconds.toInt = later.seconds.toInt ∧
      earlier.nanos.toNat = later.nanos.toNat
  · refine .inr ⟨htie, ?_⟩
    have hlt : i < j := by omega
    exact (sublist_of_getElem? hlt ha hb).trans (network.eligible_sublist candidates)
  · left
    omega

/-! ### The selected node -/

/-- The node a call goes to, and its position among the eligible ones. -/
inductive IsNext (network : Network χ) (book : HealthBook) (candidates : List AccountId)
    (now : Timestamp) : Member → Nat → Prop where
  /-- On a walk round the eligible nodes from the cursor on, it is the first that is not benched. -/
  | healthy {offset position : Nat} {member : Member}
      (hoffset : offset < (network.eligible candidates).length)
      (hposition : position = (network.cursor + offset) % (network.eligible candidates).length)
      (hplace : (network.eligible candidates)[position]? = some member)
      (hhealthy : isHealthy book now member = true)
      (hpassed : ∀ earlier < offset, ∃ passed,
        (network.eligible candidates)[(network.cursor + earlier) %
          (network.eligible candidates).length]? = some passed ∧
        isHealthy book now passed = false) :
      IsNext network book candidates now member position
  /-- All eligible nodes are benched, and it precedes the others. -/
  | benched {position : Nat} {member : Member}
      (hplace : (network.eligible candidates)[position]? = some member)
      (hbenched : ∀ other ∈ network.eligible candidates, isHealthy book now other = false)
      (hprecedes : ∀ other ∈ network.eligible candidates, other ≠ member →
        network.Precedes book member other) :
      IsNext network book candidates now member position

theorem isNext_of_find? {placed : Member × Nat}
    (hfound : (ring network.cursor (network.eligible candidates)).find?
      (fun placed => isHealthy book now placed.1) = some placed) :
    network.IsNext book candidates now placed.1 placed.2 := by
  obtain ⟨hhealthy, offset, hlength, hplaced, hpassed⟩ :=
    List.find?_eq_some_iff_getElem.mp hfound
  have hoffset : offset < (network.eligible candidates).length := by
    rwa [ring_eq_rotate, List.length_rotate, List.length_zipIdx] at hlength
  have hring := getElem?_ring hoffset network.cursor
  rw [List.getElem?_eq_getElem hlength, hplaced] at hring
  obtain ⟨member, hmember, hpair⟩ := Option.map_eq_some_iff.mp hring.symm
  subst hpair
  refine .healthy hoffset rfl hmember hhealthy ?_
  intro earlier hearlier
  have hbefore := getElem?_ring (hearlier.trans hoffset) network.cursor
  rw [List.getElem?_eq_getElem (hearlier.trans hlength)] at hbefore
  obtain ⟨passed, hplace, hpair⟩ := Option.map_eq_some_iff.mp hbefore.symm
  refine ⟨passed, hplace, ?_⟩
  simpa [← hpair] using hpassed earlier hearlier

theorem benched_of_find?_eq_none
    (hnone : (ring network.cursor (network.eligible candidates)).find?
      (fun placed => isHealthy book now placed.1) = none) :
    ∀ member ∈ network.eligible candidates, isHealthy book now member = false := by
  intro member hmember
  obtain ⟨position, hplace⟩ := List.mem_iff_getElem?.mp hmember
  have hring : (member, position) ∈ ring network.cursor (network.eligible candidates) := by
    rw [ring_eq_rotate, List.mem_rotate]
    exact List.mk_mem_zipIdx_iff_getElem?.mpr hplace
  simpa using List.find?_eq_none.mp hnone (member, position) hring

theorem pairwise_zipIdx {α : Type} (items : List α) :
    items.zipIdx.Pairwise fun a b => a.2 < b.2 := by
  rw [List.pairwise_iff_getElem]
  intro i j _ _ hlt
  simpa using hlt

theorem mem_eligible_of_isNext {member : Member} {position : Nat}
    (hnext : network.IsNext book candidates now member position) :
    member ∈ network.eligible candidates := by
  cases hnext with
  | healthy _ _ hplace => exact List.mem_of_getElem? hplace
  | benched hplace => exact List.mem_of_getElem? hplace

theorem isNext_of_choice {placed : Member × Nat}
    (hchoice : network.choice book candidates now = some placed) :
    network.IsNext book candidates now placed.1 placed.2 := by
  simp only [choice] at hchoice
  split at hchoice
  next found hfound =>
    cases hchoice
    exact isNext_of_find? hfound
  next hnone =>
    have hbenched := benched_of_find?_eq_none hnone
    split at hchoice
    next => cases hchoice
    next first rest hplaced =>
      cases hchoice
      have hat : ∀ other ∈ first :: rest,
          (network.eligible candidates)[other.2]? = some other.1 := by
        intro other hother
        rw [← hplaced] at hother
        exact List.mk_mem_zipIdx_iff_getElem?.mp hother
      have hsorted : (first :: rest).Pairwise fun a b => a.2 < b.2 := by
        rw [← hplaced]
        exact pairwise_zipIdx _
      have hleast : ∀ other ∈ first :: rest,
          rank book (leastBenched book first rest) ≤ rank book other :=
        rank_leastBenched_le
          (fun other hother => hbenched other.1 (List.mem_of_getElem? (hat other hother))) hsorted
      have hchosen := hat _ (mem_leastBenched book first rest)
      refine .benched hchosen hbenched ?_
      intro other hother hne
      obtain ⟨position, hplace⟩ := List.mem_iff_getElem?.mp hother
      have hlisted : (other, position) ∈ first :: rest := by
        rw [← hplaced]
        exact List.mk_mem_zipIdx_iff_getElem?.mpr hplace
      exact precedes_of_rank_le hchosen hplace (hbenched _ (List.mem_of_getElem? hchosen))
        (hbenched other hother) hne (hleast _ hlisted)

theorem select_of_eligible_eq_nil (hempty : network.eligible candidates = [])
    (book : HealthBook) (now : Timestamp) :
    network.select book candidates now = .error .noEligibleNodes := by
  rw [select, (network.choice_eq_none_iff book candidates now).mpr hempty]

/-- Where a node is eligible, a call gives the one that is next and puts the cursor behind it. -/
theorem exists_isNext (hsome : network.eligible candidates ≠ [])
    (book : HealthBook) (now : Timestamp) :
    ∃ member position, network.IsNext book candidates now member position ∧
      network.select book candidates now =
        .ok (member, { network with cursor := position + 1 }) := by
  cases hchoice : network.choice book candidates now with
  | none => exact absurd ((network.choice_eq_none_iff book candidates now).mp hchoice) hsome
  | some placed =>
      refine ⟨placed.1, placed.2, isNext_of_choice hchoice, ?_⟩
      rw [select, hchoice]

/-- A call fails exactly where its list names nodes, but none of the network. Any other call gives
the node that is next, which the list names, and changes the cursor only. -/
theorem select_outcome (network : Network χ) (book : HealthBook) (candidates : List AccountId)
    (now : Timestamp) :
    (network.eligible candidates).Sublist network.members ∧
    (∀ member, member ∈ network.eligible candidates ↔
      member ∈ network.members ∧ IsNamed candidates member) ∧
    ((candidates ≠ [] ∧ (∀ member ∈ network.members, ¬ IsNamed candidates member) ∧
        network.select book candidates now = .error .noEligibleNodes) ∨
      ∃ member position, member ∈ network.members ∧ IsNamed candidates member ∧
        network.IsNext book candidates now member position ∧
        network.select book candidates now =
          .ok (member, { network with cursor := position + 1 })) := by
  refine ⟨network.eligible_sublist candidates, fun _ => mem_eligible_iff, ?_⟩
  by_cases hempty : network.eligible candidates = []
  · left
    have hnone : ∀ member ∈ network.members, ¬ IsNamed candidates member := by
      intro member hmember hnamed
      have hmem := mem_eligible_iff.mpr ⟨hmember, hnamed⟩
      rw [hempty] at hmem
      exact List.not_mem_nil hmem
    obtain ⟨member, hmember⟩ := List.exists_mem_of_ne_nil _ network.members_ne_nil
    exact ⟨fun hall => hnone member hmember (.inl hall), hnone,
      select_of_eligible_eq_nil hempty book now⟩
  · right
    obtain ⟨member, position, hnext, hselect⟩ := exists_isNext hempty book now
    obtain ⟨hmember, hnamed⟩ := mem_eligible_iff.mp (mem_eligible_of_isNext hnext)
    exact ⟨member, position, hmember, hnamed, hnext, hselect⟩

/-- Three nodes, and where the walk over them starts. -/
def trio (cursor : Nat) : Network Unit where
  members := [⟨⟨.ofNum 3, "three", plainPort, none⟩, 0⟩, ⟨⟨.ofNum 4, "four", plainPort, none⟩, 1⟩,
    ⟨⟨.ofNum 5, "five", plainPort, none⟩, 2⟩]
  ledgerId := .mainnet
  mirror := none
  options := {}
  cursor := cursor
  members_ne_nil := by simp
  keys_nodup := by decide

end LedgerClient.Network
