import LedgerClient.Network.Channels
import Mathlib.Data.List.Forall2
import Mathlib.Data.List.Nodup

/-!
# How a network is put together

A network is made of a member for each address. It is made wherever there is an address and
no account comes twice; otherwise the first account that repeats an earlier one is named.
-/

namespace LedgerClient

theorem NodeAddress.beq_iff {a b : NodeAddress} :
    (a == b) = true ↔ (a.account == b.account) = true ∧ a.host = b.host ∧ a.port = b.port ∧
      a.certHash = b.certHash := by
  cases a
  cases b
  change (_ == _ && (_ == _ && (_ == _ && _ == _))) = true ↔ _
  simp only [Bool.and_eq_true, beq_iff_eq]

namespace Network

variable {χ : Type}

/-! ### Accounts that come twice -/

theorem count_of_repeated?_eq_some {seen accounts : List AccountId} {account : AccountId}
    (hrepeated : repeated? seen accounts = some account) :
    account ∈ accounts ∧
      (account.key ∈ seen.map EntityId.key ∨
        2 ≤ (accounts.map EntityId.key).count account.key) := by
  induction accounts generalizing seen with
  | nil => cases hrepeated
  | cons first rest ih =>
      unfold repeated? at hrepeated
      split at hrepeated
      next hseen =>
        cases hrepeated
        obtain ⟨other, hother, hsame⟩ := List.any_eq_true.mp hseen
        refine ⟨List.mem_cons_self, .inl ?_⟩
        rw [← EntityId.beq_iff.mp hsame]
        exact List.mem_map_of_mem hother
      next hseen =>
        obtain ⟨hmem, hkey⟩ := ih hrepeated
        refine ⟨List.mem_cons_of_mem first hmem, ?_⟩
        have hcount : 0 < (rest.map EntityId.key).count account.key :=
          List.count_pos_iff.mpr (List.mem_map_of_mem hmem)
        rw [List.map_cons, List.count_cons]
        rcases hkey with hkey | htwice
        · rcases List.mem_cons.mp hkey with hfirst | hearlier
          · -- The account is that of the first address and of one behind it.
            right
            rw [hfirst, if_pos (beq_self_eq_true _), ← hfirst]
            omega
          · exact .inl hearlier
        · right
          omega

/-- A network is made of members with distinct accounts, and not without members. -/
theorem assemble_of_nodup {members : List Member} (hsome : members ≠ [])
    (hnodup : (members.map fun member => member.account.key).Nodup) (ledgerId : LedgerId)
    (mirror : Option String) (options : NetworkOptions) :
    ∃ network : Network χ, assemble members ledgerId mirror options = .ok network := by
  unfold assemble
  rw [dif_neg hsome]
  split
  next account hrepeated =>
    obtain ⟨_, hnone | htwice⟩ := count_of_repeated?_eq_some hrepeated
    · cases hnone
    · rw [List.map_map] at htwice
      have honce := List.nodup_iff_count_le_one.mp hnodup account.key
      exact absurd (Nat.le_trans htwice honce) (by decide)
  next => exact ⟨_, rfl⟩

theorem assemble_of_not_nodup {members : List Member}
    (htwice : ¬ (members.map fun member => member.account.key).Nodup) (ledgerId : LedgerId)
    (mirror : Option String) (options : NetworkOptions) :
    ∃ account, (assemble members ledgerId mirror options : Outcome (Network χ)) =
        .error (.config (.duplicateNode account)) ∧
      2 ≤ (members.map fun member => member.account.key).count account.key := by
  have hsome : members ≠ [] := by
    rintro rfl
    exact htwice List.nodup_nil
  unfold assemble
  rw [dif_neg hsome]
  split
  next account hrepeated =>
    refine ⟨account, rfl, ?_⟩
    obtain ⟨_, hnone | hcount⟩ := count_of_repeated?_eq_some hrepeated
    · cases hnone
    · rwa [List.map_map] at hcount
  next hnone =>
    have hnodup := (nodup_of_repeated?_eq_none hnone).1
    rw [List.map_map] at hnodup
    exact absurd hnodup htwice

theorem assemble_eq_ok {members : List Member} {ledgerId : LedgerId} {mirror : Option String}
    {options : NetworkOptions} {network : Network χ}
    (hmade : assemble members ledgerId mirror options = .ok network) :
    network.members = members ∧ network.ledgerId = ledgerId ∧ network.mirror = mirror ∧
      network.options = options ∧ network.channels = [] := by
  unfold assemble at hmade
  split at hmade
  · cases hmade
  · split at hmade
    · cases hmade
    · cases hmade
      exact ⟨rfl, rfl, rfl, rfl, rfl⟩

/-! ### Rebuilding -/

/-- A rebuilding fails as the assembly does, and then leaves book and world alone; or the network
that was assembled takes over what it can use of the channels, and the others are closed. -/
theorem rebuild_cases {ω : Type} (network : Network χ) (surroundings : Surroundings ω χ)
    (addresses : List NodeAddress) (book : HealthBook) (world : ω) :
    let enlisted := enlist network.options.backoff network.known? addresses book
    let made : Outcome (Network χ) :=
      assemble enlisted.1 network.ledgerId network.mirror network.options
    let done := network.rebuild surroundings addresses book world
    (∃ error, made = .error error ∧ done = (.error error, book, world)) ∨
      ∃ assembled, made = .ok assembled ∧
        done = (.ok (network.inherit assembled).1, enlisted.2,
          closeAll surroundings (network.inherit assembled).2 world) := by
  intro enlisted made done
  have hdone : done = network.rebuild surroundings addresses book world := rfl
  unfold rebuild at hdone
  simp only at hdone
  split at hdone
  next error hmade => exact .inl ⟨error, hmade, hdone⟩
  next assembled hmade => exact .inr ⟨assembled, hmade, hdone⟩

/-! ### Members for addresses -/

/-- Where each member was made for an address, any one of them was. -/
theorem exists_address_of_mem {isMadeFor : Member → NodeAddress → Prop} {members : List Member}
    {addresses : List NodeAddress} (hmade : List.Forall₂ isMadeFor members addresses)
    {member : Member} (hmember : member ∈ members) :
    ∃ address ∈ addresses, isMadeFor member address := by
  induction hmade with
  | nil => cases hmember
  | @cons first address _ _ hfirst _ ih =>
      rcases List.mem_cons.mp hmember with rfl | hrest
      · exact ⟨address, List.mem_cons_self, hfirst⟩
      · obtain ⟨other, hother, hmade⟩ := ih hrest
        exact ⟨other, List.mem_cons_of_mem address hother, hmade⟩

section Enlisting

variable (bounds : BackoffBounds) (known? : NodeAddress → Option Member)

theorem next_le_enlist (addresses : List NodeAddress) (book : HealthBook) :
    book.next ≤ (enlist bounds known? addresses book).2.next := by
  induction addresses generalizing book with
  | nil => exact Nat.le_refl _
  | cons address rest ih =>
      unfold enlist
      cases known? address with
      | some member => exact ih book
      | none => exact Nat.le_of_succ_le (ih (book.register address.account bounds).2)

/-- New records are made under new names, and no other record is changed. -/
theorem get_enlist_of_lt (addresses : List NodeAddress) {book : HealthBook} {name : RecordName}
    (hlt : name.number < book.next) :
    (enlist bounds known? addresses book).2.get name = book.get name := by
  induction addresses generalizing book with
  | nil => rfl
  | cons address rest ih =>
      unfold enlist
      cases known? address with
      | some member => exact ih hlt
      | none =>
          rw [← book.get_register_of_lt address.account bounds hlt]
          exact ih (Nat.lt_succ_of_lt hlt)

/-- Each address gets the member that is known, or one of its own under a new number. -/
theorem enlist_spec (addresses : List NodeAddress) (book : HealthBook) :
    let enlisted := enlist bounds known? addresses book
    List.Forall₂ (fun member address => known? address = some member ∨
      known? address = none ∧ member.address = address ∧ book.next ≤ member.number ∧
        member.number < enlisted.2.next ∧ enlisted.2.get member.record = .fresh bounds)
      enlisted.1 addresses := by
  induction addresses generalizing book with
  | nil => exact .nil
  | cons address rest ih =>
      simp only
      unfold enlist
      cases hknown : known? address with
      | some member => exact .cons (.inl hknown) (ih book)
      | none =>
          have hlt : book.next < (book.register address.account bounds).2.next := Nat.lt_succ_self _
          refine .cons (.inr ⟨hknown, rfl, Nat.le_refl _, ?_, ?_⟩) ?_
          · exact Nat.lt_of_lt_of_le hlt (next_le_enlist bounds known? rest _)
          · exact (get_enlist_of_lt bounds known? rest hlt).trans
              (book.get_register_self address.account bounds)
          · refine (ih (book.register address.account bounds).2).imp fun member other hmember => ?_
            apply hmember.imp id
            rintro ⟨hnone, haddress, hle, hfresh⟩
            exact ⟨hnone, haddress, Nat.le_of_succ_le hle, hfresh⟩

theorem number_lt_of_mem_enlist {addresses : List NodeAddress} {book : HealthBook}
    (hknown : ∀ address member, known? address = some member → member.number < book.next)
    {member : Member} (hmember : member ∈ (enlist bounds known? addresses book).1) :
    member.number < (enlist bounds known? addresses book).2.next := by
  obtain ⟨address, _, hsome | ⟨_, _, _, hlt, _⟩⟩ :=
    exists_address_of_mem (enlist_spec bounds known? addresses book) hmember
  · exact Nat.lt_of_lt_of_le (hknown address member hsome) (next_le_enlist bounds known? _ _)
  · exact hlt

end Enlisting

/-- Each address gets a member with that address. -/
theorem forall₂_enlist (bounds : BackoffBounds) {known? : NodeAddress → Option Member}
    (hknown : ∀ address member, known? address = some member →
      (member.address == address) = true) (addresses : List NodeAddress) (book : HealthBook) :
    List.Forall₂ (fun member address => (member.address == address) = true)
      (enlist bounds known? addresses book).1 addresses := by
  apply (enlist_spec bounds known? addresses book).imp
  rintro member address (hfound | ⟨_, rfl, _⟩)
  · exact hknown address member hfound
  · exact NodeAddress.beq_iff.mpr ⟨EntityId.beq_iff.mpr rfl, rfl, rfl, rfl⟩

theorem keys_enlist (bounds : BackoffBounds) {known? : NodeAddress → Option Member}
    (hknown : ∀ address member, known? address = some member →
      (member.address == address) = true) (addresses : List NodeAddress) (book : HealthBook) :
    (enlist bounds known? addresses book).1.map (fun member => member.account.key) =
      addresses.map fun address => address.account.key := by
  have hmatched := forall₂_enlist bounds hknown addresses book
  generalize (enlist bounds known? addresses book).1 = members at hmatched
  induction hmatched with
  | nil => rfl
  | cons hfirst _ ih =>
      have haccount := EntityId.beq_iff.mp (NodeAddress.beq_iff.mp hfirst).1
      rw [List.map_cons, List.map_cons, ih, Member.account, haccount]

end Network

end LedgerClient
