import LedgerClient.Proofs.Client.Checking
import LedgerClient.Proofs.Transaction.Lifecycle

/-!
# Failures to freeze

Freezing with a client first gives a draft an identifier, if it has none, then checks what it
mentions, and then makes it out for its nodes. What fails on the way leaves the draft as it was
but for the identifier, which it keeps for the next time.
-/

namespace LedgerClient

variable {ω χ : Type}

namespace Network

/-- The nodes that a transaction is made out for when it names none are nodes of the network. -/
theorem member?_of_mem_transactionCandidates {network : Network χ} {book : HealthBook}
    {limit : Option Nat} {now : Timestamp} {account : AccountId}
    (hmem : account ∈ network.transactionCandidates book limit now) :
    network.member? account ≠ none := by
  unfold transactionCandidates at hmem
  obtain ⟨member, hlimited, rfl⟩ := List.mem_map.mp hmem
  have hsorted : member ∈ (network.members.partition (isHealthy book now)).1 ++
      (network.members.partition (isHealthy book now)).2 := by
    unfold limited at hlimited
    split at hlimited
    next => exact hlimited
    next => exact hlimited
    next => exact List.mem_of_mem_take hlimited
  have hmember : member ∈ network.members := by
    rw [List.partition_eq_filter_filter, List.mem_append, List.mem_filter, List.mem_filter]
      at hsorted
    exact hsorted.elim And.left And.left
  intro hnone
  have hother := List.find?_eq_none.mp hnone member hmember
  exact hother (EntityId.beq_iff.mpr rfl)

end Network

namespace Transaction

variable {t named next : Transaction} {client : Client ω χ} {scene after : Scene ω χ}
  {error : ClientError}

/-- Making a transaction out fails at a node that the network does not have. -/
theorem makeOut_eq_error {network : Network χ} {id : TransactionId} {nodes : List AccountId}
    {bodies : SignedBodies} (hout : t.makeOut network id nodes bodies = .error error) :
    ∃ node ∈ nodes, network.member? node = none ∧ error = .unknownNode node := by
  induction nodes generalizing bodies with
  | nil => cases hout
  | cons node rest ih =>
      unfold makeOut at hout
      split at hout
      next =>
        obtain ⟨other, hother, hunknown⟩ := ih hout
        exact ⟨other, List.mem_cons_of_mem node hother, hunknown⟩
      next hunknown =>
        cases hout
        exact ⟨node, List.mem_cons_self, Option.not_isSome_iff_eq_none.mp hunknown, rfl⟩

theorem freezeFor_eq_error {network : Network χ} {nodes : List AccountId} {id : TransactionId}
    (hid : t.id = some id) (hfreeze : t.freezeFor network nodes = .error error) :
    ∃ node ∈ nodes, network.member? node = none ∧ error = .unknownNode node := by
  unfold freezeFor at hfreeze
  cases hout : t.makeOut network id nodes {} with
  | error other =>
      simp only [hid, hout, bind, Except.bind] at hfreeze
      cases hfreeze
      exact makeOut_eq_error hout
  | ok bodies =>
      simp only [hid, hout, bind, Except.bind] at hfreeze
      cases hfreeze

/-! ### Faults -/

/-- Why a transaction could not be frozen with a client. -/
inductive FreezeFault (t : Transaction) (client : Client ω χ) (scene : Scene ω χ) :
    ClientError → Prop where
  | notDraft {error : ClientError} (hstage : t.stage.notDraft? = some error) :
      FreezeFault t client scene error
  /-- It has no identifier, and the client has no operator to give it one. -/
  | unnamed (hid : t.id = none) (hoperator : client.operator = none) :
      FreezeFault t client scene .transactionIdRequired
  /-- The client checks what it mentions, and something of it is rejected. -/
  | rejected {error : ClientError} (hauto : client.autoValidate = true)
      (htells : error.TellsOf scene.network.ledgerId t.checked) : FreezeFault t client scene error
  /-- It asks for a node that the network does not have. -/
  | unknown {node : AccountId} (hnode : node ∈ t.nodes)
      (hunknown : scene.network.member? node = none) :
      FreezeFault t client scene (.unknownNode node)

theorem freezeFault_of_checkIds (hname : t.nameWith client scene = (.ok named, after))
    (hcheck : client.checkIds after named.checked = .error error) :
    FreezeFault t client scene error := by
  obtain ⟨hchecked, _, hnetwork⟩ := checked_nameWith hname
  have hauto : client.autoValidate = true := by
    by_contra hoff
    simp [Client.checkIds, hoff] at hcheck
  have htells := Client.tellsOf_of_checkIds hauto hcheck
  rw [hnetwork, hchecked] at htells
  exact .rejected hauto htells

/-- Only a node that was asked for can be unknown, and then there was no node to choose. -/
theorem freezeFault_of_freezeFor (hname : t.nameWith client scene = (.ok named, after))
    (hfreeze : named.freezeFor after.network (client.chooseNodes named.nodes after).1 =
      .error error) :
    FreezeFault t client scene error ∧ (client.chooseNodes named.nodes after).2 = after := by
  obtain ⟨hid, hnamed, hnetwork⟩ := named_of_nameWith hname
  obtain ⟨id, hsome⟩ := Option.ne_none_iff_exists'.mp hid
  obtain ⟨node, hnode, hunknown, rfl⟩ := freezeFor_eq_error hsome hfreeze
  have hnodes : named.nodes = t.nodes := by rw [hnamed]
  unfold Client.chooseNodes at hnode ⊢
  by_cases hnone : named.nodes.isEmpty = true
  · -- the nodes that the client chooses are never unknown
    rw [if_pos hnone] at hnode
    exact absurd hunknown (Network.member?_of_mem_transactionCandidates hnode)
  · rw [if_neg hnone] at hnode ⊢
    exact ⟨.unknown (hnodes ▸ hnode) (hnetwork ▸ hunknown), rfl⟩

/-- A named draft is what it was, and so is all around it, or it has the identifier it was given. -/
theorem kept_of_named (hdraft : t.stage = .draft)
    (hname : t.nameWith client scene = (.ok named, after)) :
    ((t.stage = .draft → t.id = none → client.operator = none) ∧ named = t ∧ after = scene) ∨
      ∃ operator, t.stage = .draft ∧ t.id = none ∧ client.operator = some operator ∧
        named.id = some (client.generateId operator.account scene).1 ∧
        after = (client.generateId operator.account scene).2 := by
  obtain ⟨hid, rfl, rfl⟩ | ⟨operator, hid, hoperator, rfl, rfl⟩ := nameWith_eq_ok hname
  · exact .inl ⟨fun _ hnone => absurd hnone hid, rfl, rfl⟩
  · exact .inr ⟨operator, hdraft, hid, hoperator, rfl, rfl⟩

/-- A transaction that could not be frozen with a client is left as it was, and so is all around it,
unless it is a draft without an identifier and the client has an operator. Then it keeps the
identifier that it was given, and is left as it was in everything else. -/
theorem freezeWith_keeps_all_but_id
    (hfreeze : t.freezeWith client scene = (.error error, next, after)) :
    FreezeFault t client scene error ∧ next = { t with id := next.id } ∧
    ((t.stage = .draft → t.id = none → client.operator = none) ∧ next = t ∧ after = scene ∨
      ∃ operator, t.stage = .draft ∧ t.id = none ∧ client.operator = some operator ∧
        next.id = some (client.generateId operator.account scene).1 ∧
        after = (client.generateId operator.account scene).2) := by
  cases hrefusal : t.stage.notDraft? with
  | some refusal =>
      rw [freezeWith_of_notDraft? hrefusal] at hfreeze
      cases hfreeze
      have hstage : t.stage ≠ .draft := by
        intro hdraft
        rw [hdraft] at hrefusal
        cases hrefusal
      exact ⟨.notDraft hrefusal, rfl, .inl ⟨fun hdraft => absurd hdraft hstage, rfl, rfl⟩⟩
  | none =>
      have hdraft : t.stage = .draft := by
        cases hstage : t.stage <;> simp_all [Stage.notDraft?]
      have hfreezes := freezesWith hdraft client scene
      rw [hfreeze] at hfreezes
      -- stopped before it is named, it is the same, and afterwards it is what was named
      cases hfreezes with
      | unnamed hname =>
          obtain ⟨hid, hoperator, rfl, rfl⟩ := nameWith_eq_error hname
          exact ⟨.unnamed hid hoperator, rfl, .inl ⟨fun _ _ => hoperator, rfl, rfl⟩⟩
      | rejected hname hcheck =>
          exact ⟨freezeFault_of_checkIds hname hcheck, (named_of_nameWith hname).2.1,
            kept_of_named hdraft hname⟩
      | stopped hname _ hout =>
          obtain ⟨hfault, hsame⟩ := freezeFault_of_freezeFor hname hout
          rw [hsame]
          exact ⟨hfault, (named_of_nameWith hname).2.1, kept_of_named hdraft hname⟩

/-- A message that may go to one node only, and has no identifier yet. -/
def messageTo (topic : TopicId) (node : AccountId) : Transaction :=
  { data := .submitMessage topic [1, 2, 3], nodes := [node] }

theorem freezeWith_keeps_all_but_id_unknown_node :
    ∃ next after, (messageTo (.ofNum 9) (.ofNum 5)).freezeWith clerk Checking.willing =
        (.error (.unknownNode (.ofNum 5)), next, after) ∧
      next = { messageTo (.ofNum 9) (.ofNum 5) with id := next.id } ∧
      next.id = some (clerk.generateId (.ofNum 1001) Checking.willing).1 := by
  obtain ⟨next, after, hfreeze⟩ : ∃ next after,
      (messageTo (.ofNum 9) (.ofNum 5)).freezeWith clerk Checking.willing =
        (.error (.unknownNode (.ofNum 5)), next, after) := ⟨_, _, rfl⟩
  obtain ⟨_, hkept, ⟨hnobody, _⟩ | ⟨operator, _, _, hoperator, hid, _⟩⟩ :=
    freezeWith_keeps_all_but_id hfreeze
  · cases hnobody rfl rfl
  · cases hoperator
    exact ⟨next, after, hfreeze, hkept, hid⟩

/-- A draft that could not be frozen, for a node that is unknown or an identifier that is rejected,
has an identifier then that it did not have before. -/
theorem failed_freezing_leaves_id :
    (∃ next after, (messageTo (.ofNum 9) (.ofNum 5)).freezeWith clerk Checking.willing =
        (.error (.unknownNode (.ofNum 5)), next, after) ∧
      (messageTo (.ofNum 9) (.ofNum 5)).id = none ∧ next.id ≠ none) ∧
    ∃ mismatch next after, (messageTo (Checking.stray 9) (.ofNum 3)).freezeWith Checking.wary
        Checking.willing = (.error (.checksumMismatch mismatch), next, after) ∧
      (messageTo (Checking.stray 9) (.ofNum 3)).id = none ∧ next.id ≠ none :=
  ⟨⟨_, _, rfl, rfl, nofun⟩, _, _, _, rfl, rfl, nofun⟩

end Transaction

end LedgerClient
