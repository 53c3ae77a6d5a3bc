import LedgerClient.Proofs.Outcome
import LedgerClient.Proofs.Transaction.Freezing

/-!
# What a transaction is frozen into

A transaction can be frozen just where the network has all nodes that it asks for. It is made out
once for each node, in the order in which the nodes are named first. The texts for two nodes have
one length, and differ in the octets of the node alone.
-/

namespace LedgerClient

open Wire

variable {ω χ : Type}

/-! ### Octets -/

/-- Two bodies are for different nodes. Their texts have one length and differ, but nowhere except
in the 24 octets of the node, which stand behind the 41 octets of the identifier. -/
structure SignedBody.DifferInNode (a b : SignedBody) : Prop where
  node_ne : (a.node == b.node) = false
  length_eq : a.bytes.length = b.bytes.length
  bytes_ne : a.bytes ≠ b.bytes
  same_outside : ∀ place, place < 41 ∨ 41 + 24 ≤ place → a.bytes[place]? = b.bytes[place]?

namespace Transaction

/-- What stands behind the node in the octets of a transaction. -/
def tail (t : Transaction) : Bytes :=
  write t.maxFee ++ write t.validDuration.seconds ++ write t.memo ++ write t.data

theorem made_eq_append (t : Transaction) (id : TransactionId) (node : AccountId) :
    t.made id node = write id ++ (write node ++ t.tail) := by
  unfold tail
  simp only [← List.append_assoc]
  rfl

theorem length_made (t : Transaction) (id : TransactionId) (node : AccountId) :
    (t.made id node).length = 41 + (24 + t.tail.length) := by
  rw [made_eq_append, List.length_append, List.length_append, Query.length_write_id,
    EntityId.length_write]

theorem getElem?_made_of_lt (t : Transaction) (id : TransactionId) (node : AccountId) {place : Nat}
    (hplace : place < 41) : (t.made id node)[place]? = (write id)[place]? := by
  rw [made_eq_append, List.getElem?_append_left]
  rw [Query.length_write_id]
  exact hplace

theorem getElem?_made_of_le (t : Transaction) (id : TransactionId) (node : AccountId) {place : Nat}
    (hplace : 41 + 24 ≤ place) : (t.made id node)[place]? = t.tail[place - 41 - 24]? := by
  have hid := Query.length_write_id id
  have hnode := EntityId.length_write node
  rw [made_eq_append, List.getElem?_append_right (by omega), hid,
    List.getElem?_append_right (by omega), hnode]

/-- The body for a node, which nobody has signed yet. -/
def unsigned (t : Transaction) (id : TransactionId) (node : AccountId) : SignedBody :=
  { node, bytes := t.made id node }

theorem differInNode_unsigned (t : Transaction) (id : TransactionId) {a b : AccountId}
    (hne : (a == b) = false) : (t.unsigned id a).DifferInNode (t.unsigned id b) where
  node_ne := hne
  length_eq := by
    change (t.made id a).length = (t.made id b).length
    rw [length_made, length_made]
  bytes_ne hsame := by
    rw [(t.made_eq_iff id).mp hsame] at hne
    cases hne
  same_outside place hplace := by
    change (t.made id a)[place]? = (t.made id b)[place]?
    rcases hplace with hbefore | hbehind
    · rw [getElem?_made_of_lt t id a hbefore, getElem?_made_of_lt t id b hbefore]
    · rw [getElem?_made_of_le t id a hbehind, getElem?_made_of_le t id b hbehind]

/-! ### Nodes -/

theorem known_of_makeOut {t : Transaction} {network : Network χ} {id : TransactionId}
    {nodes : List AccountId} {bodies out : SignedBodies}
    (hout : t.makeOut network id nodes bodies = .ok out) :
    ∀ node ∈ nodes, (network.member? node).isSome = true := by
  induction nodes generalizing bodies with
  | nil => exact fun _ hmem => by cases hmem
  | cons first rest ih =>
      unfold makeOut at hout
      split at hout
      next hfirst => exact List.forall_mem_cons.mpr ⟨hfirst, ih hout⟩
      next => cases hout

/-- A node that has no body gets an unsigned one behind the others. -/
theorem insert_made (t : Transaction) (id : TransactionId) {bodies : SignedBodies}
    {node : AccountId} (hnew : (bodies.body? node).isSome = false) :
    bodies.insert node (encode (t.body id node)) = ⟨bodies.bodies ++ [t.unsigned id node]⟩ := by
  unfold SignedBodies.insert
  rw [if_neg (by simp [hnew])]
  rfl

theorem isSome_body?_append_singleton (bodies : SignedBodies) (body : SignedBody)
    (node : AccountId) :
    (SignedBodies.body? ⟨bodies.bodies ++ [body]⟩ node).isSome =
      ((bodies.body? node).isSome || body.node == node) := by
  simp only [SignedBodies.body?, List.find?_append, List.find?_singleton, Option.isSome_or]
  cases body.node == node <;> rfl

/-- A transaction is made out for the nodes that have no body yet, each where it comes first. -/
theorem makeOut_of_known (t : Transaction) {network : Network χ} (id : TransactionId)
    {nodes : List AccountId} (hknown : ∀ node ∈ nodes, (network.member? node).isSome = true)
    (bodies : SignedBodies) :
    t.makeOut network id nodes bodies = .ok ⟨bodies.bodies ++
      (nodes.filter fun node => !(bodies.body? node).isSome).eraseDups.map (t.unsigned id)⟩ := by
  induction nodes generalizing bodies with
  | nil => simp [makeOut]
  | cons first rest ih =>
      obtain ⟨hfirst, hrest⟩ := List.forall_mem_cons.mp hknown
      unfold makeOut
      rw [if_pos hfirst, ih hrest]
      cases hbody : (bodies.body? first).isSome with
      | true =>
          unfold SignedBodies.insert
          rw [if_pos hbody, List.filter_cons_of_neg (by simp [hbody])]
      | false =>
          rw [insert_made t id hbody, List.filter_cons_of_pos (by simp [hbody]),
            List.eraseDups_cons, List.filter_filter, List.map_cons]
          -- From here on the first node has a body, and is left out where it comes again.
          have hfilter : (rest.filter fun node =>
              !(SignedBodies.body? ⟨bodies.bodies ++ [t.unsigned id first]⟩ node).isSome) =
              rest.filter fun node => !node == first && !(bodies.body? node).isSome := by
            refine List.filter_congr fun node _ => ?_
            rw [isSome_body?_append_singleton, Bool.not_or, Bool.and_comm, BEq.comm (a := node)]
            rfl
          rw [hfilter, List.append_assoc]
          rfl

theorem makeOut_empty (t : Transaction) {network : Network χ} (id : TransactionId)
    {nodes : List AccountId} (hknown : ∀ node ∈ nodes, (network.member? node).isSome = true) :
    t.makeOut network id nodes {} = .ok ⟨nodes.eraseDups.map (t.unsigned id)⟩ := by
  have hall : (nodes.filter fun node => !(SignedBodies.body? {} node).isSome) = nodes :=
    List.filter_eq_self.mpr fun _ _ => rfl
  rw [makeOut_of_known t id hknown, hall]
  rfl

/-! ### Freezing -/

/-- The transaction frozen into an unsigned body for each node of a list, where it comes first. -/
def frozenFor (t : Transaction) (id : TransactionId) (nodes : List AccountId) : Transaction :=
  { t with stage := .frozen ⟨nodes.eraseDups.map (t.unsigned id)⟩ }

theorem freezeFor_of_known {t : Transaction} {id : TransactionId} (hid : t.id = some id)
    {network : Network χ} {nodes : List AccountId}
    (hknown : ∀ node ∈ nodes, (network.member? node).isSome = true) :
    t.freezeFor network nodes = .ok (t.frozenFor id nodes) := by
  unfold freezeFor frozenFor
  simp only [hid, makeOut_empty t id hknown]
  rfl

theorem known_of_freezeFor {t next : Transaction} {network : Network χ} {nodes : List AccountId}
    (hfreeze : t.freezeFor network nodes = .ok next) :
    ∀ node ∈ nodes, (network.member? node).isSome = true := by
  obtain ⟨_, _, _, hout, _⟩ := makeOut_of_freezeFor hfreeze
  exact known_of_makeOut hout

/-- Bodies are made out from a transaction for nodes: one for each, unsigned, that can be read back
and differs from the others in its node. -/
structure IsMadeOutFor (bodies : SignedBodies) (t : Transaction) (id : TransactionId)
    (nodes : List AccountId) : Prop where
  nodes_eq : bodies.nodes = nodes
  nodes_ne_nil : bodies.nodes ≠ []
  unsigned : ∀ body ∈ bodies.bodies, body.signatures = {}
  decoded_eq : ∀ body ∈ bodies.bodies, body.bytes.length < 2 ^ 64 →
    decoded TransactionBody body.bytes = .ok
      { transactionId := id.bare, node := body.node.bare, fee := t.maxFee
        validSeconds := t.validDuration.seconds, memo := t.memo, data := t.data.bare }
  differ : bodies.bodies.Pairwise SignedBody.DifferInNode

theorem isMadeOutFor_eraseDups {t : Transaction} {network : Network χ} {id : TransactionId}
    {nodes : List AccountId} (hknown : ∀ node ∈ nodes, (network.member? node).isSome = true)
    (hsome : nodes ≠ []) :
    IsMadeOutFor ⟨nodes.eraseDups.map (t.unsigned id)⟩ t id nodes.eraseDups := by
  have hnodes : (nodes.eraseDups.map (t.unsigned id)).map (·.node) = nodes.eraseDups := by
    rw [List.map_map]
    exact List.map_id _
  have hnodup : (nodes.eraseDups.map EntityId.key).Nodup := by
    have hbodies := areFor_of_makeOut (makeOut_empty t id hknown) (SignedBodies.areFor_empty _)
    have hkeys := hbodies.keys_nodup
    rwa [SignedBodies.nodes, hnodes] at hkeys
  refine ⟨hnodes, ?_, ?_, ?_, ?_⟩
  · obtain ⟨first, rest, rfl⟩ := List.exists_cons_of_ne_nil hsome
    rw [SignedBodies.nodes, hnodes, List.eraseDups_cons]
    exact List.cons_ne_nil _ _
  · intro body hbody
    obtain ⟨node, _, rfl⟩ := List.mem_map.mp hbody
    rfl
  · intro body hbody hlength
    obtain ⟨node, _, rfl⟩ := List.mem_map.mp hbody
    have hdecoded := (Decoding.messages_readsBack.1 (t.body id node) hlength).1 []
    rw [List.append_nil] at hdecoded
    exact hdecoded
  · rw [List.pairwise_map]
    refine (List.pairwise_map.mp hnodup).imp fun {a b} hne => ?_
    refine differInNode_unsigned t id (Bool.eq_false_iff.mpr fun hsame => ?_)
    exact hne (EntityId.beq_iff.mp hsame)

/-! ### Freezing with a client -/

theorem nameWith_of_id {t : Transaction} {id : TransactionId} (hid : t.id = some id)
    (client : Client ω χ) (scene : Scene ω χ) : t.nameWith client scene = (.ok t, scene) := by
  unfold nameWith
  rw [hid]

/-- With an identifier there is nothing to do but to check and to freeze. -/
theorem known_of_freezeWith {t : Transaction} {id : TransactionId} (hdraft : t.stage = .draft)
    (hid : t.id = some id) {client : Client ω χ} {scene : Scene ω χ}
    (hok : (t.freezeWith client scene).1 = .ok ()) :
    client.checkIds scene t.checked = .ok () ∧ ∀ node ∈ (client.chooseNodes t.nodes scene).1,
      (scene.network.member? node).isSome = true := by
  have hfreezes := freezesWith hdraft client scene
  generalize t.freezeWith client scene = done at hok hfreezes
  cases hfreezes with
  | unnamed => cases hok
  | rejected => cases hok
  | stopped => cases hok
  | frozen hname hcheck hfreeze =>
      cases (nameWith_of_id hid client scene).symm.trans hname
      exact ⟨hcheck, known_of_freezeFor hfreeze⟩

theorem freezeWith_of_known {t : Transaction} {id : TransactionId} (hdraft : t.stage = .draft)
    (hid : t.id = some id) {client : Client ω χ} {scene : Scene ω χ}
    (hcheck : client.checkIds scene t.checked = .ok ())
    (hknown : ∀ node ∈ (client.chooseNodes t.nodes scene).1,
      (scene.network.member? node).isSome = true) :
    t.freezeWith client scene = (.ok (), t.frozenFor id (client.chooseNodes t.nodes scene).1,
      (client.chooseNodes t.nodes scene).2) := by
  have hids : client.checkIds scene (t.data.entities ++ t.nodes) = .ok () := hcheck
  unfold freezeWith
  simp only [requireDraft_eq_ok_iff.mpr hdraft, nameWith_of_id hid, hids,
    Client.network_chooseNodes, freezeFor_of_known hid hknown]

end Transaction

/-! ### The nodes of a network -/

theorem eraseDups_eq_self_of_distinct {α : Type} [BEq α] [EquivBEq α] {items : List α}
    (hdistinct : items.Pairwise fun a b => (a == b) = false) : items.eraseDups = items := by
  induction hdistinct with
  | nil => rfl
  | cons hfirst _ ih =>
      rw [List.eraseDups_cons, List.filter_eq_self.mpr, ih]
      intro other hother
      rw [BEq.comm, hfirst other hother]
      rfl

namespace Network

theorem isSome_member?_of_mem {network : Network χ} {member : Member}
    (hmember : member ∈ network.members) : (network.member? member.account).isSome = true := by
  unfold member?
  rw [List.find?_isSome]
  exact ⟨member, hmember, EntityId.beq_iff.mpr rfl⟩

theorem eraseDups_map_account {members : List Member}
    (hnodup : (members.map fun member => member.account.key).Nodup) :
    (members.map Member.account).eraseDups = members.map Member.account := by
  refine eraseDups_eq_self_of_distinct (List.pairwise_map.mpr ?_)
  refine (List.pairwise_map.mp hnodup).imp fun {a b} hne => ?_
  exact Bool.eq_false_iff.mpr fun hsame => hne (EntityId.beq_iff.mp hsame)

/-- The nodes that are not benched and then the others, each in order. -/
def healthyFirst (network : Network χ) (book : HealthBook) (now : Timestamp) : List Member :=
  network.members.filter (isHealthy book now) ++
    network.members.filter fun member => !isHealthy book now member

theorem transactionCandidates_eq (network : Network χ) (book : HealthBook) (limit : Option Nat)
    (now : Timestamp) :
    network.transactionCandidates book limit now =
      (limited limit (network.healthyFirst book now)).map Member.account := by
  unfold transactionCandidates
  rw [List.partition_eq_filter_filter]
  rfl

theorem limited_sublist {α : Type} (limit : Option Nat) (items : List α) :
    (limited limit items).Sublist items := by
  rcases limit with _ | _ | count
  · exact .refl _
  · exact .refl _
  · exact List.take_sublist _ _

theorem eraseDups_transactionCandidates (network : Network χ) (book : HealthBook)
    (limit : Option Nat) (now : Timestamp) :
    (network.transactionCandidates book limit now).eraseDups =
      network.transactionCandidates book limit now := by
  have hperm : (network.healthyFirst book now).Perm network.members := List.filter_append_perm _ _
  have hnodup := (hperm.map fun member => member.account.key).nodup_iff.mpr network.keys_nodup
  rw [transactionCandidates_eq]
  exact eraseDups_map_account (hnodup.sublist ((limited_sublist limit _).map _))

/-- Where something of the second list is taken, all of the first one is. -/
theorem mem_limited_of_mem_behind {α : Type} {limit : Option Nat} {front back : List α} {item : α}
    (hitem : item ∈ limited limit (front ++ back)) (hback : item ∉ front) :
    ∀ other ∈ front, other ∈ limited limit (front ++ back) := by
  intro other hother
  rcases limit with _ | _ | count
  · exact List.mem_append_left back hother
  · exact List.mem_append_left back hother
  · change item ∈ (front ++ back).take (count + 1) at hitem
    change other ∈ (front ++ back).take (count + 1)
    rw [List.take_append, List.mem_append] at hitem ⊢
    obtain hfront | hbehind := hitem
    · exact absurd (List.mem_of_mem_take hfront) hback
    · have hroom : front.length < count + 1 := by
        by_contra hfull
        rw [Nat.sub_eq_zero_of_le (by omega), List.take_zero] at hbehind
        cases hbehind
      rw [List.take_of_length_le (by omega)]
      exact .inl hother

/-- A benched node is taken only together with all that are not benched. -/
theorem mem_transactionCandidates_of_benched {network : Network χ} {book : HealthBook}
    {limit : Option Nat} {now : Timestamp} {benched healthy : Member}
    (hbenched : benched ∈ network.members) (hnot : isHealthy book now benched = false)
    (hhealthy : healthy ∈ network.members) (hfit : isHealthy book now healthy = true)
    (htaken : benched.account ∈ network.transactionCandidates book limit now) :
    healthy.account ∈ network.transactionCandidates book limit now := by
  rw [transactionCandidates_eq] at htaken ⊢
  obtain ⟨member, hmember, haccount⟩ := List.mem_map.mp htaken
  have hsame : member = benched := by
    have hmembers : member ∈ network.members :=
      (List.filter_append_perm _ _).mem_iff.mp ((limited_sublist limit _).mem hmember)
    exact eq_of_key_eq hmembers hbenched (congrArg EntityId.key haccount)
  subst hsame
  refine List.mem_map_of_mem (mem_limited_of_mem_behind hmember ?_ healthy ?_)
  · rw [List.mem_filter, hnot]
    exact fun hmem => Bool.false_ne_true hmem.2
  · exact List.mem_filter.mpr ⟨hhealthy, hfit⟩

end Network

/-! ### What freezing makes -/

namespace Transaction

/-- What comes of freezing a transaction for a network. -/
structure Freezing (t : Transaction) (id : TransactionId) (network : Network χ) : Prop where
  /-- It is frozen just where the network has all nodes that it asks for. -/
  isOk_iff : (∃ next, t.freeze network = .ok next) ↔
    ∀ node ∈ t.nodes, (network.member? node).isSome = true
  /-- It is made out for the nodes it asks for, or for all nodes. -/
  made : ∀ next, t.freeze network = .ok next → ∃ bodies,
    next = { t with stage := .frozen bodies } ∧
      IsMadeOutFor bodies t id (if t.nodes = [] then network.accounts else t.nodes.eraseDups)

/-- What comes of freezing a transaction with a client. -/
structure ClientFreezing (t : Transaction) (id : TransactionId) (client : Client ω χ)
    (scene : Scene ω χ) : Prop where
  /-- It is frozen just where what it mentions passes the check of the client, and the network has
  all nodes that it asks for. -/
  isOk_iff : (t.freezeWith client scene).1 = .ok () ↔
    client.checkIds scene t.checked = .ok () ∧
      ∀ node ∈ t.nodes, (scene.network.member? node).isSome = true
  /-- It is made out for the nodes it asks for, or for all nodes up to the limit of the client,
  those that are not benched first. -/
  made : (t.freezeWith client scene).1 = .ok () → ∃ bodies,
    t.freezeWith client scene =
        (.ok (), { t with stage := .frozen bodies }, (client.chooseNodes t.nodes scene).2) ∧
      IsMadeOutFor bodies t id
        (if t.nodes = [] then
          (Network.limited client.maxNodes
            (scene.network.healthyFirst scene.health (client.now scene).1)).map Member.account
        else t.nodes.eraseDups) ∧
      (t.nodes = [] → ∀ benched ∈ scene.network.members, ∀ healthy ∈ scene.network.members,
        Network.isHealthy scene.health (client.now scene).1 benched = false →
        Network.isHealthy scene.health (client.now scene).1 healthy = true →
        benched.account ∈ bodies.nodes → healthy.account ∈ bodies.nodes)

variable {t : Transaction} {id : TransactionId}

/-- The nodes a transaction asks for, or others if it asks for none. -/
def nodesOr (t : Transaction) (others : List AccountId) : List AccountId :=
  if t.nodes.isEmpty then others else t.nodes

section Asked

variable {others : List AccountId}

theorem nodesOr_of_nil (hnodes : t.nodes = []) : t.nodesOr others = others := by
  rw [nodesOr, hnodes]
  rfl

theorem nodesOr_of_ne_nil (hnodes : t.nodes ≠ []) : t.nodesOr others = t.nodes :=
  if_neg fun hempty => hnodes (List.isEmpty_iff.mp hempty)

theorem nodesOr_ne_nil (hothers : others ≠ []) : t.nodesOr others ≠ [] := by
  by_cases hnodes : t.nodes = []
  · rwa [nodesOr_of_nil hnodes]
  · rwa [nodesOr_of_ne_nil hnodes]

theorem eraseDups_nodesOr (hothers : others.eraseDups = others) :
    (t.nodesOr others).eraseDups = if t.nodes = [] then others else t.nodes.eraseDups := by
  split
  next hnodes => rw [nodesOr_of_nil hnodes, hothers]
  next hnodes => rw [nodesOr_of_ne_nil hnodes]

theorem forall_mem_nodesOr_iff {P : AccountId → Prop} (hothers : ∀ node ∈ others, P node) :
    (∀ node ∈ t.nodesOr others, P node) ↔ ∀ node ∈ t.nodes, P node := by
  by_cases hnodes : t.nodes = []
  · rw [nodesOr_of_nil hnodes, hnodes]
    exact ⟨fun _ _ hmem => (by cases hmem), fun _ => hothers⟩
  · rw [nodesOr_of_ne_nil hnodes]

end Asked

/-- The nodes that a client chooses are those asked for, or the candidates of the moment. -/
theorem chooseNodes_eq_nodesOr (t : Transaction) (client : Client ω χ) (scene : Scene ω χ) :
    (client.chooseNodes t.nodes scene).1 = t.nodesOr
      (scene.network.transactionCandidates scene.health client.maxNodes (client.now scene).1) := by
  unfold Client.chooseNodes nodesOr
  split <;> rfl

theorem freeze_of_draft (hdraft : t.stage = .draft) (network : Network χ) :
    t.freeze network = t.freezeFor network (t.nodesOr network.accounts) := by
  unfold freeze
  rw [requireDraft_eq_ok_iff.mpr hdraft]
  rfl

theorem freezing (hdraft : t.stage = .draft) (hid : t.id = some id) (network : Network χ) :
    t.Freezing id network := by
  have hothers : ∀ node ∈ network.accounts, (network.member? node).isSome = true :=
    List.forall_mem_map.mpr fun _ hmember => Network.isSome_member?_of_mem hmember
  have hsome : network.accounts ≠ [] :=
    fun hnil => network.members_ne_nil (List.map_eq_nil_iff.mp hnil)
  have hdistinct : network.accounts.eraseDups = network.accounts :=
    Network.eraseDups_map_account network.keys_nodup
  have hfreeze := freeze_of_draft hdraft network
  refine ⟨⟨?_, fun hknown => ?_⟩, fun next hnext => ?_⟩
  · rintro ⟨next, hnext⟩
    rw [hfreeze] at hnext
    exact (forall_mem_nodesOr_iff hothers).mp (known_of_freezeFor hnext)
  · rw [hfreeze]
    exact ⟨_, freezeFor_of_known hid ((forall_mem_nodesOr_iff hothers).mpr hknown)⟩
  · rw [hfreeze] at hnext
    have hknown := known_of_freezeFor hnext
    cases (freezeFor_of_known hid hknown).symm.trans hnext
    have hmade : IsMadeOutFor _ t id _ := isMadeOutFor_eraseDups hknown (nodesOr_ne_nil hsome)
    refine ⟨_, rfl, ?_⟩
    rwa [← eraseDups_nodesOr hdistinct]

theorem clientFreezing (hdraft : t.stage = .draft) (hid : t.id = some id) (client : Client ω χ)
    (scene : Scene ω χ) : t.ClientFreezing id client scene := by
  have hothers : ∀ node ∈ scene.network.transactionCandidates scene.health client.maxNodes
      (client.now scene).1, (scene.network.member? node).isSome = true :=
    fun _ hmem => Option.isSome_iff_ne_none.mpr (Network.member?_of_mem_transactionCandidates hmem)
  have hsome := Network.transactionCandidates_ne_nil scene.network scene.health client.maxNodes
    (client.now scene).1
  have hdistinct := Network.eraseDups_transactionCandidates scene.network scene.health
    client.maxNodes (client.now scene).1
  have hchosen := chooseNodes_eq_nodesOr t client scene
  refine ⟨⟨fun hok => ?_, fun hknown => ?_⟩, fun hok => ?_⟩
  · obtain ⟨hcheck, hknown⟩ := known_of_freezeWith hdraft hid hok
    rw [hchosen] at hknown
    exact ⟨hcheck, (forall_mem_nodesOr_iff hothers).mp hknown⟩
  · have hfound := (forall_mem_nodesOr_iff hothers).mpr hknown.2
    rw [← hchosen] at hfound
    rw [freezeWith_of_known hdraft hid hknown.1 hfound]
  · obtain ⟨hcheck, hknown⟩ := known_of_freezeWith hdraft hid hok
    have hmade : IsMadeOutFor _ t id _ :=
      isMadeOutFor_eraseDups hknown (hchosen ▸ nodesOr_ne_nil hsome)
    refine ⟨_, freezeWith_of_known hdraft hid hcheck hknown, ?_, ?_⟩
    · rwa [← Network.transactionCandidates_eq, ← eraseDups_nodesOr hdistinct, ← hchosen]
    · intro hnone benched hbenched healthy hhealthy hnot hfit
      rw [hmade.nodes_eq, hchosen, nodesOr_of_nil hnone, hdistinct]
      exact Network.mem_transactionCandidates_of_benched hbenched hnot hhealthy hfit

/-- A draft with an identifier is frozen just where the network has the nodes that it asks for. It
is made out for these in the order in which they are named first, or else for all nodes of the
network, or for those that the client chooses, the ones that are not benched before the others.
There is one body at least. Each can be read back, and any two differ in the octets of their nodes
alone. -/
theorem freezing_makes_out (t : Transaction) {id : TransactionId} (hdraft : t.stage = .draft)
    (hid : t.id = some id) :
    (∀ network : Network χ, t.Freezing id network) ∧
      ∀ (client : Client ω χ) (scene : Scene ω χ), t.ClientFreezing id client scene :=
  ⟨freezing hdraft hid, clientFreezing hdraft hid⟩

theorem freezing_makes_out_repeated_node :
    let t : Transaction :=
      { data := .submitMessage (.ofNum 9) [1, 2, 3], id := some default
        nodes := [Checking.stray 4, .ofNum 3, .ofNum 4] }
    t.stage = .draft ∧ t.id = some default ∧
      ∃ bodies, t.freeze Checking.willing.network = .ok { t with stage := .frozen bodies } ∧
        bodies.nodes.map (·.num) = [4, 3] ∧ bodies.bodies.Pairwise SignedBody.DifferInNode := by
  intro t
  have hid : t.id = some default := rfl
  have hmakes := freezing_makes_out (ω := List (Except TransportError Bytes)) (χ := Unit) t rfl hid
  have hfreezing := hmakes.1 Checking.willing.network
  obtain ⟨next, hnext⟩ := hfreezing.isOk_iff.mpr (by decide +kernel)
  obtain ⟨bodies, rfl, hmade⟩ := hfreezing.made next hnext
  refine ⟨rfl, rfl, bodies, hnext, ?_, hmade.differ⟩
  rw [hmade.nodes_eq]
  decide +kernel

end Transaction

end LedgerClient
