import LedgerClient.Proofs.Transaction.Handing
import LedgerClient.Proofs.Wire.Messages

/-!
# To whom a transaction is addressed

Whatever is done with a transaction, and however often it is submitted, each node is
sent the body that is addressed to it, always the same one, with the signature of the
operator.
-/

namespace LedgerClient

open Wire

variable {ω χ : Type}

theorem EntityId.bare_eq_iff {a b : EntityId} : a.bare = b.bare ↔ (a == b) = true := by
  rw [beq_iff]
  cases a
  cases b
  simp [bare, key]

theorem EntityId.length_write (id : EntityId) : (write id).length = 24 := by
  show (write id.shard ++ write id.realm ++ write id.num).length = 24
  simp [write]

/-- Two identifiers have one encoding exactly when they name the same thing. -/
theorem EntityId.write_eq_iff {a b : EntityId} : write a = write b ↔ (a == b) = true := by
  rw [← bare_eq_iff]
  constructor
  · intro hwrite
    have hfits : ∀ id : EntityId, (write id).length < 2 ^ 64 := fun id => by
      rw [length_write]
      decide
    -- One octet string is read as both.
    have ha := (Faithful.carries a (hfits a)).whole []
    have hb := (Faithful.carries b (hfits b)).whole []
    rw [hwrite, hb] at ha
    exact (Prod.mk.inj (Except.ok.inj ha)).1.symm
  · intro hbare
    have hwrite := congrArg write hbare
    exact hwrite

namespace Transaction

/-- The octets for a node are the same as those for another exactly when the nodes are the same. -/
theorem made_eq_iff (t : Transaction) (id : TransactionId) {a b : AccountId} :
    t.made id a = t.made id b ↔ (a == b) = true := by
  rw [← EntityId.write_eq_iff]
  -- Only the part for the node differs, and it stands between equal ones.
  have hsplit : ∀ node, t.made id node =
      write id ++ (write node ++ (write t.maxFee ++ write t.validDuration.seconds ++
        write t.memo ++ write t.data)) := by
    intro node
    simp only [← List.append_assoc]
    rfl
  rw [hsplit, hsplit]
  constructor
  · intro hmade
    exact List.append_cancel_right (List.append_cancel_left hmade)
  · intro hwrite
    rw [hwrite]

/-- The octets for a node hold a transaction addressed to the node, with the identifier. -/
theorem decode_made (t : Transaction) (id : TransactionId) (node : AccountId)
    (hlength : (t.made id node).length < 2 ^ 64) :
    ∃ body, Wire.decode TransactionBody (t.made id node) = .ok body ∧ body.node = node.bare ∧
      body.transactionId = carried id := by
  have hdecode := decode_encode (t.body id node) hlength []
  rw [List.append_nil] at hdecode
  exact ⟨_, hdecode, rfl, rfl⟩

theorem length_body_le (body : SignedBody) :
    body.bytes.length ≤ (Wire.encode (Request.transaction body.signed)).length := by
  show _ ≤ (writeVariant 0 ++ ((writeLength body.bytes.length ++ body.bytes.flatMap write) ++
    write body.signatures)).length
  have hbytes := length_le_flatMap body.bytes
  simp only [List.length_append]
  omega

/-- In whatever is done with a transaction, all requests are made out from one identifier and one
text for each node. A request that is sent to a node carries the text that the transaction was frozen
into for this node, which names the node and the identifier and is that of no other node, and
signatures over it, with one by the operator and no two by one key. What is sent has a length in 64
bits. Whatever is handed to a channel, if the same is done in a recorded world, is one of these
requests, and the channel is the one that is kept for its node. -/
theorem history_sendings (data : TransactionData) (acts : List (Act ω χ)) :
    let sendings := (Transaction.history { data } acts).2
    (∀ handing ∈ allHandings { data } (acts.map Act.recorded), ∃ sending ∈ sendings,
      handing.Carries sending) ∧
    ∃ (id : TransactionId) (octets : AccountId → Bytes),
      (∀ a b, octets a = octets b ↔ (a == b) = true) ∧
      (∀ node, (octets node).length < 2 ^ 64 →
        ∃ body, Wire.decode TransactionBody (octets node) = .ok body ∧ body.node = node.bare ∧
          body.transactionId = id) ∧
      ∀ sending ∈ sendings, ∃ bodies body,
        sending.prepared.stage = .frozen bodies ∧
        bodies.body? sending.node = some body ∧
        (∀ other ∈ bodies.bodies, other.bytes = octets other.node) ∧
        body.bytes = octets sending.node ∧
        sending.request = Wire.encode (Request.transaction ⟨body.bytes, body.signatures⟩) ∧
        (sending.request.length < 2 ^ 64 → body.bytes.length < 2 ^ 64 ∧
          Wire.decode Request sending.request =
            .ok (.transaction ⟨octets sending.node, body.signatures⟩)) ∧
        (body.signatures.pairs.map (·.publicKey)).Nodup ∧
        ∀ operator, sending.operator = some operator →
          body.signatures.contains operator.signer.publicKey.bytes = true := by
  intro sendings
  let last := (Transaction.history { data } acts).1
  refine ⟨exists_sending_of_history { data } acts, ?_⟩
  refine ⟨carried (last.id.getD default), last.made (last.id.getD default),
    fun a b => last.made_eq_iff _, fun node => last.decode_made _ node, ?_⟩
  intro sending hsending
  have hsound : IsSound { data } := isSound_of_draft rfl
  obtain ⟨id, bodies, body, hid, hstage, hbodies, hbody, hrequest, hoperator⟩ :=
    (history_spec { data } acts).2 hsound sending hsending
  -- Something was sent, so the transaction was frozen and has an identifier.
  have hlast : last.id.getD default = id := by rw [hid]; rfl
  obtain ⟨hmem, hnode⟩ := SignedBodies.body?_eq_some hbody
  have hbytes : body.bytes = last.made id sending.node :=
    (hbodies.bytes_eq body hmem).trans ((last.made_eq_iff id).mpr hnode)
  rw [hlast]
  refine ⟨bodies, body, hstage, hbody, hbodies.bytes_eq, hbytes, hrequest, ?_,
    hbodies.signatures_nodup body hmem, hoperator⟩
  intro hlength
  rw [hrequest] at hlength
  refine ⟨Nat.lt_of_le_of_lt (length_body_le body) hlength, ?_⟩
  have hdecode := decode_encode (Request.transaction body.signed) hlength []
  rw [List.append_nil, ← hrequest] at hdecode
  rw [hdecode, ← hbytes]
  rfl

/-- A client that signs with the first octets of what it signs. -/
def clerk : Client (List (Except TransportError Bytes)) Unit where
  surroundings := Execution.scripted
  operator := some ⟨.ofNum 1001, ⟨.ed25519, List.replicate 32 7⟩,
    fun message script => (.ok (message.take 4), script)⟩
  settings := .quick

/-- A submission that no node answers, and another after which the second node asked accepts. -/
def resubmission : List (Act (List (Except TransportError Bytes)) Unit) :=
  [.setNodes [.ofNum 4, .ofNum 3, .ofNum 4],
    .execute clerk (Execution.rehearsed (List.replicate 5 (.error .closed))),
    .setMemo "late",
    .execute clerk (Execution.rehearsed
      [.error .closed, .ok (Wire.encode { precheck := .ok : Response })])]

theorem history_sendings_resubmission :
    let sendings :=
      (Transaction.history { data := .submitMessage (.ofNum 9) [1, 2, 3] } resubmission).2
    let handings := allHandings { data := .submitMessage (.ofNum 9) [1, 2, 3] }
      (resubmission.map Act.recorded)
    sendings.map (·.node.num) = [3, 4, 3, 4, 3, 3, 4] ∧ handings.length = 7 ∧
      (∀ handing ∈ handings, ∃ sending ∈ sendings, handing.Carries sending) ∧
      ∃ (id : TransactionId) (octets : AccountId → Bytes), ∀ sending ∈ sendings,
        ∃ signatures body,
          Wire.decode Request sending.request =
            .ok (.transaction ⟨octets sending.node, signatures⟩) ∧
          Wire.decode TransactionBody (octets sending.node) = .ok body ∧
          body.node = sending.node.bare ∧ body.transactionId = id := by
  intro sendings handings
  have hcount : handings.length = 7 := by decide +kernel
  have hnodes : sendings.map (·.node.num) = [3, 4, 3, 4, 3, 3, 4] := by decide +kernel
  have hlengths : ∀ sending ∈ sendings, sending.request.length < 2 ^ 64 := by decide +kernel
  obtain ⟨hhandings, id, octets, _, hoctets, hsendings⟩ :=
    history_sendings (.submitMessage (.ofNum 9) [1, 2, 3]) resubmission
  refine ⟨hnodes, hcount, hhandings, id, octets, fun sending hsending => ?_⟩
  obtain ⟨_, body, _, _, _, hbytes, _, hsent, _⟩ := hsendings sending hsending
  obtain ⟨hlength, hrequest⟩ := hsent (hlengths sending hsending)
  rw [hbytes] at hlength
  obtain ⟨made, hmade, hnode, hid⟩ := hoctets sending.node hlength
  exact ⟨body.signatures, made, hrequest, hmade, hnode, hid⟩

end Transaction

end LedgerClient
