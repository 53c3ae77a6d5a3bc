import LedgerClient.Proofs.Transaction.Addressing
import LedgerClient.Proofs.Wire.Decoding
import LedgerClient.Query

/-!
# Payments

A paid query carries a payment to the node it is sent to, whichever node that turns out to
be: payments are made for all nodes that may be asked before the first of them is. All
payments of a call have one identifier, so at most one of them is ever settled.
-/

namespace LedgerClient

open Wire

variable {ω χ α : Type}

/-! ### One payment -/

namespace Transaction

variable {t next : Transaction} {node : AccountId} {octets : Bytes}

theorem freezeFor_single {network : Network χ} {id : TransactionId} (hid : t.id = some id)
    (hfreeze : t.freezeFor network [node] = .ok next) :
    next.stage = .frozen ⟨[⟨node, encode (t.body id node), {}⟩]⟩ := by
  unfold freezeFor at hfreeze
  simp only [hid, makeOut] at hfreeze
  split at hfreeze
  next =>
    cases hfreeze
    rfl
  next => cases hfreeze

theorem sign_single {signer : Signer ω} {world : ω}
    (hstage : t.stage = .frozen ⟨[⟨node, octets, {}⟩]⟩)
    (hsign : (t.sign signer world).1 = .ok ()) :
    ∃ signature, (signer.sign octets world).1 = .ok signature ∧
      (t.sign signer world).2.1.stage =
        .frozen ⟨[⟨node, octets, ⟨[⟨signer.publicKey.bytes, signature⟩]⟩⟩]⟩ := by
  unfold sign at hsign ⊢
  simp only [bodies, hstage, SignedBodies.signAll, SignedBodies.signEach] at hsign ⊢
  rcases hsigner : signer.sign octets world with ⟨error | signature, after⟩
  · rw [hsigner] at hsign
    cases hsign
  · exact ⟨signature, rfl, rfl⟩

theorem signedFor_single {body : SignedBody} (hstage : t.stage = .frozen ⟨[body]⟩) :
    t.signedFor body.node = .ok body.signed := by
  unfold signedFor
  simp only [bodies, hstage]
  change SignedBodies.signedFor ⟨[body]⟩ body.node = _
  simp [SignedBodies.signedFor, SignedBodies.body?]

end Transaction

namespace Query

/-- What a payment says. -/
def paymentBody (operator : Operator ω) (id : TransactionId) (amount : Int64) (node : AccountId) :
    TransactionBody :=
  (transfer operator.account node amount).body id node

/-- A payment before it is frozen. -/
def paymentDraft (operator : Operator ω) (id : TransactionId) (amount : Int64)
    (node : AccountId) : Transaction :=
  { transfer operator.account node amount with nodes := [node], id := some id }

/-- A payment is frozen for its node and signed. -/
theorem pay_eq (operator : Operator ω) (network : Network χ) (id : TransactionId)
    (amount : Int64) (node : AccountId) (world : ω) :
    pay operator network id amount node world =
      match (paymentDraft operator id amount node).freezeFor network [node] with
      | .error error => (.error error, world)
      | .ok frozen =>
          ((do (frozen.sign operator.signer world).1
               (frozen.sign operator.signer world).2.1.signedFor node),
            (frozen.sign operator.signer world).2.2) := rfl

/-- A payment that is made says so, and has the signature of the operator and no other. -/
theorem pay_eq_ok {operator : Operator ω} {network : Network χ} {id : TransactionId}
    {amount : Int64} {node : AccountId} {world after : ω} {payment : SignedTransaction}
    (hpay : pay operator network id amount node world = (.ok payment, after)) :
    payment.body = encode (paymentBody operator id amount node) ∧
      ∃ signature, (operator.signer.sign payment.body world).1 = .ok signature ∧
        payment.signatures.pairs = [⟨operator.signer.publicKey.bytes, signature⟩] := by
  rw [pay_eq] at hpay
  split at hpay
  next => cases hpay
  next frozen hfreeze =>
    have hstage := Transaction.freezeFor_single rfl hfreeze
    cases hsign : (frozen.sign operator.signer world).1 with
    | error error =>
        rw [hsign] at hpay
        cases hpay
    | ok =>
        obtain ⟨signature, hsigned, hlast⟩ := Transaction.sign_single hstage hsign
        rw [hsign] at hpay
        have hfor := congrArg Prod.fst hpay
        change (frozen.sign operator.signer world).2.1.signedFor node = .ok payment at hfor
        have hbody := Transaction.signedFor_single hlast
        rw [hfor] at hbody
        cases hbody
        exact ⟨rfl, signature, hsigned, rfl⟩

theorem length_write_id (id : TransactionId) : (write id).length = 41 := by
  change ((write id.account) ++ (write id.validStart.seconds ++ write id.validStart.nanos) ++
    write id.scheduled ++ write id.nonce).length = 41
  simp only [List.length_append, EntityId.length_write]
  simp [write]

theorem length_write_leg (leg : AccountAmount) : (write leg).length = 32 := by
  change (write leg.account ++ write leg.amount).length = 32
  simp only [List.length_append, EntityId.length_write]
  simp [write]

theorem length_paymentBody (operator : Operator ω) (id : TransactionId) (amount : Int64)
    (node : AccountId) : (encode (paymentBody operator id amount node)).length = 165 := by
  have hmemo : (write "").length = 8 := by decide +kernel
  change (write id ++ write node ++ write (200000000 : UInt64) ++
    write (Duration.ofSeconds 120).seconds ++ write "" ++
    (writeVariant 0 ++ (writeLength 2 ++ (write (⟨operator.account, -amount⟩ : AccountAmount) ++
      (write (⟨node, amount⟩ : AccountAmount) ++ []))))).length = 165
  simp only [List.length_append, length_write_id, length_write_leg, EntityId.length_write, hmemo,
    length_writeVariant, length_writeLength, List.length_nil]
  simp [write]

/-- A transfer of an amount from the operator to a node, under an identifier, that the operator has
signed. -/
structure IsPayment (operator : Operator ω) (id : TransactionId) (amount : UInt64)
    (node : AccountId) (payment : SignedTransaction) : Prop where
  transfers : ∃ body debit credit, decoded TransactionBody payment.body = .ok body ∧
    body.node = node.bare ∧ body.transactionId = id ∧
    body.data = .cryptoTransfer [⟨operator.account.bare, debit⟩, ⟨node.bare, credit⟩] ∧
    debit.toInt = -amount.toNat ∧ credit.toInt = amount.toNat
  signed : ∃ world signature, (operator.signer.sign payment.body world).1 = .ok signature ∧
    payment.signatures.pairs = [⟨operator.signer.publicKey.bytes, signature⟩]

theorem IsPayment.of_beq {operator : Operator ω} {id : TransactionId} {amount : UInt64}
    {node other : AccountId} {payment : SignedTransaction}
    (hpayment : IsPayment operator id amount node payment) (hsame : (node == other) = true) :
    IsPayment operator id amount other payment := by
  obtain ⟨htransfers, hsigned⟩ := hpayment
  rw [EntityId.bare_eq_iff.mpr hsame] at htransfers
  exact ⟨htransfers, hsigned⟩

theorem toInt_amount {amount : UInt64} (hamount : amount.toNat < UInt64.size / 2) :
    (Int64.ofNat amount.toNat).toInt = amount.toNat ∧
      (-Int64.ofNat amount.toNat).toInt = -amount.toNat := by
  have hcredit : (Int64.ofNat amount.toNat).toInt = amount.toNat :=
    Int64.toInt_ofNat_of_lt hamount
  refine ⟨hcredit, ?_⟩
  rw [Int64.toInt_neg, hcredit]
  have hbound : amount.toNat < 2 ^ 63 := hamount
  apply Int.bmod_eq_of_le
  · omega
  · omega

theorem isPayment_of_pay {operator : Operator ω} {network : Network χ} {id : TransactionId}
    {amount : UInt64} {node : AccountId} {world after : ω} {payment : SignedTransaction}
    (hamount : amount.toNat < UInt64.size / 2)
    (hpay : pay operator network id (.ofNat amount.toNat) node world = (.ok payment, after)) :
    IsPayment operator id.bare amount node payment := by
  obtain ⟨hbody, hsigned⟩ := pay_eq_ok hpay
  obtain ⟨hcredit, hdebit⟩ := toInt_amount hamount
  refine ⟨?_, world, hsigned⟩
  have hlength := length_paymentBody operator id (.ofNat amount.toNat) node
  have hdecoded := Decoding.decoded_encode (paymentBody operator id (.ofNat amount.toNat) node)
    (by rw [hlength]; decide) []
  rw [List.append_nil, ← hbody] at hdecoded
  exact ⟨_, _, _, hdecoded, rfl, rfl, rfl, hdebit, hcredit⟩

/-! ### Payments to all nodes that may be asked -/

/-- Payments are made to all nodes, or none are. -/
theorem payEach_spec {operator : Operator ω} {network : Network χ} {id : TransactionId}
    {amount : UInt64} (hamount : amount.toNat < UInt64.size / 2) {nodes : List AccountId}
    {before made : Payments} {world after : ω}
    (hmade : payEach operator network id (.ofNat amount.toNat) nodes before world =
      (.ok made, after))
    (hbefore : ∀ entry ∈ before, IsPayment operator id.bare amount entry.1 entry.2) :
    (∀ entry ∈ made, IsPayment operator id.bare amount entry.1 entry.2) ∧ before ⊆ made ∧
      ∀ node ∈ nodes, ∃ payment, (node, payment) ∈ made := by
  induction nodes generalizing before world with
  | nil =>
      cases hmade
      exact ⟨hbefore, fun _ hmem => hmem, fun _ hmem => by cases hmem⟩
  | cons node rest ih =>
      unfold payEach at hmade
      split at hmade
      next => cases hmade
      next payment next hpay =>
        have hfirst := isPayment_of_pay hamount hpay
        obtain ⟨hall, hsubset, hrest⟩ := ih hmade fun entry hentry => by
          rcases List.mem_cons.mp hentry with rfl | hold
          · exact hfirst
          · exact hbefore entry hold
        refine ⟨hall, fun entry hentry => hsubset (List.mem_cons_of_mem _ hentry), ?_⟩
        intro other hother
        rcases List.mem_cons.mp hother with rfl | hlater
        · exact ⟨payment, hsubset List.mem_cons_self⟩
        · exact hrest other hlater

theorem exists_for?_of_mem {payments : Payments} {node other : AccountId}
    {payment : SignedTransaction} (hmem : (node, payment) ∈ payments)
    (hsame : (node == other) = true) :
    ∃ entry ∈ payments, payments.for? other = some entry.2 ∧ (entry.1 == other) = true := by
  unfold Payments.for?
  cases hfind : payments.find? (·.1 == other) with
  | none =>
      have hnone := List.find?_eq_none.mp hfind (node, payment) hmem
      exact absurd hsame hnone
  | some entry =>
      have hother := List.find?_some hfind
      exact ⟨entry, List.mem_of_find?_eq_some hfind, rfl, hother⟩

/-- Whichever of the nodes is asked, and however it is written, there is a payment to it. -/
theorem payments_spec {client : Client ω χ} {operator : Operator ω} {nodes : List AccountId}
    {amount : UInt64} {scene after : Scene ω χ} {made : Payments}
    (hoperator : client.operator = some operator)
    (hmade : payments client nodes amount scene = (.ok made, after)) :
    ∃ id, ∀ node ∈ nodes, ∀ other, (node == other) = true →
      ∃ payment, made.for? other = some payment ∧ IsPayment operator id amount other payment := by
  unfold payments at hmade
  rw [hoperator] at hmade
  simp only at hmade
  split at hmade
  next hamount =>
    refine ⟨(client.generateId operator.account scene).1.bare, fun node hnode other hsame => ?_⟩
    have heach : payEach operator (client.generateId operator.account scene).2.network
        (client.generateId operator.account scene).1 (.ofNat amount.toNat) nodes []
        (client.generateId operator.account scene).2.world = (.ok made, after.world) := by
      obtain ⟨houtcome, rfl⟩ := Prod.mk.inj hmade
      exact Prod.ext houtcome rfl
    obtain ⟨hall, _, hnodes⟩ := payEach_spec hamount heach (by simp)
    obtain ⟨payment, hpayment⟩ := hnodes node hnode
    obtain ⟨entry, hentry, hfor, hother⟩ := exists_for?_of_mem hpayment hsame
    exact ⟨entry.2, hfor, (hall entry hentry).of_beq hother⟩
  next => cases hmade

theorem payments_of_large {client : Client ω χ} {operator : Operator ω} {amount : UInt64}
    (hoperator : client.operator = some operator) (hlarge : ¬ amount.toNat < UInt64.size / 2)
    (nodes : List AccountId) (scene : Scene ω χ) :
    payments client nodes amount scene = (.error (.config (.paymentTooLarge amount)), scene) := by
  unfold payments
  rw [hoperator]
  exact if_neg hlarge

/-! ### The call -/

/-- There is always a node to choose. -/
theorem chooseNodes_ne_nil (client : Client ω χ) (named : List AccountId) (scene : Scene ω χ) :
    (client.chooseNodes named scene).1 ≠ [] := by
  unfold Client.chooseNodes
  by_cases hnamed : named.isEmpty
  · rw [if_pos hnamed]
    apply Network.transactionCandidates_ne_nil
  · rw [if_neg hnamed]
    exact fun hnil => hnamed (List.isEmpty_iff.mpr hnil)

theorem mem_chooseNodes_of_pinned {query : Query α} {account : AccountId}
    (hpinned : query.question.pinned = some account) (client : Client ω χ) (scene : Scene ω χ) :
    account ∈ (client.chooseNodes query.named scene).1 := by
  have hnamed : query.named = [account] := by
    unfold named
    rw [hpinned]
  rw [hnamed]
  exact List.mem_singleton_self account

theorem prepare_of_due {query : Query α} {type : ResponseType} {amount : UInt64}
    (hdue : query.due type = some amount) (client : Client ω χ) (scene : Scene ω χ) :
    query.prepare client type scene =
      let chosen := client.chooseNodes query.named scene
      ((payments client chosen.1 amount chosen.2).1.map fun made =>
          query.operation type chosen.1 (some made),
        (payments client chosen.1 amount chosen.2).2) := by
  unfold prepare
  rw [hdue]

/-- The request with which a question is asked. -/
def asking (query : Query α) (type : ResponseType) (payment : Option SignedTransaction) : Request :=
  .query ⟨⟨payment, type⟩, query.question.body⟩

/-- A call is refused before its first attempt, or it runs the operation that was prepared. -/
theorem run_cases (query : Query α) (client : Client ω χ) (type : ResponseType)
    (scene : Scene ω χ) :
    let run := query.run client type scene
    (∃ error, client.checkIds scene query.question.entities = .error error ∧
      run = .refused error scene) ∨
    (∃ error after, query.prepare client type scene = (.error error, after) ∧
      run = .refused error after) ∨
    ∃ operation after, query.prepare client type scene = (.ok operation, after) ∧
      run = client.execute operation after := by
  intro run
  have hrun : run = query.run client type scene := rfl
  unfold Query.run at hrun
  split at hrun
  next error hcheck => exact .inl ⟨error, hcheck, hrun⟩
  next hcheck =>
    refine .inr ?_
    split at hrun
    next error after hprepare => exact .inl ⟨error, after, hprepare, hrun⟩
    next operation after hprepare => exact .inr ⟨operation, after, hprepare, hrun⟩

/-- An attempt for which there is a request sends it. -/
theorem sends_of_request {operation : Operation Response} {client : Client ω χ}
    {scene : Scene ω χ} {attempt : Attempt} {request : Request}
    (hattempt : attempt ∈ (client.execute operation scene).attempts)
    (hrequest : operation.request attempt.member.account = .ok request) :
    attempt.request = some (encode request) ∧ ∀ error, attempt.ending ≠ .unbuilt error := by
  refine ⟨?_, fun error hunbuilt => ?_⟩
  · rw [Execution.request_of_mem_execute hattempt, hrequest]
    rfl
  · have hnone := Execution.request_of_unbuilt attempt hattempt hunbuilt
    cases hrequest.symm.trans hnone

theorem sends_nothing_of_free {query : Query α} {client : Client ω χ} {type : ResponseType}
    {scene : Scene ω χ} (hfree : query.due type = none) :
    ∀ attempt ∈ (query.run client type scene).attempts,
      attempt.request = some (encode (query.asking type none)) ∧
        ∀ error, attempt.ending ≠ .unbuilt error := by
  intro attempt hattempt
  have hprepared : query.prepare client type scene =
      (.ok (query.operation type query.named none), scene) := by
    unfold prepare
    rw [hfree]
  rcases query.run_cases client type scene with
    ⟨error, _, hrun⟩ | ⟨error, after, _, hrun⟩ | ⟨operation, after, hprepare, hrun⟩
  · rw [hrun] at hattempt
    cases hattempt
  · rw [hrun] at hattempt
    cases hattempt
  · rw [hrun] at hattempt
    cases hprepared.symm.trans hprepare
    exact sends_of_request hattempt rfl

theorem sends_payments_of_due {query : Query α} {client : Client ω χ} {operator : Operator ω}
    {type : ResponseType} {scene : Scene ω χ} {amount : UInt64}
    (hoperator : client.operator = some operator) (hdue : query.due type = some amount) :
    ∃ id, ∀ attempt ∈ (query.run client type scene).attempts,
      (∀ error, attempt.ending ≠ .unbuilt error) ∧
      ∃ payment, attempt.request = some (encode (query.asking type (some payment))) ∧
        IsPayment operator id amount attempt.member.account payment := by
  rcases query.run_cases client type scene with
    ⟨error, _, hrun⟩ | ⟨error, after, _, hrun⟩ | ⟨operation, after, hprepare, hrun⟩
  · rw [hrun]
    exact ⟨default, fun attempt hattempt => by cases hattempt⟩
  · rw [hrun]
    exact ⟨default, fun attempt hattempt => by cases hattempt⟩
  · rw [hrun]
    rw [prepare_of_due hdue] at hprepare
    obtain ⟨hmap, hafter⟩ := Prod.mk.inj hprepare
    cases hmade : (payments client (client.chooseNodes query.named scene).1 amount
        (client.chooseNodes query.named scene).2).1 with
    | error error =>
        rw [hmade] at hmap
        cases hmap
    | ok made =>
        rw [hmade] at hmap
        cases hmap
        obtain ⟨id, hpayments⟩ := payments_spec hoperator (Prod.ext hmade rfl)
        refine ⟨id, fun attempt hattempt => ?_⟩
        -- The node asked is among those that payments were made to.
        obtain ⟨candidate, hcandidate, hsame⟩ :=
          Execution.candidate_of_mem_execute (chooseNodes_ne_nil client query.named scene)
            (fun account hpinned => mem_chooseNodes_of_pinned hpinned client scene) attempt hattempt
        obtain ⟨payment, hfor, hpayment⟩ :=
          hpayments candidate hcandidate attempt.member.account hsame
        have hrequest : (query.operation type (client.chooseNodes query.named scene).1
            (some made)).request attempt.member.account =
              .ok (query.asking type (some payment)) := by
          simp only [Query.operation, hfor]
          rfl
        obtain ⟨hsent, hbuilt⟩ := sends_of_request hattempt hrequest
        exact ⟨hbuilt, payment, hsent, hpayment⟩

theorem refused_of_large {query : Query α} {client : Client ω χ} {operator : Operator ω}
    {type : ResponseType} {scene : Scene ω χ} {amount : UInt64}
    (hoperator : client.operator = some operator) (hdue : query.due type = some amount)
    (hlarge : 2 ^ 63 ≤ amount.toNat) :
    ∃ error after, query.run client type scene = .refused error after ∧
      (after = scene ∨ after = (client.chooseNodes query.named scene).2) ∧
      (client.checkIds scene query.question.entities = .ok () →
        error = .config (.paymentTooLarge amount)) := by
  have hprepared : query.prepare client type scene =
      (.error (.config (.paymentTooLarge amount)), (client.chooseNodes query.named scene).2) := by
    rw [prepare_of_due hdue]
    simp only [payments_of_large hoperator (Nat.not_lt.mpr hlarge)]
    rfl
  rcases query.run_cases client type scene with
    ⟨error, hcheck, hrun⟩ | ⟨error, after, hprepare, hrun⟩ | ⟨operation, after, hprepare, hrun⟩
  · refine ⟨error, scene, hrun, .inl rfl, fun hok => ?_⟩
    cases hcheck.symm.trans hok
  · cases hprepared.symm.trans hprepare
    exact ⟨_, _, hrun, .inr rfl, fun _ => rfl⟩
  · cases hprepared.symm.trans hprepare

/-- A client with an operator pays for a query just where it is to be paid for. Then each node that
is asked is sent a payment to itself, of the amount and under the one identifier of the call. An
amount that no transfer can carry is refused before anything is sent; at most the clock was read
then, to choose the nodes. -/
theorem run_payments (query : Query α) (client : Client ω χ) (type : ResponseType)
    (scene : Scene ω χ) {operator : Operator ω} (hoperator : client.operator = some operator) :
    let run := query.run client type scene
    (type = .costAnswer ∨ query.question.isFree = true ∨ query.payment = none →
      ∀ attempt ∈ run.attempts, attempt.request = some (encode (query.asking type none)) ∧
        ∀ error, attempt.ending ≠ .unbuilt error) ∧
    (type = .answerOnly → query.question.isFree = false →
      ∀ amount, query.payment = some amount →
        (2 ^ 63 ≤ amount.toNat → ∃ error after, run = .refused error after ∧
          (after = scene ∨ after = (client.chooseNodes query.named scene).2) ∧
          (client.checkIds scene query.question.entities = .ok () →
            error = .config (.paymentTooLarge amount))) ∧
        ∃ id, ∀ attempt ∈ run.attempts, (∀ error, attempt.ending ≠ .unbuilt error) ∧
          ∃ payment, attempt.request = some (encode (query.asking .answerOnly (some payment))) ∧
            IsPayment operator id amount attempt.member.account payment) := by
  intro run
  constructor
  · intro hfree
    have hdue : query.due type = none := by
      unfold due
      rcases hfree with rfl | hfree | hnone
      · rfl
      · rw [hfree, if_neg (by simp)]
      · rw [hnone]
        split <;> rfl
    exact sends_nothing_of_free hdue
  · rintro rfl hpaid amount hamount
    have hdue : query.due .answerOnly = some amount := by
      unfold due
      rw [hpaid, hamount]
      rfl
    exact ⟨refused_of_large hoperator hdue, sends_payments_of_due hoperator hdue⟩

/-- A question for a balance that is paid for. -/
def paidBalance : Query Unit where
  question := { name := "balance", body := .accountBalance (.ofNum 9), value := fun _ => .ok () }
  payment := some 25

theorem run_payments_failover :
    let run := paidBalance.run Transaction.clerk .answerOnly
      (Execution.rehearsed [.error .closed, .ok (encode { precheck := .ok : Response })])
    run.attempts.map (·.member.account.num) = [3, 4] ∧
      ∃ operator id, Transaction.clerk.operator = some operator ∧ ∀ attempt ∈ run.attempts,
        ∃ payment, attempt.request = some (encode (paidBalance.asking .answerOnly (some payment))) ∧
          IsPayment operator id 25 attempt.member.account payment := by
  intro run
  have hnodes : run.attempts.map (·.member.account.num) = [3, 4] := by decide +kernel
  obtain ⟨_, hpaid⟩ := run_payments paidBalance Transaction.clerk .answerOnly
    (Execution.rehearsed [.error .closed, .ok (encode { precheck := .ok : Response })]) rfl
  obtain ⟨_, id, hsent⟩ := hpaid rfl rfl 25 rfl
  exact ⟨hnodes, _, id, rfl, fun attempt hattempt => (hsent attempt hattempt).2⟩

end Query

end LedgerClient
