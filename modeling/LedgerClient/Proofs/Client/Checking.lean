import LedgerClient.Proofs.Outcome
import LedgerClient.Proofs.Query.Payments
import LedgerClient.Query.Polls

/-!
# Checking of identifiers

A client that is to check identifiers does so where it freezes a transaction and where it asks
a question, before anything is sent: one identifier with the checksum of another ledger stops
the call. A transaction is checked when it is frozen and not again, so what is sent of it has
been checked if clients that check froze it.
-/

namespace LedgerClient

variable {ω χ α : Type}

/-! ### The check -/

/-- The error tells of one of the identifiers, which carries a checksum it does not have on the
ledger. -/
def ClientError.TellsOf (error : ClientError) (ledger : LedgerId) (ids : List EntityId) : Prop :=
  ∃ id ∈ ids, ∃ mismatch, id.validate ledger = .error mismatch ∧
    error = .checksumMismatch mismatch

namespace Client

variable {client : Client ω χ} {scene : Scene ω χ} {ids : List EntityId}

theorem check_eq_ok_iff {ledger : LedgerId} {id : EntityId} :
    id.check ledger = .ok () ↔ id.validate ledger = .ok () := by
  unfold EntityId.check
  cases id.validate ledger with
  | error mismatch => constructor <;> intro hok <;> cases hok
  | ok => exact ⟨fun _ => rfl, fun _ => rfl⟩

theorem check_eq_error {ledger : LedgerId} {id : EntityId} {mismatch : Checksum.Mismatch}
    (hvalidate : id.validate ledger = .error mismatch) :
    id.check ledger = .error (.checksumMismatch mismatch) := by
  rw [EntityId.check, hvalidate]
  rfl

theorem checkIds_eq_forM (hauto : client.autoValidate = true) :
    client.checkIds scene ids = ids.forM fun id => id.check scene.network.ledgerId :=
  if_pos hauto

theorem checkIds_eq_ok_iff (hauto : client.autoValidate = true) :
    client.checkIds scene ids = .ok () ↔
      ∀ id ∈ ids, id.validate scene.network.ledgerId = .ok () := by
  rw [checkIds_eq_forM hauto, Outcome.forM_eq_ok_iff]
  exact forall₂_congr fun _ _ => check_eq_ok_iff

theorem tellsOf_of_checkIds (hauto : client.autoValidate = true) {error : ClientError}
    (hcheck : client.checkIds scene ids = .error error) :
    error.TellsOf scene.network.ledgerId ids := by
  rw [checkIds_eq_forM hauto] at hcheck
  obtain ⟨before, id, after, hids, _, hid⟩ := Outcome.forM_eq_error hcheck
  have hmem : id ∈ ids := hids ▸ List.mem_append_right before List.mem_cons_self
  cases hvalidate : id.validate scene.network.ledgerId with
  | ok => cases (check_eq_ok_iff.mpr hvalidate).symm.trans hid
  | error mismatch =>
      cases (check_eq_error hvalidate).symm.trans hid
      exact ⟨id, hmem, mismatch, hvalidate, rfl⟩

theorem checkIds_of_rejected (hauto : client.autoValidate = true) {id : EntityId} (hid : id ∈ ids)
    (hrejected : id.validate scene.network.ledgerId ≠ .ok ()) :
    ∃ error, client.checkIds scene ids = .error error := by
  cases hcheck : client.checkIds scene ids with
  | error error => exact ⟨error, rfl⟩
  | ok => exact absurd ((checkIds_eq_ok_iff hauto).mp hcheck id hid) hrejected

end Client

namespace Transaction

variable {t next : Transaction} {client : Client ω χ} {scene after : Scene ω χ} {ledger : LedgerId}

/-- The identifiers a transaction is checked for: those it mentions and the nodes it asks for. -/
def checked (t : Transaction) : List EntityId := t.data.entities ++ t.nodes

/-! ### Freezing with a client -/

/-- Naming a transaction leaves what it is checked for, and the network. -/
theorem checked_nameWith {named : Transaction}
    (hname : t.nameWith client scene = (.ok named, after)) :
    named.checked = t.checked ∧ named.stage = t.stage ∧ after.network = scene.network := by
  obtain ⟨_, hnamed, hnetwork⟩ := named_of_nameWith hname
  rw [hnamed]
  exact ⟨rfl, rfl, hnetwork⟩

/-- A draft cannot be named, or fails the check, or was checked and is frozen if its nodes are
known. -/
theorem freezeWith_of_draft (hdraft : t.stage = .draft) :
    let done := t.freezeWith client scene
    (t.id = none ∧ client.operator = none ∧ done = (.error .transactionIdRequired, t, scene)) ∨
    ∃ named after, named.checked = t.checked ∧ named.stage = .draft ∧
      after.network = scene.network ∧
      ((∃ error, client.checkIds after named.checked = .error error ∧
          done = (.error error, named, after)) ∨
        client.checkIds after named.checked = .ok () ∧
          ((∃ error, done = (.error error, named, (client.chooseNodes named.nodes after).2)) ∨
            ∃ bodies, done = (.ok (), { named with stage := .frozen bodies },
              (client.chooseNodes named.nodes after).2))) := by
  intro done
  have hdone : FreezesWith t client scene done := freezesWith hdraft client scene
  clear_value done
  cases hdone with
  | unnamed hname =>
      obtain ⟨hid, hoperator, rfl, rfl⟩ := nameWith_eq_error hname
      exact .inl ⟨hid, hoperator, rfl⟩
  | rejected hname hcheck =>
      obtain ⟨hchecked, hstage, hnetwork⟩ := checked_nameWith hname
      exact .inr ⟨_, _, hchecked, hstage.trans hdraft, hnetwork, .inl ⟨_, hcheck, rfl⟩⟩
  | stopped hname hcheck _ =>
      obtain ⟨hchecked, hstage, hnetwork⟩ := checked_nameWith hname
      exact .inr ⟨_, _, hchecked, hstage.trans hdraft, hnetwork, .inr ⟨hcheck, .inl ⟨_, rfl⟩⟩⟩
  | frozen hname hcheck hfreeze =>
      obtain ⟨hchecked, hstage, hnetwork⟩ := checked_nameWith hname
      obtain ⟨bodies, _, _, _, rfl⟩ := freezeFor_eq_ok hfreeze
      exact .inr ⟨_, _, hchecked, hstage.trans hdraft, hnetwork, .inr ⟨hcheck, .inr ⟨bodies, rfl⟩⟩⟩

theorem execute_of_freezeWith_error {error : ClientError} (hdraft : t.stage = .draft)
    (hfreeze : t.freezeWith client scene = (.error error, next, after)) :
    t.execute client scene = (.refused error after, next) := by
  have hprepare : t.prepare client scene = (.error error, next, after) := by
    unfold prepare
    have hnot : t.isFrozen = false := by simp [isFrozen, hdraft]
    simp only [hnot, hfreeze]
    rfl
  unfold execute
  simp only [hdraft, hprepare]

/-- A draft with an identifier that is rejected is neither frozen nor submitted. -/
theorem stopped_of_rejected (hauto : client.autoValidate = true) (hdraft : t.stage = .draft)
    {id : EntityId} (hid : id ∈ t.checked)
    (hrejected : id.validate scene.network.ledgerId ≠ .ok ()) :
    ∃ error next after, next.stage = .draft ∧ after.network = scene.network ∧
      (error.TellsOf scene.network.ledgerId t.checked ∨
        t.id = none ∧ client.operator = none ∧ error = .transactionIdRequired) ∧
      t.freezeWith client scene = (.error error, next, after) ∧
      t.execute client scene = (.refused error after, next) := by
  rcases freezeWith_of_draft hdraft with
    ⟨hname, hoperator, hdone⟩ | ⟨named, after, hchecked, hstage, hnetwork, hcases⟩
  · exact ⟨_, t, scene, hdraft, rfl, .inr ⟨hname, hoperator, rfl⟩, hdone,
      execute_of_freezeWith_error hdraft hdone⟩
  · have hledger : after.network.ledgerId = scene.network.ledgerId := by rw [hnetwork]
    obtain ⟨other, hother⟩ : ∃ error, client.checkIds after named.checked = .error error := by
      refine Client.checkIds_of_rejected hauto (hchecked ▸ hid) ?_
      rw [hledger]
      exact hrejected
    rcases hcases with ⟨error, hcheck, hdone⟩ | ⟨hcheck, _⟩
    · have htells := Client.tellsOf_of_checkIds hauto hcheck
      rw [hledger, hchecked] at htells
      exact ⟨error, named, after, hstage, hnetwork, .inl htells, hdone,
        execute_of_freezeWith_error hdraft hdone⟩
    · cases hother.symm.trans hcheck

/-! ### Histories of checked transactions -/

/-- A client that may freeze the transaction checks it for the ledger. -/
def Act.IsVetted (ledger : LedgerId) : Act ω χ → Prop
  | .freeze _ => False
  | .freezeWith client scene | .execute client scene =>
      client.autoValidate = true ∧ scene.network.ledgerId = ledger
  | _ => True

/-- Whatever has been frozen of a transaction is accepted by the ledger. -/
def IsVetted (t : Transaction) (ledger : LedgerId) : Prop :=
  t.isFrozen = true → ∀ id ∈ t.checked, id.validate ledger = .ok ()

theorem isVetted_of_draft (hdraft : t.stage = .draft) : t.IsVetted ledger := by
  intro hfrozen
  simp [isFrozen, hdraft] at hfrozen

theorem isVetted_edit (ht : t.IsVetted ledger) (change : Transaction → Transaction)
    (hstage : (change t).stage = t.stage) : (t.kept (t.edit change)).IsVetted ledger := by
  cases hdraft : t.requireDraft with
  | error error =>
      simp only [edit, hdraft, Except.map, kept]
      exact ht
  | ok =>
      simp only [edit, hdraft, Except.map, kept]
      exact isVetted_of_draft (hstage.trans (requireDraft_eq_ok_iff.mp hdraft))

theorem isVetted_freezeWith (ht : t.IsVetted ledger) (hauto : client.autoValidate = true)
    (hledger : scene.network.ledgerId = ledger) :
    (t.freezeWith client scene).2.1.IsVetted ledger := by
  by_cases hdraft : t.stage = .draft
  · rcases freezeWith_of_draft hdraft with
      ⟨_, _, hdone⟩ | ⟨named, after, _, hstage, hnetwork, ⟨_, _, hdone⟩ | ⟨hcheck, hfrozen⟩⟩
    · rw [hdone]
      exact ht
    · rw [hdone]
      exact isVetted_of_draft hstage
    · rcases hfrozen with ⟨_, hdone⟩ | ⟨bodies, hdone⟩
      · rw [hdone]
        exact isVetted_of_draft hstage
      · rw [hdone]
        intro _ id hid
        have haccepted := (Client.checkIds_eq_ok_iff hauto).mp hcheck id hid
        rwa [hnetwork, hledger] at haccepted
  · -- What is no draft is refused, and stays as it was vetted.
    rcases freezeWith_cases t client scene with ⟨_, _, hsame | hsame⟩ | ⟨hsame, _⟩
    · exact absurd hsame hdraft
    · rw [hsame]
      exact ht
    · exact absurd hsame hdraft

/-- Signing changes neither what a transaction is checked for nor whether it is frozen. -/
theorem isVetted_sign (ht : t.IsVetted ledger) (signer : Signer ω) (world : ω) :
    (t.sign signer world).2.1.IsVetted ledger := by
  unfold sign
  cases hbodies : t.bodies with
  | error error => exact ht
  | ok bodies =>
      have hfrozen : t.isFrozen = true := by
        unfold Transaction.bodies at hbodies
        unfold isFrozen
        split at hbodies <;> simp_all
      exact fun _ => ht hfrozen

theorem isVetted_signWithOperator (ht : t.IsVetted ledger) (client : Client ω χ)
    (scene : Scene ω χ) : (t.signWithOperator client scene).2.1.IsVetted ledger := by
  unfold signWithOperator
  split
  next => exact ht
  next operator _ => exact isVetted_sign ht operator.signer scene.world

theorem isVetted_addSignature (ht : t.IsVetted ledger) (node : AccountId) (key : PublicKey)
    (signature : Bytes) : (t.kept (t.addSignature node key signature)).IsVetted ledger := by
  cases hadd : t.addSignature node key signature with
  | error error => exact ht
  | ok next =>
      obtain ⟨bodies, signed, hstage, _, rfl⟩ := addSignature_eq_ok hadd
      exact fun _ => ht (isFrozen_of_frozen hstage)

theorem isVetted_prepare (ht : t.IsVetted ledger) (hauto : client.autoValidate = true)
    (hledger : scene.network.ledgerId = ledger) :
    (t.prepare client scene).2.1.IsVetted ledger := by
  have hfreeze : ∃ outcome frozen after, (if t.isFrozen then (.ok (), t, scene)
      else t.freezeWith client scene) = (outcome, frozen, after) ∧ frozen.IsVetted ledger := by
    split
    next => exact ⟨_, _, _, rfl, ht⟩
    next => exact ⟨_, _, _, rfl, isVetted_freezeWith ht hauto hledger⟩
  obtain ⟨outcome, frozen, after, hdone, hfrozen⟩ := hfreeze
  unfold prepare
  rw [hdone]
  cases outcome with
  | error error => exact hfrozen
  | ok =>
      cases client.operator with
      | none => exact hfrozen
      | some operator => exact isVetted_signWithOperator hfrozen client after

/-- A call that submits the transaction leaves it as it was prepared, or accepted by a node. -/
theorem isVetted_execute (ht : t.IsVetted ledger) (hauto : client.autoValidate = true)
    (hledger : scene.network.ledgerId = ledger) :
    (t.execute client scene).2.IsVetted ledger := by
  have hprepared := isVetted_prepare ht hauto hledger
  rcases execute_leaves t client scene with hleft | hleft | ⟨bodies, node, hstage, haccepted⟩
  · rw [hleft]
    exact ht
  · rw [hleft]
    exact hprepared
  · obtain ⟨hash, _, hleft⟩ := accepted_eq_ok haccepted
    rw [hleft]
    exact fun _ => hprepared (isFrozen_of_frozen hstage)

theorem isFrozen_of_mem_sendings {sending : Sending ω}
    (hsending : sending ∈ t.sendings client scene) :
    sending.prepared = (t.prepare client scene).2.1 ∧ sending.prepared.isFrozen = true := by
  obtain ⟨attempt, hattempt, hrequest⟩ := List.mem_filterMap.mp hsending
  obtain ⟨request, _, rfl⟩ := Option.map_eq_some_iff.mp hrequest
  refine ⟨rfl, ?_⟩
  obtain ⟨_, hnone | ⟨_, id, bodies, _, hstage, _⟩⟩ := execute_spec t client scene
  · rw [hnone] at hattempt
    cases hattempt
  · exact isFrozen_of_frozen hstage

/-- An act that is vetted leaves a vetted transaction, and what it sends is accepted. -/
theorem isVetted_perform (ht : t.IsVetted ledger) {act : Act ω χ} (hact : act.IsVetted ledger) :
    (t.perform act).1.IsVetted ledger ∧ ∀ sending ∈ (t.perform act).2,
      ∀ id ∈ sending.prepared.checked, id.validate ledger = .ok () := by
  have hnothing : ∀ sending ∈ ([] : List (Sending ω)),
      ∀ id ∈ sending.prepared.checked, id.validate ledger = .ok () :=
    fun _ hmem => by cases hmem
  cases act with
  | setNodes nodes => exact ⟨isVetted_edit ht _ rfl, hnothing⟩
  | setId id => exact ⟨isVetted_edit ht _ rfl, hnothing⟩
  | setMaxFee maxFee => exact ⟨isVetted_edit ht _ rfl, hnothing⟩
  | setMemo memo => exact ⟨isVetted_edit ht _ rfl, hnothing⟩
  | setValidDuration validDuration => exact ⟨isVetted_edit ht _ rfl, hnothing⟩
  | setSettings settings => exact ⟨ht, hnothing⟩
  | freeze network => exact hact.elim
  | freezeWith client scene => exact ⟨isVetted_freezeWith ht hact.1 hact.2, hnothing⟩
  | sign signer world => exact ⟨isVetted_sign ht signer world, hnothing⟩
  | signWithOperator client scene => exact ⟨isVetted_signWithOperator ht client scene, hnothing⟩
  | addSignature node key signature => exact ⟨isVetted_addSignature ht node key signature, hnothing⟩
  | execute client scene =>
      refine ⟨isVetted_execute ht hact.1 hact.2, fun sending hsending => ?_⟩
      obtain ⟨hprepared, hfrozen⟩ := isFrozen_of_mem_sendings hsending
      have hvetted := isVetted_prepare ht hact.1 hact.2
      rw [← hprepared] at hvetted
      exact hvetted hfrozen

theorem accepted_of_mem_history (ht : t.IsVetted ledger) {acts : List (Act ω χ)}
    (hacts : ∀ act ∈ acts, act.IsVetted ledger) :
    ∀ sending ∈ (t.history acts).2, ∀ id ∈ sending.prepared.checked,
      id.validate ledger = .ok () := by
  induction acts generalizing t with
  | nil => exact fun _ hmem => by cases hmem
  | cons act rest ih =>
      obtain ⟨hnext, hsent⟩ := isVetted_perform ht (hacts act List.mem_cons_self)
      intro sending hsending
      rcases List.mem_append.mp hsending with hfirst | hlater
      · exact hsent sending hfirst
      · have hrest : ∀ later ∈ rest, later.IsVetted ledger :=
          fun later hmem => hacts later (List.mem_cons_of_mem act hmem)
        exact ih hnext hrest sending hlater

end Transaction

/-! ### Questions -/

/-- A question with an identifier that is rejected is not asked. -/
theorem Query.refused_of_rejected {query : Query α} {client : Client ω χ} {scene : Scene ω χ}
    (hauto : client.autoValidate = true) {id : EntityId} (hid : id ∈ query.question.entities)
    (hrejected : id.validate scene.network.ledgerId ≠ .ok ()) :
    ∃ error : ClientError, error.TellsOf scene.network.ledgerId query.question.entities ∧
      ∀ type, query.run client type scene = .refused error scene := by
  obtain ⟨error, hcheck⟩ := Client.checkIds_of_rejected hauto hid hrejected
  refine ⟨error, Client.tellsOf_of_checkIds hauto hcheck, fun type => ?_⟩
  unfold Query.run
  rw [hcheck]

/-! ### Calls -/

namespace Checking

/-- What an identifier that is rejected keeps a client from. -/
structure Stops (client : Client ω χ) (scene : Scene ω χ) : Prop where
  /-- A draft is neither frozen nor submitted; the reason may be that it cannot even be named. -/
  drafts : ∀ t : Transaction, t.stage = .draft → ∀ id ∈ t.checked,
    id.validate scene.network.ledgerId ≠ .ok () →
    ∃ error next after, next.stage = .draft ∧ after.network = scene.network ∧
      (error.TellsOf scene.network.ledgerId t.checked ∨
        t.id = none ∧ client.operator = none ∧ error = .transactionIdRequired) ∧
      t.freezeWith client scene = (.error error, next, after) ∧
      t.execute client scene = (.refused error after, next)
  /-- A question is neither asked nor asked the cost of. -/
  questions : ∀ (α : Type) (query : Query α), ∀ id ∈ query.question.entities,
    id.validate scene.network.ledgerId ≠ .ok () →
    ∃ error : ClientError, error.TellsOf scene.network.ledgerId query.question.entities ∧
      query.execute client scene = .refused error scene ∧
      query.cost client scene = .refused error scene

/-- A client that checks identifiers freezes, submits and asks nothing with one that the ledger of
its network rejects, and sends nothing then. Where only such clients, on networks of one ledger,
freeze and submit a transaction, every request that is ever sent of it is sent of one whose
identifiers the ledger accepts, whatever else is done with it. -/
theorem rejected_ids_are_not_sent (client : Client ω χ) (hauto : client.autoValidate = true)
    (scene : Scene ω χ) :
    Stops client scene ∧
      ∀ (t : Transaction) (ledger : LedgerId) (acts : List (Transaction.Act ω χ)),
        t.stage = .draft → (∀ act ∈ acts, act.IsVetted ledger) →
        ∀ sending ∈ (t.history acts).2, ∀ id ∈ sending.prepared.checked,
          id.validate ledger = .ok () := by
  refine ⟨⟨fun t hdraft id hid hrejected => ?_, fun α query id hid hrejected => ?_⟩, ?_⟩
  · exact Transaction.stopped_of_rejected hauto hdraft hid hrejected
  · obtain ⟨error, htells, hrefused⟩ := Query.refused_of_rejected hauto hid hrejected
    refine ⟨error, htells, ?_, ?_⟩
    · rw [Query.execute, hrefused]
      rfl
    · rw [Query.cost, hrefused]
      rfl
  · intro t ledger acts hdraft hacts
    exact Transaction.accepted_of_mem_history (Transaction.isVetted_of_draft hdraft) hacts

/-- An identifier as it is written for another ledger. -/
def stray (num : UInt64) : EntityId := { EntityId.ofNum num with checksum := some "aaaaa" }

def wary : Client (List (Except TransportError Bytes)) Unit :=
  { Transaction.clerk with autoValidate := true }

/-- Two nodes, the first of which asked will answer with `ok`. -/
def willing : Scene (List (Except TransportError Bytes)) Unit :=
  Execution.rehearsed [.ok (Wire.encode { precheck := .ok : Response })]

/-- A message to a topic, under an identifier of an account. -/
def message (topic account : EntityId) : Transaction :=
  { data := .submitMessage topic [1, 2, 3], id := some { (default : TransactionId) with account } }

theorem rejected_ids_are_not_sent_message :
    wary.autoValidate = true ∧ (stray 9).validate willing.network.ledgerId ≠ .ok () ∧
    (∃ error next after, (message (stray 9) (.ofNum 5)).execute wary willing =
        (.refused error after, next) ∧
      error.TellsOf willing.network.ledgerId (message (stray 9) (.ofNum 5)).checked) ∧
    let sent := ((message (.ofNum 9) (.ofNum 5)).history [.execute wary willing]).2
    sent.map (·.node.num) = [3] ∧ ∀ sending ∈ sent, ∀ id ∈ sending.prepared.checked,
      id.validate willing.network.ledgerId = .ok () := by
  have hrejected : (stray 9).validate willing.network.ledgerId ≠ .ok () := by decide +kernel
  obtain ⟨hstops, hhistories⟩ := rejected_ids_are_not_sent wary rfl willing
  refine ⟨rfl, hrejected, ?_, by decide +kernel, ?_⟩
  · obtain ⟨error, next, after, _, _, htells | ⟨hid, _⟩, _, hexecute⟩ :=
      hstops.drafts (message (stray 9) (.ofNum 5)) rfl (stray 9) List.mem_cons_self hrejected
    · exact ⟨error, next, after, hexecute, htells⟩
    · cases hid
  · refine hhistories (message (.ofNum 9) (.ofNum 5)) willing.network.ledgerId
      [.execute wary willing] rfl ?_
    intro act hact
    rw [List.mem_singleton.mp hact]
    exact ⟨rfl, rfl⟩

def sends {β : Type} (run : Run (List (Except TransportError Bytes)) Unit β) : Bool :=
  run.attempts.any (·.request.isSome)

/-- An identifier that is rejected does not keep a client that checks identifiers from sending a
transaction that was frozen without a client, or whose own identifier names it, nor from asking a
node, or polling one, under it. -/
theorem rejected_ids_unchecked :
    wary.autoValidate = true ∧
    (∀ num ∈ [3, 5, 9], (stray num).validate willing.network.ledgerId ≠ .ok ()) ∧
    (∃ frozen, (message (stray 9) (.ofNum 5)).freeze willing.network = .ok frozen ∧
      sends (frozen.execute wary willing).1 = true) ∧
    sends ((message (.ofNum 9) (stray 5)).execute wary willing).1 = true ∧
    sends (Query.execute { question := .balance (.ofNum 9), nodes := [stray 3] } wary willing) =
      true ∧
    sends (Query.execute
      { question := .receipt { transactionId := default, node := some (stray 3) } } wary willing) =
        true := by
  refine ⟨rfl, ?_, ⟨_, rfl, by decide +kernel⟩, by decide +kernel, by decide +kernel,
    by decide +kernel⟩
  intro num hnum
  simp only [List.mem_cons, List.not_mem_nil, or_false] at hnum
  rcases hnum with rfl | rfl | rfl <;> decide +kernel

end Checking

end LedgerClient
