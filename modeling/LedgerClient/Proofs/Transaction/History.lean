import LedgerClient.Proofs.Execution.Course
import LedgerClient.Proofs.Transaction.Bodies
import LedgerClient.Transaction.Submission

/-!
# Histories of a transaction

A transaction lives through any sequence of the things that can be done with it, with
any clients and networks. Once it is frozen, nothing changes what its bodies are made
out as, whatever fails or is tried again.
-/

namespace LedgerClient

/-- What can be done with a transaction. -/
inductive Transaction.Act (ω χ : Type) where
  | setNodes (nodes : List AccountId)
  | setId (id : TransactionId)
  | setMaxFee (maxFee : UInt64)
  | setMemo (memo : String)
  | setValidDuration (validDuration : Duration)
  | setSettings (settings : ExecuteSettings)
  | freeze (network : Network χ)
  | freezeWith (client : Client ω χ) (scene : Scene ω χ)
  | sign (signer : Signer ω) (world : ω)
  | signWithOperator (client : Client ω χ) (scene : Scene ω χ)
  | addSignature (node : AccountId) (key : PublicKey) (signature : Bytes)
  | execute (client : Client ω χ) (scene : Scene ω χ)

/-- A request that was to be sent for a transaction. -/
structure Sending (ω : Type) where
  /-- The node that it was to be sent to. -/
  node : AccountId
  request : Bytes
  /-- The transaction, frozen and signed, in the call that sent the request. -/
  prepared : Transaction
  /-- The operator of the client of that call. -/
  operator : Option (Operator ω)

namespace Transaction

variable {ω χ : Type}

/-- What is sent in a call that submits the transaction. -/
def sendings (t : Transaction) (client : Client ω χ) (scene : Scene ω χ) : List (Sending ω) :=
  (t.execute client scene).1.attempts.filterMap fun attempt =>
    attempt.request.map fun request =>
      ⟨attempt.member.account, request, (t.prepare client scene).2.1, client.operator⟩

/-- The transaction after something that may have failed and then left it as it was. -/
def kept (t : Transaction) (outcome : Outcome Transaction) : Transaction :=
  match outcome with
  | .ok next => next
  | .error _ => t

/-- The transaction after an act, and what was sent in it. -/
def perform (t : Transaction) : Act ω χ → Transaction × List (Sending ω)
  | .setNodes nodes => (t.kept (t.setNodes nodes), [])
  | .setId id => (t.kept (t.setId id), [])
  | .setMaxFee maxFee => (t.kept (t.setMaxFee maxFee), [])
  | .setMemo memo => (t.kept (t.setMemo memo), [])
  | .setValidDuration validDuration => (t.kept (t.setValidDuration validDuration), [])
  | .setSettings settings => (t.setSettings settings, [])
  | .freeze network => (t.kept (t.freeze network), [])
  | .freezeWith client scene => ((t.freezeWith client scene).2.1, [])
  | .sign signer world => ((t.sign signer world).2.1, [])
  | .signWithOperator client scene => ((t.signWithOperator client scene).2.1, [])
  | .addSignature node key signature => (t.kept (t.addSignature node key signature), [])
  | .execute client scene => ((t.execute client scene).2, t.sendings client scene)

/-- The transaction after a sequence of acts, and what was sent in them. -/
def history (t : Transaction) : List (Act ω χ) → Transaction × List (Sending ω)
  | [] => (t, [])
  | act :: rest =>
      let (next, sent) := t.perform act
      let (last, later) := next.history rest
      (last, sent ++ later)

/-! ### What acts do to a transaction -/

/-- The octets of the transaction made out for a node. -/
def made (t : Transaction) (id : TransactionId) (node : AccountId) : Bytes :=
  Wire.encode (t.body id node)

/-- A frozen transaction has an identifier, and its bodies are made out from its fields. -/
def IsSound (t : Transaction) : Prop :=
  ∀ bodies, t.stage = .frozen bodies → ∃ id, t.id = some id ∧ bodies.AreFor (t.made id)

/-- What an act may do to a transaction: it stays sound, and once it is frozen it stays so, with its
identifier and what it is made out as. -/
structure Advances (t next : Transaction) : Prop where
  sound : t.IsSound → next.IsSound
  frozen : t.isFrozen = true → next.isFrozen = true
  id_eq : t.isFrozen = true → next.id = t.id
  body_eq : t.isFrozen = true → next.body = t.body

namespace Advances

theorem refl (t : Transaction) : Advances t t :=
  ⟨fun hsound => hsound, fun hfrozen => hfrozen, fun _ => rfl, fun _ => rfl⟩

theorem trans {t next last : Transaction} (hfirst : Advances t next) (hsecond : Advances next last) :
    Advances t last where
  sound hsound := hsecond.sound (hfirst.sound hsound)
  frozen hfrozen := hsecond.frozen (hfirst.frozen hfrozen)
  id_eq hfrozen := (hsecond.id_eq (hfirst.frozen hfrozen)).trans (hfirst.id_eq hfrozen)
  body_eq hfrozen := (hsecond.body_eq (hfirst.frozen hfrozen)).trans (hfirst.body_eq hfrozen)

/-- A draft may become any sound transaction. -/
theorem of_draft {t next : Transaction} (hdraft : t.stage = .draft)
    (hsound : t.IsSound → next.IsSound) : Advances t next := by
  have hnot : ¬ t.isFrozen = true := by simp [Transaction.isFrozen, hdraft]
  exact ⟨hsound, fun hfrozen => absurd hfrozen hnot, fun hfrozen => absurd hfrozen hnot,
    fun hfrozen => absurd hfrozen hnot⟩

end Advances

theorem isSound_of_draft {t : Transaction} (hdraft : t.stage = .draft) : t.IsSound := by
  intro bodies hfrozen
  rw [hdraft] at hfrozen
  cases hfrozen

theorem isFrozen_of_frozen {t : Transaction} {bodies : SignedBodies}
    (hstage : t.stage = .frozen bodies) : t.isFrozen = true := by
  simp [isFrozen, hstage]

theorem requireDraft_eq_ok_iff {t : Transaction} :
    t.requireDraft = .ok () ↔ t.stage = .draft := by
  unfold requireDraft
  split <;> simp_all

theorem advances_edit (t : Transaction) (change : Transaction → Transaction)
    (hstage : (change t).stage = t.stage) : Advances t (t.kept (t.edit change)) := by
  cases hdraft : t.requireDraft with
  | error error =>
      simp only [edit, hdraft, Except.map, kept]
      exact .refl t
  | ok =>
      have hstill := requireDraft_eq_ok_iff.mp hdraft
      simp only [edit, hdraft, Except.map, kept]
      exact .of_draft hstill fun _ => isSound_of_draft (hstage.trans hstill)

theorem areFor_of_makeOut {t : Transaction} {network : Network χ} {id : TransactionId}
    {nodes : List AccountId} {bodies out : SignedBodies}
    (hout : t.makeOut network id nodes bodies = .ok out) (hbodies : bodies.AreFor (t.made id)) :
    out.AreFor (t.made id) := by
  induction nodes generalizing bodies with
  | nil =>
      cases hout
      exact hbodies
  | cons node rest ih =>
      unfold makeOut at hout
      split at hout
      next => exact ih hout (hbodies.insert node)
      next => cases hout

/-- Freezing succeeds with bodies for the nodes, and otherwise leaves nothing behind. -/
theorem makeOut_of_freezeFor {t next : Transaction} {network : Network χ} {nodes : List AccountId}
    (hfreeze : t.freezeFor network nodes = .ok next) :
    ∃ bodies id, t.id = some id ∧ t.makeOut network id nodes {} = .ok bodies ∧
      next = { t with stage := .frozen bodies } := by
  unfold freezeFor at hfreeze
  cases hid : t.id with
  | none => simp [hid] at hfreeze
  | some id =>
      cases hout : t.makeOut network id nodes {} with
      | error error => simp [hid, hout, bind, Except.bind] at hfreeze
      | ok bodies =>
          simp only [hid, hout] at hfreeze
          cases hfreeze
          exact ⟨bodies, id, rfl, hout, rfl⟩

theorem freezeFor_eq_ok {t next : Transaction} {network : Network χ} {nodes : List AccountId}
    (hfreeze : t.freezeFor network nodes = .ok next) :
    ∃ bodies id, t.id = some id ∧ bodies.AreFor (t.made id) ∧
      next = { t with stage := .frozen bodies } := by
  obtain ⟨bodies, id, hid, hout, hnext⟩ := makeOut_of_freezeFor hfreeze
  exact ⟨bodies, id, hid, areFor_of_makeOut hout (SignedBodies.areFor_empty _), hnext⟩

theorem isSound_of_frozen {t : Transaction} {bodies : SignedBodies} {id : TransactionId}
    (hid : t.id = some id) (hstage : t.stage = .frozen bodies) (hbodies : bodies.AreFor (t.made id)) :
    t.IsSound := by
  intro others hothers
  rw [hstage] at hothers
  cases hothers
  exact ⟨id, hid, hbodies⟩

theorem freeze_eq_ok {t next : Transaction} {network : Network χ}
    (hfreeze : t.freeze network = .ok next) :
    t.stage = .draft ∧ ∃ nodes, t.freezeFor network nodes = .ok next := by
  unfold freeze at hfreeze
  cases hdraft : t.requireDraft with
  | error error => simp [hdraft, bind, Except.bind] at hfreeze
  | ok =>
      simp only [hdraft] at hfreeze
      exact ⟨requireDraft_eq_ok_iff.mp hdraft, _, hfreeze⟩

theorem advances_freeze (t : Transaction) (network : Network χ) :
    Advances t (t.kept (t.freeze network)) := by
  cases hfreeze : t.freeze network with
  | error error => exact .refl t
  | ok next =>
      obtain ⟨hdraft, nodes, hnodes⟩ := freeze_eq_ok hfreeze
      obtain ⟨bodies, id, hid, hbodies, rfl⟩ := freezeFor_eq_ok hnodes
      exact .of_draft hdraft fun _ => isSound_of_frozen hid rfl hbodies

/-! ### Freezing with a client -/

section FreezingWith

variable {t named : Transaction} {client : Client ω χ} {scene after : Scene ω χ}

theorem nameWith_eq_error {error : ClientError}
    (hname : t.nameWith client scene = (.error error, after)) :
    t.id = none ∧ client.operator = none ∧ error = .transactionIdRequired ∧ after = scene := by
  unfold nameWith at hname
  split at hname
  next => cases hname
  next hid hoperator =>
    cases hname
    exact ⟨hid, hoperator, rfl, rfl⟩
  next => cases hname

/-- A transaction that has an identifier keeps it, and another gets one from the operator. -/
theorem nameWith_eq_ok (hname : t.nameWith client scene = (.ok named, after)) :
    (t.id ≠ none ∧ named = t ∧ after = scene) ∨
      ∃ operator, t.id = none ∧ client.operator = some operator ∧
        named = { t with id := some (client.generateId operator.account scene).1 } ∧
        after = (client.generateId operator.account scene).2 := by
  unfold nameWith at hname
  split at hname
  next id _ hid =>
    cases hname
    exact .inl ⟨fun hnone => (by cases hid.symm.trans hnone), rfl, rfl⟩
  next => cases hname
  next operator hid hoperator =>
    cases hname
    exact .inr ⟨operator, hid, hoperator, rfl, rfl⟩

/-- A named transaction has an identifier, and is the same in everything else. -/
theorem named_of_nameWith (hname : t.nameWith client scene = (.ok named, after)) :
    named.id ≠ none ∧ named = { t with id := named.id } ∧ after.network = scene.network := by
  obtain ⟨hid, rfl, rfl⟩ | ⟨operator, _, _, rfl, rfl⟩ := nameWith_eq_ok hname
  · exact ⟨hid, rfl, rfl⟩
  · exact ⟨nofun, rfl, rfl⟩

theorem stage_nameWith (hname : t.nameWith client scene = (.ok named, after)) :
    named.stage = t.stage := by
  rw [(named_of_nameWith hname).2.1]

/-- How the freezing of a draft with a client goes: it is named, checked and made out. If it is
stopped at one of these, it is left as the ones before made it. -/
inductive FreezesWith (t : Transaction) (client : Client ω χ) (scene : Scene ω χ) :
    Outcome Unit × Transaction × Scene ω χ → Prop where
  | unnamed {error : ClientError} {after : Scene ω χ}
      (hname : t.nameWith client scene = (.error error, after)) :
      FreezesWith t client scene (.error error, t, after)
  | rejected {named : Transaction} {error : ClientError} {after : Scene ω χ}
      (hname : t.nameWith client scene = (.ok named, after))
      (hcheck : client.checkIds after (named.data.entities ++ named.nodes) = .error error) :
      FreezesWith t client scene (.error error, named, after)
  | stopped {named : Transaction} {error : ClientError} {after : Scene ω χ}
      (hname : t.nameWith client scene = (.ok named, after))
      (hcheck : client.checkIds after (named.data.entities ++ named.nodes) = .ok ())
      (hfreeze : named.freezeFor after.network (client.chooseNodes named.nodes after).1 =
        .error error) :
      FreezesWith t client scene (.error error, named, (client.chooseNodes named.nodes after).2)
  | frozen {named next : Transaction} {after : Scene ω χ}
      (hname : t.nameWith client scene = (.ok named, after))
      (hcheck : client.checkIds after (named.data.entities ++ named.nodes) = .ok ())
      (hfreeze : named.freezeFor after.network (client.chooseNodes named.nodes after).1 =
        .ok next) :
      FreezesWith t client scene (.ok (), next, (client.chooseNodes named.nodes after).2)

theorem freezesWith (hdraft : t.stage = .draft) (client : Client ω χ) (scene : Scene ω χ) :
    FreezesWith t client scene (t.freezeWith client scene) := by
  unfold freezeWith
  rw [requireDraft_eq_ok_iff.mpr hdraft]
  cases hname : t.nameWith client scene with
  | mk outcome after =>
      cases outcome with
      | error error => exact .unnamed hname
      | ok named =>
          cases hcheck : client.checkIds after (named.data.entities ++ named.nodes) with
          | error error =>
              simp only [hcheck]
              exact .rejected hname hcheck
          | ok =>
              cases hfreeze : named.freezeFor after.network
                  (client.chooseNodes named.nodes after).1 with
              | error error =>
                  simp only [hcheck, Client.network_chooseNodes, hfreeze]
                  exact .stopped hname hcheck hfreeze
              | ok next =>
                  simp only [hcheck, Client.network_chooseNodes, hfreeze]
                  exact .frozen hname hcheck hfreeze

end FreezingWith

/-- Freezing with a client leaves the transaction at its stage, or it was a draft and is frozen for
nodes. -/
theorem freezeWith_cases (t : Transaction) (client : Client ω χ) (scene : Scene ω χ) :
    let done := t.freezeWith client scene
    ((∃ error, done.1 = .error error) ∧ done.2.1.stage = t.stage ∧
        (t.stage = .draft ∨ done.2.1 = t)) ∨
      t.stage = .draft ∧ done.1 = .ok () ∧ ∃ named nodes, ∃ network : Network χ,
        Transaction.freezeFor named network nodes = .ok done.2.1 := by
  intro done
  cases hdraft : t.requireDraft with
  | error error =>
      have hdone : done = (.error error, t, scene) := by
        show t.freezeWith client scene = _
        unfold freezeWith
        rw [hdraft]
      rw [hdone]
      exact .inl ⟨⟨error, rfl⟩, rfl, .inr rfl⟩
  | ok =>
      have hstage := requireDraft_eq_ok_iff.mp hdraft
      have hdone : FreezesWith t client scene done := freezesWith hstage client scene
      clear_value done
      cases hdone with
      | unnamed => exact .inl ⟨⟨_, rfl⟩, rfl, .inr rfl⟩
      | rejected hname => exact .inl ⟨⟨_, rfl⟩, stage_nameWith hname, .inl hstage⟩
      | stopped hname => exact .inl ⟨⟨_, rfl⟩, stage_nameWith hname, .inl hstage⟩
      | frozen _ _ hfreeze => exact .inr ⟨hstage, rfl, _, _, _, hfreeze⟩

/-- Freezing with a client is for drafts. Where it succeeds, the transaction is frozen into bodies made
out from it. -/
theorem freezeWith_spec (t : Transaction) (client : Client ω χ) (scene : Scene ω χ) :
    let done := t.freezeWith client scene
    Advances t done.2.1 ∧ (done.1 = .ok () → ∃ bodies, done.2.1.stage = .frozen bodies) := by
  intro done
  obtain ⟨⟨error, herror⟩, hstage, hdraft | hsame⟩ | ⟨hdraft, _, named, nodes, network, hfreeze⟩ :=
    freezeWith_cases t client scene
  · refine ⟨.of_draft hdraft fun _ => isSound_of_draft (hstage.trans hdraft), fun hok => ?_⟩
    cases herror.symm.trans hok
  · refine ⟨?_, fun hok => by cases herror.symm.trans hok⟩
    rw [show done.2.1 = t from hsame]
    exact .refl t
  · obtain ⟨bodies, id, hid, hbodies, hnext⟩ := freezeFor_eq_ok hfreeze
    rw [show done.2.1 = _ from hnext]
    exact ⟨.of_draft hdraft fun _ => isSound_of_frozen hid rfl hbodies, fun _ => ⟨bodies, rfl⟩⟩

/-- Signing is for frozen transactions. Where it succeeds, the key is on every body. -/
theorem sign_spec (t : Transaction) (signer : Signer ω) (world : ω) :
    let done := t.sign signer world
    Advances t done.2.1 ∧ (done.1 = .ok () → ∃ bodies, done.2.1.stage = .frozen bodies ∧
      ∀ body ∈ bodies.bodies, body.signatures.contains signer.publicKey.bytes = true) := by
  unfold sign
  cases hstage : t.stage with
  | draft =>
      simp only [bodies, hstage]
      exact ⟨.refl t, fun hok => by cases hok⟩
  | executed node hash =>
      simp only [bodies, hstage]
      exact ⟨.refl t, fun hok => by cases hok⟩
  | frozen bodies =>
      simp only [Transaction.bodies, hstage]
      refine ⟨⟨?_, fun _ => rfl, fun _ => rfl, fun _ => rfl⟩, fun hok => ?_⟩
      · intro hsound
        obtain ⟨id, hid, hbodies⟩ := hsound bodies hstage
        exact isSound_of_frozen hid rfl (hbodies.signAll signer world)
      · exact ⟨_, rfl, (SignedBodies.signEach_spec signer bodies.bodies world).2.2 hok⟩

theorem signWithOperator_spec (t : Transaction) (client : Client ω χ) (scene : Scene ω χ) :
    let done := t.signWithOperator client scene
    Advances t done.2.1 ∧ (done.1 = .ok () → ∀ operator, client.operator = some operator →
      ∃ bodies, done.2.1.stage = .frozen bodies ∧
        ∀ body ∈ bodies.bodies,
          body.signatures.contains operator.signer.publicKey.bytes = true) := by
  unfold signWithOperator
  split
  next hnone => exact ⟨.refl t, fun hok => by cases hok⟩
  next operator hoperator =>
    obtain ⟨hadvances, hsigned⟩ := sign_spec t operator.signer scene.world
    refine ⟨hadvances, fun hok other hother => ?_⟩
    cases hoperator.symm.trans hother
    exact hsigned hok

theorem addSignature_eq_ok {t next : Transaction} {node : AccountId} {key : PublicKey}
    {signature : Bytes} (hadd : t.addSignature node key signature = .ok next) :
    ∃ bodies signed, t.stage = .frozen bodies ∧
      bodies.addSignature node key signature = .ok signed ∧
      next = { t with stage := .frozen signed } := by
  unfold addSignature at hadd
  cases hstage : t.stage with
  | draft => simp [bodies, hstage, bind, Except.bind] at hadd
  | executed node hash => simp [bodies, hstage, bind, Except.bind] at hadd
  | frozen bodies =>
      simp only [Transaction.bodies, hstage] at hadd
      cases hadded : bodies.addSignature node key signature with
      | error error => simp [hadded, bind, Except.bind] at hadd
      | ok signed =>
          simp only [hadded, bind, Except.bind] at hadd
          cases hadd
          exact ⟨bodies, signed, rfl, hadded, rfl⟩

theorem advances_addSignature (t : Transaction) (node : AccountId) (key : PublicKey)
    (signature : Bytes) : Advances t (t.kept (t.addSignature node key signature)) := by
  cases hadd : t.addSignature node key signature with
  | error error => exact .refl t
  | ok next =>
      obtain ⟨bodies, signed, hstage, hadded, rfl⟩ := addSignature_eq_ok hadd
      refine ⟨?_, fun _ => rfl, fun _ => rfl, fun _ => rfl⟩
      intro hsound
      obtain ⟨id, hid, hbodies⟩ := hsound bodies hstage
      exact isSound_of_frozen hid rfl (hbodies.addSignature hadded)

/-- A transaction that has been prepared is frozen, and signed by the operator if there is one. -/
theorem prepare_spec (t : Transaction) (client : Client ω χ) (scene : Scene ω χ) :
    let done := t.prepare client scene
    Advances t done.2.1 ∧ (done.1 = .ok () → done.2.1.isFrozen = true ∧
      ∀ operator, client.operator = some operator →
        ∃ bodies, done.2.1.stage = .frozen bodies ∧ ∀ body ∈ bodies.bodies,
          body.signatures.contains operator.signer.publicKey.bytes = true) := by
  -- A transaction that is frozen already is taken as it is.
  have hfreeze : ∃ outcome frozen after, (if t.isFrozen then (.ok (), t, scene)
      else t.freezeWith client scene) = (outcome, frozen, after) ∧ Advances t frozen ∧
        (outcome = .ok () → frozen.isFrozen = true) := by
    by_cases hfrozen : t.isFrozen = true
    · rw [if_pos hfrozen]
      exact ⟨_, _, _, rfl, .refl t, fun _ => hfrozen⟩
    · rw [if_neg hfrozen]
      obtain ⟨hadvances, hbodies⟩ := freezeWith_spec t client scene
      refine ⟨_, _, _, rfl, hadvances, fun hok => ?_⟩
      obtain ⟨bodies, hstage⟩ := hbodies hok
      exact isFrozen_of_frozen hstage
  obtain ⟨outcome, frozen, after, hdone, hadvances, hfrozen⟩ := hfreeze
  unfold prepare
  rw [hdone]
  cases outcome with
  | error error => exact ⟨hadvances, fun hok => by cases hok⟩
  | ok =>
      cases hoperator : client.operator with
      | none =>
          exact ⟨hadvances, fun _ => ⟨hfrozen rfl, fun _ hsome => by cases hsome⟩⟩
      | some operator =>
          obtain ⟨hsigns, hsigned⟩ := signWithOperator_spec frozen client after
          refine ⟨hadvances.trans hsigns, fun hok => ⟨hsigns.frozen (hfrozen rfl), ?_⟩⟩
          intro other hother
          exact hsigned hok other (hoperator.trans hother)

theorem submittable_eq_ok {t : Transaction} {id : TransactionId} {bodies : SignedBodies}
    (hsubmittable : t.submittable = .ok (id, bodies)) :
    t.id = some id ∧ t.stage = .frozen bodies := by
  unfold submittable at hsubmittable
  cases hid : t.id with
  | none => simp [hid] at hsubmittable
  | some other =>
      cases hstage : t.stage with
      | draft => simp [hid, Transaction.bodies, hstage, Except.map] at hsubmittable
      | executed node hash => simp [hid, Transaction.bodies, hstage, Except.map] at hsubmittable
      | frozen others =>
          simp only [hid, Transaction.bodies, hstage, Except.map] at hsubmittable
          cases hsubmittable
          exact ⟨rfl, rfl⟩

theorem accepted_eq_ok {t done : Transaction} {node : AccountId}
    (haccepted : t.accepted node = .ok done) :
    ∃ hash, t.hashFor node = .ok hash ∧ done = { t with stage := .executed node hash } := by
  unfold accepted at haccepted
  cases hhash : t.hashFor node with
  | error error => simp [hhash, Except.map] at haccepted
  | ok hash =>
      simp only [hhash, Except.map] at haccepted
      cases haccepted
      exact ⟨hash, rfl, rfl⟩

theorem advances_accepted {t done : Transaction} {node : AccountId}
    (haccepted : t.accepted node = .ok done) : Advances t done := by
  obtain ⟨hash, _, rfl⟩ := accepted_eq_ok haccepted
  refine ⟨?_, fun _ => rfl, fun _ => rfl, fun _ => rfl⟩
  intro _ bodies hstage
  cases hstage

/-- A call that submits the transaction is refused before its first attempt, or submits what it
prepared and then takes down the acceptance, if there was one. -/
theorem execute_cases (t : Transaction) (client : Client ω χ) (scene : Scene ω χ) :
    let prepared := t.prepare client scene
    let done := t.execute client scene
    ((∃ node hash, t.stage = .executed node hash) ∧ done = (.refused .alreadyExecuted scene, t)) ∨
    (∃ error, done = (.refused error prepared.2.2, prepared.2.1)) ∨
    prepared.1 = .ok () ∧ ∃ id bodies, prepared.2.1.id = some id ∧
      prepared.2.1.stage = .frozen bodies ∧
      let run := client.execute (prepared.2.1.submission id bodies) prepared.2.2
      (∃ error, run.outcome = .error error ∧ done = (run, prepared.2.1)) ∨
      ∃ acceptance, run.outcome = .ok acceptance ∧
        ((∃ error, prepared.2.1.accepted acceptance.node = .error error ∧
          done = ({ run with outcome := .error error }, prepared.2.1)) ∨
        ∃ last, prepared.2.1.accepted acceptance.node = .ok last ∧ done = (run, last)) := by
  intro prepared done
  have hdone : done = t.execute client scene := rfl
  unfold execute at hdone
  split at hdone
  next node hash hstage => exact .inl ⟨⟨node, hash, hstage⟩, hdone⟩
  next =>
    refine .inr ?_
    split at hdone
    next error last after hprepare =>
      have hprepared : prepared = (.error error, last, after) := hprepare
      rw [hprepared]
      exact .inl ⟨error, hdone⟩
    next ready after hprepare =>
      have hprepared : prepared = (.ok (), ready, after) := hprepare
      rw [hprepared]
      split at hdone
      next error hsubmittable => exact .inl ⟨error, hdone⟩
      next id bodies hsubmittable =>
        obtain ⟨hid, hstage⟩ := submittable_eq_ok hsubmittable
        refine .inr ⟨rfl, id, bodies, hid, hstage, ?_⟩
        simp only at hdone ⊢
        split at hdone
        next error houtcome => exact .inl ⟨error, houtcome, hdone⟩
        next acceptance houtcome =>
          refine .inr ⟨acceptance, houtcome, ?_⟩
          split at hdone
          next error haccepted => exact .inl ⟨error, haccepted, hdone⟩
          next last haccepted => exact .inr ⟨last, haccepted, hdone⟩

/-- It leaves the transaction as it is or was prepared, or with its acceptance taken down. -/
theorem execute_leaves (t : Transaction) (client : Client ω χ) (scene : Scene ω χ) :
    let prepared := (t.prepare client scene).2.1
    let left := (t.execute client scene).2
    left = t ∨ left = prepared ∨ ∃ bodies node, prepared.stage = .frozen bodies ∧
      prepared.accepted node = .ok left := by
  intro prepared left
  rcases execute_cases t client scene with
    ⟨_, hdone⟩ | ⟨error, hdone⟩ | ⟨_, id, bodies, _, hstage, hrun⟩
  · exact .inl (congrArg Prod.snd hdone)
  · exact .inr (.inl (congrArg Prod.snd hdone))
  · rcases hrun with ⟨error, _, hdone⟩ | ⟨acceptance, _, ⟨error, _, hdone⟩ | ⟨last, hlast, hdone⟩⟩
    · exact .inr (.inl (congrArg Prod.snd hdone))
    · exact .inr (.inl (congrArg Prod.snd hdone))
    · have hleft : left = last := congrArg Prod.snd hdone
      exact .inr (.inr ⟨bodies, acceptance.node, hstage, hleft ▸ hlast⟩)

/-- A call that submits the transaction makes no attempt, or the attempts of the operation for the
bodies it prepared. -/
theorem execute_spec (t : Transaction) (client : Client ω χ) (scene : Scene ω χ) :
    let prepared := t.prepare client scene
    let done := t.execute client scene
    Advances t done.2 ∧ (done.1.attempts = [] ∨
      prepared.1 = .ok () ∧ ∃ id bodies, prepared.2.1.id = some id ∧
        prepared.2.1.stage = .frozen bodies ∧ Advances prepared.2.1 done.2 ∧
        done.1.attempts =
          (client.execute (prepared.2.1.submission id bodies) prepared.2.2).attempts) := by
  intro prepared done
  have hadvances : Advances t prepared.2.1 := (prepare_spec t client scene).1
  rcases execute_cases t client scene with
    ⟨_, hdone⟩ | ⟨error, hdone⟩ | ⟨hok, id, bodies, hid, hstage, hrun⟩
  · rw [show done = _ from hdone]
    exact ⟨.refl t, .inl rfl⟩
  · rw [show done = _ from hdone]
    exact ⟨hadvances, .inl rfl⟩
  · have hsubmitted : Advances prepared.2.1 done.2 ∧ done.1.attempts =
        (client.execute (prepared.2.1.submission id bodies) prepared.2.2).attempts := by
      rcases hrun with ⟨error, _, hdone⟩ | ⟨acceptance, _, ⟨error, _, hdone⟩ | ⟨last, hlast, hdone⟩⟩
      · rw [show done = _ from hdone]
        exact ⟨.refl _, rfl⟩
      · rw [show done = _ from hdone]
        exact ⟨.refl _, rfl⟩
      · rw [show done = _ from hdone]
        exact ⟨advances_accepted hlast, rfl⟩
    exact ⟨hadvances.trans hsubmitted.1,
      .inr ⟨hok, id, bodies, hid, hstage, hsubmitted.1, hsubmitted.2⟩⟩

/-! ### What is sent -/

/-- A request carries the body for its node out of bodies made out from the transaction, with the
signature of the operator. -/
def IsMadeOut (t : Transaction) (sending : Sending ω) : Prop :=
  ∃ id bodies body, t.id = some id ∧ sending.prepared.stage = .frozen bodies ∧
    bodies.AreFor (t.made id) ∧ bodies.body? sending.node = some body ∧
    sending.request = Wire.encode (Request.transaction body.signed) ∧
    ∀ operator, sending.operator = some operator →
      body.signatures.contains operator.signer.publicKey.bytes = true

theorem made_eq_of_advances {t next : Transaction} (hadvances : Advances t next)
    (hfrozen : t.isFrozen = true) : next.made = t.made := by
  unfold made
  rw [hadvances.body_eq hfrozen]

theorem IsMadeOut.of_advances {t next : Transaction} {sending : Sending ω}
    (hmade : t.IsMadeOut sending) (hadvances : Advances t next) (hfrozen : t.isFrozen = true) :
    next.IsMadeOut sending := by
  obtain ⟨id, bodies, body, hid, hstage, hbodies, hrest⟩ := hmade
  refine ⟨id, bodies, body, (hadvances.id_eq hfrozen).trans hid, hstage, ?_, hrest⟩
  rwa [made_eq_of_advances hadvances hfrozen]

theorem isMadeOut_of_mem_sendings {t : Transaction} (hsound : t.IsSound) (client : Client ω χ)
    (scene : Scene ω χ) {sending : Sending ω} (hsending : sending ∈ t.sendings client scene) :
    let next := (t.execute client scene).2
    next.isFrozen = true ∧ next.IsMadeOut sending := by
  obtain ⟨attempt, hattempt, hrequest⟩ := List.mem_filterMap.mp hsending
  obtain ⟨_, hnone | ⟨hok, id, bodies, hid, hstage, hlast, hattempts⟩⟩ :=
    execute_spec t client scene
  · rw [hnone] at hattempt
    cases hattempt
  · obtain ⟨hprepares, hsigned⟩ := prepare_spec t client scene
    have hfrozen := isFrozen_of_frozen hstage
    obtain ⟨other, hother, hbodies⟩ := hprepares.sound hsound bodies hstage
    cases hid.symm.trans hother
    refine ⟨hlast.frozen hfrozen, IsMadeOut.of_advances ?_ hlast hfrozen⟩
    rw [hattempts] at hattempt
    rw [Execution.request_of_mem_execute hattempt] at hrequest
    cases hbody : bodies.body? attempt.member.account with
    | none =>
        -- For a node without a body no request is built, and nothing was sent to it.
        simp [submission, SignedBodies.signedFor, hbody, Except.map, Except.toOption] at hrequest
    | some body =>
        simp only [submission, SignedBodies.signedFor, hbody, Except.map, Except.toOption,
          Option.map_some, Option.some.injEq] at hrequest
        subst hrequest
        refine ⟨id, bodies, body, hid, hstage, hbodies, hbody, rfl, ?_⟩
        intro operator hoperator
        -- Preparing ends with the signature of the operator, on just the bodies sent from.
        obtain ⟨others, hothers, hcontains⟩ := (hsigned hok).2 operator hoperator
        rw [hstage] at hothers
        cases hothers
        exact hcontains body (List.mem_of_find?_eq_some hbody)

/-- An act advances a transaction, and what is sent in it is made out from the transaction. -/
theorem perform_spec (t : Transaction) (act : Act ω χ) :
    let done := t.perform act
    Advances t done.1 ∧ (t.IsSound → ∀ sending ∈ done.2,
      done.1.isFrozen = true ∧ done.1.IsMadeOut sending) := by
  have hnothing : ∀ next : Transaction, t.IsSound → ∀ sending ∈ ([] : List (Sending ω)),
      next.isFrozen = true ∧ next.IsMadeOut sending := fun _ _ _ hmem => by cases hmem
  cases act with
  | setNodes nodes => exact ⟨advances_edit t _ rfl, hnothing _⟩
  | setId id => exact ⟨advances_edit t _ rfl, hnothing _⟩
  | setMaxFee maxFee => exact ⟨advances_edit t _ rfl, hnothing _⟩
  | setMemo memo => exact ⟨advances_edit t _ rfl, hnothing _⟩
  | setValidDuration validDuration => exact ⟨advances_edit t _ rfl, hnothing _⟩
  | setSettings settings =>
      exact ⟨⟨fun hsound => hsound, fun hfrozen => hfrozen, fun _ => rfl, fun _ => rfl⟩, hnothing _⟩
  | freeze network => exact ⟨advances_freeze t network, hnothing _⟩
  | freezeWith client scene => exact ⟨(freezeWith_spec t client scene).1, hnothing _⟩
  | sign signer world => exact ⟨(sign_spec t signer world).1, hnothing _⟩
  | signWithOperator client scene =>
      exact ⟨(signWithOperator_spec t client scene).1, hnothing _⟩
  | addSignature node key signature =>
      exact ⟨advances_addSignature t node key signature, hnothing _⟩
  | execute client scene =>
      exact ⟨(execute_spec t client scene).1, fun hsound sending hsending =>
        isMadeOut_of_mem_sendings hsound client scene hsending⟩

/-- All that is sent in a history is made out from the transaction that it leaves. -/
theorem history_spec (t : Transaction) (acts : List (Act ω χ)) :
    let done := t.history acts
    Advances t done.1 ∧ (t.IsSound → ∀ sending ∈ done.2, done.1.IsMadeOut sending) := by
  induction acts generalizing t with
  | nil => exact ⟨.refl t, fun _ _ hmem => by cases hmem⟩
  | cons act rest ih =>
      obtain ⟨hact, hsent⟩ := perform_spec t act
      obtain ⟨hrest, hlater⟩ := ih (t.perform act).1
      refine ⟨hact.trans hrest, fun hsound sending hsending => ?_⟩
      rcases List.mem_append.mp hsending with hfirst | hmore
      · -- Something was sent, so from here on the transaction is frozen.
        obtain ⟨hfrozen, hmade⟩ := hsent hsound sending hfirst
        exact hmade.of_advances hrest hfrozen
      · exact hlater (hact.sound hsound) sending hmore

end Transaction

end LedgerClient
