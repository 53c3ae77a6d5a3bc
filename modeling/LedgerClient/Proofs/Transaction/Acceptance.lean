import LedgerClient.Proofs.Transaction.History
import Mathlib.Logic.Relation

/-!
# Acceptance

A transaction is made ready, by freezing and by signing, and is submitted until a node
answers with `ok`. At most one node does so in a call. Taking that down cannot fail: there is
a body for the node, since it was sent one.
-/

namespace LedgerClient

open Relation (ReflTransGen)

variable {ω χ : Type}

/-! ### Acceptance by a node -/

/-- The response that an attempt ended with, if what came back was one. -/
def Ending.response? : Ending → Option Response
  | .finished response => some response
  | .retry response => some response
  | .rejected response => some response
  | _ => none

theorem Ending.response?_ofReply {α : Type} (operation : Operation α)
    (reply : Except TransportError Bytes) :
    (Ending.ofReply operation reply).response? =
      reply.toOption.bind fun bytes => (Wire.decode Response bytes).toOption := by
  cases reply with
  | error error =>
      simp only [ofReply]
      split <;> rfl
  | ok bytes =>
      cases hdecode : Wire.decode Response bytes with
      | error error => simp [ofReply, hdecode, response?, Except.toOption]
      | ok response =>
          simp only [ofReply, hdecode, Except.toOption, Option.bind_some]
          split <;> rfl

/-- Whether a node answered an attempt with `ok`. -/
def Attempt.isAccepted (attempt : Attempt) : Bool :=
  attempt.ending.response?.any (·.precheck = .ok)

/-- The nodes that answered with `ok`, attempt by attempt. -/
def acceptors (attempts : List Attempt) : List AccountId :=
  (attempts.filter (·.isAccepted)).map (·.member.account)

theorem Verdict.ofPrecheck_eq_finished_iff {status : Status} :
    Verdict.ofPrecheck status = .finished ↔ status = .ok := by
  unfold ofPrecheck
  split
  next hok => simp [hok]
  next hother => split <;> simp [hother]

namespace Execution

variable {surroundings : Surroundings ω χ} {settings : ExecuteSettings} {t : Transaction}
  {id : TransactionId} {bodies : SignedBodies}

/-- An attempt is accepted where a response came back that is judged to be the last. -/
theorem isAccepted_attempt (made : Turn ω χ) (pause : Option Duration) :
    (made.attempt (t.submission id bodies) pause).isAccepted = true ↔
      ∃ bytes response, made.answer = .ok (.ok bytes) ∧
        Wire.decode Response bytes = .ok response ∧
        (t.submission id bodies).judge response = .finished := by
  change Option.any _ (endingOf (t.submission id bodies) made.answer).response? = true ↔ _
  rcases made.answer with error | error | bytes
  · simp [endingOf, Ending.response?]
  · simp [endingOf, Ending.response?_ofReply, Except.toOption]
  · simp only [endingOf, Ending.response?_ofReply, Transaction.submission,
      Verdict.ofPrecheck_eq_finished_iff]
    cases hdecode : Wire.decode Response bytes with
    | error error => simp [Except.toOption, hdecode]
    | ok response => simp [Except.toOption, hdecode]

/-- Of all nodes that are asked to accept bodies, the one that the outcome names does and no other,
and there is a body for it. -/
structure NamesAcceptor (bodies : SignedBodies) (run : Run ω χ Acceptance) : Prop where
  acceptors_eq : acceptors run.attempts = (run.outcome.toOption.map (·.node)).toList
  signedFor_isOk : ∀ acceptance, run.outcome = .ok acceptance →
    ∃ signed, bodies.signedFor acceptance.node = .ok signed

theorem namesAcceptor_of_error (bodies : SignedBodies) (error : ClientError)
    {attempts : List Attempt} (hattempts : acceptors attempts = []) (scene : Scene ω χ) :
    NamesAcceptor bodies ⟨attempts, .error error, scene⟩ where
  acceptors_eq := hattempts
  signedFor_isOk acceptance houtcome := by cases houtcome

theorem acceptors_cons (attempt : Attempt) (others : List Attempt) :
    acceptors (attempt :: others) =
      (if attempt.isAccepted then [attempt.member.account] else []) ++ acceptors others := by
  unfold acceptors
  rw [List.filter_cons]
  split <;> rfl

/-- A last attempt is accepted where it comes to an acceptance, and then by the node it names. -/
theorem namesAcceptor_of_concludes {made : Turn ω χ} {outcome : Outcome Acceptance}
    {scene : Scene ω χ}
    (hmade : turn surroundings (t.submission id bodies) settings scene = .ok made)
    (hconcludes : Concludes (t.submission id bodies) made.member.account made.answer outcome) :
    NamesAcceptor bodies
      ⟨[made.attempt (t.submission id bodies) none], outcome, made.scene⟩ := by
  have hacceptors := acceptors_cons (made.attempt (t.submission id bodies) none) []
  have haccepted : (made.attempt (t.submission id bodies) none).isAccepted = true ↔ _ :=
    isAccepted_attempt made none
  have hrefused : (made.attempt (t.submission id bodies) none).isAccepted = false →
      ∀ error, NamesAcceptor bodies
        ⟨[made.attempt (t.submission id bodies) none], .error error, made.scene⟩ := by
    intro hnot error
    rw [hnot] at hacceptors
    exact namesAcceptor_of_error bodies error hacceptors _
  generalize hanswer : made.answer = answer at hconcludes
  cases hconcludes with
  | unbuilt =>
      apply hrefused
      simp [Bool.eq_false_iff, haccepted, hanswer]
  | clientSide hclient =>
      apply hrefused
      simp [Bool.eq_false_iff, haccepted, hanswer]
  | rejected hdecode hjudge =>
      apply hrefused
      simp [Bool.eq_false_iff, haccepted, hanswer, hdecode, hjudge]
  | finished hdecode hjudge =>
      cases hsigned : bodies.signedFor made.member.account with
      | error error =>
          -- Without a body for the node nothing is sent, and nothing comes back.
          have hrequest : (t.submission id bodies).request made.member.account = .error error := by
            simp [Transaction.submission, hsigned, Except.map]
          rw [(answer_eq_error_iff hmade).mpr hrequest] at hanswer
          cases hanswer
      | ok signed =>
          have houtput (response : Response) :
              (t.submission id bodies).output response made.member.account =
                .ok { node := made.member.account, transactionId := id,
                      hash := Crypto.sha384 (Wire.encode signed) } := by
            simp [Transaction.submission, Transaction.acceptance, hsigned, Except.map]
          rw [houtput]
          rw [haccepted.mpr ⟨_, _, hanswer, hdecode, hjudge⟩] at hacceptors
          refine ⟨hacceptors, fun acceptance houtcome => ?_⟩
          cases houtcome
          exact ⟨signed, hsigned⟩

theorem namesAcceptor_attempts (left number : Nat) (last : Option (AccountId × AttemptCause))
    (scene : Scene ω χ) :
    NamesAcceptor bodies
      (attempts surroundings (t.submission id bodies) settings left number last scene) := by
  refine attempts_induction (motive := fun _ run => NamesAcceptor bodies run) ?_ ?_ ?_ ?_ _ _ _ _
  · intro scene error
    exact namesAcceptor_of_error bodies error rfl _
  · intro scene error _
    exact namesAcceptor_of_error bodies error rfl _
  · intro scene made outcome hmade hconcludes
    exact namesAcceptor_of_concludes hmade hconcludes
  · intro scene made cause pause run hmade hretries hrun
    have hnot : (made.attempt (t.submission id bodies) pause).isAccepted = false := by
      rw [Bool.eq_false_iff, ne_eq, isAccepted_attempt]
      rintro ⟨bytes, response, hanswer, hdecode, hjudge⟩
      have hconcludes : Concludes (t.submission id bodies) made.member.account (.ok (.ok bytes))
          _ := .finished hdecode hjudge
      rw [hanswer] at hretries
      exact hconcludes.not_retries cause hretries
    refine ⟨?_, hrun.signedFor_isOk⟩
    change acceptors (_ :: run.attempts) = _
    rw [acceptors_cons, hnot]
    exact hrun.acceptors_eq

theorem namesAcceptor_execute (scene : Scene ω χ) :
    NamesAcceptor bodies (execute surroundings (t.submission id bodies) settings scene) := by
  unfold execute
  split
  next error _ => exact namesAcceptor_of_error bodies error rfl scene
  next => exact namesAcceptor_attempts _ _ _ scene

end Execution

/-! ### Stages -/

/-- What the bodies are made out as, in order. -/
def SignedBodies.papers (bodies : SignedBodies) : List (AccountId × Bytes) :=
  bodies.bodies.map SignedBodies.paper

namespace Stage

/-- The node that accepted the transaction, if one did. -/
def node? : Stage → Option AccountId
  | .executed node _ => some node
  | _ => none

/-- A draft is frozen, and what is frozen is signed. -/
inductive Readies : Stage → Stage → Prop where
  | freeze (bodies : SignedBodies) : Readies .draft (.frozen bodies)
  | sign {bodies signed : SignedBodies} (hpapers : signed.papers = bodies.papers) :
      Readies (.frozen bodies) (.frozen signed)

/-- The steps of a transaction: it is made ready, and is accepted by a node there is a body for. -/
inductive Step : Stage → Stage → Prop where
  | readies {stage next : Stage} (hreadies : Readies stage next) : Step stage next
  | accept {bodies : SignedBodies} {node : AccountId} {signed : SignedTransaction}
      (hsigned : bodies.signedFor node = .ok signed) :
      Step (.frozen bodies) (.executed node (Crypto.sha384 (Wire.encode signed)))

theorem node?_eq_of_readies {stage next : Stage} (hreadies : ReflTransGen Readies stage next) :
    next.node? = stage.node? := by
  induction hreadies with
  | refl => rfl
  | tail _ hlast ih =>
      rw [← ih]
      cases hlast <;> rfl

theorem papers_eq_of_readies {bodies : SignedBodies} {next : Stage}
    (hreadies : ReflTransGen Readies (.frozen bodies) next) :
    ∃ signed, next = .frozen signed ∧ signed.papers = bodies.papers := by
  induction hreadies with
  | refl => exact ⟨bodies, rfl, rfl⟩
  | tail _ hlast ih =>
      obtain ⟨signed, rfl, hsigned⟩ := ih
      cases hlast with
      | sign hpapers => exact ⟨_, rfl, hpapers.trans hsigned⟩

theorem steps_of_readies {stage next : Stage} (hreadies : ReflTransGen Readies stage next) :
    ReflTransGen Step stage next := by
  induction hreadies with
  | refl => exact .refl
  | tail _ hlast ih => exact ih.tail (.readies hlast)

end Stage

namespace Transaction

/-! ### What makes a transaction ready -/

theorem readies_freezeFor {t next : Transaction} {stage : Stage} {network : Network χ}
    {nodes : List AccountId} (hdraft : stage = .draft)
    (hfreeze : t.freezeFor network nodes = .ok next) :
    ReflTransGen Stage.Readies stage next.stage := by
  obtain ⟨bodies, id, _, _, rfl⟩ := freezeFor_eq_ok hfreeze
  rw [hdraft]
  exact .single (.freeze bodies)

theorem readies_freeze (t : Transaction) (network : Network χ) :
    ReflTransGen Stage.Readies t.stage (t.kept (t.freeze network)).stage := by
  cases hfreeze : t.freeze network with
  | error error => exact .refl
  | ok next =>
      obtain ⟨hdraft, nodes, hnodes⟩ := freeze_eq_ok hfreeze
      exact readies_freezeFor hdraft hnodes

theorem readies_freezeWith (t : Transaction) (client : Client ω χ) (scene : Scene ω χ) :
    ReflTransGen Stage.Readies t.stage (t.freezeWith client scene).2.1.stage := by
  obtain ⟨_, hstage, _⟩ | ⟨hdraft, _, named, nodes, network, hfreeze⟩ :=
    freezeWith_cases t client scene
  · rw [hstage]
  · exact readies_freezeFor hdraft hfreeze

theorem readies_sign (t : Transaction) (signer : Signer ω) (world : ω) :
    ReflTransGen Stage.Readies t.stage (t.sign signer world).2.1.stage := by
  unfold sign
  cases hstage : t.stage with
  | draft =>
      simp only [bodies, hstage]
      exact .refl
  | executed node hash =>
      simp only [bodies, hstage]
      exact .refl
  | frozen bodies =>
      simp only [Transaction.bodies, hstage]
      exact .single (.sign (SignedBodies.signEach_spec signer bodies.bodies world).1)

theorem readies_signWithOperator (t : Transaction) (client : Client ω χ) (scene : Scene ω χ) :
    ReflTransGen Stage.Readies t.stage (t.signWithOperator client scene).2.1.stage := by
  unfold signWithOperator
  split
  next => exact .refl
  next operator _ => exact readies_sign t operator.signer scene.world

theorem readies_addSignature (t : Transaction) (node : AccountId) (key : PublicKey)
    (signature : Bytes) :
    ReflTransGen Stage.Readies t.stage (t.kept (t.addSignature node key signature)).stage := by
  cases hadd : t.addSignature node key signature with
  | error error => exact .refl
  | ok next =>
      obtain ⟨bodies, signed, hstage, hadded, rfl⟩ := addSignature_eq_ok hadd
      rw [hstage]
      unfold SignedBodies.addSignature at hadded
      split at hadded
      next =>
        cases hadded
        exact .single (.sign (SignedBodies.addTo_spec node ⟨key.bytes, signature⟩ _).1)
      next => cases hadded

theorem stage_edit (t : Transaction) (change : Transaction → Transaction)
    (hstage : (change t).stage = t.stage) : (t.kept (t.edit change)).stage = t.stage := by
  unfold edit
  cases t.requireDraft with
  | error error => rfl
  | ok => exact hstage

/-- The transaction as a call that submits it freezes it. -/
def frozenWith (t : Transaction) (client : Client ω χ) (scene : Scene ω χ) : Transaction :=
  if t.isFrozen then t else (t.freezeWith client scene).2.1

theorem readies_frozenWith (t : Transaction) (client : Client ω χ) (scene : Scene ω χ) :
    ReflTransGen Stage.Readies t.stage (t.frozenWith client scene).stage := by
  unfold frozenWith
  split
  next => exact .refl
  next => exact readies_freezeWith t client scene

theorem readies_prepare (t : Transaction) (client : Client ω χ) (scene : Scene ω χ) :
    ReflTransGen Stage.Readies (t.frozenWith client scene).stage
      (t.prepare client scene).2.1.stage := by
  have hfreeze : ∃ outcome after, (if t.isFrozen then (.ok (), t, scene)
      else t.freezeWith client scene) = (outcome, t.frozenWith client scene, after) := by
    unfold frozenWith
    split
    next => exact ⟨_, _, rfl⟩
    next => exact ⟨_, _, rfl⟩
  obtain ⟨outcome, after, hdone⟩ := hfreeze
  unfold prepare
  rw [hdone]
  cases outcome with
  | error error => exact .refl
  | ok =>
      cases hoperator : client.operator with
      | none => exact .refl
      | some operator => exact readies_signWithOperator _ client after

/-! ### Submission -/

/-- The nodes that accept a transaction in a call that submits it. -/
def acceptedIn (t : Transaction) (client : Client ω χ) (scene : Scene ω χ) : List AccountId :=
  acceptors (t.execute client scene).1.attempts

theorem accepted_of_signedFor {t : Transaction} {bodies : SignedBodies} {node : AccountId}
    {signed : SignedTransaction} (hstage : t.stage = .frozen bodies)
    (hsigned : bodies.signedFor node = .ok signed) :
    t.accepted node =
      .ok { t with stage := .executed node (Crypto.sha384 (Wire.encode signed)) } := by
  have hfor : t.signedFor node = .ok signed := by
    unfold signedFor Transaction.bodies
    rw [hstage]
    exact hsigned
  unfold accepted hashFor
  rw [hfor]
  rfl

/-- A transaction that no node has accepted is submitted as it was prepared. The call fails and no
node has accepted it, or one node has and the transaction becomes that node's. -/
theorem submission_cases (t : Transaction) (client : Client ω χ) (scene : Scene ω χ)
    (hopen : t.stage.node? = none) :
    let done := t.execute client scene
    let prepared := (t.prepare client scene).2.1
    ((∃ error, done.1.outcome = .error error) ∧ t.acceptedIn client scene = [] ∧
      done.2 = prepared) ∨
    ∃ node, (∃ acceptance, done.1.outcome = .ok acceptance) ∧
      t.acceptedIn client scene = [node] ∧ done.2.stage.node? = some node ∧
      Stage.Step prepared.stage done.2.stage := by
  intro done prepared
  have hacceptors : t.acceptedIn client scene = acceptors done.1.attempts := rfl
  rw [hacceptors]
  rcases execute_cases t client scene with
    ⟨⟨node, hash, hstage⟩, _⟩ | ⟨error, hdone⟩ | ⟨hok, id, bodies, hid, hstage, hrun⟩
  · rw [hstage] at hopen
    cases hopen
  · rw [show done = _ from hdone]
    exact .inl ⟨⟨error, rfl⟩, rfl, rfl⟩
  · obtain ⟨hnames, hsigned⟩ : Execution.NamesAcceptor bodies
        (client.execute (prepared.submission id bodies) (t.prepare client scene).2.2) :=
      Execution.namesAcceptor_execute _
    rcases hrun with ⟨error, houtcome, hdone⟩ | ⟨acceptance, houtcome, hlast⟩
    · rw [houtcome] at hnames
      rw [show done = _ from hdone]
      exact .inl ⟨⟨error, houtcome⟩, hnames, rfl⟩
    · rw [houtcome] at hnames
      obtain ⟨signed, hfor⟩ := hsigned acceptance houtcome
      -- The node accepted a body, so there is one to take the digest of.
      have haccepted := accepted_of_signedFor hstage hfor
      rcases hlast with ⟨error, herror, _⟩ | ⟨last, hdigest, hdone⟩
      · cases herror.symm.trans haccepted
      · cases hdigest.symm.trans haccepted
        rw [show done = _ from hdone]
        refine .inr ⟨acceptance.node, ⟨acceptance, houtcome⟩, hnames, rfl, ?_⟩
        rw [show prepared.stage = _ from hstage]
        exact .accept hfor

end Transaction

end LedgerClient
