import LedgerClient.Proofs.Transaction.Acceptance

/-!
# How bodies come about

Whatever is done with a draft, its bodies are made out once, without signatures, and from then on
they change only by what signers are asked for and what callers add.
-/

namespace LedgerClient

open Relation (ReflTransGen)

variable {ω χ : Type}

/-- The signers that an act may ask. -/
def Transaction.Act.signers : Transaction.Act ω χ → List (Signer ω)
  | .sign signer _ => [signer]
  | .signWithOperator client _ | .execute client _ => client.operator.toList.map (·.signer)
  | _ => []

namespace Stage

/-- What one of the acts may do to the stage of a transaction. -/
inductive Turns (acts : List (Transaction.Act ω χ)) : Stage → Stage → Prop where
  | makeOut {t : Transaction} {network : Network χ} {id : TransactionId} {nodes : List AccountId}
      {bodies : SignedBodies} (hout : t.makeOut network id nodes {} = .ok bodies) :
      Turns acts .draft (.frozen bodies)
  | sign {act : Transaction.Act ω χ} {signer : Signer ω} (hact : act ∈ acts)
      (hsigner : signer ∈ act.signers) (bodies : SignedBodies) (world : ω) :
      Turns acts (.frozen bodies) (.frozen (bodies.signAll signer world).2.1)
  | add {node : AccountId} {key : PublicKey} {signature : Bytes} {bodies signed : SignedBodies}
      (hact : .addSignature node key signature ∈ acts)
      (hadded : bodies.addSignature node key signature = .ok signed) :
      Turns acts (.frozen bodies) (.frozen signed)
  | accept (bodies : SignedBodies) (node : AccountId) (hash : Bytes) :
      Turns acts (.frozen bodies) (.executed node hash)

/-- What holds of bodies as they are made out, and is kept by signers and callers, holds of the
bodies of whatever has become of a draft. -/
theorem bodies_of_turns {P : SignedBodies → Prop} {acts : List (Transaction.Act ω χ)}
    (hmade : ∀ {t : Transaction} {network : Network χ} {id : TransactionId}
      {nodes : List AccountId} {bodies : SignedBodies},
      t.makeOut network id nodes {} = .ok bodies → P bodies)
    (hsign : ∀ {act : Transaction.Act ω χ} {signer : Signer ω}, act ∈ acts →
      signer ∈ act.signers → ∀ bodies world, P bodies → P (bodies.signAll signer world).2.1)
    (hadd : ∀ {node : AccountId} {key : PublicKey} {signature : Bytes}
      {bodies signed : SignedBodies}, .addSignature node key signature ∈ acts →
      bodies.addSignature node key signature = .ok signed → P bodies → P signed)
    {stage : Stage} (hturns : ReflTransGen (Turns acts) .draft stage) :
    ∀ bodies, stage = .frozen bodies → P bodies := by
  induction hturns with
  | refl => nofun
  | tail _ hlast ih =>
      intro bodies hfrozen
      cases hlast with
      | makeOut hout =>
          cases hfrozen
          exact hmade hout
      | sign hact hsigner old world =>
          cases hfrozen
          exact hsign hact hsigner old world (ih old rfl)
      | add hact hadded =>
          cases hfrozen
          exact hadd hact hadded (ih _ rfl)
      | accept => cases hfrozen

end Stage

namespace Transaction

variable {t next : Transaction} {act : Act ω χ} {acts : List (Act ω χ)}

theorem turns_freezeFor {stage : Stage} {network : Network χ} {nodes : List AccountId}
    (hdraft : stage = .draft) (hfreeze : t.freezeFor network nodes = .ok next) :
    ReflTransGen (Stage.Turns acts) stage next.stage := by
  obtain ⟨bodies, id, _, hout, rfl⟩ := makeOut_of_freezeFor hfreeze
  rw [hdraft]
  exact .single (.makeOut hout)

theorem turns_freeze (t : Transaction) (network : Network χ) :
    ReflTransGen (Stage.Turns acts) t.stage (t.kept (t.freeze network)).stage := by
  cases hfreeze : t.freeze network with
  | error error => exact .refl
  | ok next =>
      obtain ⟨hdraft, nodes, hnodes⟩ := freeze_eq_ok hfreeze
      exact turns_freezeFor hdraft hnodes

theorem turns_freezeWith (t : Transaction) (client : Client ω χ) (scene : Scene ω χ) :
    ReflTransGen (Stage.Turns acts) t.stage (t.freezeWith client scene).2.1.stage := by
  obtain ⟨_, hstage, _⟩ | ⟨hdraft, _, named, nodes, network, hfreeze⟩ :=
    freezeWith_cases t client scene
  · rw [hstage]
  · exact turns_freezeFor hdraft hfreeze

theorem turns_sign {signer : Signer ω} (hact : act ∈ acts) (hsigner : signer ∈ act.signers)
    (t : Transaction) (world : ω) :
    ReflTransGen (Stage.Turns acts) t.stage (t.sign signer world).2.1.stage := by
  unfold sign
  cases hstage : t.stage with
  | draft =>
      simp only [bodies, hstage]
      exact .refl
  | executed node hash =>
      simp only [bodies, hstage]
      exact .refl
  | frozen bodies =>
      simp only [Transaction.bodies, hstage]
      exact .single (.sign hact hsigner bodies world)

/-- The operator's signer is asked on behalf of the act, if the client has an operator. -/
theorem turns_signWithOperator {client : Client ω χ} (hact : act ∈ acts)
    (hsigners : act.signers = client.operator.toList.map (·.signer)) (t : Transaction)
    (scene : Scene ω χ) :
    ReflTransGen (Stage.Turns acts) t.stage (t.signWithOperator client scene).2.1.stage := by
  unfold signWithOperator
  split
  next => exact .refl
  next operator hoperator =>
    refine turns_sign hact ?_ t scene.world
    rw [hsigners, hoperator]
    exact List.mem_singleton.mpr rfl

theorem turns_addSignature {node : AccountId} {key : PublicKey} {signature : Bytes}
    (hact : .addSignature node key signature ∈ acts) (t : Transaction) :
    ReflTransGen (Stage.Turns acts) t.stage (t.kept (t.addSignature node key signature)).stage := by
  cases hadd : t.addSignature node key signature with
  | error error => exact .refl
  | ok next =>
      obtain ⟨bodies, signed, hstage, hadded, rfl⟩ := addSignature_eq_ok hadd
      rw [hstage]
      exact .single (.add hact hadded)

theorem turns_prepare {client : Client ω χ} (hact : act ∈ acts)
    (hsigners : act.signers = client.operator.toList.map (·.signer)) (t : Transaction)
    (scene : Scene ω χ) :
    ReflTransGen (Stage.Turns acts) t.stage (t.prepare client scene).2.1.stage := by
  have hfreeze : ∃ outcome frozen after, (if t.isFrozen then (.ok (), t, scene)
      else t.freezeWith client scene) = (outcome, frozen, after) ∧
        ReflTransGen (Stage.Turns acts) t.stage frozen.stage := by
    split
    next => exact ⟨_, _, _, rfl, .refl⟩
    next => exact ⟨_, _, _, rfl, turns_freezeWith t client scene⟩
  obtain ⟨outcome, frozen, after, hdone, hfrozen⟩ := hfreeze
  unfold prepare
  rw [hdone]
  cases outcome with
  | error error => exact hfrozen
  | ok =>
      cases hoperator : client.operator with
      | none => exact hfrozen
      | some operator =>
          exact hfrozen.trans (turns_signWithOperator hact hsigners frozen after)

theorem turns_execute {client : Client ω χ} (hact : act ∈ acts)
    (hsigners : act.signers = client.operator.toList.map (·.signer)) (t : Transaction)
    (scene : Scene ω χ) :
    ReflTransGen (Stage.Turns acts) t.stage (t.execute client scene).2.stage := by
  have hprepare := turns_prepare hact hsigners t scene
  rcases execute_leaves t client scene with hleft | hleft | ⟨bodies, node, hstage, haccepted⟩
  · rw [hleft]
  · rw [hleft]
    exact hprepare
  · obtain ⟨hash, _, hleft⟩ := accepted_eq_ok haccepted
    rw [hstage] at hprepare
    rw [hleft]
    exact hprepare.tail (.accept bodies node hash)

/-- An act turns the stage of a transaction. -/
theorem turns_perform (hact : act ∈ acts) (t : Transaction) :
    ReflTransGen (Stage.Turns acts) t.stage (t.perform act).1.stage := by
  have hedit : ∀ change : Transaction → Transaction, (change t).stage = t.stage →
      ReflTransGen (Stage.Turns acts) t.stage (t.kept (t.edit change)).stage := by
    intro change hstage
    rw [stage_edit t change hstage]
  cases act with
  | setNodes nodes => exact hedit _ rfl
  | setId id => exact hedit _ rfl
  | setMaxFee maxFee => exact hedit _ rfl
  | setMemo memo => exact hedit _ rfl
  | setValidDuration validDuration => exact hedit _ rfl
  | setSettings settings => exact .refl
  | freeze network => exact turns_freeze t network
  | freezeWith client scene => exact turns_freezeWith t client scene
  | sign signer world => exact turns_sign hact (List.mem_singleton.mpr rfl) t world
  | signWithOperator client scene => exact turns_signWithOperator hact rfl t scene
  | addSignature node key signature => exact turns_addSignature hact t
  | execute client scene => exact turns_execute hact rfl t scene

/-- So does a history, and every turn is one of its acts. -/
theorem turns_history (t : Transaction) (past : List (Act ω χ)) (hpast : ∀ act ∈ past, act ∈ acts) :
    ReflTransGen (Stage.Turns acts) t.stage (t.history past).1.stage := by
  induction past generalizing t with
  | nil => exact .refl
  | cons act rest ih =>
      obtain ⟨hact, hrest⟩ := List.forall_mem_cons.mp hpast
      exact (turns_perform hact t).trans (ih (t.perform act).1 hrest)

end Transaction

end LedgerClient
