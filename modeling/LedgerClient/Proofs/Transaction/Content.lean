import LedgerClient.Proofs.Client.Checking
import LedgerClient.Proofs.Transaction.Lifecycle

/-!
# What freezing settles

Freezing settles what a transaction says. Whatever it is used for later, only its stage and its
settings change, and the stage no more than by signatures until a node accepts the transaction.
From then on there are no bodies to tell the nodes it was made out for, and the nodes it tells of
are again those that were asked for.
-/

namespace LedgerClient

open Relation (ReflTransGen)

variable {ω χ : Type}

/-- What is frozen stays so, with the same bodies, until a node accepts it. -/
theorem Stage.frozen_or_executed_of_steps {bodies : SignedBodies} {next : Stage}
    (hsteps : ReflTransGen Stage.Step (.frozen bodies) next) :
    (∃ signed, next = .frozen signed ∧ signed.papers = bodies.papers) ∨
      ∃ node hash, next = .executed node hash := by
  induction hsteps with
  | refl => exact .inl ⟨bodies, rfl, rfl⟩
  | tail _ hlast ih =>
      rcases ih with ⟨signed, rfl, hsigned⟩ | ⟨node, hash, rfl⟩
      · cases hlast with
        | readies hreadies =>
            cases hreadies with
            | sign hpapers => exact .inl ⟨_, rfl, hpapers.trans hsigned⟩
        | accept => exact .inr ⟨_, _, rfl⟩
      · cases hlast with
        | readies hreadies => cases hreadies

theorem SignedBodies.nodes_eq_of_papers_eq {bodies signed : SignedBodies}
    (hpapers : signed.papers = bodies.papers) : signed.nodes = bodies.nodes := by
  have hfirst := congrArg (List.map Prod.fst) hpapers
  unfold papers at hfirst
  rwa [List.map_map, List.map_map] at hfirst

namespace Transaction

variable {t next last : Transaction}

/-- A transaction says the same as another, at any stage and with any settings. -/
def SaysAs (next t : Transaction) : Prop :=
  next = { t with stage := next.stage, settings := next.settings }

namespace SaysAs

theorem refl (t : Transaction) : t.SaysAs t := rfl

theorem trans (hlast : last.SaysAs next) (hnext : next.SaysAs t) : last.SaysAs t := by
  unfold SaysAs at hlast hnext ⊢
  rw [hlast, hnext]

theorem of_stage (t : Transaction) (stage : Stage) : SaysAs { t with stage } t := rfl

end SaysAs

/-! ### What is done with a frozen transaction -/

theorem saysAs_sign (t : Transaction) (signer : Signer ω) (world : ω) :
    (t.sign signer world).2.1.SaysAs t := by
  unfold sign
  split
  next => exact .refl t
  next => exact .of_stage t _

theorem saysAs_signWithOperator (t : Transaction) (client : Client ω χ) (scene : Scene ω χ) :
    (t.signWithOperator client scene).2.1.SaysAs t := by
  unfold signWithOperator
  split
  next => exact .refl t
  next operator _ => exact saysAs_sign t operator.signer scene.world

theorem saysAs_addSignature (t : Transaction) (node : AccountId) (key : PublicKey)
    (signature : Bytes) : (t.kept (t.addSignature node key signature)).SaysAs t := by
  cases hadd : t.addSignature node key signature with
  | error error => exact .refl t
  | ok next =>
      obtain ⟨_, signed, _, _, rfl⟩ := addSignature_eq_ok hadd
      exact .of_stage t _

theorem saysAs_prepare (hfrozen : t.isFrozen = true) (client : Client ω χ) (scene : Scene ω χ) :
    (t.prepare client scene).2.1.SaysAs t := by
  unfold prepare
  rw [if_pos hfrozen]
  cases client.operator with
  | none => exact .refl t
  | some operator => exact saysAs_signWithOperator t client scene

theorem saysAs_accepted {node : AccountId} (haccepted : t.accepted node = .ok last) :
    last.SaysAs t := by
  obtain ⟨hash, _, rfl⟩ := accepted_eq_ok haccepted
  exact .of_stage t _

theorem saysAs_execute (hfrozen : t.isFrozen = true) (client : Client ω χ) (scene : Scene ω χ) :
    (t.execute client scene).2.SaysAs t := by
  have hprepared := saysAs_prepare hfrozen client scene
  rcases execute_leaves t client scene with hleft | hleft | ⟨bodies, node, _, haccepted⟩
  · rw [hleft]
    exact .refl t
  · rw [hleft]
    exact hprepared
  · exact (saysAs_accepted haccepted).trans hprepared

theorem notDraft?_of_isFrozen (hfrozen : t.isFrozen = true) :
    ∃ error, t.stage.notDraft? = some error := by
  unfold isFrozen at hfrozen
  cases hstage : t.stage with
  | draft => simp [hstage] at hfrozen
  | frozen bodies => exact ⟨_, rfl⟩
  | executed node hash => exact ⟨_, rfl⟩

theorem saysAs_of_refusal? {use : Use ω χ} {error : ClientError}
    (hrefusal : refusal? t.stage use = some error) : (t.used use).1.SaysAs t := by
  rw [(isRefused_of_refusal? hrefusal).used_eq]
  exact .refl t

/-- Past its draft a transaction says the same after each use. -/
theorem saysAs_used (hfrozen : t.isFrozen = true) (use : Use ω χ) : (t.used use).1.SaysAs t := by
  obtain ⟨error, hrefusal⟩ := notDraft?_of_isFrozen hfrozen
  cases use with
  | act act =>
      cases act with
      | setSettings settings => rfl
      | sign signer world => exact saysAs_sign t signer world
      | signWithOperator client scene => exact saysAs_signWithOperator t client scene
      | addSignature node key signature => exact saysAs_addSignature t node key signature
      | execute client scene => exact saysAs_execute hfrozen client scene
      -- What would change a draft is refused.
      | _ => exact saysAs_of_refusal? hrefusal
  | _ => exact .refl t

theorem isFrozen_used (hfrozen : t.isFrozen = true) (use : Use ω χ) :
    (t.used use).1.isFrozen = true := by
  cases use with
  | act act => exact (perform_spec t act).1.frozen hfrozen
  | _ => exact hfrozen

theorem saysAs_lived (hfrozen : t.isFrozen = true) (uses : List (Use ω χ)) :
    (t.lived uses).SaysAs t := by
  induction uses generalizing t with
  | nil => exact .refl t
  | cons use rest ih => exact (ih (isFrozen_used hfrozen use)).trans (saysAs_used hfrozen use)

/-- Whatever a frozen transaction is used for, its identifier, fee, memo, validity and payload stay
as they were frozen. The nodes it may go to are those it was made out for until a node accepts it,
and those it was asked for from then on. -/
theorem frozen_content_lasts (t : Transaction) {bodies : SignedBodies}
    (hfrozen : t.stage = .frozen bodies) (uses : List (Use ω χ)) :
    let last := t.lived uses
    last.id = t.id ∧ last.maxFee = t.maxFee ∧ last.memo = t.memo ∧
      last.validDuration = t.validDuration ∧ last.data = t.data ∧
      last.candidates = if last.stage.node?.isSome then t.nodes else t.candidates := by
  intro last
  have hsays : last.SaysAs t := saysAs_lived (isFrozen_of_frozen hfrozen) uses
  have hsteps : ReflTransGen Stage.Step t.stage last.stage := steps_lived t uses
  have hcandidates : t.candidates = bodies.nodes := by simp [candidates, hfrozen]
  rw [hfrozen] at hsteps
  clear_value last
  rw [hcandidates, hsays]
  refine ⟨rfl, rfl, rfl, rfl, rfl, ?_⟩
  obtain ⟨signed, hstage, hpapers⟩ | ⟨node, hash, hstage⟩ :=
    Stage.frozen_or_executed_of_steps hsteps
  · simp [candidates, hstage, Stage.node?, SignedBodies.nodes_eq_of_papers_eq hpapers]
  · simp [candidates, hstage, Stage.node?]

/-- A message to a topic, made out for whatever nodes are asked for, and submitted. -/
def posted (nodes : List AccountId) : Transaction :=
  let draft : Transaction :=
    { data := .submitMessage (.ofNum 9) [1, 2, 3], id := some default, nodes }
  draft.kept (draft.freeze Checking.willing.network)

theorem frozen_content_lasts_refused_memo :
    let last := (posted []).lived [.act (.setMemo "late"), .act (.execute clerk Checking.willing)]
    last.memo = "" ∧ last.stage.node?.map (·.num) = some 3 ∧ last.candidates = [] := by
  intro last
  obtain ⟨bodies, hfrozen⟩ : ∃ bodies, (posted []).stage = .frozen bodies := ⟨_, rfl⟩
  obtain ⟨_, _, hmemo, _, _, hcandidates⟩ := frozen_content_lasts (posted []) hfrozen
    [.act (.setMemo "late"), .act (.execute clerk Checking.willing)]
  have hnode : last.stage.node?.map (·.num) = some 3 := by decide +kernel
  have hdone : last.stage.node?.isSome = true := by
    rw [← Option.isSome_map (f := (·.num)), hnode]
    rfl
  rw [if_pos hdone] at hcandidates
  exact ⟨hmemo, hnode, hcandidates⟩

/-- Once a node has accepted it, a transaction no longer tells the nodes it was made out for. -/
theorem acceptance_loses_nodes :
    (posted []).candidates.map (·.num) = [3, 4] ∧
      ((posted []).lived [.act (.execute clerk Checking.willing)]).candidates = [] ∧
    (posted [.ofNum 4, .ofNum 3, .ofNum 4]).candidates.map (·.num) = [4, 3] ∧
      ((posted [.ofNum 4, .ofNum 3, .ofNum 4]).lived
        [.act (.execute clerk Checking.willing)]).candidates.map (·.num) = [4, 3, 4] := by
  refine ⟨by decide +kernel, ?_, by decide +kernel, by decide +kernel⟩
  exact List.length_eq_zero_iff.mp (by decide +kernel)

end Transaction

end LedgerClient
