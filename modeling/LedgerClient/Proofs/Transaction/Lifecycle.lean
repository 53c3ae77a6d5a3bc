import LedgerClient.Proofs.Transaction.Acceptance
import LedgerClient.Proofs.Transaction.Addressing

/-!
# The lifecycle of a transaction

A draft is frozen, a frozen transaction is accepted by a node, and nothing leads back. What
a stage does not allow is refused and leaves everything as it was. A transaction is accepted
once at most: just when a node answers a submission of it with `ok`. From then on nothing is
sent for it.
-/

namespace LedgerClient

open Relation (ReflTransGen)

variable {ω χ : Type}

namespace Stage

/-- Why a transaction is no draft, if it is none. -/
def notDraft? : Stage → Option ClientError
  | .draft => none
  | .frozen _ => some .alreadyFrozen
  | .executed _ _ => some .alreadyExecuted

/-- Why a transaction has no bodies to work with, if it has none. -/
def noBodies? : Stage → Option ClientError
  | .draft => some .notFrozen
  | .frozen _ => none
  | .executed _ _ => some .alreadyExecuted

end Stage

namespace Transaction

/-! ### What a transaction is used for -/

/-- What can be asked of a transaction: acts, and what only looks at it. -/
inductive Use (ω χ : Type) where
  | act (act : Act ω χ)
  | verify (verifier : Verifier)
  | signable
  | signedFor (node : AccountId)
  | hashFor (node : AccountId)

/-- What comes back from a use. -/
def outcome (t : Transaction) : Use ω χ → Outcome Unit
  | .act (.setNodes nodes) => (t.setNodes nodes).map fun _ => ()
  | .act (.setId id) => (t.setId id).map fun _ => ()
  | .act (.setMaxFee maxFee) => (t.setMaxFee maxFee).map fun _ => ()
  | .act (.setMemo memo) => (t.setMemo memo).map fun _ => ()
  | .act (.setValidDuration validDuration) => (t.setValidDuration validDuration).map fun _ => ()
  | .act (.setSettings _) => .ok ()
  | .act (.freeze network) => (t.freeze network).map fun _ => ()
  | .act (.freezeWith client scene) => (t.freezeWith client scene).1
  | .act (.sign signer world) => (t.sign signer world).1
  | .act (.signWithOperator client scene) => (t.signWithOperator client scene).1
  | .act (.addSignature node key signature) => (t.addSignature node key signature).map fun _ => ()
  | .act (.execute client scene) => (t.execute client scene).1.outcome.map fun _ => ()
  | .verify verifier => t.verify verifier
  | .signable => t.signable.map fun _ => ()
  | .signedFor node => (t.signedFor node).map fun _ => ()
  | .hashFor node => (t.hashFor node).map fun _ => ()

/-- The transaction after a use, and what was sent in it. -/
def used (t : Transaction) : Use ω χ → Transaction × List (Sending ω)
  | .act act => t.perform act
  | _ => (t, [])

/-- The nodes that accept the transaction in a use. -/
def acceptedBy (t : Transaction) : Use ω χ → List AccountId
  | .act (.execute client scene) => t.acceptedIn client scene
  | _ => []

/-- A use leaves all around the transaction as it finds it. -/
def IsQuiet (t : Transaction) : Use ω χ → Prop
  | .act (.freezeWith client scene) => (t.freezeWith client scene).2.2 = scene
  | .act (.sign signer world) => (t.sign signer world).2.2 = world
  | .act (.signWithOperator client scene) => (t.signWithOperator client scene).2.2 = scene
  | .act (.execute client scene) => (t.execute client scene).1.scene = scene
  | _ => True

/-- Why a stage does not allow a use, if it does not. A client without an operator is told so
first. -/
def refusal? (stage : Stage) : Use ω χ → Option ClientError
  | .act (.setNodes _) | .act (.setId _) | .act (.setMaxFee _) | .act (.setMemo _)
  | .act (.setValidDuration _) | .act (.freeze _) | .act (.freezeWith _ _) => stage.notDraft?
  | .act (.setSettings _) => none
  | .act (.sign _ _) | .act (.addSignature _ _ _) | .verify _ | .signable | .signedFor _
  | .hashFor _ => stage.noBodies?
  | .act (.signWithOperator client _) =>
      if client.operator.isNone then some .operatorRequired else stage.noBodies?
  | .act (.execute _ _) => stage.node?.map fun _ => .alreadyExecuted

/-! ### Refusals -/

variable {t : Transaction} {error : ClientError}

theorem requireDraft_of_notDraft? (hrefusal : t.stage.notDraft? = some error) :
    t.requireDraft = .error error := by
  unfold requireDraft
  cases hstage : t.stage with
  | draft =>
      rw [hstage] at hrefusal
      cases hrefusal
  | frozen bodies =>
      rw [hstage] at hrefusal
      cases hrefusal
      rfl
  | executed node hash =>
      rw [hstage] at hrefusal
      cases hrefusal
      rfl

theorem bodies_of_noBodies? (hrefusal : t.stage.noBodies? = some error) :
    t.bodies = .error error := by
  unfold bodies
  cases hstage : t.stage with
  | draft =>
      rw [hstage] at hrefusal
      cases hrefusal
      rfl
  | frozen bodies =>
      rw [hstage] at hrefusal
      cases hrefusal
  | executed node hash =>
      rw [hstage] at hrefusal
      cases hrefusal
      rfl

theorem edit_of_notDraft? (hrefusal : t.stage.notDraft? = some error)
    (change : Transaction → Transaction) : t.edit change = .error error := by
  unfold edit
  rw [requireDraft_of_notDraft? hrefusal]
  rfl

theorem freeze_of_notDraft? (hrefusal : t.stage.notDraft? = some error) (network : Network χ) :
    t.freeze network = .error error := by
  unfold freeze
  rw [requireDraft_of_notDraft? hrefusal]
  rfl

theorem freezeWith_of_notDraft? (hrefusal : t.stage.notDraft? = some error) (client : Client ω χ)
    (scene : Scene ω χ) : t.freezeWith client scene = (.error error, t, scene) := by
  unfold freezeWith
  rw [requireDraft_of_notDraft? hrefusal]

theorem sign_of_noBodies? (hrefusal : t.stage.noBodies? = some error) (signer : Signer ω)
    (world : ω) : t.sign signer world = (.error error, t, world) := by
  unfold sign
  rw [bodies_of_noBodies? hrefusal]

theorem signWithOperator_of_refusal? {client : Client ω χ} {scene : Scene ω χ}
    (hrefusal : refusal? t.stage (.act (.signWithOperator client scene)) = some error) :
    t.signWithOperator client scene = (.error error, t, scene) := by
  unfold signWithOperator
  unfold refusal? at hrefusal
  cases hoperator : client.operator with
  | none =>
      simp only [hoperator, Option.isNone_none, if_true] at hrefusal
      cases hrefusal
      rfl
  | some operator =>
      simp only [hoperator, Option.isNone_some, Bool.false_eq_true, if_false] at hrefusal
      simp only [sign_of_noBodies? hrefusal]

theorem addSignature_of_noBodies? (hrefusal : t.stage.noBodies? = some error) (node : AccountId)
    (key : PublicKey) (signature : Bytes) : t.addSignature node key signature = .error error := by
  unfold addSignature
  rw [bodies_of_noBodies? hrefusal]
  rfl

theorem signedFor_of_noBodies? (hrefusal : t.stage.noBodies? = some error) (node : AccountId) :
    t.signedFor node = .error error := by
  unfold signedFor
  rw [bodies_of_noBodies? hrefusal]
  rfl

theorem execute_of_node? {node : AccountId} (hnode : t.stage.node? = some node)
    (client : Client ω χ) (scene : Scene ω χ) :
    t.execute client scene = (.refused .alreadyExecuted scene, t) := by
  unfold execute
  cases hstage : t.stage with
  | executed => rfl
  | draft =>
      rw [hstage] at hnode
      cases hnode
  | frozen =>
      rw [hstage] at hnode
      cases hnode

/-- A refused use fails, sends nothing and changes neither the transaction nor what is around it. -/
structure IsRefused (t : Transaction) (use : Use ω χ) (error : ClientError) : Prop where
  outcome_eq : t.outcome use = .error error
  used_eq : t.used use = (t, [])
  quiet : t.IsQuiet use

/-- What fails to give another transaction leaves the one there is. -/
theorem isRefused_of_kept {use : Use ω χ} {tried : Outcome Transaction}
    (htried : tried = .error error) (houtcome : t.outcome use = tried.map fun _ => ())
    (hused : t.used use = (t.kept tried, [])) (hquiet : t.IsQuiet use) : t.IsRefused use error where
  outcome_eq := by
    rw [houtcome, htried]
    rfl
  used_eq := by
    rw [hused, htried]
    rfl
  quiet := hquiet

theorem isRefused_of_refusal? {use : Use ω χ} (hrefusal : refusal? t.stage use = some error) :
    t.IsRefused use error := by
  cases use with
  | act act =>
      cases act with
      | setNodes => exact isRefused_of_kept (edit_of_notDraft? hrefusal _) rfl rfl trivial
      | setId => exact isRefused_of_kept (edit_of_notDraft? hrefusal _) rfl rfl trivial
      | setMaxFee => exact isRefused_of_kept (edit_of_notDraft? hrefusal _) rfl rfl trivial
      | setMemo => exact isRefused_of_kept (edit_of_notDraft? hrefusal _) rfl rfl trivial
      | setValidDuration =>
          exact isRefused_of_kept (edit_of_notDraft? hrefusal _) rfl rfl trivial
      | setSettings => cases hrefusal
      | freeze network =>
          exact isRefused_of_kept (freeze_of_notDraft? hrefusal network) rfl rfl trivial
      | freezeWith client scene =>
          have hfreeze := freezeWith_of_notDraft? hrefusal client scene
          constructor <;> simp [outcome, used, perform, IsQuiet, hfreeze]
      | sign signer world =>
          have hsign := sign_of_noBodies? hrefusal signer world
          constructor <;> simp [outcome, used, perform, IsQuiet, hsign]
      | signWithOperator client scene =>
          have hsign := signWithOperator_of_refusal? hrefusal
          constructor <;> simp [outcome, used, perform, IsQuiet, hsign]
      | addSignature node key signature =>
          exact isRefused_of_kept (addSignature_of_noBodies? hrefusal node key signature)
            rfl rfl trivial
      | execute client scene =>
          obtain ⟨node, hnode, rfl⟩ := Option.map_eq_some_iff.mp hrefusal
          have hexecute := execute_of_node? hnode client scene
          constructor <;>
            simp [outcome, used, perform, sendings, IsQuiet, hexecute, Run.refused, Except.map]
  | verify verifier =>
      refine ⟨?_, rfl, trivial⟩
      simp only [outcome, verify, bodies_of_noBodies? hrefusal]
      rfl
  | signable =>
      refine ⟨?_, rfl, trivial⟩
      simp only [outcome, signable, bodies_of_noBodies? hrefusal]
      rfl
  | signedFor node =>
      refine ⟨?_, rfl, trivial⟩
      simp only [outcome, signedFor_of_noBodies? hrefusal]
      rfl
  | hashFor node =>
      refine ⟨?_, rfl, trivial⟩
      simp only [outcome, hashFor, signedFor_of_noBodies? hrefusal]
      rfl

/-! ### The law of each use -/

/-- What holds of every use of a transaction. -/
structure Lawful (t : Transaction) (use : Use ω χ) : Prop where
  /-- It goes on from stage to stage only. -/
  steps : ReflTransGen Stage.Step t.stage (t.used use).1.stage
  /-- What its stage does not allow is refused. -/
  refused : ∀ error, refusal? t.stage use = some error → t.IsRefused use error
  /-- Just the node that accepts it, if one does, is taken down as the one that did. -/
  accepted : t.stage.node? = none → t.acceptedBy use = (t.used use).1.stage.node?.toList
  /-- Once accepted it stays so, and nothing is sent for it. -/
  settled : ∀ node hash, t.stage = .executed node hash →
    (t.used use).1.stage = .executed node hash ∧ (t.used use).2 = [] ∧ t.acceptedBy use = []
  /-- A submission that fails leaves the bodies that it found, or that it was frozen into. -/
  failed : ∀ client scene error bodies, use = .act (.execute client scene) →
    t.outcome use = .error error → (t.frozenWith client scene).stage = .frozen bodies →
    ∃ signed, (t.used use).1.stage = .frozen signed ∧ signed.papers = bodies.papers

theorem refusal?_of_executed {node : AccountId} {hash : Bytes} (use : Use ω χ) :
    (∃ error, refusal? (.executed node hash) use = some error) ∨
      ∃ settings, use = .act (.setSettings settings) := by
  cases use with
  | act act =>
      cases act with
      | setSettings settings => exact .inr ⟨settings, rfl⟩
      | signWithOperator client scene =>
          by_cases hnone : client.operator.isNone = true
          · exact .inl ⟨_, if_pos hnone⟩
          · exact .inl ⟨_, if_neg hnone⟩
      | _ => exact .inl ⟨_, rfl⟩
  | _ => exact .inl ⟨_, rfl⟩

theorem acceptedBy_of_node? {node : AccountId} (hnode : t.stage.node? = some node)
    (use : Use ω χ) : t.acceptedBy use = [] := by
  cases use with
  | act act =>
      cases act with
      | execute client scene =>
          change acceptors (t.execute client scene).1.attempts = []
          rw [execute_of_node? hnode]
          rfl
      | _ => rfl
  | _ => rfl

theorem used_of_executed {node : AccountId} {hash : Bytes} (hstage : t.stage = .executed node hash)
    (use : Use ω χ) : (t.used use).1.stage = .executed node hash ∧ (t.used use).2 = [] := by
  have hcases : (∃ error, refusal? (.executed node hash) use = some error) ∨ _ :=
    refusal?_of_executed use
  rcases hcases with ⟨error, hrefusal⟩ | ⟨settings, rfl⟩
  · rw [← hstage] at hrefusal
    rw [(isRefused_of_refusal? hrefusal).used_eq]
    exact ⟨hstage, rfl⟩
  · exact ⟨hstage, rfl⟩

/-- All uses but a submission can do no more than make a transaction ready. -/
theorem lawful_of_readies {use : Use ω χ}
    (hreadies : ReflTransGen Stage.Readies t.stage (t.used use).1.stage)
    (haccepted : t.acceptedBy use = [])
    (hother : ∀ client scene, use ≠ .act (.execute client scene)) : t.Lawful use where
  steps := Stage.steps_of_readies hreadies
  refused _ hrefusal := isRefused_of_refusal? hrefusal
  accepted hopen := by
    rw [haccepted, Stage.node?_eq_of_readies hreadies, hopen]
    rfl
  settled _ _ hstage := by
    obtain ⟨hstill, hsent⟩ := used_of_executed hstage use
    exact ⟨hstill, hsent, haccepted⟩
  failed client scene _ _ huse := absurd huse (hother client scene)

theorem lawful_of_edit {use : Use ω χ} {change : Transaction → Transaction}
    (hused : (t.used use).1 = t.kept (t.edit change)) (hstage : (change t).stage = t.stage)
    (haccepted : t.acceptedBy use = [])
    (hother : ∀ client scene, use ≠ .act (.execute client scene)) : t.Lawful use := by
  refine lawful_of_readies ?_ haccepted hother
  rw [hused, stage_edit t change hstage]

theorem steps_execute (client : Client ω χ) (scene : Scene ω χ) :
    ReflTransGen Stage.Step t.stage (t.execute client scene).2.stage := by
  cases hnode : t.stage.node? with
  | some node => rw [execute_of_node? hnode]
  | none =>
      have hprepare := Stage.steps_of_readies
        ((readies_frozenWith t client scene).trans (readies_prepare t client scene))
      rcases submission_cases t client scene hnode with ⟨_, _, hdone⟩ | ⟨node, _, _, _, hstep⟩
      · rw [hdone]
        exact hprepare
      · exact hprepare.tail hstep

theorem lawful_execute (client : Client ω χ) (scene : Scene ω χ) :
    t.Lawful (.act (.execute client scene)) where
  steps := steps_execute client scene
  refused _ hrefusal := isRefused_of_refusal? hrefusal
  accepted hopen := by
    change t.acceptedIn client scene = (t.execute client scene).2.stage.node?.toList
    rcases submission_cases t client scene hopen with ⟨_, hnone, hdone⟩ | ⟨node, _, hone, hlast, _⟩
    · have hready := (readies_frozenWith t client scene).trans (readies_prepare t client scene)
      rw [hnone, hdone, Stage.node?_eq_of_readies hready, hopen]
      rfl
    · rw [hone, hlast]
      rfl
  settled node hash hstage := by
    obtain ⟨hstill, hsent⟩ := used_of_executed hstage (.act (.execute client scene))
    exact ⟨hstill, hsent, acceptedBy_of_node? (congrArg Stage.node? hstage) _⟩
  failed other otherScene error bodies huse houtcome hbodies := by
    cases huse
    cases hnode : t.stage.node? with
    | some node =>
        -- A transaction that was accepted is not frozen any more.
        have hready := Stage.node?_eq_of_readies (readies_frozenWith t client scene)
        rw [hbodies, hnode] at hready
        cases hready
    | none =>
        rcases submission_cases t client scene hnode with ⟨_, _, hdone⟩ | ⟨_, ⟨acceptance, hok⟩, _⟩
        · have hready := readies_prepare t client scene
          rw [hbodies] at hready
          change ∃ signed, (t.execute client scene).2.stage = .frozen signed ∧ _
          rw [hdone]
          exact Stage.papers_eq_of_readies hready
        · simp only [outcome, hok] at houtcome
          cases houtcome

theorem lawful (t : Transaction) (use : Use ω χ) : t.Lawful use := by
  cases use with
  | act act =>
      cases act with
      | setNodes nodes => exact lawful_of_edit rfl rfl rfl (by simp)
      | setId id => exact lawful_of_edit rfl rfl rfl (by simp)
      | setMaxFee maxFee => exact lawful_of_edit rfl rfl rfl (by simp)
      | setMemo memo => exact lawful_of_edit rfl rfl rfl (by simp)
      | setValidDuration validDuration => exact lawful_of_edit rfl rfl rfl (by simp)
      | setSettings settings => exact lawful_of_readies .refl rfl (by simp)
      | freeze network => exact lawful_of_readies (readies_freeze t network) rfl (by simp)
      | freezeWith client scene =>
          exact lawful_of_readies (readies_freezeWith t client scene) rfl (by simp)
      | sign signer world => exact lawful_of_readies (readies_sign t signer world) rfl (by simp)
      | signWithOperator client scene =>
          exact lawful_of_readies (readies_signWithOperator t client scene) rfl (by simp)
      | addSignature node key signature =>
          exact lawful_of_readies (readies_addSignature t node key signature) rfl (by simp)
      | execute client scene => exact lawful_execute client scene
  | verify verifier => exact lawful_of_readies .refl rfl (by simp)
  | signable => exact lawful_of_readies .refl rfl (by simp)
  | signedFor node => exact lawful_of_readies .refl rfl (by simp)
  | hashFor node => exact lawful_of_readies .refl rfl (by simp)

/-! ### Lifetimes -/

/-- The moments of a lifetime: the transaction as it was, and what it was used for. -/
def moments (t : Transaction) : List (Use ω χ) → List (Transaction × Use ω χ)
  | [] => []
  | use :: rest => (t, use) :: moments (t.used use).1 rest

/-- The transaction after a lifetime. -/
def lived (t : Transaction) : List (Use ω χ) → Transaction
  | [] => t
  | use :: rest => lived (t.used use).1 rest

/-- The nodes that accept the transaction in a lifetime. -/
def acceptedOver (t : Transaction) (uses : List (Use ω χ)) : List AccountId :=
  (t.moments uses).flatMap fun moment => moment.1.acceptedBy moment.2

theorem acceptedOver_cons (t : Transaction) (use : Use ω χ) (rest : List (Use ω χ)) :
    t.acceptedOver (use :: rest) = t.acceptedBy use ++ (t.used use).1.acceptedOver rest := rfl

theorem steps_lived (t : Transaction) (uses : List (Use ω χ)) :
    ReflTransGen Stage.Step t.stage (t.lived uses).stage := by
  induction uses generalizing t with
  | nil => exact .refl
  | cons use rest ih => exact (t.lawful use).steps.trans (ih (t.used use).1)

theorem lived_of_executed {node : AccountId} {hash : Bytes} (hstage : t.stage = .executed node hash)
    (uses : List (Use ω χ)) :
    (t.lived uses).stage = .executed node hash ∧ t.acceptedOver uses = [] := by
  induction uses generalizing t with
  | nil => exact ⟨hstage, rfl⟩
  | cons use rest ih =>
      obtain ⟨hstill, _, hnone⟩ := (t.lawful use).settled node hash hstage
      obtain ⟨hlast, hlater⟩ := ih hstill
      refine ⟨hlast, ?_⟩
      rw [acceptedOver_cons, hnone, hlater]
      rfl

theorem acceptedOver_eq (uses : List (Use ω χ)) (hopen : t.stage.node? = none) :
    t.acceptedOver uses = (t.lived uses).stage.node?.toList := by
  induction uses generalizing t with
  | nil =>
      rw [lived, hopen]
      rfl
  | cons use rest ih =>
      rw [acceptedOver_cons, (t.lawful use).accepted hopen, lived]
      cases hstage : (t.used use).1.stage with
      | draft => exact ih (congrArg Stage.node? hstage)
      | frozen bodies => exact ih (congrArg Stage.node? hstage)
      | executed node hash =>
          obtain ⟨hlast, hlater⟩ := lived_of_executed hstage rest
          rw [hlast, hlater]
          rfl

/-- In whatever order a transaction is used for whatever it may be used for, each use keeps to the
law, the stages follow each other as they should, and the one node that accepts the transaction, if
one does, is the one it ends with. -/
theorem lifetime_lawful (t : Transaction) (uses : List (Use ω χ)) (hopen : t.stage.node? = none) :
    (∀ moment ∈ t.moments uses, moment.1.Lawful moment.2) ∧
      ReflTransGen Stage.Step t.stage (t.lived uses).stage ∧
      t.acceptedOver uses = (t.lived uses).stage.node?.toList :=
  ⟨fun moment _ => moment.1.lawful moment.2, steps_lived t uses, acceptedOver_eq uses hopen⟩

theorem lifetime_lawful_resubmission :
    let t : Transaction := { data := .submitMessage (.ofNum 9) [1, 2, 3] }
    let uses := resubmission.map Use.act
    t.stage.node? = none ∧ (t.acceptedOver uses).map (·.num) = [4] := by
  intro t uses
  obtain ⟨_, _, haccepted⟩ := lifetime_lawful t uses rfl
  have hnode : (t.lived uses).stage.node?.toList.map (·.num) = [4] := by decide +kernel
  rw [← haccepted] at hnode
  exact ⟨rfl, hnode⟩

end Transaction

end LedgerClient
