import LedgerClient.Proofs.Execution.Recording
import LedgerClient.Proofs.Transaction.History

/-!
# What a transaction hands to channels

Whatever is done with a transaction goes the same way in a recorded world. The record of the call
that submits it is made up of its sendings, and nothing else that is done with it leaves a record.
So what was handed to a channel in a history is one of the sendings of that history, and the channel
is the one that is kept for the node.
-/

namespace LedgerClient

variable {ω χ : Type}

/-! ### Clients in a recorded world -/

/-- The same signer, who takes no notice of the record. -/
def Signer.recorded (signer : Signer ω) : Signer (Recorded ω χ) where
  publicKey := signer.publicKey
  sign message world :=
    let (outcome, after) := signer.sign message world.1
    (outcome, (after, world.2))

/-- The same operator in a recorded world. -/
def Operator.recorded (operator : Operator ω) : Operator (Recorded ω χ) where
  account := operator.account
  signer := operator.signer.recorded

namespace Client

/-- The same client in a recorded world. -/
def recorded (client : Client ω χ) : Client (Recorded ω χ) χ where
  surroundings := client.surroundings.recorded
  operator := client.operator.map Operator.recorded
  settings := client.settings
  autoValidate := client.autoValidate
  maxNodes := client.maxNodes
  dialsMirrors := client.dialsMirrors

theorem chooseNodes_recorded (client : Client ω χ) (named : List AccountId) (scene : Scene ω χ)
    (record : List (Handed χ)) :
    client.recorded.chooseNodes named (scene.recorded record) =
      ((client.chooseNodes named scene).1, (client.chooseNodes named scene).2.recorded record) := by
  unfold chooseNodes
  by_cases hnone : named.isEmpty = true
  · rw [if_pos hnone, if_pos hnone]
    rfl
  · rw [if_neg hnone, if_neg hnone]

theorem execute_recorded {α : Type} (client : Client ω χ) (operation : Operation α)
    (scene : Scene ω χ) (record : List (Handed χ)) :
    (client.execute operation scene).IsRecordedAs record
      (client.recorded.execute operation (scene.recorded record)) :=
  Execution.execute_recorded client.surroundings operation
    (operation.settings.getD client.settings) scene record

end Client

theorem SignedBodies.signEach_recorded (signer : Signer ω) (bodies : List SignedBody) (world : ω)
    (record : List (Handed χ)) :
    signEach signer.recorded bodies (world, record) =
      ((signEach signer bodies world).1, (signEach signer bodies world).2.1,
        ((signEach signer bodies world).2.2, record)) := by
  induction bodies generalizing world with
  | nil => rfl
  | cons body rest ih =>
      unfold signEach
      rcases hsign : signer.sign body.bytes world with ⟨error | signature, after⟩
      · simp only [Signer.recorded, hsign]
      · simp only [Signer.recorded, hsign]
        have hrest := ih after
        simp only [Signer.recorded] at hrest
        rw [hrest]

namespace Transaction

/-! ### Acts in a recorded world -/

variable (t : Transaction) (client : Client ω χ) (scene : Scene ω χ) (record : List (Handed χ))

theorem sign_recorded (signer : Signer ω) (world : ω) :
    t.sign signer.recorded (world, record) =
      ((t.sign signer world).1, (t.sign signer world).2.1,
        ((t.sign signer world).2.2, record)) := by
  unfold sign
  cases t.bodies with
  | error error => rfl
  | ok bodies =>
      simp only [SignedBodies.signAll, SignedBodies.signEach_recorded]

theorem signWithOperator_recorded :
    t.signWithOperator client.recorded (scene.recorded record) =
      ((t.signWithOperator client scene).1, (t.signWithOperator client scene).2.1,
        (t.signWithOperator client scene).2.2.recorded record) := by
  cases hoperator : client.operator with
  | none => simp only [signWithOperator, Client.recorded, hoperator, Option.map_none]
  | some operator =>
      have hsign := t.sign_recorded record operator.signer scene.world
      simp only [signWithOperator, Client.recorded, hoperator, Option.map_some]
      simp only [Operator.recorded, Scene.recorded, hsign]

theorem nameWith_recorded :
    t.nameWith client.recorded (scene.recorded record) =
      ((t.nameWith client scene).1, (t.nameWith client scene).2.recorded record) := by
  cases hid : t.id with
  | some id => simp only [nameWith, hid]
  | none =>
      cases hoperator : client.operator with
      | none => simp only [nameWith, Client.recorded, hid, hoperator, Option.map_none]
      | some operator =>
          simp only [nameWith, Client.recorded, hid, hoperator, Option.map_some]
          rfl

theorem freezeWith_recorded :
    t.freezeWith client.recorded (scene.recorded record) =
      ((t.freezeWith client scene).1, (t.freezeWith client scene).2.1,
        (t.freezeWith client scene).2.2.recorded record) := by
  unfold freezeWith
  cases t.requireDraft with
  | error error => rfl
  | ok =>
      rw [nameWith_recorded]
      rcases t.nameWith client scene with ⟨error | named, after⟩
      · rfl
      · have hcheck : ∀ ids, client.recorded.checkIds (after.recorded record) ids =
            client.checkIds after ids := fun ids => rfl
        simp only [hcheck, Client.chooseNodes_recorded]
        cases client.checkIds after (named.data.entities ++ named.nodes) with
        | error error => rfl
        | ok =>
            simp only [Scene.network_recorded, Client.network_chooseNodes]
            cases freezeFor named after.network (client.chooseNodes named.nodes after).1 with
            | error error => rfl
            | ok frozen => rfl

theorem prepare_recorded :
    t.prepare client.recorded (scene.recorded record) =
      ((t.prepare client scene).1, (t.prepare client scene).2.1,
        (t.prepare client scene).2.2.recorded record) := by
  -- A transaction that is frozen already is taken as it is, in either world.
  obtain ⟨outcome, frozen, after, hdone, hrecorded⟩ : ∃ outcome frozen after,
      (if t.isFrozen then (.ok (), t, scene) else t.freezeWith client scene) =
        (outcome, frozen, after) ∧
      (if t.isFrozen then (.ok (), t, scene.recorded record)
        else t.freezeWith client.recorded (scene.recorded record)) =
          (outcome, frozen, after.recorded record) := by
    by_cases hfrozen : t.isFrozen = true
    · rw [if_pos hfrozen, if_pos hfrozen]
      exact ⟨_, _, _, rfl, rfl⟩
    · rw [if_neg hfrozen, if_neg hfrozen, freezeWith_recorded]
      exact ⟨_, _, _, rfl, rfl⟩
  unfold prepare
  rw [hdone, hrecorded]
  cases outcome with
  | error error => rfl
  | ok =>
      cases hoperator : client.operator with
      | none => simp only [Client.recorded, hoperator, Option.map_none]
      | some operator =>
          have hsign := frozen.signWithOperator_recorded client after record
          simp only [Client.recorded, hoperator, Option.map_some] at hsign ⊢
          rw [hsign]

/-- The call that submits a transaction goes in a recorded world as in the world itself. -/
theorem execute_recorded :
    (t.execute client scene).1.IsRecordedAs record
        (t.execute client.recorded (scene.recorded record)).1 ∧
      (t.execute client.recorded (scene.recorded record)).2 = (t.execute client scene).2 := by
  have hprepare := t.prepare_recorded client scene record
  unfold execute
  cases t.stage with
  | executed node hash => exact ⟨Run.isRecordedAs_recorded _ record, rfl⟩
  | draft | frozen bodies =>
      rw [hprepare]
      rcases t.prepare client scene with ⟨error | _, ready, after⟩
      · exact ⟨Run.isRecordedAs_recorded _ record, rfl⟩
      · cases hsubmittable : ready.submittable with
        | error error =>
            simp only [hsubmittable]
            exact ⟨Run.isRecordedAs_recorded _ record, trivial⟩
        | ok found =>
            obtain ⟨id, bodies⟩ := found
            obtain ⟨handed, hrun, hhanded⟩ :=
              client.execute_recorded (ready.submission id bodies) after record
            simp only [hsubmittable, hrun]
            generalize client.execute (ready.submission id bodies) after = run at hhanded ⊢
            obtain ⟨attempts, outcome, last⟩ := run
            cases outcome with
            | error error => exact ⟨⟨handed, rfl, hhanded⟩, rfl⟩
            | ok acceptance =>
                simp only [Run.recorded]
                cases ready.accepted acceptance.node with
                | error error => exact ⟨⟨handed, rfl, hhanded⟩, rfl⟩
                | ok done => exact ⟨⟨handed, rfl, hhanded⟩, rfl⟩

end Transaction

/-! ### What is handed over in a history -/

/-- Octets that were handed to a channel, and the network that the call left. -/
structure Handing (χ : Type) where
  channel : χ
  octets : Bytes
  network : Network χ

/-- What was noted in the world of a scene. -/
def Scene.handings (scene : Scene (Recorded ω χ) χ) : List (Handing χ) :=
  scene.world.2.map fun handed => ⟨handed.channel, handed.octets, scene.network⟩

/-- What was handed over is what was to be sent: these octets, to the channel kept for the node. -/
def Handing.Carries (handing : Handing χ) (sending : Sending ω) : Prop :=
  handing.octets = sending.request ∧
    handing.network.kept? sending.node = some handing.channel

namespace Transaction

/-- The act in a recorded world, in which nothing has been noted yet. -/
def Act.recorded : Act ω χ → Act (Recorded ω χ) χ
  | .setNodes nodes => .setNodes nodes
  | .setId id => .setId id
  | .setMaxFee maxFee => .setMaxFee maxFee
  | .setMemo memo => .setMemo memo
  | .setValidDuration validDuration => .setValidDuration validDuration
  | .setSettings settings => .setSettings settings
  | .freeze network => .freeze network
  | .freezeWith client scene => .freezeWith client.recorded (scene.recorded [])
  | .sign signer world => .sign signer.recorded (world, [])
  | .signWithOperator client scene => .signWithOperator client.recorded (scene.recorded [])
  | .addSignature node key signature => .addSignature node key signature
  | .execute client scene => .execute client.recorded (scene.recorded [])

/-- What is handed to channels in an act. Without a client there is nobody to hand anything over. -/
def handings (t : Transaction) : Act (Recorded ω χ) χ → List (Handing χ)
  | .freezeWith client scene => (t.freezeWith client scene).2.2.handings
  | .signWithOperator client scene => (t.signWithOperator client scene).2.2.handings
  | .execute client scene => (t.execute client scene).1.scene.handings
  | _ => []

/-- What is handed to channels in a sequence of acts. -/
def allHandings (t : Transaction) : List (Act (Recorded ω χ) χ) → List (Handing χ)
  | [] => []
  | act :: rest => t.handings act ++ (t.perform act).1.allHandings rest

/-- An act does the same to a transaction in a recorded world. -/
theorem perform_recorded (t : Transaction) (act : Act ω χ) :
    (t.perform act.recorded).1 = (t.perform act).1 := by
  cases act with
  | freezeWith client scene =>
      simp only [Act.recorded, perform, freezeWith_recorded]
  | sign signer world =>
      simp only [Act.recorded, perform, sign_recorded]
  | signWithOperator client scene =>
      simp only [Act.recorded, perform, signWithOperator_recorded]
  | execute client scene => exact (t.execute_recorded client scene []).2
  | _ => rfl

theorem exists_sending_of_execute (t : Transaction) (client : Client ω χ) (scene : Scene ω χ) :
    ∀ handing ∈ (t.execute client.recorded (scene.recorded [])).1.scene.handings,
      ∃ sending ∈ t.sendings client scene, handing.Carries sending := by
  obtain ⟨⟨handed, hrun, hhanded⟩, _⟩ := t.execute_recorded client scene []
  rw [hrun]
  intro handing hhanding
  obtain ⟨one, hone, rfl⟩ := List.mem_map.mp hhanding
  obtain ⟨attempt, hattempt, hrequest, hkept⟩ := hhanded one hone
  refine ⟨⟨attempt.member.account, one.octets, (t.prepare client scene).2.1, client.operator⟩,
    List.mem_filterMap.mpr ⟨attempt, hattempt, ?_⟩, rfl, hkept⟩
  rw [hrequest]
  rfl

/-- Whatever is handed to a channel in an act is one of its sendings. -/
theorem exists_sending_of_perform (t : Transaction) (act : Act ω χ) :
    ∀ handing ∈ t.handings act.recorded, ∃ sending ∈ (t.perform act).2,
      handing.Carries sending := by
  cases act with
  | freezeWith client scene =>
      simp only [Act.recorded, handings, freezeWith_recorded]
      exact nofun
  | signWithOperator client scene =>
      simp only [Act.recorded, handings, signWithOperator_recorded]
      exact nofun
  | execute client scene => exact t.exists_sending_of_execute client scene
  | _ => exact nofun

/-- Whatever is handed to a channel in a history is one of the sendings of the history. -/
theorem exists_sending_of_history (t : Transaction) (acts : List (Act ω χ)) :
    ∀ handing ∈ t.allHandings (acts.map Act.recorded), ∃ sending ∈ (t.history acts).2,
      handing.Carries sending := by
  induction acts generalizing t with
  | nil => exact nofun
  | cons act rest ih =>
      intro handing hhanding
      rw [List.map_cons, allHandings, perform_recorded] at hhanding
      rcases List.mem_append.mp hhanding with hfirst | hlater
      · obtain ⟨sending, hsending, hcarries⟩ := t.exists_sending_of_perform act handing hfirst
        exact ⟨sending, List.mem_append_left _ hsending, hcarries⟩
      · obtain ⟨sending, hsending, hcarries⟩ := ih (t.perform act).1 handing hlater
        exact ⟨sending, List.mem_append_right _ hsending, hcarries⟩

end Transaction

end LedgerClient
