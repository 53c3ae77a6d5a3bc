import LedgerClient.Proofs.Transaction.SigningCalls
import LedgerClient.Proofs.Transaction.Tables

/-!
# Signing by the log

Each body has the signatures that a log tells of its node, and so have tables that hold the bodies,
through any sequence of calls that sign them. Calls fail in the tables where they fail for the
bodies.
-/

namespace LedgerClient

variable {ω χ : Type}

namespace Filing

/-! ### Calls -/

/-- The tables after a call that succeeds. -/
def call (filing : Filing) : SigningCall ω → Outcome Filing
  | .sign signer world =>
      match filing.signAll signer world with
      | (.error error, _, _) => .error error
      | (.ok (), filed, _) => .ok filed
  | .add node key signature => filing.addSignature node key signature

/-- The tables after calls that succeed one after the other. -/
def calls (filing : Filing) : List (SigningCall ω) → Outcome Filing
  | [] => .ok filing
  | first :: rest => do (← filing.call first).calls rest

variable {filing : Filing} {bodies : SignedBodies} {t next : Transaction}

/-- What a call makes of tables goes with what it makes of a transaction. -/
inductive Follows (filing : Filing) : Outcome Transaction → Outcome Filing → Prop where
  | failed (error : ClientError) : Follows filing (.error error) (.error error)
  | done {next : Transaction} {filed : Filing} {signed : SignedBodies}
      (hstage : next.stage = .frozen signed) (hholds : filed.Holds signed)
      (hextends : filed.Extends filing) : Follows filing (.ok next) (.ok filed)

theorem Follows.of_extends {filed filing : Filing} {called : Outcome Transaction}
    {after : Outcome Filing} (hfollows : filed.Follows called after)
    (hextends : filed.Extends filing) : filing.Follows called after := by
  cases hfollows with
  | failed error => exact .failed error
  | done hstage hholds hlast => exact .done hstage hholds (hlast.trans hextends)

theorem follows_call (hfrozen : t.stage = .frozen bodies) (hholds : filing.Holds bodies)
    (hhashes : (bodies.bodies.map SignedBody.hash).Nodup) (call : SigningCall ω) :
    filing.Follows (t.call call) (filing.call call) := by
  cases call with
  | sign signer world =>
      obtain ⟨hok, _, hsigned, hextends⟩ := hholds.signAll hhashes signer world
      simp only [Transaction.call, Filing.call, Transaction.sign_of_frozen hfrozen]
      generalize bodies.signAll signer world = listed at hok hsigned ⊢
      generalize filing.signAll signer world = filed at hok hsigned hextends ⊢
      obtain ⟨outcome, signed, left⟩ := listed
      obtain ⟨same, filed, other⟩ := filed
      cases hok
      cases outcome with
      | error error => exact .failed error
      | ok => exact .done rfl hsigned hextends
  | add node key signature =>
      unfold Transaction.call Filing.call Transaction.addSignature Transaction.bodies
      rw [hfrozen]
      rcases hholds.addSignature hhashes node key signature with
        ⟨error, hlisted, hfiled⟩ | ⟨signed, filed, hlisted, hfiled, hsigned, hextends⟩
      · simp only [hlisted, hfiled, bind, Except.bind]
        exact .failed error
      · simp only [hlisted, hfiled, bind, Except.bind]
        exact .done rfl hsigned hextends

theorem Holds.map_hash_eq (hholds : filing.Holds bodies) :
    bodies.bodies.map SignedBody.hash = filing.order.map fun node => filing.bodies[node]!.hash := by
  rw [hholds.order_eq, SignedBodies.nodes, List.map_map]
  refine List.map_congr_left fun body hbody => ?_
  rw [Function.comp, hholds.getElem!_eq hbody]

theorem follows_calls (hfrozen : t.stage = .frozen bodies) (hholds : filing.Holds bodies)
    (hhashes : (bodies.bodies.map SignedBody.hash).Nodup) (calls : List (SigningCall ω)) :
    filing.Follows (t.calls calls) (filing.calls calls) := by
  induction calls generalizing t bodies filing with
  | nil => exact .done hfrozen hholds ⟨rfl, rfl⟩
  | cons first rest ih =>
      unfold Transaction.calls Filing.calls
      have hfirst := follows_call hfrozen hholds hhashes first
      generalize t.call first = called at hfirst ⊢
      generalize filing.call first = filed at hfirst ⊢
      cases hfirst with
      | failed error => exact .failed error
      | done hstage hnext hextends =>
          -- The digests are those in the tables, which no call changes.
          rw [hholds.map_hash_eq, ← hextends.order_eq, ← hextends.bodies_eq,
            ← hnext.map_hash_eq] at hhashes
          exact (ih hstage hnext hhashes).of_extends hextends

end Filing

namespace Transaction

variable {t next last : Transaction} {bodies : SignedBodies} {made : AccountId → Bytes}

/-- What comes of signing a frozen transaction, whose bodies are held by tables as well. -/
structure SigningLaw (t : Transaction) (bodies : SignedBodies) (filing : Filing) (ω : Type) :
    Prop where
  /-- Each body has the signatures that a log tells of its node: those there were, and then what one
  call after the other noted. -/
  logged : ∀ (calls : List (SigningCall ω)) (last : Transaction), t.calls calls = .ok last →
    ∃ logs filed, List.Forall₂ bodies.Notes calls logs ∧
      last = { t with stage := .frozen (bodies.withLog logs.flatten) } ∧
      filing.calls calls = .ok filed ∧ filed.Extends filing ∧
      ∀ body ∈ bodies.bodies, filed.signatures? body.node =
        some (.ofLog (body.signatures.pairs ++ notesFor logs.flatten body.node))
  /-- Calls fail in the tables where they fail for the transaction, in the same way. -/
  refused : ∀ (calls : List (SigningCall ω)) (error : ClientError),
    filing.calls calls = .error error ↔ t.calls calls = .error error
  /-- The nodes and their octets stay. -/
  signable_eq : ∀ (calls : List (SigningCall ω)) (last : Transaction), t.calls calls = .ok last →
    last.signable = t.signable
  /-- A signer is asked for the octets of each body, once and in order. -/
  asked : ∀ (signer : Signer ω) (world after : ω) (next : Transaction),
    t.sign signer world = (.ok (), next, after) →
    t.sign signer.noting (world, []) = (.ok (), next, after, bodies.bodies.map (·.bytes))
  /-- A signature that is added for a node is on the body for no other one. -/
  apart : ∀ (node other : AccountId) (key : PublicKey) (signature : Bytes) (next : Transaction),
    t.addSignature node key signature = .ok next → (other == node) = false →
    next.signedFor other = t.signedFor other
  /-- Signing again with a signer that gives the same changes nothing. -/
  again : ∀ (signer : Signer ω) (world after : ω) (next : Transaction), signer.IsDeterministic →
    t.sign signer world = (.ok (), next, after) → ∀ (since : List (SigningCall ω))
      (last : Transaction), (∀ call ∈ since, call.keyBytes ≠ signer.publicKey.bytes) →
      next.calls since = .ok last → ∀ later, (last.sign signer later).1 = .ok () ∧
        (last.sign signer later).2.1 = last

section Law

variable {filing : Filing} {calls : List (SigningCall ω)}

theorem logged_of_follows (hfrozen : t.stage = .frozen bodies) (hbodies : bodies.AreFor made)
    (hfollows : filing.Follows (t.calls calls) (filing.calls calls))
    (hcalls : t.calls calls = .ok last) :
    ∃ logs filed, List.Forall₂ bodies.Notes calls logs ∧
      last = { t with stage := .frozen (bodies.withLog logs.flatten) } ∧
      filing.calls calls = .ok filed ∧ filed.Extends filing ∧
      ∀ body ∈ bodies.bodies, filed.signatures? body.node =
        some (.ofLog (body.signatures.pairs ++ notesFor logs.flatten body.node)) := by
  obtain ⟨logs, hlogs, hlast⟩ := calls_eq_ok hfrozen hbodies hcalls
  rw [hcalls] at hfollows
  generalize filing.calls calls = called at hfollows ⊢
  cases hfollows with
  | @done _ filed signed hstage hholds hextends =>
      refine ⟨logs, filed, hlogs, hlast, rfl, hextends, fun body hbody => ?_⟩
      rw [hlast] at hstage
      cases hstage
      have hmem : body.withLog logs.flatten ∈ (bodies.withLog logs.flatten).bodies :=
        List.mem_map_of_mem hbody
      exact hholds.signatures?_eq hmem

theorem refused_of_follows (hfollows : filing.Follows (t.calls calls) (filing.calls calls))
    (error : ClientError) : filing.calls calls = .error error ↔ t.calls calls = .error error := by
  generalize t.calls calls = listed at hfollows ⊢
  generalize filing.calls calls = filed at hfollows ⊢
  cases hfollows with
  | failed other => exact ⟨fun h => by cases h; rfl, fun h => by cases h; rfl⟩
  | done => exact ⟨nofun, nofun⟩

theorem signable_withLog (hfrozen : t.stage = .frozen bodies)
    (log : List (AccountId × SignaturePair)) :
    signable { t with stage := .frozen (bodies.withLog log) } = t.signable := by
  unfold signable Transaction.bodies
  rw [hfrozen]
  exact congrArg Except.ok (SignedBodies.map_paper_withLog bodies log)

theorem signedFor_of_addSignature (hfrozen : t.stage = .frozen bodies)
    (hbodies : bodies.AreFor made) {node other : AccountId} {key : PublicKey} {signature : Bytes}
    (hadd : t.addSignature node key signature = .ok next) (hother : (other == node) = false) :
    next.signedFor other = t.signedFor other := by
  obtain ⟨others, signed, hstage, hadded, rfl⟩ := addSignature_eq_ok hadd
  cases hfrozen.symm.trans hstage
  rw [SignedBodies.addSignature_eq_ok hbodies hadded]
  unfold signedFor Transaction.bodies
  rw [hfrozen]
  change SignedBodies.signedFor _ other = SignedBodies.signedFor _ other
  unfold SignedBodies.signedFor
  rw [SignedBodies.body?_withLog]
  cases hbody : bodies.body? other with
  | none => rfl
  | some body =>
      obtain ⟨hmem, hnode⟩ := SignedBodies.body?_eq_some hbody
      have hnone : notesFor [(node, ⟨key.bytes, signature⟩)] body.node = [] := by
        refine notesFor_cons_of_ne _ _ (Bool.eq_false_iff.mpr fun hsame => ?_)
        rw [BEq.trans hsame hnode |> BEq.symm] at hother
        cases hother
      rw [Option.map_some, SignedBody.withLog_of_nil (hbodies.signatures_nodup body hmem) hnone]

end Law

/-- A frozen transaction whose bodies have different digests is signed by the log, and so are tables
that hold its bodies. -/
theorem signatures_follow_log (fresh : Transaction) (hdraft : fresh.stage = .draft)
    (acts : List (Act ω χ)) {bodies : SignedBodies}
    (hfrozen : (fresh.history acts).1.stage = .frozen bodies) (hfree : bodies.IsCollisionFree) :
    (∃ filing : Filing, filing.Holds bodies) ∧
      ∀ filing : Filing, filing.Holds bodies →
        (fresh.history acts).1.SigningLaw bodies filing ω := by
  obtain ⟨id, _, hbodies⟩ := (history_spec fresh acts).1.sound (isSound_of_draft hdraft) _ hfrozen
  have hhashes := SignedBodies.nodup_hashes hbodies hfree
  refine ⟨Filing.exists_holds hdraft acts hfrozen hhashes, fun filing hholds => ?_⟩
  have hfollows := Filing.follows_calls (ω := ω) hfrozen hholds hhashes
  refine ⟨fun calls last => ?_, fun calls => ?_, fun calls last hcalls => ?_, ?_, ?_, ?_⟩
  · exact logged_of_follows hfrozen hbodies (hfollows calls)
  · exact refused_of_follows (hfollows calls)
  · obtain ⟨logs, _, rfl⟩ := calls_eq_ok hfrozen hbodies hcalls
    exact signable_withLog hfrozen logs.flatten
  · intro signer world after next hsign
    exact sign_noting hfrozen hsign
  · intro node other key signature next
    exact signedFor_of_addSignature hfrozen hbodies
  · intro signer world after next hsigner hsign since last hsince hcalls
    exact sign_again hfrozen hbodies hsigner hsign hsince hcalls

/-- A transfer that may go to two nodes. -/
def addressed : Transaction :=
  { data := .cryptoTransfer [], id := some default, nodes := [.ofNum 4, .ofNum 3] }

/-- The transfer, frozen for its nodes. -/
def addressedFrozen : Transaction :=
  addressed.kept (addressed.freeze (Execution.rehearsed []).network)

/-- The transfer is signed by one key twice, and in between for one node by another, also twice. -/
def countersigning : List (SigningCall Nat) :=
  [.sign tiring 2, .add (.ofNum 4) ⟨.ed25519, [8]⟩ [1], .add (.ofNum 4) ⟨.ed25519, [8]⟩ [2],
    .sign tiring 2]

theorem signatures_follow_log_countersigning :
    ∃ bodies last, addressedFrozen.stage = .frozen bodies ∧ bodies.IsCollisionFree ∧
      addressedFrozen.calls countersigning = .ok last ∧ last.signatureCounts = [2, 1] ∧
      last.signable = addressedFrozen.signable := by
  obtain ⟨a, b, hfrozen, hne⟩ : ∃ a b, addressedFrozen.stage = .frozen ⟨[a, b]⟩ ∧
      a.hash ≠ b.hash := ⟨_, _, rfl, by decide +kernel⟩
  have hfree : SignedBodies.IsCollisionFree ⟨[a, b]⟩ := by
    intro first hfirst second hsecond hhash
    obtain rfl | rfl := List.mem_pair.mp hfirst
    · obtain rfl | rfl := List.mem_pair.mp hsecond
      · rfl
      · exact absurd hhash hne
    · obtain rfl | rfl := List.mem_pair.mp hsecond
      · exact absurd hhash.symm hne
      · rfl
  have hlaw := signatures_follow_log (ω := Nat) addressed rfl
    [.freeze (Execution.rehearsed []).network] hfrozen hfree
  obtain ⟨filing, hholds⟩ := hlaw.1
  obtain ⟨last, hlast, hcounts⟩ : ∃ last, addressedFrozen.calls countersigning = .ok last ∧
      last.signatureCounts = [2, 1] := ⟨_, rfl, by decide +kernel⟩
  exact ⟨⟨[a, b]⟩, last, hfrozen, hfree, hlast, hcounts,
    (hlaw.2 filing hholds).signable_eq countersigning last hlast⟩

end Transaction

end LedgerClient
