import LedgerClient.Proofs.Outcome
import LedgerClient.Proofs.Transaction.SignatureLog

/-!
# Calls that sign

A frozen transaction is signed by any sequence of calls, some of which ask a signer for all bodies
and some of which add a signature that was made elsewhere. What the calls note for the nodes is all
that is left of them.
-/

namespace LedgerClient

variable {ω χ : Type}

/-- A call that gives signatures to a frozen transaction. -/
inductive SigningCall (ω : Type) where
  | sign (signer : Signer ω) (world : ω)
  | add (node : AccountId) (key : PublicKey) (signature : Bytes)

/-- The octets of the key that the signatures of a call are by. -/
def SigningCall.keyBytes : SigningCall ω → Bytes
  | .sign signer _ => signer.publicKey.bytes
  | .add _ key _ => key.bytes

namespace SignedBodies

variable {signer : Signer ω} {world last : ω} {signatures : List Bytes}

/-- What a call notes for the nodes of bodies: the signatures that its signer gives for their
octets, one after the other, or the signature that it adds. -/
inductive Notes (bodies : SignedBodies) :
    SigningCall ω → List (AccountId × SignaturePair) → Prop where
  | sign {signer : Signer ω} {world last : ω} {signatures : List Bytes}
      (hsigns : Signs signer world bodies.bodies signatures last) :
      Notes bodies (.sign signer world)
        (bodies.nodes.zip (signatures.map (SignaturePair.mk signer.publicKey.bytes)))
  | add (node : AccountId) (key : PublicKey) (signature : Bytes) :
      Notes bodies (.add node key signature) [(node, ⟨key.bytes, signature⟩)]

/-- All that a signer sees of bodies is their octets. -/
theorem Signs.of_bytes_eq {bodies others : List SignedBody}
    (hsigns : Signs signer world bodies signatures last)
    (hbytes : others.map (·.bytes) = bodies.map (·.bytes)) :
    Signs signer world others signatures last := by
  induction hsigns generalizing others with
  | nil =>
      rw [List.map_eq_nil_iff.mp hbytes]
      exact .nil
  | cons hsign _ ih =>
      obtain ⟨first, rest, rfl, hfirst, hrest⟩ := List.map_eq_cons_iff.mp hbytes
      refine .cons ?_ (ih hrest)
      rw [hfirst]
      exact hsign

theorem signEach_of_signs {bodies : List SignedBody}
    (hsigns : Signs signer world bodies signatures last) :
    signEach signer bodies world = (.ok (), bodies.zipWith (signedBy signer) signatures, last) := by
  induction hsigns with
  | nil => rfl
  | cons hsign _ ih =>
      unfold signEach
      simp only [hsign, ih]
      rfl

theorem Notes.of_withLog {bodies : SignedBodies} {log notes : List (AccountId × SignaturePair)}
    {call : SigningCall ω} (hnotes : (bodies.withLog log).Notes call notes) :
    bodies.Notes call notes := by
  cases hnotes with
  | sign hsigns =>
      rw [nodes_withLog]
      refine .sign (hsigns.of_bytes_eq ?_)
      unfold withLog
      rw [List.map_map]
      rfl
  | add node key signature => exact .add node key signature

theorem Notes.publicKey_eq {bodies : SignedBodies} {notes : List (AccountId × SignaturePair)}
    {call : SigningCall ω} (hnotes : bodies.Notes call notes) :
    ∀ note ∈ notes, note.2.publicKey = call.keyBytes := by
  intro note hnote
  cases hnotes with
  | sign =>
      obtain ⟨signature, _, hpair⟩ := List.mem_map.mp (List.of_mem_zip hnote).2
      rw [← hpair]
      rfl
  | add =>
      rw [List.mem_singleton.mp hnote]
      rfl

theorem publicKey_of_notes {bodies : SignedBodies} {calls : List (SigningCall ω)}
    {logs : List (List (AccountId × SignaturePair))}
    (hlogs : List.Forall₂ bodies.Notes calls logs) :
    ∀ note ∈ logs.flatten, ∃ call ∈ calls, note.2.publicKey = call.keyBytes := by
  induction hlogs with
  | nil => nofun
  | cons hnotes _ ih =>
      intro note hnote
      rw [List.flatten_cons] at hnote
      rcases List.mem_append.mp hnote with hfirst | hrest
      · exact ⟨_, List.mem_cons_self, hnotes.publicKey_eq note hfirst⟩
      · obtain ⟨call, hcall, hkey⟩ := ih note hrest
        exact ⟨call, List.mem_cons_of_mem _ hcall, hkey⟩

theorem signAll_eq_ok {bodies signed : SignedBodies} {made : AccountId → Bytes}
    (hbodies : bodies.AreFor made)
    (hsigned : bodies.signAll signer world = (.ok (), signed, last)) :
    ∃ signatures, Signs signer world bodies.bodies signatures last ∧
      signed = bodies.withLog
        (bodies.nodes.zip (signatures.map (SignaturePair.mk signer.publicKey.bytes))) := by
  have hends := signEach_ends signer bodies.bodies world
  unfold signAll at hsigned
  generalize signEach signer bodies.bodies world = done at hends hsigned
  obtain ⟨outcome, after, left⟩ := done
  cases hsigned
  cases hends with
  | signed hsigns =>
      refine ⟨_, hsigns, congrArg mk ?_⟩
      exact zipWith_signedBy signer hsigns.length_eq hbodies.keys_nodup hbodies.signatures_nodup

theorem addSignature_eq_ok {bodies signed : SignedBodies} {made : AccountId → Bytes}
    (hbodies : bodies.AreFor made) {node : AccountId} {key : PublicKey} {signature : Bytes}
    (hadded : bodies.addSignature node key signature = .ok signed) :
    signed = bodies.withLog [(node, ⟨key.bytes, signature⟩)] := by
  unfold addSignature at hadded
  split at hadded
  next =>
    cases hadded
    exact congrArg mk (addTo_eq_map _ hbodies.keys_nodup hbodies.signatures_nodup)
  next => cases hadded

end SignedBodies

namespace Transaction

variable {t next last : Transaction} {bodies : SignedBodies} {made : AccountId → Bytes}

/-- The transaction after a call that succeeds. -/
def call (t : Transaction) : SigningCall ω → Outcome Transaction
  | .sign signer world =>
      match t.sign signer world with
      | (.error error, _, _) => .error error
      | (.ok (), next, _) => .ok next
  | .add node key signature => t.addSignature node key signature

/-- The transaction after calls that succeed one after the other. -/
def calls (t : Transaction) : List (SigningCall ω) → Outcome Transaction
  | [] => .ok t
  | first :: rest => do (← t.call first).calls rest

theorem sign_of_frozen (hfrozen : t.stage = .frozen bodies) (signer : Signer ω) (world : ω) :
    t.sign signer world =
      let done := bodies.signAll signer world
      (done.1, { t with stage := .frozen done.2.1 }, done.2.2) := by
  unfold sign
  simp only [Transaction.bodies, hfrozen]

theorem call_eq_ok (hfrozen : t.stage = .frozen bodies) (hbodies : bodies.AreFor made)
    {call : SigningCall ω} (hcall : t.call call = .ok next) :
    ∃ notes, bodies.Notes call notes ∧
      next = { t with stage := .frozen (bodies.withLog notes) } := by
  cases call with
  | sign signer world =>
      simp only [Transaction.call, sign_of_frozen hfrozen] at hcall
      cases hdone : bodies.signAll signer world with
      | mk outcome done =>
          obtain ⟨signed, after⟩ := done
          rw [hdone] at hcall
          cases outcome with
          | error error => cases hcall
          | ok =>
              cases hcall
              obtain ⟨signatures, hsigns, rfl⟩ := SignedBodies.signAll_eq_ok hbodies hdone
              exact ⟨_, .sign hsigns, rfl⟩
  | add node key signature =>
      obtain ⟨others, signed, hstage, hadded, rfl⟩ := addSignature_eq_ok hcall
      cases hfrozen.symm.trans hstage
      rw [SignedBodies.addSignature_eq_ok hbodies hadded]
      exact ⟨_, .add node key signature, rfl⟩

/-- Calls leave the bodies with the log of what they note for them. -/
theorem calls_eq_ok (hfrozen : t.stage = .frozen bodies) (hbodies : bodies.AreFor made)
    {calls : List (SigningCall ω)} (hcalls : t.calls calls = .ok last) :
    ∃ logs, List.Forall₂ bodies.Notes calls logs ∧
      last = { t with stage := .frozen (bodies.withLog logs.flatten) } := by
  induction calls generalizing t bodies with
  | nil =>
      cases hcalls
      refine ⟨[], .nil, ?_⟩
      rw [List.flatten_nil, SignedBodies.withLog_nil hbodies, ← hfrozen]
  | cons first rest ih =>
      unfold Transaction.calls at hcalls
      obtain ⟨next, hfirst, hrest⟩ := Outcome.bind_eq_ok.mp hcalls
      obtain ⟨notes, hnotes, rfl⟩ := call_eq_ok hfrozen hbodies hfirst
      -- The later calls note for the signed bodies what they would for the first ones.
      obtain ⟨logs, hlogs, rfl⟩ := ih rfl (hbodies.withLog notes) hrest
      refine ⟨notes :: logs, .cons hnotes (hlogs.imp fun _ _ => .of_withLog), ?_⟩
      rw [SignedBodies.withLog_withLog, List.flatten_cons]

end Transaction

/-! ### What a signer is asked for -/

/-- A signer that takes down what it is asked to sign. -/
def Signer.noting (signer : Signer ω) : Signer (ω × List Bytes) where
  publicKey := signer.publicKey
  sign message world :=
    let (outcome, after) := signer.sign message world.1
    (outcome, after, world.2 ++ [message])

theorem SignedBodies.Signs.noting {signer : Signer ω} {world last : ω} {bodies : List SignedBody}
    {signatures : List Bytes} (hsigns : Signs signer world bodies signatures last)
    (noted : List Bytes) :
    Signs signer.noting (world, noted) bodies signatures (last, noted ++ bodies.map (·.bytes)) := by
  induction hsigns generalizing noted with
  | nil =>
      rw [List.map_nil, List.append_nil]
      exact .nil
  | @cons world next last body rest signature signatures hsign _ ih =>
      have hnoted : signer.noting.sign body.bytes (world, noted) =
          (.ok signature, next, noted ++ [body.bytes]) := by
        simp only [Signer.noting, hsign]
      rw [List.map_cons, List.append_cons]
      exact .cons hnoted (ih _)

/-- A signer that signs a transaction is asked for the octets of each body, once and in order. -/
theorem Transaction.sign_noting {t next : Transaction} {bodies : SignedBodies}
    (hfrozen : t.stage = .frozen bodies) {signer : Signer ω} {world last : ω}
    (hsign : t.sign signer world = (.ok (), next, last)) :
    t.sign signer.noting (world, []) = (.ok (), next, last, bodies.bodies.map (·.bytes)) := by
  have hends := SignedBodies.signEach_ends signer bodies.bodies world
  rw [sign_of_frozen hfrozen] at hsign ⊢
  unfold SignedBodies.signAll at hsign ⊢
  generalize SignedBodies.signEach signer bodies.bodies world = done at hends hsign
  obtain ⟨outcome, signed, after⟩ := done
  cases hsign
  cases hends with
  | signed hsigns =>
      rw [SignedBodies.signEach_of_signs (hsigns.noting [])]
      rfl

/-! ### Signing again -/

/-- What a signer gives for octets does not depend on the world. -/
def Signer.IsDeterministic (signer : Signer ω) : Prop :=
  ∀ message world other, (signer.sign message world).1 = (signer.sign message other).1

theorem PrivateKey.isDeterministic_signer (key : PrivateKey) :
    (key.signer : Signer ω).IsDeterministic := fun _ _ _ => rfl

namespace SignedBodies

variable {signer : Signer ω} {bodies : SignedBodies} {made : AccountId → Bytes}

/-- A body carries the signature that a signer gives for it in every world. -/
def Carries (signer : Signer ω) (body : SignedBody) : Prop :=
  ∃ signature, (∀ world, (signer.sign body.bytes world).1 = .ok signature) ∧
    ⟨signer.publicKey.bytes, signature⟩ ∈ body.signatures.pairs

theorem carries_of_isSignedBy (hsigner : signer.IsDeterministic) {body : SignedBody}
    (hbody : IsSignedBy signer body) : Carries signer body := by
  obtain ⟨signature, before, after, hsign, hpair⟩ := hbody
  refine ⟨signature, fun world => ?_, hpair⟩
  rw [hsigner body.bytes world before, hsign]

/-- Signatures by other keys leave the one that a body carries. -/
theorem carries_withLog (hbodies : bodies.AreFor made) (hcarry : ∀ body ∈ bodies.bodies,
      Carries signer body) {log : List (AccountId × SignaturePair)}
    (hkeys : ∀ note ∈ log, note.2.publicKey ≠ signer.publicKey.bytes) :
    ∀ body ∈ (bodies.withLog log).bodies, Carries signer body := by
  intro body hbody
  obtain ⟨old, hold, rfl⟩ := List.mem_map.mp hbody
  obtain ⟨signature, hsign, hpair⟩ := hcarry old hold
  refine ⟨signature, hsign, ?_⟩
  refine SignatureMap.mem_ofLog_append (hbodies.signatures_nodup old hold) hpair ?_
  intro pair hmem
  obtain ⟨note, hnote, rfl⟩ := List.mem_map.mp hmem
  exact hkeys note (List.mem_of_mem_filter hnote)

/-- Bodies that carry what a signer gives for them are not changed by it. -/
theorem signEach_of_carries {bodies : List SignedBody}
    (hnodup : ∀ body ∈ bodies, body.signatures.IsNodup)
    (hcarry : ∀ body ∈ bodies, Carries signer body) (world : ω) :
    (signEach signer bodies world).1 = .ok () ∧ (signEach signer bodies world).2.1 = bodies := by
  induction bodies generalizing world with
  | nil => exact ⟨rfl, rfl⟩
  | cons first rest ih =>
      obtain ⟨hfirst, hbehind⟩ := List.forall_mem_cons.mp hnodup
      obtain ⟨⟨signature, hgiven, hpair⟩, hothers⟩ := List.forall_mem_cons.mp hcarry
      obtain ⟨hok, hrest⟩ := ih hbehind hothers (signer.sign first.bytes world).2
      have hsign : signer.sign first.bytes world =
          (.ok signature, (signer.sign first.bytes world).2) := Prod.ext (hgiven world) rfl
      have hsame : first.addSignature ⟨signer.publicKey.bytes, signature⟩ = first := by
        unfold SignedBody.addSignature
        rw [SignatureMap.insert_eq_self hfirst hpair]
      unfold signEach
      rw [hsign]
      exact ⟨hok, congrArg₂ List.cons hsame hrest⟩

end SignedBodies

namespace Transaction

variable {t next last : Transaction} {bodies : SignedBodies} {made : AccountId → Bytes}

/-- A signer that gives the same again leaves the transaction as it is, also when others have signed
it since. -/
theorem sign_again (hfrozen : t.stage = .frozen bodies) (hbodies : bodies.AreFor made)
    {signer : Signer ω} (hsigner : signer.IsDeterministic) {world after : ω}
    (hsign : t.sign signer world = (.ok (), next, after)) {since : List (SigningCall ω)}
    (hsince : ∀ call ∈ since, call.keyBytes ≠ signer.publicKey.bytes)
    (hcalls : next.calls since = .ok last) (again : ω) :
    (last.sign signer again).1 = .ok () ∧ (last.sign signer again).2.1 = last := by
  obtain ⟨signed, hnext, _, hsigned, _⟩ := sign_ends t signer world hfrozen
  rw [hsign] at hnext hsigned
  change next = { t with stage := .frozen signed } at hnext
  subst hnext
  have hareFor : signed.AreFor made := by
    have hall := hbodies.signAll signer world
    rw [sign_of_frozen hfrozen] at hsign
    have hstage := congrArg (fun done => done.2.1.stage) hsign
    exact Stage.frozen.inj hstage ▸ hall
  obtain ⟨logs, hlogs, rfl⟩ := calls_eq_ok rfl hareFor hcalls
  have hothers : ∀ note ∈ logs.flatten, note.2.publicKey ≠ signer.publicKey.bytes := by
    intro note hnote
    obtain ⟨call, hcall, hkey⟩ := SignedBodies.publicKey_of_notes hlogs note hnote
    rw [hkey]
    exact hsince call hcall
  -- What was signed since leaves the signatures of this signer, and it gives the same again.
  have hcarry := SignedBodies.carries_withLog hareFor
    (fun body hbody => SignedBodies.carries_of_isSignedBy hsigner (hsigned rfl body hbody)) hothers
  rw [sign_of_frozen rfl]
  obtain ⟨hok, hsame⟩ := SignedBodies.signEach_of_carries
    (hareFor.withLog logs.flatten).signatures_nodup hcarry again
  refine ⟨hok, ?_⟩
  exact congrArg (fun bodies => { t with stage := .frozen (SignedBodies.mk bodies) }) hsame

end Transaction

end LedgerClient
