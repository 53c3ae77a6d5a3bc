import LedgerClient.Proofs.Transaction.Making
import LedgerClient.Proofs.Transaction.Signing

/-!
# Checking the signatures

A signature carries the octets of its key alone. Their number tells the kind of the key, so that the
key that comes of them is the one that the signature was given with. Hence signatures are checked
against the keys of those who gave them, in the order of the bodies and then of the keys, up to the
first one that is rejected.
-/

namespace LedgerClient

variable {ω χ : Type}

/-! ### Keys -/

/-- The key can be read back from its octets. -/
def PublicKey.IsValid (key : PublicKey) : Prop := PublicKey.ofBytes key.type key.bytes = .ok key

/-- How many octets a key of a kind has. -/
def KeyType.octets : KeyType → Nat
  | .ed25519 => 32
  | .ecdsaSecp256k1 => 33

theorem PublicKey.IsValid.length_eq {key : PublicKey} (hvalid : key.IsValid) :
    key.bytes.length = key.type.octets := by
  by_contra hlength
  unfold IsValid ofBytes at hvalid
  cases htype : key.type with
  | ed25519 =>
      rw [htype] at hvalid hlength
      simp [KeyType.octets] at hlength
      simp [hlength] at hvalid
  | ecdsaSecp256k1 =>
      rw [htype] at hvalid hlength
      simp [KeyType.octets] at hlength
      simp [hlength] at hvalid

/-- The number of the octets tells the kind of the key. -/
theorem SignaturePair.key_of_isValid {key : PublicKey} (hvalid : key.IsValid) {pair : SignaturePair}
    (hbytes : key.bytes = pair.publicKey) : pair.key = .ok key := by
  have hlength := hvalid.length_eq
  unfold PublicKey.IsValid at hvalid
  rw [hbytes] at hvalid hlength
  unfold SignaturePair.key
  cases htype : key.type with
  | ed25519 =>
      rw [htype] at hvalid hlength
      change pair.publicKey.length = 32 at hlength
      rw [if_pos hlength]
      dsimp only
      rw [hvalid]
      rfl
  | ecdsaSecp256k1 =>
      rw [htype] at hvalid hlength
      change pair.publicKey.length = 33 at hlength
      rw [if_neg (by omega), if_pos hlength]
      dsimp only
      rw [hvalid]
      rfl

/-- The key that is read back from a pair, or one of no use. -/
def SignaturePair.keyRead (pair : SignaturePair) : PublicKey :=
  match pair.key with
  | .ok key => key
  | .error _ => ⟨.ed25519, pair.publicKey⟩

theorem SignaturePair.keyRead_eq {pair : SignaturePair} {key : PublicKey}
    (hkey : pair.key = .ok key) : pair.keyRead = key := by
  unfold keyRead
  rw [hkey]

/-! ### Where signatures come from -/

theorem SignatureMap.eq_or_mem_of_mem_place {pair other : SignaturePair}
    {pairs : List SignaturePair} (hmem : other ∈ place pair pairs) :
    other = pair ∨ other ∈ pairs := by
  induction pairs with
  | nil => exact .inl (List.mem_singleton.mp hmem)
  | cons first rest ih =>
      unfold place at hmem
      split at hmem
      next =>
        rcases List.mem_cons.mp hmem with hpair | hrest
        · exact .inl hpair
        · exact .inr (List.mem_cons_of_mem first hrest)
      next =>
        rcases List.mem_cons.mp hmem with rfl | hrest
        · exact .inr List.mem_cons_self
        · exact (ih hrest).imp_right (List.mem_cons_of_mem first)

namespace SignedBodies

theorem mem_signEach {signer : Signer ω} {bodies : List SignedBody} {world : ω} {body : SignedBody}
    (hmem : body ∈ (signEach signer bodies world).2.1) :
    body ∈ bodies ∨ ∃ old ∈ bodies, ∃ signature before after,
      signer.sign old.bytes before = (.ok signature, after) ∧
        body = signedBy signer old signature := by
  induction bodies generalizing world with
  | nil => cases hmem
  | cons first rest ih =>
      unfold signEach at hmem
      split at hmem
      next => exact .inl hmem
      next signature next hsign =>
        rcases List.mem_cons.mp hmem with rfl | hrest
        · exact .inr ⟨first, List.mem_cons_self, signature, world, next, hsign, rfl⟩
        · obtain hold | ⟨old, hold, hsigned⟩ := ih hrest
          · exact .inl (List.mem_cons_of_mem first hold)
          · exact .inr ⟨old, List.mem_cons_of_mem first hold, hsigned⟩

theorem mem_addTo {node : AccountId} {pair : SignaturePair} {bodies : List SignedBody}
    {body : SignedBody} (hmem : body ∈ addTo node pair bodies) :
    body ∈ bodies ∨ ∃ old ∈ bodies, (old.node == node) = true ∧ body = old.addSignature pair := by
  induction bodies with
  | nil => cases hmem
  | cons first rest ih =>
      unfold addTo at hmem
      split at hmem
      next hnode =>
        rcases List.mem_cons.mp hmem with rfl | hrest
        · exact .inr ⟨first, List.mem_cons_self, hnode, rfl⟩
        · exact .inl (List.mem_cons_of_mem first hrest)
      next =>
        rcases List.mem_cons.mp hmem with rfl | hrest
        · exact .inl List.mem_cons_self
        · obtain hold | ⟨old, hold, hadded⟩ := ih hrest
          · exact .inl (List.mem_cons_of_mem first hold)
          · exact .inr ⟨old, List.mem_cons_of_mem first hold, hadded⟩

end SignedBodies

namespace Transaction

/-- The keys that an act may sign with. -/
def Act.keys : Act ω χ → List PublicKey
  | .addSignature _ key _ => [key]
  | act => act.signers.map (·.publicKey)

theorem Act.mem_keys_of_signer {act : Act ω χ} {signer : Signer ω}
    (hsigner : signer ∈ act.signers) : signer.publicKey ∈ act.keys := by
  cases act <;> first
    | exact List.mem_map_of_mem hsigner
    | cases hsigner

/-- An act gives a signature of octets for a node with a key: one of its signers does, or the act
adds it. -/
inductive Act.Gives (act : Act ω χ) (node : AccountId) (bytes : Bytes) :
    PublicKey → Bytes → Prop where
  | sign {signer : Signer ω} {world after : ω} {signature : Bytes} (hsigner : signer ∈ act.signers)
      (hsign : signer.sign bytes world = (.ok signature, after)) :
      Gives act node bytes signer.publicKey signature
  | add {other : AccountId} {key : PublicKey} {signature : Bytes}
      (hact : act = .addSignature other key signature) (hnode : (node == other) = true) :
      Gives act node bytes key signature

theorem Act.Gives.mem_keys {act : Act ω χ} {node : AccountId} {bytes : Bytes} {key : PublicKey}
    {signature : Bytes} (hgives : act.Gives node bytes key signature) : key ∈ act.keys := by
  cases hgives with
  | sign hsigner => exact Act.mem_keys_of_signer hsigner
  | add hact =>
      rw [hact]
      exact List.mem_singleton.mpr rfl

/-- A pair on a body is what one of the acts gave for the node and the octets of the body, with this
key. -/
def IsGiven (acts : List (Act ω χ)) (body : SignedBody) (pair : SignaturePair) (key : PublicKey) :
    Prop :=
  (∃ act ∈ acts, act.Gives body.node body.bytes key pair.signature) ∧ key.bytes = pair.publicKey

theorem isGiven_addSignature {acts : List (Act ω χ)} {old : SignedBody} {key : PublicKey}
    {signature : Bytes}
    (hold : ∀ pair ∈ old.signatures.pairs, ∃ key, IsGiven acts old pair key)
    (hgiven : ∃ act ∈ acts, act.Gives old.node old.bytes key signature) :
    ∀ pair ∈ (old.addSignature ⟨key.bytes, signature⟩).signatures.pairs,
      ∃ key, IsGiven acts (old.addSignature ⟨key.bytes, signature⟩) pair key := by
  intro pair hpair
  obtain rfl | hbefore := SignatureMap.eq_or_mem_of_mem_place hpair
  · exact ⟨key, hgiven, rfl⟩
  · exact hold pair hbefore

/-- Whatever has become of a draft, all signatures on its bodies were given by what was done with
it. -/
theorem isGiven_of_history {fresh : Transaction} (hdraft : fresh.stage = .draft)
    (acts : List (Act ω χ)) {bodies : SignedBodies}
    (hfrozen : (fresh.history acts).1.stage = .frozen bodies) :
    ∀ body ∈ bodies.bodies, ∀ pair ∈ body.signatures.pairs, ∃ key, IsGiven acts body pair key := by
  have hturns := turns_history fresh acts fun _ hact => hact
  rw [hdraft] at hturns
  refine Stage.bodies_of_turns
    (P := fun bodies => ∀ body ∈ bodies.bodies, ∀ pair ∈ body.signatures.pairs,
      ∃ key, IsGiven acts body pair key) ?_ ?_ ?_ hturns bodies hfrozen
  · intro t network id nodes made hout body hbody
    -- Bodies are made out without signatures.
    cases (makeOut_empty t id (known_of_makeOut hout)).symm.trans hout
    obtain ⟨node, _, rfl⟩ := List.mem_map.mp hbody
    nofun
  · intro act signer hact hsigner bodies world hbodies body hbody
    obtain hold | ⟨old, hold, signature, before, after, hsign, rfl⟩ :=
      SignedBodies.mem_signEach hbody
    · exact hbodies body hold
    · exact isGiven_addSignature (hbodies old hold) ⟨act, hact, .sign hsigner hsign⟩
  · intro node key signature bodies signed hact hadded hbodies body hbody
    unfold SignedBodies.addSignature at hadded
    split at hadded
    next =>
      cases hadded
      obtain hold | ⟨old, hold, hnode, rfl⟩ := SignedBodies.mem_addTo hbody
      · exact hbodies body hold
      · exact isGiven_addSignature (hbodies old hold) ⟨_, hact, .add rfl hnode⟩
    next => cases hadded

end Transaction

/-! ### Checking -/

/-- A verifier accepts all signatures on a body as ones by the given keys. -/
def SignedBody.IsAccepted (body : SignedBody) (verifier : Verifier)
    (keyOf : SignaturePair → PublicKey) : Prop :=
  ∀ pair ∈ body.signatures.pairs, verifier (keyOf pair) body.bytes pair.signature = true

namespace SignedBodies

/-- The pair on the body is the first that a verifier rejects, in the order of the bodies and then
of the pairs on each. -/
structure IsFirstRejected (bodies : SignedBodies) (verifier : Verifier)
    (keyOf : SignaturePair → PublicKey) (body : SignedBody) (pair : SignaturePair) : Prop where
  bodies_eq : ∃ before after, bodies.bodies = before ++ body :: after ∧
    ∀ other ∈ before, other.IsAccepted verifier keyOf
  pairs_eq : ∃ earlier later, body.signatures.pairs = earlier ++ pair :: later ∧
    ∀ other ∈ earlier, verifier (keyOf other) body.bytes other.signature = true
  rejected : verifier (keyOf pair) body.bytes pair.signature = false

section Pair

variable {body : SignedBody} {pair : SignaturePair} {key : PublicKey} {verifier : Verifier}

theorem verifyPair_of_accepted (hkey : pair.key = .ok key)
    (haccepted : verifier key body.bytes pair.signature = true) :
    verifyPair verifier body pair = .ok () := by
  unfold verifyPair
  simp only [hkey, bind, Except.bind, haccepted]
  rfl

theorem verifyPair_of_rejected (hkey : pair.key = .ok key)
    (hrejected : verifier key body.bytes pair.signature = false) :
    verifyPair verifier body pair = .error (.signatureVerification body.node key.text) := by
  unfold verifyPair
  simp only [hkey, bind, Except.bind, hrejected]
  rfl

theorem verifyPair_eq_ok_iff (hkey : pair.key = .ok key) :
    verifyPair verifier body pair = .ok () ↔ verifier key body.bytes pair.signature = true := by
  cases hverdict : verifier key body.bytes pair.signature with
  | true => exact ⟨fun _ => rfl, fun _ => verifyPair_of_accepted hkey hverdict⟩
  | false =>
      rw [verifyPair_of_rejected hkey hverdict]
      exact ⟨nofun, nofun⟩

theorem verifyPair_eq_error (hkey : pair.key = .ok key) {error : ClientError}
    (herror : verifyPair verifier body pair = .error error) :
    verifier key body.bytes pair.signature = false ∧
      error = .signatureVerification body.node key.text := by
  cases hverdict : verifier key body.bytes pair.signature with
  | true => cases (verifyPair_of_accepted hkey hverdict).symm.trans herror
  | false =>
      cases (verifyPair_of_rejected hkey hverdict).symm.trans herror
      exact ⟨rfl, rfl⟩

end Pair

variable {bodies : SignedBodies} {keyOf : SignaturePair → PublicKey}

theorem forM_verifyPair_eq_ok_iff {body : SignedBody} {pairs : List SignaturePair}
    (hkeys : ∀ pair ∈ pairs, pair.key = .ok (keyOf pair)) (verifier : Verifier) :
    pairs.forM (verifyPair verifier body) = .ok () ↔
      ∀ pair ∈ pairs, verifier (keyOf pair) body.bytes pair.signature = true := by
  rw [Outcome.forM_eq_ok_iff]
  exact forall₂_congr fun pair hpair => verifyPair_eq_ok_iff (hkeys pair hpair)

/-- The signatures pass just where the verifier accepts them all. -/
theorem verify_eq_ok_iff
    (hkeys : ∀ body ∈ bodies.bodies, ∀ pair ∈ body.signatures.pairs, pair.key = .ok (keyOf pair))
    (verifier : Verifier) :
    bodies.verify verifier = .ok () ↔ ∀ body ∈ bodies.bodies, body.IsAccepted verifier keyOf := by
  unfold verify
  rw [Outcome.forM_eq_ok_iff]
  exact forall₂_congr fun body hbody => forM_verifyPair_eq_ok_iff (hkeys body hbody) verifier

/-- They fail at the first one that it rejects. -/
theorem verify_eq_error
    (hkeys : ∀ body ∈ bodies.bodies, ∀ pair ∈ body.signatures.pairs, pair.key = .ok (keyOf pair))
    {verifier : Verifier} {error : ClientError} (herror : bodies.verify verifier = .error error) :
    ∃ body pair, bodies.IsFirstRejected verifier keyOf body pair ∧
      error = .signatureVerification body.node (keyOf pair).text := by
  obtain ⟨before, body, after, hbodies, hbefore, hbody⟩ := Outcome.forM_eq_error herror
  obtain ⟨earlier, pair, later, hpairs, hearlier, hpair⟩ := Outcome.forM_eq_error hbody
  have hmem : ∀ other ∈ before ++ body :: after, ∀ pair ∈ other.signatures.pairs,
      pair.key = .ok (keyOf pair) := hbodies ▸ hkeys
  obtain ⟨hold, hrest⟩ := List.forall_mem_append.mp hmem
  obtain ⟨hthese, _⟩ := List.forall_mem_cons.mp hrest
  rw [hpairs] at hthese
  obtain ⟨hfirst, hbehind⟩ := List.forall_mem_append.mp hthese
  obtain ⟨hkey, _⟩ := List.forall_mem_cons.mp hbehind
  obtain ⟨hrejected, rfl⟩ := verifyPair_eq_error hkey hpair
  refine ⟨body, pair, ⟨⟨before, after, hbodies, ?_⟩, ⟨earlier, later, hpairs, ?_⟩, hrejected⟩, rfl⟩
  · intro other hother
    exact (forM_verifyPair_eq_ok_iff (hold other hother) verifier).mp (hbefore other hother)
  · intro other hother
    exact (verifyPair_eq_ok_iff (hfirst other hother)).mp (hearlier other hother)

end SignedBodies

namespace Transaction

/-- How the signatures on the bodies that acts have left are checked, each as one by its key. -/
structure Verification (t : Transaction) (acts : List (Act ω χ)) (bodies : SignedBodies)
    (keyOf : SignaturePair → PublicKey) : Prop where
  /-- Each signature was given with its key for the body that it is on. -/
  given : ∀ body ∈ bodies.bodies, ∀ pair ∈ body.signatures.pairs,
    IsGiven acts body pair (keyOf pair)
  /-- No other key that was used has these octets. -/
  only : ∀ act ∈ acts, ∀ key ∈ act.keys, ∀ pair : SignaturePair,
    key.bytes = pair.publicKey → key = keyOf pair
  /-- The key is what is read back from the pair. -/
  read : ∀ body ∈ bodies.bodies, ∀ pair ∈ body.signatures.pairs, pair.key = .ok (keyOf pair)
  isOk_iff : ∀ verifier, t.verify verifier = .ok () ↔
    ∀ body ∈ bodies.bodies, body.IsAccepted verifier keyOf
  rejected : ∀ verifier error, t.verify verifier = .error error →
    ∃ body pair, bodies.IsFirstRejected verifier keyOf body pair ∧
      error = .signatureVerification body.node (keyOf pair).text
  /-- There are tables that hold the bodies, unless two of different octets have one digest. -/
  held : bodies.IsCollisionFree → ∃ filing : Filing, filing.Holds bodies
  /-- They are checked in the same way where the bodies are held by tables. -/
  filed : ∀ filing : Filing, filing.Holds bodies → ∀ verifier,
    filing.verify verifier = t.verify verifier

/-- The signatures on a frozen transaction are checked against the keys they were given with, where
these can be read back. Either all are accepted, or the first one that is not is told of. The same
goes for signatures in tables, which there are unless digests collide. -/
theorem verification_by_original_keys (fresh : Transaction) (hdraft : fresh.stage = .draft)
    (acts : List (Act ω χ)) {bodies : SignedBodies}
    (hfrozen : (fresh.history acts).1.stage = .frozen bodies)
    (hvalid : ∀ act ∈ acts, ∀ key ∈ act.keys, key.IsValid) :
    ∃ keyOf, (fresh.history acts).1.Verification acts bodies keyOf := by
  have hgiven := isGiven_of_history hdraft acts hfrozen
  have hread : ∀ act ∈ acts, ∀ key ∈ act.keys, ∀ pair : SignaturePair,
      key.bytes = pair.publicKey → pair.key = .ok key :=
    fun act hact key hkey pair => SignaturePair.key_of_isValid (hvalid act hact key hkey)
  have hkeys : ∀ body ∈ bodies.bodies, ∀ pair ∈ body.signatures.pairs,
      pair.key = .ok pair.keyRead ∧ IsGiven acts body pair pair.keyRead := by
    intro body hbody pair hpair
    obtain ⟨key, ⟨act, hact, hgives⟩, hbytes⟩ := hgiven body hbody pair hpair
    have hkey := hread act hact key hgives.mem_keys pair hbytes
    rw [SignaturePair.keyRead_eq hkey]
    exact ⟨hkey, ⟨act, hact, hgives⟩, hbytes⟩
  have hverify : ∀ verifier, (fresh.history acts).1.verify verifier = bodies.verify verifier := by
    intro verifier
    unfold Transaction.verify Transaction.bodies
    rw [hfrozen]
    rfl
  refine ⟨SignaturePair.keyRead, fun body hbody pair hpair => (hkeys body hbody pair hpair).2, ?_,
    fun body hbody pair hpair => (hkeys body hbody pair hpair).1, ?_, ?_, ?_, ?_⟩
  · intro act hact key hkey pair hbytes
    exact (SignaturePair.keyRead_eq (hread act hact key hkey pair hbytes)).symm
  · intro verifier
    rw [hverify]
    exact SignedBodies.verify_eq_ok_iff
      (fun body hbody pair hpair => (hkeys body hbody pair hpair).1) verifier
  · intro verifier error herror
    rw [hverify] at herror
    exact SignedBodies.verify_eq_error
      (fun body hbody pair hpair => (hkeys body hbody pair hpair).1) herror
  · intro hfree
    obtain ⟨id, _, hbodies⟩ :=
      (history_spec fresh acts).1.sound (isSound_of_draft hdraft) bodies hfrozen
    exact Filing.exists_holds hdraft acts hfrozen (SignedBodies.nodup_hashes hbodies hfree)
  · intro filing hholds verifier
    rw [hverify, hholds.verify_eq]

/-- A signer that gives the first octets of what it is to sign. -/
def initialing : Signer Unit where
  publicKey := ⟨.ed25519, List.replicate 32 3⟩
  sign message world := (.ok (message.take 4), world)

/-- A message to a topic that may go to all nodes. -/
def announcement : Transaction :=
  { data := .submitMessage (.ofNum 9) [1, 2, 3], id := some default }

/-- A message is frozen and signed, and gets one more signature for one of its nodes. -/
def forging : List (Act Unit Unit) :=
  [.freeze (Execution.rehearsed []).network, .sign initialing (),
    .addSignature (.ofNum 4) ⟨.ecdsaSecp256k1, 2 :: List.replicate 32 1⟩ [1]]

theorem verification_by_original_keys_forging :
    let t := (history announcement forging).1
    let verifier : Verifier := fun _ message signature => signature == message.take 4
    (∀ act ∈ forging, ∀ key ∈ act.keys, key.IsValid) ∧ ∃ bodies keyOf body pair,
      t.stage = .frozen bodies ∧ bodies.IsFirstRejected verifier keyOf body pair ∧
      t.verify verifier = .error (.signatureVerification body.node (keyOf pair).text) := by
  intro t verifier
  have hvalid : ∀ act ∈ forging, ∀ key ∈ act.keys, key.IsValid := by
    unfold PublicKey.IsValid
    decide +kernel
  obtain ⟨bodies, hfrozen, hforged⟩ : ∃ bodies, t.stage = .frozen bodies ∧
      ¬ ∀ body ∈ bodies.bodies, ∀ pair ∈ body.signatures.pairs,
        (pair.signature == body.bytes.take 4) = true := ⟨_, rfl, by decide +kernel⟩
  obtain ⟨keyOf, hchecked⟩ := verification_by_original_keys announcement rfl forging hfrozen hvalid
  cases hverify : t.verify verifier with
  | ok => exact absurd ((hchecked.isOk_iff verifier).mp hverify) hforged
  | error error =>
      obtain ⟨body, pair, hfirst, rfl⟩ := hchecked.rejected verifier error hverify
      exact ⟨hvalid, bodies, keyOf, body, pair, hfrozen, hfirst, rfl⟩

end Transaction

end LedgerClient
