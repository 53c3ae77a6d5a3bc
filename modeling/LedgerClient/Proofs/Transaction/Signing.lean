import LedgerClient.Proofs.Transaction.Tables

/-!
# Signing up to a failure

A signer is asked for the bodies one after the other, until it fails. The bodies before the
one it failed on keep the signatures it gave, and that one and those behind it are as they
were. Neither the octets nor the signatures by other keys change.
-/

namespace LedgerClient

variable {ω : Type}

namespace SignatureMap

/-- The pairs of all keys but one. -/
def others (map : SignatureMap) (key : Bytes) : List SignaturePair :=
  map.pairs.filter fun pair => decide (pair.publicKey ≠ key)

theorem mem_place_self (pair : SignaturePair) (pairs : List SignaturePair) :
    pair ∈ place pair pairs := by
  induction pairs with
  | nil => exact List.mem_singleton.mpr rfl
  | cons first rest ih =>
      unfold place
      split
      next => exact List.mem_cons_self
      next => exact List.mem_cons_of_mem first ih

theorem filter_place (pair : SignaturePair) (pairs : List SignaturePair) :
    (place pair pairs).filter (fun other => decide (other.publicKey ≠ pair.publicKey)) =
      pairs.filter fun other => decide (other.publicKey ≠ pair.publicKey) := by
  induction pairs with
  | nil => simp [place]
  | cons first rest ih =>
      unfold place
      split
      next hkey => simp [hkey]
      next hkey => rw [List.filter_cons, List.filter_cons, ih]

theorem mem_insert_self (map : SignatureMap) (pair : SignaturePair) :
    pair ∈ (map.insert pair).pairs := mem_place_self pair map.pairs

theorem others_insert (map : SignatureMap) (pair : SignaturePair) :
    (map.insert pair).others pair.publicKey = map.others pair.publicKey :=
  filter_place pair map.pairs

end SignatureMap

namespace SignedBodies

/-- A signer signs bodies one after the other, from one world to another, and these are the
signatures. -/
inductive Signs (signer : Signer ω) : ω → List SignedBody → List Bytes → ω → Prop where
  | nil {world : ω} : Signs signer world [] [] world
  | cons {world next last : ω} {body : SignedBody} {rest : List SignedBody} {signature : Bytes}
      {signatures : List Bytes} (hsign : signer.sign body.bytes world = (.ok signature, next))
      (hrest : Signs signer next rest signatures last) :
      Signs signer world (body :: rest) (signature :: signatures) last

theorem Signs.length_eq {signer : Signer ω} {world last : ω} {bodies : List SignedBody}
    {signatures : List Bytes} (hsigns : Signs signer world bodies signatures last) :
    signatures.length = bodies.length := by
  induction hsigns with
  | nil => rfl
  | cons _ _ ih => rw [List.length_cons, List.length_cons, ih]

/-- A body with a signature that a signer gave. -/
def signedBy (signer : Signer ω) (body : SignedBody) (signature : Bytes) : SignedBody :=
  body.addSignature ⟨signer.publicKey.bytes, signature⟩

/-- A body carries a signature that the signer gave over its octets, under the key of the signer. -/
def IsSignedBy (signer : Signer ω) (body : SignedBody) : Prop :=
  ∃ signature before after, signer.sign body.bytes before = (.ok signature, after) ∧
    ⟨signer.publicKey.bytes, signature⟩ ∈ body.signatures.pairs

theorem Signs.isSignedBy {signer : Signer ω} {world last : ω} {bodies : List SignedBody}
    {signatures : List Bytes} (hsigns : Signs signer world bodies signatures last) :
    ∀ body ∈ bodies.zipWith (signedBy signer) signatures, IsSignedBy signer body := by
  induction hsigns with
  | nil => exact fun _ hmem => by cases hmem
  | cons hsign _ ih =>
      intro body hmem
      rcases List.mem_cons.mp hmem with rfl | hrest
      · exact ⟨_, _, _, hsign, SignatureMap.mem_insert_self _ _⟩
      · exact ih body hrest

/-- How the signing of bodies ends. -/
inductive SignEnds (signer : Signer ω) (bodies : List SignedBody) (world : ω) :
    Outcome Unit → List SignedBody → ω → Prop where
  /-- All bodies are signed. -/
  | signed {signatures : List Bytes} {last : ω}
      (hsigns : Signs signer world bodies signatures last) :
      SignEnds signer bodies world (.ok ()) (bodies.zipWith (signedBy signer) signatures) last
  /-- The bodies before the one that the signer fails on are signed, and the others are left. -/
  | stopped {before after : List SignedBody} {body : SignedBody} {signatures : List Bytes}
      {error : ClientError} {failed last : ω} (hbodies : bodies = before ++ body :: after)
      (hsigns : Signs signer world before signatures failed)
      (hfails : signer.sign body.bytes failed = (.error error, last)) :
      SignEnds signer bodies world (.error error)
        (before.zipWith (signedBy signer) signatures ++ body :: after) last

theorem SignEnds.cons {signer : Signer ω} {first : SignedBody} {rest signed : List SignedBody}
    {world next last : ω} {signature : Bytes} {outcome : Outcome Unit}
    (hsign : signer.sign first.bytes world = (.ok signature, next))
    (hends : SignEnds signer rest next outcome signed last) :
    SignEnds signer (first :: rest) world outcome (signedBy signer first signature :: signed)
      last := by
  cases hends with
  | signed hsigns => exact .signed (.cons hsign hsigns)
  | stopped hbodies hsigns hfails =>
      exact .stopped (congrArg (first :: ·) hbodies) (.cons hsign hsigns) hfails

theorem signEach_ends (signer : Signer ω) (bodies : List SignedBody) (world : ω) :
    SignEnds signer bodies world (signEach signer bodies world).1 (signEach signer bodies world).2.1
      (signEach signer bodies world).2.2 := by
  induction bodies generalizing world with
  | nil => exact .signed .nil
  | cons first rest ih =>
      unfold signEach
      split
      next error failed hsign => exact .stopped (List.nil_append _).symm .nil hsign
      next signature next hsign => exact (ih next).cons hsign

/-- What a body is but for the signature by a key. -/
def apart (key : Bytes) (body : SignedBody) : AccountId × Bytes × List SignaturePair :=
  (body.node, body.bytes, body.signatures.others key)

theorem map_apart_zipWith (signer : Signer ω) {bodies : List SignedBody} {signatures : List Bytes}
    (hlength : signatures.length = bodies.length) :
    (bodies.zipWith (signedBy signer) signatures).map (apart signer.publicKey.bytes) =
      bodies.map (apart signer.publicKey.bytes) := by
  induction bodies generalizing signatures with
  | nil => rfl
  | cons first rest ih =>
      cases signatures with
      | nil => cases hlength
      | cons signature others =>
          have hfirst : apart signer.publicKey.bytes (signedBy signer first signature) =
              apart signer.publicKey.bytes first :=
            congrArg (first.node, first.bytes, ·)
              (SignatureMap.others_insert first.signatures ⟨signer.publicKey.bytes, signature⟩)
          rw [List.zipWith_cons_cons, List.map_cons, List.map_cons, hfirst,
            ih (Nat.succ.inj hlength)]

/-- Signing changes no more than the signatures by the key of the signer. -/
theorem SignEnds.map_apart {signer : Signer ω} {bodies signed : List SignedBody} {world last : ω}
    {outcome : Outcome Unit} (hends : SignEnds signer bodies world outcome signed last) :
    signed.map (apart signer.publicKey.bytes) = bodies.map (apart signer.publicKey.bytes) := by
  cases hends with
  | signed hsigns =>
      exact map_apart_zipWith signer hsigns.length_eq
  | stopped hbodies hsigns _ =>
      rw [hbodies, List.map_append, List.map_append,
        map_apart_zipWith signer hsigns.length_eq]

theorem SignEnds.isSignedBy {signer : Signer ω} {bodies signed : List SignedBody} {world last : ω}
    {outcome : Outcome Unit} (hends : SignEnds signer bodies world outcome signed last)
    (hok : outcome = .ok ()) : ∀ body ∈ signed, IsSignedBy signer body := by
  cases hends with
  | signed hsigns => exact hsigns.isSignedBy
  | stopped => cases hok

end SignedBodies

namespace Transaction

/-- Signing a frozen transaction asks the signer for its bodies in order until it fails, and changes
nothing but the signatures by the key of the signer. If it does not fail, every body has one; if it
fails, the error is the signer's, the bodies before the one it failed on have one, and that one and
those behind it are as they were. The same is done in tables that hold the bodies, as long as no two
of these have one digest. -/
theorem sign_ends (t : Transaction) (signer : Signer ω) (world : ω) {bodies : SignedBodies}
    (hfrozen : t.stage = .frozen bodies) :
    let done := t.sign signer world
    ∃ signed, done.2.1 = { t with stage := .frozen signed } ∧
      SignedBodies.SignEnds signer bodies.bodies world done.1 signed.bodies done.2.2 ∧
      (done.1 = .ok () → ∀ body ∈ signed.bodies, SignedBodies.IsSignedBy signer body) ∧
      signed.bodies.map (SignedBodies.apart signer.publicKey.bytes) =
        bodies.bodies.map (SignedBodies.apart signer.publicKey.bytes) ∧
      ∀ filing : Filing, filing.Holds bodies → (bodies.bodies.map SignedBody.hash).Nodup →
        (filing.signAll signer world).1 = done.1 ∧
        (filing.signAll signer world).2.1.Holds signed ∧
        (filing.signAll signer world).2.2 = done.2.2 := by
  have hdone : t.sign signer world =
      ((SignedBodies.signEach signer bodies.bodies world).1,
        { t with stage := .frozen ⟨(SignedBodies.signEach signer bodies.bodies world).2.1⟩ },
        (SignedBodies.signEach signer bodies.bodies world).2.2) := by
    unfold sign
    simp only [Transaction.bodies, hfrozen]
    rfl
  have hends := SignedBodies.signEach_ends signer bodies.bodies world
  intro done
  rw [show done = _ from hdone]
  refine ⟨_, rfl, hends, hends.isSignedBy, hends.map_apart, ?_⟩
  intro filing hholds hhashes
  obtain ⟨hok, hworld, hsigned, _⟩ := hholds.signAll hhashes signer world
  exact ⟨hok, hsigned, hworld⟩

/-- A signer that signs as often as its world says, and then fails. -/
def tiring : Signer Nat where
  publicKey := ⟨.ed25519, List.replicate 32 7⟩
  sign message left :=
    match left with
    | 0 => (.error (.signing .invalidSignature), 0)
    | left + 1 => (.ok (message.take 4), left)

/-- A message to a topic, frozen for two nodes. -/
def drawnUp : Transaction :=
  let draft : Transaction := { data := .submitMessage (.ofNum 9) [1, 2, 3], id := some default }
  draft.kept (draft.freeze (Execution.rehearsed []).network)

/-- How many signatures each body has. -/
def signatureCounts (t : Transaction) : List Nat :=
  match t.stage with
  | .frozen bodies => bodies.bodies.map (·.signatures.pairs.length)
  | _ => []

theorem sign_ends_tired :
    ∃ bodies signed, drawnUp.stage = .frozen bodies ∧
      (drawnUp.sign tiring 2).2.1 = { drawnUp with stage := .frozen signed } ∧
      signed.bodies.length = 2 ∧
      ∀ body ∈ signed.bodies, SignedBodies.IsSignedBy tiring body := by
  obtain ⟨bodies, hfrozen⟩ : ∃ bodies, drawnUp.stage = .frozen bodies := ⟨_, rfl⟩
  obtain ⟨signed, hstage, _, hsigned, hapart, _⟩ := sign_ends drawnUp tiring 2 hfrozen
  have hcount : bodies.bodies.length = 2 := by
    have hbodies : (match drawnUp.stage with | .frozen all => all.bodies.length | _ => 0) = 2 := by
      decide +kernel
    rwa [hfrozen] at hbodies
  refine ⟨bodies, signed, hfrozen, hstage, ?_, hsigned rfl⟩
  have hlength := congrArg List.length hapart
  rwa [List.length_map, List.length_map, hcount] at hlength

/-- A signer that fails on the second of two bodies leaves its signature on the first one. -/
theorem failed_signing_leaves_signature :
    drawnUp.isFrozen = true ∧ drawnUp.signatureCounts = [0, 0] ∧
    (∃ next last, drawnUp.sign tiring 1 =
      (.error (.signing .invalidSignature), next, last) ∧ next.signatureCounts = [1, 0]) :=
  ⟨rfl, by decide +kernel, _, _, rfl, by decide +kernel⟩

end Transaction

end LedgerClient
