import LedgerClient.Proofs.Outcome
import LedgerClient.Proofs.Transaction.Addressing
import LedgerClient.Proofs.Transaction.Turns

/-!
# Bodies in tables

Bodies may be kept in two tables. One tells the octets for each node, with their digest, and the
other one the signatures over the octets with each digest. As long as no two bodies have one digest,
the tables go with the bodies through all that is done with them.
-/

namespace LedgerClient

variable {ω χ : Type}

/-- The octets for a node, with their digest. -/
structure FiledBody where
  bytes : Bytes
  hash : Bytes
  deriving Inhabited

/-- Bodies in tables. -/
structure Filing where
  /-- The nodes in order. -/
  order : List AccountId := []
  bodies : Std.HashMap AccountId FiledBody := {}
  /-- The signatures by the digests of what they are over. -/
  signatures : Std.HashMap Bytes SignatureMap := {}

namespace Filing

/-- Files octets for a node. -/
def insert (filing : Filing) (node : AccountId) (bytes : Bytes) : Filing where
  order := if filing.bodies.contains node then filing.order else filing.order ++ [node]
  bodies := filing.bodies.insert node ⟨bytes, Crypto.sha384 bytes⟩
  signatures := filing.signatures.insertIfNew (Crypto.sha384 bytes) {}

/-- Files a signature over octets with a digest. -/
def attach (filing : Filing) (hash : Bytes) (pair : SignaturePair) : Filing :=
  { filing with
    signatures := filing.signatures.alter hash fun map => some ((map.getD {}).insert pair) }

/-- Has the octets for nodes signed one after the other. -/
def signEach (signer : Signer ω) : List AccountId → Filing → ω → Outcome Unit × Filing × ω
  | [], filing, world => (.ok (), filing, world)
  | node :: rest, filing, world =>
      let body := filing.bodies[node]!
      match signer.sign body.bytes world with
      | (.error error, world) => (.error error, filing, world)
      | (.ok signature, world) =>
          signEach signer rest (filing.attach body.hash ⟨signer.publicKey.bytes, signature⟩) world

/-- Has all octets signed. -/
def signAll (signer : Signer ω) (filing : Filing) (world : ω) : Outcome Unit × Filing × ω :=
  signEach signer filing.order filing world

/-- Files a signature made elsewhere over the octets for a node. -/
def addSignature (filing : Filing) (node : AccountId) (key : PublicKey) (signature : Bytes) :
    Outcome Filing :=
  match filing.bodies[node]? with
  | none => .error (.unknownNode node)
  | some body => .ok (filing.attach body.hash ⟨key.bytes, signature⟩)

/-- Checks all signatures, in order of nodes and then of keys. -/
def verify (filing : Filing) (verifier : Verifier) : Outcome Unit :=
  filing.order.forM fun node =>
    let body := filing.bodies[node]!
    match filing.signatures[body.hash]? with
    | none => .ok ()
    | some map => map.pairs.forM (SignedBodies.verifyPair verifier ⟨node, body.bytes, map⟩)

/-- The signatures over the octets for a node. -/
def signatures? (filing : Filing) (node : AccountId) : Option SignatureMap := do
  filing.signatures[(← filing.bodies[node]?).hash]?

/-- What is sent to a node. -/
def signedFor (filing : Filing) (node : AccountId) : Outcome SignedTransaction :=
  match filing.bodies[node]? with
  | none => .error (.unknownNode node)
  | some body => .ok ⟨body.bytes, filing.signatures[body.hash]?.getD {}⟩

/-- The tables hold bodies, and nothing else. -/
structure Holds (filing : Filing) (bodies : SignedBodies) : Prop where
  order_eq : filing.order = bodies.nodes
  body_eq : ∀ body ∈ bodies.bodies, filing.bodies[body.node]? = some ⟨body.bytes, body.hash⟩
  body_unfiled : ∀ node : AccountId, node.key ∉ bodies.nodes.map EntityId.key →
    filing.bodies[node]? = none
  signatures_eq : ∀ body ∈ bodies.bodies, filing.signatures[body.hash]? = some body.signatures
  signatures_unfiled : ∀ hash, hash ∉ bodies.bodies.map SignedBody.hash →
    filing.signatures[hash]? = none

theorem holds_empty : Holds {} {} where
  order_eq := rfl
  body_eq := nofun
  body_unfiled _ _ := Std.HashMap.getElem?_empty
  signatures_eq := nofun
  signatures_unfiled _ _ := Std.HashMap.getElem?_empty

variable {filing : Filing} {bodies : SignedBodies}

theorem Holds.signatures?_eq (hholds : filing.Holds bodies) {body : SignedBody}
    (hbody : body ∈ bodies.bodies) : filing.signatures? body.node = some body.signatures := by
  unfold signatures?
  rw [hholds.body_eq body hbody]
  exact hholds.signatures_eq body hbody

theorem Holds.getElem!_eq (hholds : filing.Holds bodies) {body : SignedBody}
    (hbody : body ∈ bodies.bodies) : filing.bodies[body.node]! = ⟨body.bytes, body.hash⟩ := by
  rw [Std.HashMap.getElem!_eq_get!_getElem?, hholds.body_eq body hbody]
  rfl

/-! ### Filing octets -/

section Octets

variable {t : Transaction} {id : TransactionId} {node : AccountId}

theorem Holds.insert_of_some (hholds : filing.Holds bodies) (hbodies : bodies.AreFor (t.made id))
    {body : SignedBody} (hbody : bodies.body? node = some body) :
    (filing.insert node (t.made id node)).Holds bodies := by
  obtain ⟨hmem, hnode⟩ := SignedBodies.body?_eq_some hbody
  have hbytes : t.made id node = body.bytes := by
    rw [hbodies.bytes_eq body hmem, (t.made_eq_iff id).mpr hnode]
  have hcontains : filing.bodies.contains node = true := by
    rw [Std.HashMap.contains_eq_isSome_getElem?, ← Std.HashMap.getElem?_congr hnode,
      hholds.body_eq body hmem]
    rfl
  have hknown : Crypto.sha384 (t.made id node) ∈ filing.signatures := by
    rw [Std.HashMap.mem_iff_isSome_getElem?, hbytes]
    exact Option.isSome_iff_exists.mpr ⟨_, hholds.signatures_eq body hmem⟩
  have hsignatures : ∀ hash : Bytes,
      (filing.insert node (t.made id node)).signatures[hash]? = filing.signatures[hash]? := by
    intro hash
    show (filing.signatures.insertIfNew _ _)[hash]? = _
    rw [Std.HashMap.getElem?_insertIfNew, if_neg fun hnew => hnew.2 hknown]
  refine ⟨?_, ?_, ?_, ?_, ?_⟩
  · show (if filing.bodies.contains node then _ else _) = _
    rw [if_pos hcontains]
    exact hholds.order_eq
  · intro other hother
    show (filing.bodies.insert node _)[other.node]? = _
    rw [Std.HashMap.getElem?_insert]
    split
    next hsame =>
      rw [(t.made_eq_iff id).mpr hsame, ← hbodies.bytes_eq other hother]
      rfl
    next => exact hholds.body_eq other hother
  · intro other hother
    show (filing.bodies.insert node _)[other]? = _
    rw [Std.HashMap.getElem?_insert, if_neg]
    · exact hholds.body_unfiled other hother
    · intro hsame
      refine hother (List.mem_map.mpr ⟨body.node, List.mem_map_of_mem hmem, ?_⟩)
      exact (EntityId.beq_iff.mp hnode).trans (EntityId.beq_iff.mp hsame)
  · intro other hother
    rw [hsignatures]
    exact hholds.signatures_eq other hother
  · intro hash hhash
    rw [hsignatures]
    exact hholds.signatures_unfiled hash hhash

theorem Holds.insert_of_none (hholds : filing.Holds bodies) {bytes : Bytes}
    (hnone : bodies.body? node = none)
    (hhash : Crypto.sha384 bytes ∉ bodies.bodies.map SignedBody.hash) :
    (filing.insert node bytes).Holds ⟨bodies.bodies ++ [⟨node, bytes, {}⟩]⟩ := by
  have hnew := SignedBodies.body?_eq_none_iff.mp hnone
  have hcontains : filing.bodies.contains node = false := by
    rw [Std.HashMap.contains_eq_isSome_getElem?, hholds.body_unfiled node hnew]
    rfl
  have hunknown : Crypto.sha384 bytes ∉ filing.signatures := by
    rw [Std.HashMap.mem_iff_isSome_getElem?, hholds.signatures_unfiled _ hhash]
    exact Bool.false_ne_true
  refine ⟨?_, ?_, ?_, ?_, ?_⟩
  · show (if filing.bodies.contains node then _ else _) = _
    rw [hcontains, if_neg Bool.false_ne_true, hholds.order_eq]
    simp [SignedBodies.nodes]
  · intro body hbody
    show (filing.bodies.insert node _)[body.node]? = _
    rw [Std.HashMap.getElem?_insert]
    rcases List.mem_append.mp hbody with hold | hlast
    · rw [if_neg, hholds.body_eq body hold]
      intro hsame
      refine hnew (List.mem_map.mpr ⟨body.node, List.mem_map_of_mem hold, ?_⟩)
      exact (EntityId.beq_iff.mp hsame).symm
    · rw [List.mem_singleton.mp hlast, if_pos (EntityId.beq_iff.mpr rfl)]
      rfl
  · intro other hother
    rw [SignedBodies.nodes, List.map_append, List.map_append, List.mem_append, not_or] at hother
    show (filing.bodies.insert node _)[other]? = _
    rw [Std.HashMap.getElem?_insert, if_neg, hholds.body_unfiled other hother.1]
    exact fun hsame => hother.2 (List.mem_singleton.mpr (EntityId.beq_iff.mp hsame).symm)
  · intro body hbody
    show (filing.signatures.insertIfNew _ _)[body.hash]? = _
    rw [Std.HashMap.getElem?_insertIfNew]
    rcases List.mem_append.mp hbody with hold | hlast
    · rw [if_neg, hholds.signatures_eq body hold]
      rintro ⟨hsame, _⟩
      exact hhash (List.mem_map.mpr ⟨body, hold, (eq_of_beq hsame).symm⟩)
    · rw [List.mem_singleton.mp hlast, if_pos ⟨beq_self_eq_true _, hunknown⟩]
  · intro hash hother
    rw [List.map_append, List.mem_append, not_or] at hother
    show (filing.signatures.insertIfNew _ _)[hash]? = _
    rw [Std.HashMap.getElem?_insertIfNew, if_neg, hholds.signatures_unfiled hash hother.1]
    rintro ⟨hsame, _⟩
    exact hother.2 (List.mem_singleton.mpr (eq_of_beq hsame).symm)

/-- Where no digests are equal, octets are filed for a node as they are made out for it. -/
theorem Holds.insert (hholds : filing.Holds bodies) (hbodies : bodies.AreFor (t.made id))
    (node : AccountId)
    (hhashes : ((bodies.insert node (t.made id node)).bodies.map SignedBody.hash).Nodup) :
    (filing.insert node (t.made id node)).Holds (bodies.insert node (t.made id node)) := by
  unfold SignedBodies.insert at hhashes ⊢
  cases hbody : bodies.body? node with
  | some body =>
      rw [Option.isSome_some, if_pos rfl]
      exact hholds.insert_of_some hbodies hbody
  | none =>
      rw [hbody, Option.isSome_none, if_neg Bool.false_ne_true, List.map_append,
        List.map_singleton, ← List.concat_eq_append, List.nodup_concat] at hhashes
      rw [Option.isSome_none, if_neg Bool.false_ne_true]
      exact hholds.insert_of_none hbody hhashes.1

theorem prefix_insert (bodies : SignedBodies) (node : AccountId) (bytes : Bytes) :
    bodies.bodies <+: (bodies.insert node bytes).bodies := by
  unfold SignedBodies.insert
  split
  next => exact List.prefix_rfl
  next => exact List.prefix_append _ _

theorem prefix_makeOut {network : Network χ} {nodes : List AccountId} {made : SignedBodies}
    (hout : t.makeOut network id nodes bodies = .ok made) : bodies.bodies <+: made.bodies := by
  induction nodes generalizing bodies with
  | nil =>
      cases hout
      exact List.prefix_rfl
  | cons node rest ih =>
      unfold Transaction.makeOut at hout
      split at hout
      next => exact (prefix_insert bodies node _).trans (ih hout)
      next => cases hout

/-- Tables in which the octets for all nodes of a list are filed hold what is made out for them. -/
theorem holds_makeOut {network : Network χ} {nodes : List AccountId} {made : SignedBodies}
    (hholds : filing.Holds bodies) (hbodies : bodies.AreFor (t.made id))
    (hout : t.makeOut network id nodes bodies = .ok made)
    (hhashes : (made.bodies.map SignedBody.hash).Nodup) :
    (nodes.foldl (fun filing node => filing.insert node (t.made id node)) filing).Holds made := by
  induction nodes generalizing filing bodies with
  | nil =>
      cases hout
      exact hholds
  | cons node rest ih =>
      unfold Transaction.makeOut at hout
      split at hout
      next =>
        have hsofar := ((prefix_makeOut hout).map SignedBody.hash).sublist
        exact ih (hholds.insert hbodies node (hhashes.sublist hsofar)) (hbodies.insert node) hout
      next => cases hout

end Octets

/-! ### Filing signatures -/

section Signatures

variable {signer : Signer ω} {before after : List SignedBody} {body : SignedBody}

theorem mem_middle {other : SignedBody} :
    other ∈ before ++ body :: after ↔ other = body ∨ other ∈ before ++ after := by
  rw [List.mem_append, List.mem_cons, List.mem_append]
  tauto

theorem map_hash_middle (before after : List SignedBody) (body : SignedBody)
    (pair : SignaturePair) :
    (before ++ body.addSignature pair :: after).map SignedBody.hash =
      (before ++ body :: after).map SignedBody.hash := by
  rw [List.map_append, List.map_append, List.map_cons, List.map_cons]
  rfl

/-- A signature that is filed under the digest of a body is one over this body alone. -/
theorem Holds.attach (hholds : filing.Holds ⟨before ++ body :: after⟩)
    (hhashes : ((before ++ body :: after).map SignedBody.hash).Nodup) (pair : SignaturePair) :
    (filing.attach body.hash pair).Holds ⟨before ++ body.addSignature pair :: after⟩ := by
  have hnodes : SignedBodies.nodes ⟨before ++ body.addSignature pair :: after⟩ =
      SignedBodies.nodes ⟨before ++ body :: after⟩ := by
    simp [SignedBodies.nodes, SignedBody.addSignature]
  have hbody : body ∈ before ++ body :: after := mem_middle.mpr (.inl rfl)
  -- Another body has another digest, so what is filed for it is not touched.
  have hothers : ∀ other ∈ before ++ after, other.hash ≠ body.hash := by
    rw [List.map_append, List.map_cons, List.nodup_middle, ← List.map_append] at hhashes
    intro other hother heq
    exact (List.nodup_cons.mp hhashes).1 (List.mem_map.mpr ⟨other, hother, heq⟩)
  have hlookup : ∀ hash : Bytes, (filing.attach body.hash pair).signatures[hash]? =
      if body.hash = hash then some (body.signatures.insert pair)
      else filing.signatures[hash]? := by
    intro hash
    show (filing.signatures.alter _ _)[hash]? = _
    simp only [Std.HashMap.getElem?_alter, beq_iff_eq, hholds.signatures_eq body hbody,
      Option.getD_some]
  refine ⟨hholds.order_eq.trans hnodes.symm, ?_, ?_, ?_, ?_⟩
  · intro other hother
    rcases mem_middle.mp hother with rfl | hother
    · exact hholds.body_eq body hbody
    · exact hholds.body_eq other (mem_middle.mpr (.inr hother))
  · rw [hnodes]
    exact hholds.body_unfiled
  · intro other hother
    rw [hlookup]
    rcases mem_middle.mp hother with rfl | hother
    · exact if_pos rfl
    · rw [if_neg (Ne.symm (hothers other hother))]
      exact hholds.signatures_eq other (mem_middle.mpr (.inr hother))
  · intro hash hhash
    rw [map_hash_middle] at hhash
    rw [hlookup, if_neg, hholds.signatures_unfiled hash hhash]
    rintro rfl
    exact hhash (List.mem_map_of_mem hbody)

/-- Tables are filed in what others are filed in: nodes, octets and digests are the same. -/
structure Extends (filed filing : Filing) : Prop where
  order_eq : filed.order = filing.order
  bodies_eq : filed.bodies = filing.bodies

theorem Extends.trans {last filed filing : Filing} (hlast : last.Extends filed)
    (hfiled : filed.Extends filing) : last.Extends filing :=
  ⟨hlast.order_eq.trans hfiled.order_eq, hlast.bodies_eq.trans hfiled.bodies_eq⟩

/-- A signer is asked for the same in the tables as in the bodies that they hold, and what it gives
for a body is filed for it. -/
theorem Holds.signEach {todo : List SignedBody} (hholds : filing.Holds ⟨before ++ todo⟩)
    (hhashes : ((before ++ todo).map SignedBody.hash).Nodup) (world : ω) :
    let listed := SignedBodies.signEach signer todo world
    let filed := Filing.signEach signer (todo.map (·.node)) filing world
    filed.1 = listed.1 ∧ filed.2.2 = listed.2.2 ∧ filed.2.1.Holds ⟨before ++ listed.2.1⟩ ∧
      filed.2.1.Extends filing := by
  induction todo generalizing before filing world with
  | nil => exact ⟨rfl, rfl, hholds, rfl, rfl⟩
  | cons first rest ih =>
      have hmem : first ∈ before ++ first :: rest := mem_middle.mpr (.inl rfl)
      have hfirst := hholds.getElem!_eq hmem
      rw [List.map_cons]
      unfold Filing.signEach SignedBodies.signEach
      rw [hfirst]
      cases hsign : signer.sign first.bytes world with
      | mk outcome next =>
          cases outcome with
          | error error =>
              dsimp only
              rw [hsign]
              exact ⟨rfl, rfl, hholds, rfl, rfl⟩
          | ok signature =>
              have hnext := hholds.attach hhashes ⟨signer.publicKey.bytes, signature⟩
              rw [← map_hash_middle _ _ _ ⟨signer.publicKey.bytes, signature⟩] at hhashes
              -- The signed body joins those before the ones that are still to be signed.
              rw [List.append_cons] at hnext hhashes
              obtain ⟨hok, hworld, hlast, hextends⟩ := ih hnext hhashes next
              rw [← List.append_cons] at hlast
              dsimp only
              rw [hsign]
              exact ⟨hok, hworld, hlast, hextends.order_eq, hextends.bodies_eq⟩

theorem addTo_middle {node : AccountId} (pair : SignaturePair) (hnode : (body.node == node) = true)
    (hbefore : ∀ other ∈ before, (!other.node == node) = true) :
    SignedBodies.addTo node pair (before ++ body :: after) =
      before ++ body.addSignature pair :: after := by
  induction before with
  | nil =>
      rw [List.nil_append, List.nil_append]
      unfold SignedBodies.addTo
      rw [if_pos hnode]
  | cons first rest ih =>
      obtain ⟨hfirst, hrest⟩ := List.forall_mem_cons.mp hbefore
      rw [List.cons_append, List.cons_append]
      unfold SignedBodies.addTo
      rw [if_neg (by simpa using hfirst), ih hrest]

theorem Holds.signAll (hholds : filing.Holds bodies)
    (hhashes : (bodies.bodies.map SignedBody.hash).Nodup) (signer : Signer ω) (world : ω) :
    let listed := bodies.signAll signer world
    let filed := filing.signAll signer world
    filed.1 = listed.1 ∧ filed.2.2 = listed.2.2 ∧ filed.2.1.Holds listed.2.1 ∧
      filed.2.1.Extends filing := by
  intro listed filed
  have hfiled : filed = Filing.signEach signer bodies.nodes filing world := by
    rw [← hholds.order_eq]
    rfl
  have hlisted : filing.Holds ⟨[] ++ bodies.bodies⟩ := hholds
  rw [hfiled]
  exact hlisted.signEach hhashes world

/-- A signature is added in the tables just where the bodies have one for the node. -/
theorem Holds.addSignature (hholds : filing.Holds bodies)
    (hhashes : (bodies.bodies.map SignedBody.hash).Nodup) (node : AccountId) (key : PublicKey)
    (signature : Bytes) :
    (∃ error, bodies.addSignature node key signature = .error error ∧
      filing.addSignature node key signature = .error error) ∨
    ∃ signed filed, bodies.addSignature node key signature = .ok signed ∧
      filing.addSignature node key signature = .ok filed ∧ filed.Holds signed ∧
      filed.Extends filing := by
  unfold SignedBodies.addSignature Filing.addSignature
  cases hbody : bodies.body? node with
  | none =>
      rw [hholds.body_unfiled node (SignedBodies.body?_eq_none_iff.mp hbody)]
      exact .inl ⟨.unknownNode node, rfl, rfl⟩
  | some body =>
      obtain ⟨hnode, before, after, hbodies, hbefore⟩ := List.find?_eq_some_iff_append.mp hbody
      obtain ⟨all⟩ := bodies
      change all = _ at hbodies
      subst hbodies
      have hfiled : filing.bodies[node]? = some ⟨body.bytes, body.hash⟩ := by
        rw [← Std.HashMap.getElem?_congr hnode]
        exact hholds.body_eq body (mem_middle.mpr (.inl rfl))
      rw [hfiled, addTo_middle _ hnode hbefore]
      exact .inr ⟨_, _, rfl, rfl, hholds.attach hhashes _, rfl, rfl⟩

end Signatures

/-! ### Reading the tables -/

/-- Signatures in tables are checked as those on the bodies that the tables hold. -/
theorem Holds.verify_eq (hholds : filing.Holds bodies) (verifier : Verifier) :
    filing.verify verifier = bodies.verify verifier := by
  unfold Filing.verify SignedBodies.verify
  rw [hholds.order_eq]
  refine Outcome.forM_map_congr fun body hbody => ?_
  dsimp only
  rw [hholds.getElem!_eq hbody, hholds.signatures_eq body hbody]

/-- What is sent to a node is the same from tables as from the bodies that they hold. -/
theorem Holds.signedFor_eq (hholds : filing.Holds bodies) (node : AccountId) :
    filing.signedFor node = bodies.signedFor node := by
  unfold Filing.signedFor SignedBodies.signedFor
  cases hbody : bodies.body? node with
  | none => rw [hholds.body_unfiled node (SignedBodies.body?_eq_none_iff.mp hbody)]
  | some body =>
      obtain ⟨hmem, hnode⟩ := SignedBodies.body?_eq_some hbody
      rw [← Std.HashMap.getElem?_congr hnode, hholds.body_eq body hmem]
      simp only [hholds.signatures_eq body hmem]
      rfl

end Filing

/-! ### Digests -/

namespace SignedBodies

/-- Bodies with one digest have the same octets. -/
def IsCollisionFree (bodies : SignedBodies) : Prop :=
  ∀ a ∈ bodies.bodies, ∀ b ∈ bodies.bodies, a.hash = b.hash → a.bytes = b.bytes

variable {bodies signed : SignedBodies}

theorem nodup_hashes {t : Transaction} {id : TransactionId} (hbodies : bodies.AreFor (t.made id))
    (hfree : bodies.IsCollisionFree) : (bodies.bodies.map SignedBody.hash).Nodup := by
  have hkeys := hbodies.keys_nodup
  rw [nodes, List.map_map, List.Nodup, List.pairwise_map] at hkeys
  rw [List.Nodup, List.pairwise_map]
  refine hkeys.imp_of_mem fun {a b} ha hb hne hhash => hne ?_
  have hbytes := hfree a ha b hb hhash
  rw [hbodies.bytes_eq a ha, hbodies.bytes_eq b hb] at hbytes
  exact EntityId.beq_iff.mp ((t.made_eq_iff id).mp hbytes)

theorem map_hash_eq_of_papers (hpapers : signed.bodies.map paper = bodies.bodies.map paper) :
    signed.bodies.map SignedBody.hash = bodies.bodies.map SignedBody.hash := by
  have hdigests := congrArg (List.map fun paper => Crypto.sha384 paper.2) hpapers
  rwa [List.map_map, List.map_map] at hdigests

theorem map_hash_signAll (bodies : SignedBodies) (signer : Signer ω) (world : ω) :
    (bodies.signAll signer world).2.1.bodies.map SignedBody.hash =
      bodies.bodies.map SignedBody.hash :=
  map_hash_eq_of_papers (signEach_spec signer bodies.bodies world).1

theorem map_hash_addSignature {node : AccountId} {key : PublicKey} {signature : Bytes}
    (hadded : bodies.addSignature node key signature = .ok signed) :
    signed.bodies.map SignedBody.hash = bodies.bodies.map SignedBody.hash := by
  unfold addSignature at hadded
  split at hadded
  next =>
    cases hadded
    exact map_hash_eq_of_papers (addTo_spec node ⟨key.bytes, signature⟩ bodies.bodies).1
  next => cases hadded

end SignedBodies

/-- The bodies of whatever has become of a draft are held by tables, unless two have one digest. -/
theorem Filing.exists_holds {fresh : Transaction} (hdraft : fresh.stage = .draft)
    (acts : List (Transaction.Act ω χ)) {bodies : SignedBodies}
    (hfrozen : (fresh.history acts).1.stage = .frozen bodies)
    (hhashes : (bodies.bodies.map SignedBody.hash).Nodup) :
    ∃ filing : Filing, filing.Holds bodies := by
  have hturns := Transaction.turns_history fresh acts fun _ hact => hact
  rw [hdraft] at hturns
  refine Stage.bodies_of_turns
    (P := fun bodies => (bodies.bodies.map SignedBody.hash).Nodup →
      ∃ filing : Filing, filing.Holds bodies) ?_ ?_ ?_ hturns bodies hfrozen hhashes
  · intro t network id nodes made hout hmade
    exact ⟨_, holds_makeOut holds_empty (SignedBodies.areFor_empty _) hout hmade⟩
  · intro act signer _ _ bodies world hbodies hsigned
    -- Signing leaves the digests, so they are different before it as well.
    rw [SignedBodies.map_hash_signAll] at hsigned
    obtain ⟨filing, hholds⟩ := hbodies hsigned
    obtain ⟨_, _, hlast, _⟩ := hholds.signAll hsigned signer world
    exact ⟨_, hlast⟩
  · intro node key signature bodies signed _ hadded hbodies hsigned
    rw [SignedBodies.map_hash_addSignature hadded] at hsigned
    obtain ⟨filing, hholds⟩ := hbodies hsigned
    obtain ⟨error, herror, _⟩ | ⟨other, filed, hother, _, hlast, _⟩ :=
      hholds.addSignature hsigned node key signature
    · cases hadded.symm.trans herror
    · cases hadded.symm.trans hother
      exact ⟨filed, hlast⟩

end LedgerClient
