import LedgerClient.Transaction
import Mathlib.Data.List.Nodup

/-!
# Bodies and their signatures

Bodies are made out one for each node, and signing changes neither nodes nor octets.
A key that signs a body again replaces its signature, so no key is there twice.
-/

namespace LedgerClient

variable {ω χ : Type}

namespace SignatureMap

theorem keys_place (pair : SignaturePair) (pairs : List SignaturePair) :
    (place pair pairs).map (·.publicKey) =
      if pair.publicKey ∈ pairs.map (·.publicKey) then pairs.map (·.publicKey)
      else pairs.map (·.publicKey) ++ [pair.publicKey] := by
  induction pairs with
  | nil => rfl
  | cons first rest ih =>
      unfold place
      by_cases hkey : first.publicKey = pair.publicKey
      · simp [hkey]
      · -- The pair goes somewhere behind the first one.
        have hne : pair.publicKey ≠ first.publicKey := Ne.symm hkey
        by_cases hmem : pair.publicKey ∈ rest.map (·.publicKey)
        · simp [hkey, hne, ih, hmem]
        · simp [hkey, hne, ih, hmem]

/-- The keys of a map are there once each. -/
def IsNodup (map : SignatureMap) : Prop := (map.pairs.map (·.publicKey)).Nodup

theorem IsNodup.insert {map : SignatureMap} (hnodup : map.IsNodup) (pair : SignaturePair) :
    (map.insert pair).IsNodup := by
  show ((place pair map.pairs).map (·.publicKey)).Nodup
  rw [keys_place]
  split
  next => exact hnodup
  next hnew =>
    rw [← List.concat_eq_append]
    exact List.Nodup.concat hnew hnodup

theorem contains_iff {map : SignatureMap} {key : Bytes} :
    map.contains key = true ↔ key ∈ map.pairs.map (·.publicKey) := by
  simp [contains]

theorem contains_insert (map : SignatureMap) (pair : SignaturePair) :
    (map.insert pair).contains pair.publicKey = true := by
  rw [contains_iff]
  show _ ∈ (place pair map.pairs).map (·.publicKey)
  rw [keys_place]
  split
  next hmem => exact hmem
  next => simp

end SignatureMap

namespace SignedBodies

/-- What a body is made out as. -/
def paper (body : SignedBody) : AccountId × Bytes := (body.node, body.bytes)

/-- The bodies are made out in one way, one for each node, and no key has signed one of them
twice. -/
structure AreFor (bodies : SignedBodies) (made : AccountId → Bytes) : Prop where
  keys_nodup : (bodies.nodes.map EntityId.key).Nodup
  bytes_eq : ∀ body ∈ bodies.bodies, body.bytes = made body.node
  signatures_nodup : ∀ body ∈ bodies.bodies, body.signatures.IsNodup

theorem areFor_empty (made : AccountId → Bytes) : AreFor {} made where
  keys_nodup := List.nodup_nil
  bytes_eq := by simp
  signatures_nodup := by simp

theorem body?_eq_none_iff {bodies : SignedBodies} {node : AccountId} :
    bodies.body? node = none ↔ node.key ∉ bodies.nodes.map EntityId.key := by
  simp only [body?, List.find?_eq_none, EntityId.beq_iff, nodes, List.map_map, List.mem_map,
    Function.comp, not_exists, not_and]

theorem body?_eq_some {bodies : SignedBodies} {node : AccountId} {body : SignedBody}
    (hbody : bodies.body? node = some body) :
    body ∈ bodies.bodies ∧ (body.node == node) = true := by
  unfold body? at hbody
  have hnode := List.find?_some hbody
  exact ⟨List.mem_of_find?_eq_some hbody, hnode⟩

/-- A node that has a body keeps it, and another one gets its own. -/
theorem AreFor.insert {bodies : SignedBodies} {made : AccountId → Bytes}
    (hbodies : bodies.AreFor made) (node : AccountId) : (bodies.insert node (made node)).AreFor made := by
  unfold SignedBodies.insert
  split
  next => exact hbodies
  next hnone =>
    have hnew := body?_eq_none_iff.mp (Option.not_isSome_iff_eq_none.mp hnone)
    refine ⟨?_, ?_, ?_⟩
    · simp only [nodes, List.map_append, List.map_cons, List.map_nil]
      rw [← List.concat_eq_append]
      exact List.Nodup.concat hnew hbodies.keys_nodup
    · intro body hbody
      rcases List.mem_append.mp hbody with hold | hlast
      · exact hbodies.bytes_eq body hold
      · rw [List.mem_singleton.mp hlast]
    · intro body hbody
      rcases List.mem_append.mp hbody with hold | hlast
      · exact hbodies.signatures_nodup body hold
      · rw [List.mem_singleton.mp hlast]
        exact List.nodup_nil

/-- Signatures may change as long as no key signs twice. -/
theorem AreFor.of_paper_eq {bodies signed : SignedBodies} {made : AccountId → Bytes}
    (hbodies : bodies.AreFor made) (hpaper : signed.bodies.map paper = bodies.bodies.map paper)
    (hsignatures : ∀ body ∈ signed.bodies, body.signatures.IsNodup) : signed.AreFor made := by
  have hnodes : signed.nodes = bodies.nodes := by
    have hfirst := congrArg (List.map Prod.fst) hpaper
    rwa [List.map_map, List.map_map] at hfirst
  refine ⟨hnodes ▸ hbodies.keys_nodup, ?_, hsignatures⟩
  intro body hbody
  have hmem : paper body ∈ bodies.bodies.map paper := hpaper ▸ List.mem_map_of_mem hbody
  obtain ⟨old, hold, heq⟩ := List.mem_map.mp hmem
  obtain ⟨hnode, hbytes⟩ := Prod.mk.inj heq
  rw [← hnode, ← hbytes]
  exact hbodies.bytes_eq old hold

/-- A signer changes signatures only, puts no key in twice, and where it does not fail its key is on
every body. -/
theorem signEach_spec (signer : Signer ω) (bodies : List SignedBody) (world : ω) :
    let signed := signEach signer bodies world
    signed.2.1.map paper = bodies.map paper ∧
      ((∀ body ∈ bodies, body.signatures.IsNodup) →
        ∀ body ∈ signed.2.1, body.signatures.IsNodup) ∧
      (signed.1 = .ok () → ∀ body ∈ signed.2.1,
        body.signatures.contains signer.publicKey.bytes = true) := by
  induction bodies generalizing world with
  | nil => simp [signEach]
  | cons first rest ih =>
      unfold signEach
      split
      next error failed hsign =>
        exact ⟨rfl, fun hnodup => hnodup, fun hok => by cases hok⟩
      next signature after hsign =>
        obtain ⟨hpaper, hnodup, hcontains⟩ := ih after
        refine ⟨?_, ?_, ?_⟩
        · rw [List.map_cons, List.map_cons, hpaper]
          rfl
        · intro hall body hbody
          rcases List.mem_cons.mp hbody with rfl | hrest
          · exact (hall first List.mem_cons_self).insert _
          · exact hnodup (fun old hold => hall old (List.mem_cons_of_mem first hold)) body hrest
        · intro hok body hbody
          rcases List.mem_cons.mp hbody with rfl | hrest
          · exact SignatureMap.contains_insert _ ⟨signer.publicKey.bytes, signature⟩
          · exact hcontains hok body hrest

theorem addTo_spec (node : AccountId) (pair : SignaturePair) (bodies : List SignedBody) :
    (addTo node pair bodies).map paper = bodies.map paper ∧
      ((∀ body ∈ bodies, body.signatures.IsNodup) →
        ∀ body ∈ addTo node pair bodies, body.signatures.IsNodup) := by
  induction bodies with
  | nil => simp [addTo]
  | cons first rest ih =>
      obtain ⟨hpaper, hnodup⟩ := ih
      unfold addTo
      split
      next =>
        -- Only the first body for the node gets the signature.
        refine ⟨rfl, ?_⟩
        intro hall body hbody
        rcases List.mem_cons.mp hbody with rfl | hrest
        · exact (hall first List.mem_cons_self).insert pair
        · exact hall body (List.mem_cons_of_mem first hrest)
      next =>
        refine ⟨by rw [List.map_cons, List.map_cons, hpaper], ?_⟩
        intro hall body hbody
        rcases List.mem_cons.mp hbody with rfl | hrest
        · exact hall body List.mem_cons_self
        · exact hnodup (fun old hold => hall old (List.mem_cons_of_mem first hold)) body hrest

theorem AreFor.signAll {bodies : SignedBodies} {made : AccountId → Bytes}
    (hbodies : bodies.AreFor made) (signer : Signer ω) (world : ω) :
    (bodies.signAll signer world).2.1.AreFor made := by
  obtain ⟨hpaper, hnodup, _⟩ := signEach_spec signer bodies.bodies world
  exact hbodies.of_paper_eq hpaper (hnodup hbodies.signatures_nodup)

theorem AreFor.addSignature {bodies signed : SignedBodies} {made : AccountId → Bytes}
    (hbodies : bodies.AreFor made) {node : AccountId} {key : PublicKey} {signature : Bytes}
    (hadded : bodies.addSignature node key signature = .ok signed) : signed.AreFor made := by
  unfold SignedBodies.addSignature at hadded
  split at hadded
  next =>
    cases hadded
    obtain ⟨hpaper, hnodup⟩ := addTo_spec node ⟨key.bytes, signature⟩ bodies.bodies
    exact hbodies.of_paper_eq hpaper (hnodup hbodies.signatures_nodup)
  next => cases hadded

end SignedBodies

end LedgerClient
