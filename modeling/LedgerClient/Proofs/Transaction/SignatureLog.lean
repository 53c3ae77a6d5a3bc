import LedgerClient.Proofs.Transaction.Signing
import Mathlib.Data.List.Induction

/-!
# Signatures by the log

A log tells which signature was given for which node, one after the other. The signatures on a body
are what the log says of its node: one for each key, in the order in which the keys signed first,
and of each key the latest.
-/

namespace LedgerClient

variable {ω χ : Type}

section Items

variable {α : Type} [BEq α] [LawfulBEq α] {items : List α} {item : α}

theorem eraseDups_append_of_mem (hmem : item ∈ items) :
    (items ++ [item]).eraseDups = items.eraseDups := by
  rw [List.eraseDups_append]
  simp [List.removeAll, hmem]

theorem eraseDups_append_of_notMem (hnew : item ∉ items) :
    (items ++ [item]).eraseDups = items.eraseDups ++ [item] := by
  rw [List.eraseDups_append]
  simp [List.removeAll, hnew, List.eraseDups_cons]

theorem nodup_eraseDups (items : List α) : items.eraseDups.Nodup := by
  induction items using List.reverseRecOn with
  | nil => exact List.nodup_nil
  | append_singleton items item ih =>
      by_cases hmem : item ∈ items
      · rwa [eraseDups_append_of_mem hmem]
      · rw [eraseDups_append_of_notMem hmem, ← List.concat_eq_append]
        exact List.Nodup.concat (fun hold => hmem (List.mem_eraseDups.mp hold)) ih

end Items

namespace SignatureMap

/-! ### The map of a log -/

/-- The latest pair of a key in a log. -/
def latest? (log : List SignaturePair) (key : Bytes) : Option SignaturePair :=
  log.reverse.find? (·.publicKey == key)

/-- The map that a log amounts to: its keys in the order in which they come first, and for each the
latest pair. -/
def ofLog (log : List SignaturePair) : SignatureMap :=
  ⟨(log.map (·.publicKey)).eraseDups.filterMap (latest? log)⟩

section Latest

variable {log : List SignaturePair} {pair : SignaturePair} {key : Bytes}

theorem latest?_append_of_eq (log : List SignaturePair) (hkey : pair.publicKey = key) :
    latest? (log ++ [pair]) key = some pair := by
  unfold latest?
  rw [List.reverse_append, List.reverse_singleton, List.singleton_append]
  exact List.find?_cons_of_pos (beq_iff_eq.mpr hkey)

theorem latest?_append_of_ne (log : List SignaturePair) (hkey : pair.publicKey ≠ key) :
    latest? (log ++ [pair]) key = latest? log key := by
  unfold latest?
  rw [List.reverse_append, List.reverse_singleton, List.singleton_append]
  exact List.find?_cons_of_neg fun hsame => hkey (eq_of_beq hsame)

theorem publicKey_of_latest? (hlatest : latest? log key = some pair) : pair.publicKey = key := by
  have hfound := List.find?_some hlatest
  exact eq_of_beq hfound

theorem exists_latest?_of_mem (hkey : key ∈ log.map (·.publicKey)) :
    ∃ pair, latest? log key = some pair := by
  obtain ⟨pair, hpair, rfl⟩ := List.mem_map.mp hkey
  refine Option.isSome_iff_exists.mp ?_
  rw [latest?, List.find?_isSome]
  exact ⟨pair, List.mem_reverse.mpr hpair, beq_self_eq_true _⟩

end Latest

theorem keys_ofLog (log : List SignaturePair) :
    (ofLog log).pairs.map (·.publicKey) = (log.map (·.publicKey)).eraseDups := by
  unfold ofLog
  rw [List.map_filterMap]
  conv_rhs => rw [← List.filterMap_some (l := (log.map (·.publicKey)).eraseDups)]
  refine List.filterMap_congr fun key hkey => ?_
  obtain ⟨pair, hlatest⟩ := exists_latest?_of_mem (List.mem_eraseDups.mp hkey)
  rw [hlatest, Option.map_some, publicKey_of_latest? hlatest]

theorem isNodup_ofLog (log : List SignaturePair) : (ofLog log).IsNodup := by
  unfold IsNodup
  rw [keys_ofLog]
  exact nodup_eraseDups _

theorem place_of_notMem {pair : SignaturePair} {pairs : List SignaturePair}
    (hnew : pair.publicKey ∉ pairs.map (·.publicKey)) : place pair pairs = pairs ++ [pair] := by
  induction pairs with
  | nil => rfl
  | cons first rest ih =>
      rw [List.map_cons, List.mem_cons, not_or] at hnew
      unfold place
      rw [if_neg (Ne.symm hnew.1), ih hnew.2, List.cons_append]

/-- A pair takes the place of an earlier one by its key. -/
theorem place_latest {log : List SignaturePair} {pair : SignaturePair} {keys : List Bytes}
    (hnodup : keys.Nodup) (hkeys : ∀ key ∈ keys, key ∈ log.map (·.publicKey))
    (hmem : pair.publicKey ∈ keys) :
    place pair (keys.filterMap (latest? log)) = keys.filterMap (latest? (log ++ [pair])) := by
  induction keys with
  | nil => cases hmem
  | cons key rest ih =>
      obtain ⟨hfirst, hrest⟩ := List.nodup_cons.mp hnodup
      obtain ⟨hknown, hothers⟩ := List.forall_mem_cons.mp hkeys
      obtain ⟨old, hold⟩ := exists_latest?_of_mem hknown
      have holdKey := publicKey_of_latest? hold
      rw [List.filterMap_cons_some hold]
      unfold place
      by_cases hkey : pair.publicKey = key
      · rw [if_pos (holdKey.trans hkey.symm),
          List.filterMap_cons_some (latest?_append_of_eq log hkey)]
        -- The key comes once, so for the keys behind it nothing is new.
        refine congrArg (pair :: ·) (List.filterMap_congr fun other hother => ?_)
        refine (latest?_append_of_ne log fun hsame => ?_).symm
        rw [← hkey, hsame] at hfirst
        exact hfirst hother
      · have hbehind := (List.mem_cons.mp hmem).resolve_left hkey
        rw [if_neg (fun hsame => hkey (hsame.symm.trans holdKey)),
          List.filterMap_cons_some ((latest?_append_of_ne log hkey).trans hold),
          ih hrest hothers hbehind]

/-- The map of a longer log is the map so far with one more pair. -/
theorem ofLog_append_singleton (log : List SignaturePair) (pair : SignaturePair) :
    ofLog (log ++ [pair]) = (ofLog log).insert pair := by
  unfold insert
  refine congrArg SignatureMap.mk ?_
  rw [List.map_append, List.map_singleton]
  by_cases hmem : pair.publicKey ∈ log.map (·.publicKey)
  · rw [eraseDups_append_of_mem hmem]
    exact (place_latest (nodup_eraseDups _) (fun _ => List.mem_eraseDups.mp)
      (List.mem_eraseDups.mpr hmem)).symm
  · have hnew : pair.publicKey ∉ (ofLog log).pairs.map (·.publicKey) := by
      rw [keys_ofLog]
      exact fun hold => hmem (List.mem_eraseDups.mp hold)
    rw [place_of_notMem hnew, eraseDups_append_of_notMem hmem, List.filterMap_append,
      List.filterMap_cons_some (latest?_append_of_eq log rfl), List.filterMap_nil]
    -- The latest pairs of the keys so far are what they were.
    refine congrArg (· ++ [pair]) (List.filterMap_congr fun key hkey => ?_)
    refine latest?_append_of_ne log fun hsame => ?_
    rw [hsame] at hmem
    exact hmem (List.mem_eraseDups.mp hkey)

theorem ofLog_append (log more : List SignaturePair) :
    ofLog (log ++ more) = more.foldl insert (ofLog log) := by
  induction more generalizing log with
  | nil => rw [List.append_nil, List.foldl_nil]
  | cons pair rest ih =>
      rw [List.append_cons, ih, ofLog_append_singleton, List.foldl_cons]

theorem ofLog_pairs {map : SignatureMap} (hnodup : map.IsNodup) : ofLog map.pairs = map := by
  obtain ⟨pairs⟩ := map
  induction pairs using List.reverseRecOn with
  | nil => rfl
  | append_singleton pairs pair ih =>
      unfold IsNodup at hnodup
      rw [List.map_append, List.map_singleton, ← List.concat_eq_append] at hnodup
      obtain ⟨hnew, hbefore⟩ := (List.nodup_concat _ _).mp hnodup
      rw [ofLog_append_singleton, ih hbefore]
      exact congrArg SignatureMap.mk (place_of_notMem hnew)

theorem ofLog_pairs_append {map : SignatureMap} (hnodup : map.IsNodup) (pair : SignaturePair) :
    ofLog (map.pairs ++ [pair]) = map.insert pair := by
  rw [ofLog_append_singleton, ofLog_pairs hnodup]

/-- A log may begin with what another one amounts to. -/
theorem ofLog_ofLog_append (log more : List SignaturePair) :
    ofLog ((ofLog log).pairs ++ more) = ofLog (log ++ more) := by
  rw [ofLog_append, ofLog_append, ofLog_pairs (isNodup_ofLog log)]

/-! ### Pairs that stay -/

theorem mem_place_of_ne {other pair : SignaturePair} {pairs : List SignaturePair}
    (hmem : other ∈ pairs) (hkey : pair.publicKey ≠ other.publicKey) :
    other ∈ place pair pairs := by
  induction pairs with
  | nil => cases hmem
  | cons first rest ih =>
      unfold place
      rcases List.mem_cons.mp hmem with rfl | hrest
      · rw [if_neg (Ne.symm hkey)]
        exact List.mem_cons_self
      · split
        next => exact List.mem_cons_of_mem pair hrest
        next => exact List.mem_cons_of_mem first (ih hrest)

theorem mem_ofLog_append {map : SignatureMap} (hnodup : map.IsNodup) {other : SignaturePair}
    (hmem : other ∈ map.pairs) {more : List SignaturePair}
    (hkeys : ∀ pair ∈ more, pair.publicKey ≠ other.publicKey) :
    other ∈ (ofLog (map.pairs ++ more)).pairs := by
  induction more using List.reverseRecOn with
  | nil => rwa [List.append_nil, ofLog_pairs hnodup]
  | append_singleton more pair ih =>
      rw [← List.append_assoc, ofLog_append_singleton]
      obtain ⟨hmore, hpair⟩ := List.forall_mem_append.mp hkeys
      exact mem_place_of_ne (ih hmore) (hpair pair (List.mem_singleton.mpr rfl))

theorem insert_eq_self {map : SignatureMap} (hnodup : map.IsNodup) {pair : SignaturePair}
    (hmem : pair ∈ map.pairs) : map.insert pair = map := by
  obtain ⟨pairs⟩ := map
  refine congrArg SignatureMap.mk ?_
  unfold IsNodup at hnodup
  change pair ∈ pairs at hmem
  change (pairs.map (·.publicKey)).Nodup at hnodup
  change place pair pairs = pairs
  induction pairs with
  | nil => cases hmem
  | cons first rest ih =>
      obtain ⟨hfirst, hrest⟩ := List.nodup_cons.mp hnodup
      unfold place
      rcases List.mem_cons.mp hmem with rfl | hbehind
      · rw [if_pos rfl]
      · have hkey : first.publicKey ≠ pair.publicKey := by
          intro hsame
          refine hfirst (List.mem_map.mpr ⟨pair, hbehind, ?_⟩)
          exact hsame.symm
        rw [if_neg hkey, ih hbehind hrest]

end SignatureMap

/-! ### Bodies with a log -/

/-- What a log tells of a node. -/
def notesFor (log : List (AccountId × SignaturePair)) (node : AccountId) : List SignaturePair :=
  (log.filter (·.1 == node)).map (·.2)

theorem notesFor_append (log more : List (AccountId × SignaturePair)) (node : AccountId) :
    notesFor (log ++ more) node = notesFor log node ++ notesFor more node := by
  unfold notesFor
  rw [List.filter_append, List.map_append]

theorem notesFor_cons_of_eq {node other : AccountId} (pair : SignaturePair)
    (log : List (AccountId × SignaturePair)) (hsame : (node == other) = true) :
    notesFor ((node, pair) :: log) other = pair :: notesFor log other := by
  unfold notesFor
  rw [List.filter_cons_of_pos (by exact hsame), List.map_cons]

theorem notesFor_cons_of_ne {node other : AccountId} (pair : SignaturePair)
    (log : List (AccountId × SignaturePair)) (hne : (node == other) = false) :
    notesFor ((node, pair) :: log) other = notesFor log other := by
  unfold notesFor
  rw [List.filter_cons_of_neg (by simp [hne])]

theorem notesFor_zip_of_notMem {nodes : List AccountId} {node : AccountId}
    (hother : node.key ∉ nodes.map EntityId.key) (pairs : List SignaturePair) :
    notesFor (nodes.zip pairs) node = [] := by
  unfold notesFor
  refine List.map_eq_nil_iff.mpr (List.filter_eq_nil_iff.mpr fun note hnote hsame => ?_)
  refine hother (List.mem_map.mpr ⟨note.1, (List.of_mem_zip hnote).1, ?_⟩)
  exact EntityId.beq_iff.mp hsame

/-- The body with what a log tells of its node besides the signatures it has. -/
def SignedBody.withLog (log : List (AccountId × SignaturePair)) (body : SignedBody) : SignedBody :=
  { body with signatures := .ofLog (body.signatures.pairs ++ notesFor log body.node) }

namespace SignedBody

variable {body : SignedBody} {log : List (AccountId × SignaturePair)}

theorem withLog_of_nil (hnodup : body.signatures.IsNodup) (hnone : notesFor log body.node = []) :
    body.withLog log = body := by
  unfold withLog
  rw [hnone, List.append_nil, SignatureMap.ofLog_pairs hnodup]

theorem withLog_of_singleton (hnodup : body.signatures.IsNodup) {pair : SignaturePair}
    (hone : notesFor log body.node = [pair]) : body.withLog log = body.addSignature pair := by
  unfold withLog
  rw [hone, SignatureMap.ofLog_pairs_append hnodup]
  rfl

theorem withLog_withLog (body : SignedBody) (log more : List (AccountId × SignaturePair)) :
    (body.withLog log).withLog more = body.withLog (log ++ more) := by
  unfold withLog
  rw [SignatureMap.ofLog_ofLog_append, notesFor_append, List.append_assoc]

end SignedBody

namespace SignedBodies

/-- The bodies with what a log tells of their nodes. -/
def withLog (bodies : SignedBodies) (log : List (AccountId × SignaturePair)) : SignedBodies :=
  ⟨bodies.bodies.map (SignedBody.withLog log)⟩

variable {bodies signed : SignedBodies} {made : AccountId → Bytes}

theorem map_paper_withLog (bodies : SignedBodies) (log : List (AccountId × SignaturePair)) :
    (bodies.withLog log).bodies.map paper = bodies.bodies.map paper := by
  unfold withLog
  rw [List.map_map]
  rfl

theorem nodes_withLog (bodies : SignedBodies) (log : List (AccountId × SignaturePair)) :
    (bodies.withLog log).nodes = bodies.nodes := by
  unfold nodes withLog
  rw [List.map_map]
  rfl

theorem body?_withLog (bodies : SignedBodies) (log : List (AccountId × SignaturePair))
    (node : AccountId) :
    (bodies.withLog log).body? node = (bodies.body? node).map (SignedBody.withLog log) := by
  unfold body? withLog
  rw [List.find?_map]
  rfl

theorem withLog_nil (hbodies : bodies.AreFor made) : bodies.withLog [] = bodies := by
  unfold withLog
  rw [List.map_congr_left fun body hbody =>
    SignedBody.withLog_of_nil (hbodies.signatures_nodup body hbody) rfl, List.map_id']

theorem withLog_withLog (bodies : SignedBodies) (log more : List (AccountId × SignaturePair)) :
    (bodies.withLog log).withLog more = bodies.withLog (log ++ more) := by
  unfold withLog
  rw [List.map_map]
  exact congrArg mk (List.map_congr_left fun body _ => body.withLog_withLog log more)

theorem AreFor.withLog (hbodies : bodies.AreFor made) (log : List (AccountId × SignaturePair)) :
    (bodies.withLog log).AreFor made := by
  refine hbodies.of_paper_eq (map_paper_withLog bodies log) fun body hbody => ?_
  obtain ⟨old, _, rfl⟩ := List.mem_map.mp hbody
  exact SignatureMap.isNodup_ofLog _

/-- Each of the bodies that a signer signs gets the one signature that is given for its node. -/
theorem zipWith_signedBy (signer : Signer ω) {bodies : List SignedBody} {signatures : List Bytes}
    (hlength : signatures.length = bodies.length)
    (hkeys : ((bodies.map (·.node)).map EntityId.key).Nodup)
    (hnodup : ∀ body ∈ bodies, body.signatures.IsNodup) :
    bodies.zipWith (signedBy signer) signatures =
      bodies.map (SignedBody.withLog ((bodies.map (·.node)).zip
        (signatures.map (SignaturePair.mk signer.publicKey.bytes)))) := by
  induction bodies generalizing signatures with
  | nil => rfl
  | cons first rest ih =>
      cases signatures with
      | nil => cases hlength
      | cons signature others =>
          obtain ⟨hnew, hrest⟩ := List.nodup_cons.mp hkeys
          obtain ⟨hfirst, hbehind⟩ := List.forall_mem_cons.mp hnodup
          rw [List.zipWith_cons_cons, ih (Nat.succ.inj hlength) hrest hbehind, List.map_cons,
            List.map_cons, List.map_cons, List.zip_cons_cons]
          refine congrArg₂ List.cons ?_ (List.map_congr_left fun body hbody => ?_)
          · refine (SignedBody.withLog_of_singleton hfirst ?_).symm
            rw [notesFor_cons_of_eq _ _ (EntityId.beq_iff.mpr rfl), notesFor_zip_of_notMem hnew]
          · have hother : (first.node == body.node) = false := by
              refine Bool.eq_false_iff.mpr fun hsame => hnew ?_
              rw [EntityId.beq_iff.mp hsame, List.map_map]
              exact List.mem_map_of_mem hbody
            unfold SignedBody.withLog
            rw [notesFor_cons_of_ne _ _ hother]

/-- The body for a node gets the signature that is added for it. -/
theorem addTo_eq_map {node : AccountId} (pair : SignaturePair) {bodies : List SignedBody}
    (hkeys : ((bodies.map (·.node)).map EntityId.key).Nodup)
    (hnodup : ∀ body ∈ bodies, body.signatures.IsNodup) :
    addTo node pair bodies = bodies.map (SignedBody.withLog [(node, pair)]) := by
  induction bodies with
  | nil => rfl
  | cons first rest ih =>
      obtain ⟨hnew, hrest⟩ := List.nodup_cons.mp hkeys
      obtain ⟨hfirst, hbehind⟩ := List.forall_mem_cons.mp hnodup
      unfold addTo
      rw [List.map_cons]
      cases hnode : first.node == node with
      | true =>
          rw [if_pos rfl]
          refine congrArg₂ List.cons ?_ ?_
          · refine (SignedBody.withLog_of_singleton hfirst ?_).symm
            rw [notesFor_cons_of_eq _ _ (BEq.comm.trans hnode)]
            rfl
          · -- The other bodies are for other nodes.
            refine (List.map_id' rest).symm.trans (List.map_congr_left fun body hbody => ?_)
            refine (SignedBody.withLog_of_nil (hbehind body hbody) ?_).symm
            refine notesFor_cons_of_ne _ _ (Bool.eq_false_iff.mpr fun hsame => hnew ?_)
            rw [(EntityId.beq_iff.mp hnode).trans (EntityId.beq_iff.mp hsame), List.map_map]
            exact List.mem_map_of_mem hbody
      | false =>
          rw [if_neg Bool.false_ne_true, ih hrest hbehind]
          refine congrArg (· :: _) (SignedBody.withLog_of_nil hfirst ?_).symm
          exact notesFor_cons_of_ne _ _ (BEq.comm.trans hnode)

end SignedBodies

end LedgerClient
