import LedgerClient.Proofs.Network.Selection
import LedgerClient.Proofs.Node.Health
import LedgerClient.Scene
import Mathlib.Algebra.Order.BigOperators.Group.Finset

/-!
# Failures while all nodes are benched

While all eligible nodes are benched, each attempt goes to the one that precedes the others,
and its failure puts that node further back. A node that waits is overtaken by another one only
as often as takes the backoff of the other to its upper bound, and once where it is there
already. So no node waits for ever.
-/

namespace LedgerClient

variable {ω χ : Type}

/-- A failed attempt: when a node is selected for it, and when the node is charged with it. -/
structure Setback where
  selected : Timestamp
  failed : Timestamp

namespace Scene

/-- Selects a node and charges it with a failure. -/
def failNext (scene : Scene ω χ) (candidates : List AccountId) (setback : Setback) :
    Outcome Member × Scene ω χ :=
  match scene.network.select scene.health candidates setback.selected with
  | .error error => (.error error, scene)
  | .ok (member, network) =>
      (.ok member, { scene with network }.changeHealth member (·.fail setback.failed))

/-- What is selected while one attempt after the other fails. -/
def failEach (scene : Scene ω χ) (candidates : List AccountId) :
    List Setback → List (Outcome Member)
  | [] => []
  | setback :: rest =>
      let (outcome, next) := scene.failNext candidates setback
      outcome :: next.failEach candidates rest

/-- All eligible nodes are benched whenever one of them is selected. -/
def StaysBenched (scene : Scene ω χ) (candidates : List AccountId) : List Setback → Prop
  | [] => True
  | setback :: rest =>
      (∀ member ∈ scene.network.eligible candidates,
        Network.isHealthy scene.health setback.selected member = false) ∧
      (scene.failNext candidates setback).2.StaysBenched candidates rest

instance decidableStaysBenched (scene : Scene ω χ) (candidates : List AccountId) :
    (setbacks : List Setback) → Decidable (scene.StaysBenched candidates setbacks)
  | [] => inferInstanceAs (Decidable True)
  | setback :: rest =>
      have := decidableStaysBenched (scene.failNext candidates setback).2 candidates rest
      inferInstanceAs (Decidable (_ ∧ _))

/-- A scene before attempts that fail one after the other, all eligible nodes being benched. The
nodes share their bounds. The moments are later than the failures in the records, and so far from
the last moment there is that the longest backoff can be added. -/
structure IsBefore (scene : Scene ω χ) (candidates : List AccountId) (bounds : BackoffBounds)
    (setbacks : List Setback) : Prop where
  recorded : ∀ member ∈ scene.network.eligible candidates, ∃ entries,
    scene.healthOf member = .ofEntries bounds entries ∧
      ∀ now, .failure now ∈ entries → now.IsNormal ∧ ∀ setback ∈ setbacks, now < setback.failed
  increasing : setbacks.Pairwise fun first second => first.failed < second.failed
  normal : ∀ setback ∈ setbacks, setback.failed.IsNormal
  inRange : ∀ setback ∈ setbacks,
    setback.failed.total + bounds.longest.nanos < 2 ^ 63 * 1000000000
  benched : scene.StaysBenched candidates setbacks

variable {scene : Scene ω χ} {candidates : List AccountId} {bounds : BackoffBounds}
  {setback : Setback} {rest : List Setback}

/-! ### One failed attempt -/

theorem healthOf_changeHealth (scene : Scene ω χ) (member other : Member)
    (change : Health → Health) : (scene.changeHealth member change).healthOf other =
      if member.record = other.record then change (scene.healthOf other)
      else scene.healthOf other :=
  HealthBook.get_modify scene.health member.record other.record change

/-- While all eligible nodes are benched, an attempt goes to the one that precedes the others, and
its failure is entered in the record of that node only. -/
theorem failNext_of_benched (hsome : scene.network.eligible candidates ≠ [])
    (hbenched : ∀ member ∈ scene.network.eligible candidates,
      Network.isHealthy scene.health setback.selected member = false) :
    let next := (scene.failNext candidates setback).2
    ∃ member ∈ scene.network.eligible candidates,
      (scene.failNext candidates setback).1 = .ok member ∧
      next.network.eligible candidates = scene.network.eligible candidates ∧
      next.healthOf member = (scene.healthOf member).fail setback.failed ∧
      ∀ other ∈ scene.network.eligible candidates, other ≠ member →
        member.record ≠ other.record ∧
        scene.network.Precedes scene.health member other ∧
        next.healthOf other = scene.healthOf other := by
  intro next
  obtain ⟨member, position, hnext, hselect⟩ :=
    Network.exists_isNext hsome scene.health setback.selected
  have hmember := Network.mem_eligible_of_isNext hnext
  have hfailed : scene.failNext candidates setback = (.ok member,
      { scene with network := { scene.network with cursor := position + 1 } }.changeHealth member
        (·.fail setback.failed)) := by
    simp only [failNext, hselect]
  refine ⟨member, hmember, by rw [hfailed], ?_, ?_, ?_⟩
  · simp only [next, hfailed]
    exact Network.eligible_eq_of_members_eq rfl candidates
  · simp only [next, hfailed]
    rw [healthOf_changeHealth, if_pos rfl]
    rfl
  · intro other hother hne
    have hrecords : member.record ≠ other.record := by
      intro hrecord
      exact hne (Network.eq_of_record_eq (Network.mem_members_of_mem_eligible hother)
        (Network.mem_members_of_mem_eligible hmember) hrecord.symm)
    refine ⟨hrecords, ?_, ?_⟩
    · cases hnext with
      | healthy _ _ _ hhealthy =>
          exact absurd (hhealthy.symm.trans (hbenched member hmember)) (by decide)
      | benched _ _ hprecedes => exact hprecedes other hother hne
    · simp only [next, hfailed]
      rw [healthOf_changeHealth, if_neg hrecords]
      rfl

/-- The first of the attempts leaves the scene before the others. -/
theorem IsBefore.failNext (hbefore : scene.IsBefore candidates bounds (setback :: rest))
    (hsome : scene.network.eligible candidates ≠ []) :
    (scene.failNext candidates setback).2.network.eligible candidates =
        scene.network.eligible candidates ∧
      (scene.failNext candidates setback).2.IsBefore candidates bounds rest := by
  obtain ⟨member, hmember, _, heligible, hfailed, hothers⟩ :=
    failNext_of_benched hsome hbefore.benched.1
  refine ⟨heligible, ?_, hbefore.increasing.of_cons,
    fun later hlater => hbefore.normal later (List.mem_cons_of_mem setback hlater),
    fun later hlater => hbefore.inRange later (List.mem_cons_of_mem setback hlater),
    hbefore.benched.2⟩
  rw [heligible]
  intro other hother
  obtain ⟨entries, hentries, hearlier⟩ := hbefore.recorded other hother
  by_cases hsame : other = member
  · subst hsame
    refine ⟨entries ++ [.failure setback.failed], ?_, ?_⟩
    · rw [hfailed, hentries, Health.ofEntries_append_singleton]
      rfl
    · intro now hnow
      rcases List.mem_append.mp hnow with hnow | hnow
      · obtain ⟨hnormal, hlater⟩ := hearlier now hnow
        exact ⟨hnormal, fun later hmem => hlater later (List.mem_cons_of_mem setback hmem)⟩
      · obtain rfl : now = setback.failed := by simpa using hnow
        exact ⟨hbefore.normal setback List.mem_cons_self,
          fun later hmem => List.rel_of_pairwise_cons hbefore.increasing hmem⟩
  · obtain ⟨_, _, hkept⟩ := hothers other hother hsame
    refine ⟨entries, hkept.trans hentries, fun now hnow => ?_⟩
    obtain ⟨hnormal, hlater⟩ := hearlier now hnow
    exact ⟨hnormal, fun later hmem => hlater later (List.mem_cons_of_mem setback hmem)⟩

theorem IsBefore.isWithin {setbacks : List Setback}
    (hbefore : scene.IsBefore candidates bounds setbacks) (hvalid : bounds.IsValid)
    {member : Member} (hmember : member ∈ scene.network.eligible candidates) :
    (scene.healthOf member).IsWithin bounds := by
  obtain ⟨entries, hentries, _⟩ := hbefore.recorded member hmember
  rw [hentries]
  exact Health.isWithin_ofEntries hvalid entries

/-- A benched node is readmitted before the longest backoff has passed since the next failure. -/
theorem IsBefore.exists_readmitAt (hbefore : scene.IsBefore candidates bounds (setback :: rest))
    (hvalid : bounds.IsValid) {member : Member}
    (hmember : member ∈ scene.network.eligible candidates) :
    ∃ readmitAt, (scene.healthOf member).readmitAt = some readmitAt ∧ readmitAt.IsNormal ∧
      readmitAt.total < setback.failed.total + bounds.longest.nanos := by
  obtain ⟨readmitAt, hreadmitted⟩ :=
    Network.exists_readmitAt_of_benched (hbefore.benched.1 member hmember)
  obtain ⟨entries, hentries, hearlier⟩ := hbefore.recorded member hmember
  refine ⟨readmitAt, hreadmitted, ?_⟩
  change (scene.healthOf member).readmitAt = some readmitAt at hreadmitted
  rw [hentries] at hreadmitted
  obtain ⟨earlier, now, later, rfl, _, rfl⟩ := Health.readmitAt_ofEntries_eq_some hreadmitted
  obtain ⟨hnow, hlater⟩ := hearlier now (by simp)
  have hlt := (Timestamp.lt_iff_total_lt hnow (hbefore.normal setback List.mem_cons_self)).mp
    (hlater setback List.mem_cons_self)
  have hlongest : ((Health.ofEntries bounds earlier).fail now).backoff.nanos ≤
      bounds.longest.nanos :=
    ((Health.isWithin_ofEntries hvalid earlier).enter hvalid (.failure now)).le_longest
  have hrange := hbefore.inRange setback List.mem_cons_self
  refine ⟨Timestamp.isNormal_ofTotal _, ?_⟩
  rw [Timestamp.total_add (by omega)]
  omega

/-! ### While a node waits -/

/-- One node waits, and since a given moment others were selected and failed: none of them more
often than a limit, each with a backoff that has grown with its failures and that passes in full
before it is readmitted. The one that waits is readmitted sooner than after the longest backoff. -/
structure Waits (scene : Scene ω χ) (candidates : List AccountId) (bounds : BackoffBounds)
    (waiting : Member) (since : Int) (limit : Nat) (served : List RecordName) : Prop where
  others : ∀ name ∈ served, ∃ member ∈ scene.network.eligible candidates,
    member ≠ waiting ∧ member.record = name
  few : ∀ name, served.count name ≤ limit
  grown : ∀ member ∈ scene.network.eligible candidates,
    min (bounds.shortest.nanos * 2 ^ served.count member.record) bounds.longest.nanos ≤
      (scene.healthOf member).backoff.nanos
  benched : ∀ member ∈ scene.network.eligible candidates, member.record ∈ served →
    ∃ readmitAt, (scene.healthOf member).readmitAt = some readmitAt ∧ readmitAt.IsNormal ∧
      since + (scene.healthOf member).backoff.nanos ≤ readmitAt.total
  sooner : ∃ readmitAt, (scene.healthOf waiting).readmitAt = some readmitAt ∧ readmitAt.IsNormal ∧
    readmitAt.total < since + bounds.longest.nanos

variable {waiting : Member} {since : Int} {limit : Nat} {served : List RecordName}

theorem waits_of_isBefore (hvalid : bounds.IsValid)
    (hbefore : scene.IsBefore candidates bounds (setback :: rest))
    (hwaiting : waiting ∈ scene.network.eligible candidates) (limit : Nat) :
    scene.Waits candidates bounds waiting setback.failed.total limit [] where
  others := nofun
  few _ := Nat.zero_le limit
  grown member hmember := by
    have hlow := (hbefore.isWithin hvalid hmember).shortest_le
    rw [List.count_nil, pow_zero, mul_one]
    omega
  benched := nofun
  sooner := hbefore.exists_readmitAt hvalid hwaiting

/-- A node that precedes the one that waits has not been selected up to the limit. -/
theorem Waits.count_lt (hwaits : scene.Waits candidates bounds waiting since limit served)
    (hvalid : bounds.IsValid) (hlimit : max (bounds.doublings hvalid) 1 ≤ limit) {member : Member}
    (hmember : member ∈ scene.network.eligible candidates)
    (hwithin : (scene.healthOf waiting).IsWithin bounds)
    (hprecedes : scene.network.Precedes scene.health member waiting) :
    served.count member.record < limit := by
  by_contra hnot
  have hserved : member.record ∈ served := List.count_pos_iff.mp (by omega)
  -- The other node is at the upper bound, so only an earlier readmission could put it first.
  have hlongest : bounds.longest.nanos ≤
      bounds.shortest.nanos * 2 ^ served.count member.record :=
    BackoffBounds.longest_le_of_doublings_le hvalid (by omega)
  have hgrown := hwaits.grown member hmember
  rw [Nat.min_eq_right hlongest] at hgrown
  obtain ⟨readmitAt, hreadmitted, hnormal, hlate⟩ := hwaits.benched member hmember hserved
  obtain ⟨waitingUntil, hwaiting, hwaitingNormal, hsoon⟩ := hwaits.sooner
  have hbackoff := hwithin.le_longest
  rcases hprecedes with hless | ⟨_, earlier, later, hearlier, hlater, horder⟩
  · change (scene.healthOf member).backoff.nanos < (scene.healthOf waiting).backoff.nanos at hless
    omega
  · obtain rfl : readmitAt = earlier := Option.some.inj (hreadmitted.symm.trans hearlier)
    obtain rfl : waitingUntil = later := Option.some.inj (hwaiting.symm.trans hlater)
    have hle : readmitAt.total ≤ waitingUntil.total := by
      rcases horder with hlt | ⟨hsame, _⟩
      · exact ((Timestamp.lt_iff_total_lt hnormal hwaitingNormal).mp hlt).le
      · rw [hsame]
    omega

/-- A node that fails while another one waits has one failure more. -/
theorem Waits.failNext (hwaits : scene.Waits candidates bounds waiting since limit served)
    (hvalid : bounds.IsValid) (hlimit : max (bounds.doublings hvalid) 1 ≤ limit)
    (hbefore : scene.IsBefore candidates bounds (setback :: rest))
    (hwaiting : waiting ∈ scene.network.eligible candidates)
    (hsince : since ≤ setback.failed.total)
    (hother : (scene.failNext candidates setback).1 ≠ .ok waiting) :
    ∃ name, (scene.failNext candidates setback).2.Waits candidates bounds waiting since limit
      (name :: served) := by
  obtain ⟨member, hmember, hselected, heligible, hfailed, hothers⟩ :=
    failNext_of_benched (List.ne_nil_of_mem hwaiting) hbefore.benched.1
  have hne : waiting ≠ member := by
    rintro rfl
    exact hother hselected
  obtain ⟨_, hprecedes, hwaits'⟩ := hothers waiting hwaiting hne
  have hcount := hwaits.count_lt hvalid hlimit hmember (hbefore.isWithin hvalid hwaiting) hprecedes
  have hwithin := hbefore.isWithin hvalid hmember
  refine ⟨member.record, {
    others := ?others, few := ?few, grown := ?grown, benched := ?benched, sooner := ?sooner }⟩
  case others =>
    rw [heligible]
    intro name hname
    rcases List.mem_cons.mp hname with rfl | hname
    · exact ⟨member, hmember, hne.symm, rfl⟩
    · exact hwaits.others name hname
  case few =>
    intro name
    have hfew := hwaits.few name
    rw [List.count_cons]
    split
    next hsame =>
      obtain rfl : member.record = name := eq_of_beq hsame
      omega
    next => omega
  case grown =>
    rw [heligible]
    intro other hmem
    by_cases hsame : other = member
    · subst hsame
      rw [hfailed, List.count_cons_self]
      exact Health.le_backoff_fail hwithin (hwaits.grown other hmem) setback.failed
    · obtain ⟨hrecord, _, hkept⟩ := hothers other hmem hsame
      rw [hkept, List.count_cons_of_ne hrecord]
      exact hwaits.grown other hmem
  case benched =>
    rw [heligible]
    intro other hmem hserved
    by_cases hsame : other = member
    · subst hsame
      have hlongest : ((scene.healthOf other).fail setback.failed).backoff.nanos ≤
          bounds.longest.nanos :=
        (hwithin.enter hvalid (.failure setback.failed)).le_longest
      have hrange := hbefore.inRange setback List.mem_cons_self
      rw [hfailed]
      refine ⟨setback.failed + ((scene.healthOf other).fail setback.failed).backoff, rfl,
        Timestamp.isNormal_ofTotal _, ?_⟩
      rw [Timestamp.total_add (by omega)]
      omega
    · obtain ⟨hrecord, _, hkept⟩ := hothers other hmem hsame
      rw [hkept]
      exact hwaits.benched other hmem ((List.mem_cons.mp hserved).resolve_left hrecord.symm)
  case sooner =>
    rw [hwaits']
    exact hwaits.sooner

/-- Where attempts fail one after the other and one node is not selected for them, each of them is
one more for another node. -/
theorem exists_served {window later : List Setback}
    (hwaits : scene.Waits candidates bounds waiting since limit served)
    (hvalid : bounds.IsValid) (hlimit : max (bounds.doublings hvalid) 1 ≤ limit)
    (hbefore : scene.IsBefore candidates bounds (window ++ later))
    (hwaiting : waiting ∈ scene.network.eligible candidates)
    (hsince : ∀ setback ∈ window, since ≤ setback.failed.total)
    (hnever : .ok waiting ∉ scene.failEach candidates window) :
    ∃ (final : Scene ω χ) (all : List RecordName),
      final.network.eligible candidates = scene.network.eligible candidates ∧
      final.Waits candidates bounds waiting since limit all ∧
      all.length = served.length + window.length := by
  induction window generalizing scene served with
  | nil => exact ⟨scene, served, rfl, hwaits, rfl⟩
  | cons setback rest ih =>
      obtain ⟨heligible, hrest⟩ := IsBefore.failNext hbefore (List.ne_nil_of_mem hwaiting)
      rw [failEach, List.mem_cons, not_or] at hnever
      obtain ⟨name, hnext⟩ := hwaits.failNext hvalid hlimit hbefore hwaiting
        (hsince setback List.mem_cons_self) (Ne.symm hnever.1)
      obtain ⟨final, all, hfinal, hall, hlength⟩ := ih hnext hrest (heligible ▸ hwaiting)
        (fun other hother => hsince other (List.mem_cons_of_mem setback hother)) hnever.2
      refine ⟨final, all, hfinal.trans heligible, hall, ?_⟩
      rw [hlength, List.length_cons, List.length_cons]
      omega

/-! ### Every node is selected -/

theorem length_le_of_count_le {α : Type} [DecidableEq α] {names all : List α} {limit : Nat}
    (hsubset : ∀ name ∈ all, name ∈ names) (hcount : ∀ name, all.count name ≤ limit) :
    all.length ≤ names.length * limit := by
  rw [← List.sum_toFinset_count_eq_length]
  calc ∑ name ∈ all.toFinset, all.count name
      ≤ all.toFinset.card * limit :=
        Finset.sum_le_card_nsmul _ _ limit fun name _ => hcount name
    _ ≤ names.length * limit := by
        refine Nat.mul_le_mul_right limit (le_trans (Finset.card_le_card ?_) names.toFinset_card_le)
        intro name hname
        exact List.mem_toFinset.mpr (hsubset name (List.mem_toFinset.mp hname))

/-- While one node waits, the others are selected up to the limit each. -/
theorem Waits.length_le (hwaits : scene.Waits candidates bounds waiting since limit served)
    (hwaiting : waiting ∈ scene.network.eligible candidates) :
    served.length ≤ ((scene.network.eligible candidates).length - 1) * limit := by
  have hlength : (((scene.network.eligible candidates).map Member.record).erase
      waiting.record).length = (scene.network.eligible candidates).length - 1 := by
    rw [List.length_erase_of_mem (List.mem_map_of_mem hwaiting), List.length_map]
  rw [← hlength]
  refine length_le_of_count_le ?_ hwaits.few
  intro name hname
  obtain ⟨member, hmember, hne, rfl⟩ := hwaits.others name hname
  refine (List.mem_erase_of_ne ?_).mpr (List.mem_map_of_mem hmember)
  intro hsame
  exact hne (Network.eq_of_record_eq (Network.mem_members_of_mem_eligible hmember)
    (Network.mem_members_of_mem_eligible hwaiting) hsame)

theorem take_failEach (scene : Scene ω χ) (candidates : List AccountId)
    (window later : List Setback) :
    (scene.failEach candidates (window ++ later)).take window.length =
      scene.failEach candidates window := by
  induction window generalizing scene with
  | nil => rfl
  | cons setback rest ih =>
      rw [List.cons_append, failEach, failEach, List.length_cons, List.take_succ_cons, ih]

theorem mem_failEach {window later : List Setback} (hvalid : bounds.IsValid)
    (hbefore : scene.IsBefore candidates bounds (window ++ later))
    (hlength : window.length = ((scene.network.eligible candidates).length - 1) *
      max (bounds.doublings hvalid) 1 + 1)
    (hwaiting : waiting ∈ scene.network.eligible candidates) :
    .ok waiting ∈ scene.failEach candidates window := by
  by_contra hnever
  cases window with
  | nil => cases hlength
  | cons first rest =>
      have hsince : ∀ setback ∈ first :: rest, first.failed.total ≤ setback.failed.total := by
        intro setback hsetback
        rcases List.mem_cons.mp hsetback with rfl | hrest
        · exact le_refl _
        · have hmem := List.mem_append_left later hrest
          exact ((Timestamp.lt_iff_total_lt (hbefore.normal first List.mem_cons_self)
            (hbefore.normal setback (List.mem_cons_of_mem first hmem))).mp
              (List.rel_of_pairwise_cons hbefore.increasing hmem)).le
      obtain ⟨final, all, heligible, hall, hcount⟩ := exists_served
        (waits_of_isBefore hvalid hbefore hwaiting _) hvalid (le_refl _) hbefore hwaiting hsince
        hnever
      have hbound := hall.length_le (heligible ▸ hwaiting)
      rw [heligible, hcount, hlength, List.length_nil] at hbound
      omega

/-- While `n` eligible nodes stay benched and attempts fail one after the other, each of the nodes
is selected at least once in every `(n - 1) * max k 1 + 1` attempts in a row, where `k` doublings
take a backoff from the lower bound to the upper one. -/
theorem every_node_is_selected (scene : Scene ω χ) (candidates : List AccountId)
    (bounds : BackoffBounds) (hvalid : bounds.IsValid) (setbacks : List Setback)
    (hbefore : scene.IsBefore candidates bounds setbacks) :
    ∀ earlier window later, setbacks = earlier ++ window ++ later →
      window.length = ((scene.network.eligible candidates).length - 1) *
        max (bounds.doublings hvalid) 1 + 1 →
      ∀ member ∈ scene.network.eligible candidates,
        .ok member ∈ ((scene.failEach candidates setbacks).drop earlier.length).take
          window.length := by
  rintro earlier window later rfl hlength member hmember
  induction earlier generalizing scene with
  | nil =>
      rw [List.nil_append] at *
      rw [List.length_nil, List.drop_zero, take_failEach]
      exact mem_failEach hvalid hbefore hlength hmember
  | cons setback rest ih =>
      obtain ⟨heligible, hrest⟩ := IsBefore.failNext hbefore (List.ne_nil_of_mem hmember)
      exact ih _ hrest (heligible ▸ hlength) (heligible ▸ hmember)

/-- Eight seconds to sixteen. -/
def twofold : BackoffBounds := ⟨Duration.ofSeconds 8, Duration.ofSeconds 16⟩

/-- Three nodes that failed one second after the other. -/
def allBenched : Scene Unit Unit where
  network := .trio 0
  health := ⟨3, fun name => .ofEntries twofold [.failure ⟨Int64.ofNat name.number, 0⟩]⟩
  world := ()

/-- Attempts that fail half a second after their node is selected. -/
def halting (seconds : List Int64) : List Setback :=
  seconds.map fun second => ⟨⟨second, 0⟩, ⟨second, 500000000⟩⟩

theorem every_node_is_selected_at_the_bound :
    twofold.IsValid ∧ allBenched.IsBefore [] twofold (halting [10, 11, 12, 13]) ∧
      ∀ member ∈ allBenched.network.members,
        .ok member ∈ ((allBenched.failEach [] (halting [10, 11, 12, 13])).drop 1).take 3 := by
  have hvalid : twofold.IsValid := by decide
  have honce : twofold.doublings hvalid = 1 :=
    (Nat.find_eq_iff _).mpr ⟨by decide, by decide⟩
  have hbefore : allBenched.IsBefore [] twofold (halting [10, 11, 12, 13]) := by
    refine ⟨?_, by decide, by decide, by decide, by decide⟩
    intro member hmember
    refine ⟨[.failure ⟨Int64.ofNat member.number, 0⟩], rfl, fun now hnow => ?_⟩
    obtain rfl : now = ⟨Int64.ofNat member.number, 0⟩ := by simpa using hnow
    clear hnow
    revert member
    decide
  refine ⟨hvalid, hbefore, ?_⟩
  exact every_node_is_selected allBenched [] twofold hvalid _ hbefore (halting [10])
    (halting [11, 12, 13]) [] rfl (by rw [honce]; rfl)

end Scene

end LedgerClient
