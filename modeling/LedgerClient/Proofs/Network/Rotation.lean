import LedgerClient.Proofs.Network.Selection

/-!
# Taking turns

Calls made one after the other walk the ring on from where the last one ended. While the same
nodes stay benched, calls for the same nodes give the others in turn. All calls share the
cursor, so a call for other nodes in between moves it for all.
-/

namespace LedgerClient.Network

variable {χ : Type} {network : Network χ} {book : HealthBook} {candidates : List AccountId}
  {now : Timestamp}

/-! ### Calls one after the other -/

/-- A call for the next node, with the records it finds. -/
structure Call where
  book : HealthBook
  candidates : List AccountId
  now : Timestamp

/-- What calls give that are made one after the other. One that fails changes nothing. -/
def selections (network : Network χ) : List Call → List (Outcome Member)
  | [] => []
  | call :: rest =>
      match network.select call.book call.candidates call.now with
      | .error error => .error error :: network.selections rest
      | .ok (member, next) => .ok member :: next.selections rest

/-- The network that calls leave. -/
def afterCalls (network : Network χ) : List Call → Network χ
  | [] => network
  | call :: rest =>
      match network.select call.book call.candidates call.now with
      | .error _ => network.afterCalls rest
      | .ok (_, next) => next.afterCalls rest

theorem select_cases (network : Network χ) (call : Call) :
    network.eligible call.candidates = [] ∧
        network.select call.book call.candidates call.now = .error .noEligibleNodes ∨
      network.eligible call.candidates ≠ [] ∧ ∃ member position,
        network.IsNext call.book call.candidates call.now member position ∧
        network.select call.book call.candidates call.now =
          .ok (member, { network with cursor := position + 1 }) := by
  by_cases hempty : network.eligible call.candidates = []
  · exact .inl ⟨hempty, select_of_eligible_eq_nil hempty call.book call.now⟩
  · exact .inr ⟨hempty, exists_isNext hempty call.book call.now⟩

@[simp] theorem length_selections (network : Network χ) (calls : List Call) :
    (network.selections calls).length = calls.length := by
  induction calls generalizing network with
  | nil => rfl
  | cons call rest ih =>
      rw [selections]
      split <;> simp [ih]

theorem selections_append (network : Network χ) (earlier later : List Call) :
    network.selections (earlier ++ later) =
      network.selections earlier ++ (network.afterCalls earlier).selections later := by
  induction earlier generalizing network with
  | nil => rfl
  | cons call rest ih =>
      rw [List.cons_append, selections, selections, afterCalls]
      split <;> simp [ih]

@[simp] theorem members_afterCalls (network : Network χ) (calls : List Call) :
    (network.afterCalls calls).members = network.members := by
  induction calls generalizing network with
  | nil => rfl
  | cons call rest ih =>
      rw [afterCalls]
      rcases network.select_cases call with ⟨_, hselect⟩ | ⟨_, _, _, _, hselect⟩
      · rw [hselect]
        exact ih network
      · rw [hselect]
        exact ih _

theorem selections_window (network : Network χ) (earlier window later : List Call) :
    ((network.selections (earlier ++ window ++ later)).drop earlier.length).take window.length =
      (network.afterCalls earlier).selections window := by
  rw [List.append_assoc, selections_append, selections_append]
  rw [List.drop_left' (length_selections network earlier)]
  exact List.take_left' (length_selections _ window)

/-! ### Turns -/

theorem rotate_behind {α : Type} {items : List α} {offset : Nat} (hoffset : offset < items.length)
    (start : Nat) :
    items.rotate ((start + offset) % items.length + 1) =
      (items.rotate start).drop (offset + 1) ++ (items.rotate start).take (offset + 1) := by
  have hlength : offset + 1 ≤ (items.rotate start).length := by
    rw [List.length_rotate]
    exact hoffset
  calc items.rotate ((start + offset) % items.length + 1)
      = items.rotate (start + (offset + 1)) := by
        rw [← List.rotate_rotate, List.rotate_mod, List.rotate_rotate, Nat.add_assoc]
    _ = (items.rotate start).rotate (offset + 1) := (List.rotate_rotate ..).symm
    _ = _ := List.rotate_eq_drop_append_take hlength

/-- The walk passes benched nodes, and goes on behind the node that is selected. -/
theorem walk_of_isNext {member : Member} {position : Nat}
    (hnext : network.IsNext book candidates now member position)
    (hsome : ∃ other ∈ network.eligible candidates, isHealthy book now other = true) :
    ∃ passed rest,
      (network.eligible candidates).rotate network.cursor = passed ++ member :: rest ∧
      (∀ other ∈ passed, isHealthy book now other = false) ∧
      isHealthy book now member = true ∧
      (network.eligible candidates).rotate (position + 1) = rest ++ (passed ++ [member]) := by
  cases hnext with
  | benched _ hbenched =>
      obtain ⟨other, hother, hhealthy⟩ := hsome
      exact absurd (hhealthy.symm.trans (hbenched other hother)) (by decide)
  | @healthy offset _ _ hoffset hposition hplace hhealthy hpassed =>
      generalize network.eligible candidates = nodes at *
      have hwalk : ∀ place < nodes.length,
          (nodes.rotate network.cursor)[place]? =
            nodes[(network.cursor + place) % nodes.length]? := by
        intro place hplace
        rw [List.getElem?_rotate hplace, Nat.add_comm]
      have hat : (nodes.rotate network.cursor)[offset]? = some member := by
        rw [hwalk offset hoffset, ← hposition, hplace]
      obtain ⟨hlength, hmember⟩ := List.getElem?_eq_some_iff.mp hat
      refine ⟨(nodes.rotate network.cursor).take offset,
        (nodes.rotate network.cursor).drop (offset + 1), ?_, ?_, hhealthy, ?_⟩
      · rw [← hmember, List.getElem_cons_drop, List.take_append_drop]
      · intro other hother
        obtain ⟨earlier, hearlier, hplaced⟩ := List.mem_take_iff_getElem.mp hother
        obtain ⟨passed, hpassedAt, hbenched⟩ := hpassed earlier (by omega)
        rw [← hwalk earlier (by omega), List.getElem?_eq_getElem (by omega), hplaced] at hpassedAt
        rwa [Option.some.inj hpassedAt]
      · rw [hposition, rotate_behind hoffset, List.take_add_one, hat]
        rfl

/-- The nodes that are fit, in the order of their turns. -/
def turns (network : Network χ) (nodes : List Member) (fit : Member → Bool) : List Member :=
  (nodes.rotate network.cursor).filter fit

/-- The first in turn is selected, and becomes the last one. -/
theorem turns_of_isNext {fit : Member → Bool} {member : Member} {position : Nat}
    (hnext : network.IsNext book candidates now member position)
    (hverdict : ∀ other ∈ network.eligible candidates, isHealthy book now other = fit other)
    (hsome : ∃ other ∈ network.eligible candidates, fit other = true) :
    ∃ others, turns network (network.eligible candidates) fit = member :: others ∧
      turns { network with cursor := position + 1 } (network.eligible candidates) fit =
        others ++ [member] := by
  have hhealthy : ∃ other ∈ network.eligible candidates, isHealthy book now other = true := by
    obtain ⟨other, hother, hfit⟩ := hsome
    exact ⟨other, hother, (hverdict other hother).trans hfit⟩
  obtain ⟨passed, rest, hwalk, hpassed, hmember, hbehind⟩ := walk_of_isNext hnext hhealthy
  have hfit : fit member = true :=
    (hverdict member (mem_eligible_of_isNext hnext)).symm.trans hmember
  have hunfit : passed.filter fit = [] := by
    refine List.filter_eq_nil_iff.mpr fun other hother => ?_
    have hmem : other ∈ network.eligible candidates := by
      rw [← List.mem_rotate (n := network.cursor), hwalk]
      exact List.mem_append_left _ hother
    rw [← hverdict other hmem, hpassed other hother]
    decide
  refine ⟨rest.filter fit, ?_, ?_⟩
  · rw [turns, hwalk, List.filter_append, hunfit, List.nil_append, List.filter_cons_of_pos hfit]
  · rw [turns, hbehind, List.filter_append, List.filter_append, hunfit, List.nil_append,
      List.filter_cons_of_pos hfit, List.filter_nil]

/-- Calls for the same nodes, of which the same ones stay benched, give the others in turn. -/
theorem getElem?_selections {nodes : List Member} {fit : Member → Bool} {calls : List Call}
    (heligible : ∀ call ∈ calls, network.eligible call.candidates = nodes)
    (hverdict : ∀ call ∈ calls, ∀ member ∈ nodes,
      isHealthy call.book call.now member = fit member)
    (hsome : ∃ member ∈ nodes, fit member = true) {i : Nat} (hi : i < calls.length) :
    ∃ member, (turns network nodes fit)[i % (turns network nodes fit).length]? = some member ∧
      (network.selections calls)[i]? = some (.ok member) := by
  induction calls generalizing network i with
  | nil => exact absurd hi (Nat.not_lt_zero i)
  | cons call rest ih =>
      have hnodes := heligible call List.mem_cons_self
      rcases network.select_cases call with ⟨hempty, _⟩ | ⟨_, first, position, hnext, hselect⟩
      · obtain ⟨member, hmember, _⟩ := hsome
        rw [← hnodes, hempty] at hmember
        exact absurd hmember List.not_mem_nil
      subst hnodes
      obtain ⟨others, hturns, hlater⟩ :=
        turns_of_isNext hnext (hverdict call List.mem_cons_self) hsome
      rw [selections, hselect]
      cases i with
      | zero => exact ⟨first, by simp [hturns], rfl⟩
      | succ i =>
          obtain ⟨member, hmember, hgiven⟩ := @ih { network with cursor := position + 1 }
            (fun later hlater => heligible later (List.mem_cons_of_mem call hlater))
            (fun later hlater => hverdict later (List.mem_cons_of_mem call hlater)) i
            (Nat.lt_of_succ_lt_succ hi)
          refine ⟨member, ?_, hgiven⟩
          -- Behind the first call all turns have moved up by one.
          have hmoved : others ++ [first] = (first :: others).rotate 1 := by simp
          have hplace : i % (first :: others).length < (first :: others).length :=
            Nat.mod_lt i (Nat.succ_pos _)
          rw [hlater, hmoved, List.length_rotate, List.getElem?_rotate hplace, Nat.mod_add_mod,
            ← hturns] at hmember
          exact hmember

/-- As many calls as there are turns give each turn once. -/
theorem selections_round {nodes : List Member} {fit : Member → Bool} {calls : List Call}
    (heligible : ∀ call ∈ calls, network.eligible call.candidates = nodes)
    (hverdict : ∀ call ∈ calls, ∀ member ∈ nodes,
      isHealthy call.book call.now member = fit member)
    (hsome : ∃ member ∈ nodes, fit member = true)
    (hlength : calls.length = (turns network nodes fit).length) :
    network.selections calls = (turns network nodes fit).map .ok := by
  refine List.ext_getElem? fun i => ?_
  by_cases hi : i < calls.length
  · obtain ⟨member, hmember, hgiven⟩ := getElem?_selections heligible hverdict hsome hi
    rw [Nat.mod_eq_of_lt (by omega)] at hmember
    rw [hgiven, List.getElem?_map, hmember]
    rfl
  · rw [List.getElem?_eq_none (by rw [length_selections]; omega),
      List.getElem?_eq_none (by rw [List.length_map]; omega)]

theorem exists_filter_rotate {α : Type} (items : List α) (start : Nat) (fit : α → Bool) :
    ∃ shift, (items.rotate start).filter fit = (items.filter fit).rotate shift := by
  refine ⟨((items.take (start % items.length)).filter fit).length, ?_⟩
  have hwhole : items.filter fit = (items.take (start % items.length)).filter fit ++
      (items.drop (start % items.length)).filter fit := by
    rw [← List.filter_append, List.take_append_drop]
  rw [hwhole, List.rotate_append_length_eq, List.rotate_eq_drop_append_take_mod,
    List.filter_append]

theorem turns_perm (network : Network χ) (nodes : List Member) (fit : Member → Bool) :
    (turns network nodes fit).Perm (nodes.filter fit) :=
  (List.rotate_perm nodes network.cursor).filter fit

/-- While the same eligible nodes stay benched, and not all of them, calls with one list give the
others in the order of the network, over and over, wherever the cursor stood. As many calls in a
row as there are such nodes give each of them once. -/
theorem selections_rotate (network : Network χ) (candidates : List AccountId)
    (fit : Member → Bool) (calls : List Call)
    (hsame : ∀ call ∈ calls, call.candidates = candidates)
    (hverdict : ∀ call ∈ calls, ∀ member ∈ network.eligible candidates,
      isHealthy call.book call.now member = fit member)
    (hsome : ∃ member ∈ network.eligible candidates, fit member = true) :
    let healthy := (network.eligible candidates).filter fit
    (∃ start, ∀ i < calls.length, ∃ member,
      healthy[(start + i) % healthy.length]? = some member ∧
        (network.selections calls)[i]? = some (.ok member)) ∧
    ∀ earlier window later, calls = earlier ++ window ++ later →
      window.length = healthy.length →
      ∃ given : List Member, given.Perm healthy ∧ given.Nodup ∧
        ((network.selections calls).drop earlier.length).take window.length = given.map .ok := by
  intro healthy
  have heligible : ∀ call ∈ calls, network.eligible call.candidates = network.eligible candidates :=
    fun call hcall => congrArg network.eligible (hsame call hcall)
  refine ⟨?_, ?_⟩
  · obtain ⟨start, hstart⟩ :=
      exists_filter_rotate (network.eligible candidates) network.cursor fit
    refine ⟨start, fun i hi => ?_⟩
    obtain ⟨member, hmember, hgiven⟩ := getElem?_selections heligible hverdict hsome hi
    refine ⟨member, ?_, hgiven⟩
    have hpos : 0 < healthy.length := by
      obtain ⟨other, hother, hfit⟩ := hsome
      exact List.length_pos_of_mem (List.mem_filter.mpr ⟨hother, hfit⟩)
    rw [turns, hstart, List.length_rotate, List.getElem?_rotate (Nat.mod_lt i hpos),
      Nat.mod_add_mod, Nat.add_comm] at hmember
    exact hmember
  · intro earlier window later hcalls hlength
    have hperm := turns_perm (network.afterCalls earlier) (network.eligible candidates) fit
    have hwindow : ∀ call ∈ window, call ∈ calls := by
      intro call hcall
      rw [hcalls]
      exact List.mem_append_left later (List.mem_append_right earlier hcall)
    refine ⟨_, hperm, hperm.nodup_iff.mpr ((network.nodup_eligible candidates).filter fit), ?_⟩
    rw [hcalls, selections_window]
    refine selections_round (fun call hcall => ?_)
      (fun call hcall => hverdict call (hwindow call hcall)) hsome
      (hlength.trans hperm.length_eq.symm)
    rw [← heligible call (hwindow call hcall)]
    exact eligible_eq_of_members_eq (network.members_afterCalls earlier) call.candidates

/-- Records of which one node is benched. -/
def oneBenched : HealthBook := HealthBook.empty.modify ⟨(EntityId.ofNum 4).key, 1⟩ (·.fail .epoch)

theorem selections_rotate_past_benched :
    let calls := List.replicate 3 (⟨oneBenched, [], .epoch⟩ : Call)
    let fit := fun member : Member => member.number != 1
    (∀ call ∈ calls, call.candidates = []) ∧
    (∀ call ∈ calls, ∀ member ∈ (trio 2).eligible [],
      isHealthy call.book call.now member = fit member) ∧
    (∃ member ∈ (trio 2).eligible [], fit member = true) ∧
    ∃ given : List Member, given.Perm (((trio 2).eligible []).filter fit) ∧ given.Nodup ∧
      (((trio 2).selections calls).drop 1).take 2 = given.map .ok := by
  intro calls fit
  have hsame : ∀ call ∈ calls, call.candidates = [] := by
    intro call hcall
    rw [List.eq_of_mem_replicate hcall]
  have hverdict : ∀ call ∈ calls, ∀ member ∈ (trio 2).eligible [],
      isHealthy call.book call.now member = fit member := by decide
  have hsome : ∃ member ∈ (trio 2).eligible [], fit member = true := by decide
  exact ⟨hsame, hverdict, hsome, (selections_rotate (trio 2) [] fit calls hsame hverdict hsome).2
    [⟨oneBenched, [], .epoch⟩] (List.replicate 2 ⟨oneBenched, [], .epoch⟩) [] rfl rfl⟩

/-! ### The shared cursor -/

/-- Where the cursor stands after calls with given numbers of eligible nodes, none of them benched.
A call without any leaves it where it is. -/
def cursorAfter (cursor : Nat) (counts : List Nat) : Nat :=
  counts.foldl (fun cursor count => if count = 0 then cursor else cursor % count + 1) cursor

/-- Where no node is benched, the walk ends where it starts. -/
theorem position_of_isNext {member : Member} {position : Nat}
    (hnext : network.IsNext book candidates now member position)
    (hhealthy : ∀ other ∈ network.eligible candidates, isHealthy book now other = true) :
    position = network.cursor % (network.eligible candidates).length ∧
      (network.eligible candidates)[position]? = some member := by
  cases hnext with
  | benched hplace hbenched =>
      have hmem := List.mem_of_getElem? hplace
      exact absurd ((hhealthy member hmem).symm.trans (hbenched member hmem)) (by decide)
  | @healthy offset _ _ _ hposition hplace _ hpassed =>
      cases offset with
      | zero => exact ⟨hposition, hplace⟩
      | succ offset =>
          obtain ⟨passed, hplace, hbenched⟩ := hpassed 0 (Nat.succ_pos offset)
          have hmem := List.mem_of_getElem? hplace
          exact absurd ((hhealthy passed hmem).symm.trans hbenched) (by decide)

/-- Among nodes of which none is benched, a call gives the one that the cursor stands at, counted
round the eligible ones of the call. -/
theorem getElem?_selections_of_healthy {earlier later : List Call} {call : Call}
    (hhealthy : ∀ made ∈ earlier ++ call :: later, ∀ member ∈ network.members,
      isHealthy made.book made.now member = true) :
    let eligible := network.eligible call.candidates
    let cursor := cursorAfter network.cursor
      (earlier.map fun made => (network.eligible made.candidates).length)
    (network.selections (earlier ++ call :: later))[earlier.length]? = some
      (match eligible[cursor % eligible.length]? with
      | some member => .ok member
      | none => .error .noEligibleNodes) := by
  induction earlier generalizing network with
  | nil =>
      intro eligible cursor
      rw [List.nil_append, selections]
      rcases network.select_cases call with
        ⟨hempty, hselect⟩ | ⟨_, member, position, hnext, hselect⟩
      · simp [hselect, eligible, hempty]
      · obtain ⟨hposition, hplace⟩ := position_of_isNext hnext fun other hother =>
          hhealthy call (by simp) other (mem_members_of_mem_eligible hother)
        have hcursor : eligible[cursor % eligible.length]? = some member := by
          rw [← hplace, hposition]
          rfl
        simp [hselect, hcursor]
  | cons first rest ih =>
      intro eligible cursor
      have hrest : ∀ made ∈ rest ++ call :: later, ∀ member ∈ network.members,
          isHealthy made.book made.now member = true :=
        fun made hmade => hhealthy made (List.mem_cons_of_mem first hmade)
      rw [List.cons_append, selections]
      rcases network.select_cases first with
        ⟨hempty, hselect⟩ | ⟨hsome, member, position, hnext, hselect⟩
      · have hcursor : cursor = cursorAfter network.cursor
            (rest.map fun made => (network.eligible made.candidates).length) := by
          simp [cursor, cursorAfter, hempty]
        rw [hselect, hcursor]
        exact ih hrest
      · obtain ⟨hposition, _⟩ := position_of_isNext hnext fun other hother =>
          hhealthy first (by simp) other (mem_members_of_mem_eligible hother)
        have hcursor : cursor = cursorAfter (position + 1)
            (rest.map fun made => (network.eligible made.candidates).length) := by
          simp [cursor, cursorAfter, hsome, hposition]
        rw [hselect, hcursor]
        exact @ih { network with cursor := position + 1 } hrest

/-- The nodes that were given. -/
def nodesOf (outcomes : List (Outcome Member)) : List Member :=
  outcomes.filterMap Except.toOption

theorem nodesOf_map_ok (nodes : List Member) : nodesOf (nodes.map .ok) = nodes := by
  rw [nodesOf, List.filterMap_map]
  exact List.filterMap_some

/-- A call without eligible nodes changes nothing and gives no node. -/
theorem nodesOf_selections (network : Network χ) (calls : List Call) :
    nodesOf (network.selections calls) = nodesOf (network.selections (calls.filter fun call =>
      !(network.eligible call.candidates).isEmpty)) := by
  induction calls generalizing network with
  | nil => rfl
  | cons call rest ih =>
      rw [selections]
      rcases network.select_cases call with ⟨hempty, hselect⟩ | ⟨hsome, _, position, _, hselect⟩
      · rw [hselect, List.filter_cons_of_neg (by simp [hempty])]
        exact ih network
      · rw [List.filter_cons_of_pos (by simpa using hsome), selections, hselect]
        exact congrArg (_ :: ·) (ih { network with cursor := position + 1 })

/-- Calls for the same nodes, of which none is benched, give each once if as many give one as there
are nodes. -/
theorem nodesOf_selections_perm {nodes : List Member} {window : List Call}
    (hhealthy : ∀ call ∈ window, ∀ member ∈ nodes, isHealthy call.book call.now member = true)
    (hsame : ∀ call ∈ window, network.eligible call.candidates = nodes ∨
      network.eligible call.candidates = [])
    (hcount : window.countP (fun call => !(network.eligible call.candidates).isEmpty) =
      nodes.length) :
    (nodesOf (network.selections window)).Perm nodes := by
  rw [nodesOf_selections]
  rw [List.countP_eq_length_filter] at hcount
  generalize hlive : window.filter (fun call => !(network.eligible call.candidates).isEmpty) = live
    at hcount
  cases nodes with
  | nil => rw [List.length_eq_zero_iff.mp hcount]; exact List.Perm.refl _
  | cons first rest =>
      have hround : network.selections live =
          (turns network (first :: rest) fun _ => true).map .ok := by
        refine selections_round ?_ ?_ ⟨first, List.mem_cons_self, rfl⟩ ?_
        · intro call hcall
          rw [← hlive] at hcall
          obtain ⟨hwindow, hsome⟩ := List.mem_filter.mp hcall
          exact (hsame call hwindow).resolve_right (by simpa using hsome)
        · intro call hcall
          rw [← hlive] at hcall
          exact hhealthy call (List.mem_filter.mp hcall).1
        · rw [hcount, (turns_perm network (first :: rest) _).length_eq, List.filter_true]
      rw [hround, nodesOf_map_ok]
      simpa using turns_perm network (first :: rest) fun _ => true

/-- All calls share one cursor. Among nodes of which none is benched, what a call gives depends on
the numbers of nodes that were eligible in the calls before. As many calls in a row for the same
nodes as there are of them, those without any eligible node aside, give each of these nodes once. -/
theorem selections_share_cursor (network : Network χ) (calls : List Call)
    (hhealthy : ∀ call ∈ calls, ∀ member ∈ network.members,
      isHealthy call.book call.now member = true) :
    (∀ earlier call later, calls = earlier ++ call :: later →
      let eligible := network.eligible call.candidates
      let cursor := cursorAfter network.cursor
        (earlier.map fun made => (network.eligible made.candidates).length)
      (network.selections calls)[earlier.length]? = some
        (match eligible[cursor % eligible.length]? with
        | some member => .ok member
        | none => .error .noEligibleNodes)) ∧
    ∀ candidates earlier window later, calls = earlier ++ window ++ later →
      (∀ call ∈ window, network.eligible call.candidates = network.eligible candidates ∨
        network.eligible call.candidates = []) →
      window.countP (fun call => !(network.eligible call.candidates).isEmpty) =
        (network.eligible candidates).length →
      (network.eligible candidates).Nodup ∧
        (nodesOf (((network.selections calls).drop earlier.length).take window.length)).Perm
          (network.eligible candidates) := by
  refine ⟨?_, ?_⟩
  · rintro earlier call later rfl
    exact getElem?_selections_of_healthy hhealthy
  · intro candidates earlier window later hcalls hsame hcount
    have hmembers := network.members_afterCalls earlier
    refine ⟨network.nodup_eligible candidates, ?_⟩
    rw [hcalls, selections_window]
    apply nodesOf_selections_perm
    · intro call hcall member hmember
      refine hhealthy call ?_ member (mem_members_of_mem_eligible hmember)
      rw [hcalls]
      exact List.mem_append_left later (List.mem_append_right earlier hcall)
    · intro call hcall
      rw [eligible_eq_of_members_eq hmembers]
      exact hsame call hcall
    · simpa only [eligible_eq_of_members_eq hmembers] using hcount

/-- A call with a list of accounts, before anything failed. -/
def callFor (numbers : List UInt64) : Call := ⟨.empty, numbers.map .ofNum, .epoch⟩

theorem selections_share_cursor_past_failure :
    let calls := [callFor [5], callFor [3, 4], callFor [9], callFor [4, 3]]
    (∀ call ∈ calls, ∀ member ∈ (trio 0).members, isHealthy call.book call.now member = true) ∧
      (nodesOf ((((trio 0).selections calls).drop 1).take 3)).Perm
        ((trio 0).eligible [.ofNum 3, .ofNum 4]) := by
  intro calls
  have hhealthy : ∀ call ∈ calls, ∀ member ∈ (trio 0).members,
      isHealthy call.book call.now member = true := by decide
  refine ⟨hhealthy, ?_⟩
  have hsame : ∀ call ∈ [callFor [3, 4], callFor [9], callFor [4, 3]],
      (trio 0).eligible call.candidates = (trio 0).eligible [.ofNum 3, .ofNum 4] ∨
        (trio 0).eligible call.candidates = [] := by
    simp only [List.forall_mem_cons, List.not_mem_nil]
    exact ⟨.inl rfl, .inr rfl, .inl rfl, nofun⟩
  exact ((selections_share_cursor (trio 0) calls hhealthy).2 [.ofNum 3, .ofNum 4] [callFor [5]]
    [callFor [3, 4], callFor [9], callFor [4, 3]] [] rfl hsame rfl).2

/-- What is given to the calls with one list, among calls with others. -/
def givenTo (network : Network χ) (calls : List Call) (candidates : List AccountId) :
    List (Outcome Member) :=
  ((calls.zip (network.selections calls)).filter (·.1.candidates == candidates)).map Prod.snd

/-- Calls for the first node in between keep the calls for both nodes at the second one. -/
theorem rotation_lost_between_lists :
    let calls := [callFor [3], callFor [3, 4], callFor [3], callFor [3, 4]]
    (∀ call ∈ calls, ∀ member ∈ (trio 0).members, isHealthy call.book call.now member = true) ∧
    ¬ ∀ candidates earlier window later,
      (trio 0).givenTo calls candidates = earlier ++ window ++ later →
      window.length = ((trio 0).eligible candidates).length →
      window.Perm (((trio 0).eligible candidates).map .ok) := by
  intro calls
  refine ⟨by decide, fun hrotates => ?_⟩
  have hpair := hrotates [.ofNum 3, .ofNum 4] [] ((trio 0).givenTo calls [.ofNum 3, .ofNum 4]) []
    (by simp) rfl
  have hnumbers := hpair.map fun outcome => outcome.toOption.map Member.number
  revert hnumbers
  decide

end LedgerClient.Network
