import LedgerClient.Proofs.Wire.Bare
import LedgerClient.Proofs.Wire.Canonical
import LedgerClient.Proofs.Wire.Messages
import Mathlib.Logic.Function.Iterate

/-!
# Receipts and records

Receipts hold receipts and records hold records, and reading them goes into one level after the
other. Each level takes octets before it goes into the next, so there are never more levels than
octets: whatever would be done below that many is not done. The bound that reading is given is
therefore no bound on what is read.
-/

namespace LedgerClient

open Wire
open Faithful (length_pos carries)

variable {α β : Type}

/-! ### Readers that go into each other -/

namespace Wire

/-- Two readers do the same with fewer than `count` octets, and leave no more than they find. -/
def Agree (count : Nat) (reader other : Reader α) : Prop :=
  ∀ bytes : Bytes, bytes.length < count → reader bytes = other bytes ∧
    ∀ value rest, other bytes = .ok (value, rest) → rest.length ≤ bytes.length

namespace Agree

theorem of_spells {reader : Reader α} {written : α → Bytes} (hspells : Spells reader written)
    (count : Nat) : Agree count reader reader := by
  intro bytes _
  refine ⟨rfl, fun value rest hread => ?_⟩
  rw [hspells hread, List.length_append]
  omega

theorem read [Encoded α] [Canonical α] (count : Nat) :
    Agree count (Wire.read (α := α)) Wire.read :=
  of_spells Canonical.spells count

theorem pure (count : Nat) (value : α) :
    Agree count (Pure.pure value : Reader α) (Pure.pure value) := by
  intro bytes _
  refine ⟨rfl, fun _ rest hread => ?_⟩
  cases hread
  exact Nat.le_refl _

theorem bind {count : Nat} {first first' : Reader α} {second second' : α → Reader β}
    (hfirst : Agree count first first') (hsecond : ∀ a, Agree count (second a) (second' a)) :
    Agree count (first >>= second) (first' >>= second') := by
  intro bytes hlength
  obtain ⟨hsame, hleaves⟩ := hfirst bytes hlength
  constructor
  · change (first bytes >>= fun taken => second taken.1 taken.2) =
      (first' bytes >>= fun taken => second' taken.1 taken.2)
    rw [hsame]
    cases hread : first' bytes with
    | error error => rfl
    | ok taken =>
        have hrest := hleaves taken.1 taken.2 hread
        exact (hsecond taken.1 taken.2 (by omega)).1
  · intro b rest hread
    obtain ⟨a, middle, htaken, hbehind⟩ := bind_eq_ok hread
    have hmiddle := hleaves a middle htaken
    have hrest := (hsecond a middle (by omega)).2 b rest hbehind
    omega

/-- Behind a value there are fewer octets than in front of it. -/
theorem behind [Encoded α] [Faithful α] [Canonical α] {count : Nat} {second second' : α → Reader β}
    (hsecond : ∀ a, Agree count (second a) (second' a)) :
    Agree (count + 1) (Wire.read >>= second) (Wire.read >>= second') := by
  intro bytes hlength
  have hshorter : ∀ (a : α) middle, Wire.read bytes = .ok (a, middle) → middle.length < count := by
    intro a middle htaken
    have hpos := length_pos a
    rw [Canonical.spells htaken, List.length_append] at hlength
    omega
  constructor
  · change (Wire.read bytes >>= fun taken => second taken.1 taken.2) =
      (Wire.read bytes >>= fun taken => second' taken.1 taken.2)
    cases hread : Wire.read (α := α) bytes with
    | error error => rfl
    | ok taken => exact (hsecond taken.1 taken.2 (hshorter taken.1 taken.2 hread)).1
  · intro b rest hread
    obtain ⟨a, middle, htaken, hbehind⟩ := bind_eq_ok hread
    have hmiddle := length_rest_le htaken
    have hrest := (hsecond a middle (hshorter a middle htaken)).2 b rest hbehind
    omega

theorem readMany {item other : Reader α} {count : Nat} (hitem : Agree count item other) (n : Nat) :
    Agree count (Wire.readMany item n) (Wire.readMany other n) := by
  induction n with
  | zero => exact pure count []
  | succ n ih => exact hitem.bind fun _ => ih.bind fun _ => pure count _

theorem readList {item other : Reader α} {count : Nat} (hitem : Agree count item other) :
    Agree count (Wire.readList item) (Wire.readList other) :=
  (of_spells (spells_readNat 8) count).bind hitem.readMany

end Agree

/-- One level of reading takes an octet before it goes into the next. -/
def Deepens (level : Reader α → Reader α) : Prop :=
  ∀ {count : Nat} {inner other : Reader α}, Agree count inner other →
    Agree (count + 1) (level inner) (level other)

theorem Deepens.agree_iterate {level : Reader α → Reader α} (hlevel : Deepens level)
    (below other : Reader α) (count : Nat) :
    Agree count (level^[count] below) (level^[count] other) := by
  induction count with
  | zero =>
      intro bytes hlength
      exact absurd hlength (Nat.not_lt_zero _)
  | succ count ih =>
      rw [Function.iterate_succ_apply', Function.iterate_succ_apply']
      exact hlevel ih

/-- Readers of which each goes one level deeper than the one before are iterates of that level. -/
theorem eq_iterate_of_levels {level : Reader α → Reader α} {readers : Nat → Reader α}
    (hlevels : ∀ depth, readers (depth + 1) = level (readers depth)) (depth : Nat) :
    readers depth = level^[depth] (readers 0) := by
  induction depth with
  | zero => rfl
  | succ depth ih => rw [hlevels, ih, Function.iterate_succ_apply']

/-- What stands below as many levels as there are octets is not reached. -/
theorem Deepens.iterate_eq {level : Reader α → Reader α} (hlevel : Deepens level)
    {bytes : Bytes} {depth : Nat} (hdepth : bytes.length < depth) (below other : Reader α) :
    level^[depth] below bytes = level^[bytes.length + 1] other bytes := by
  obtain ⟨more, rfl⟩ : ∃ more, depth = bytes.length + 1 + more := Nat.exists_eq_add_of_le hdepth
  rw [Function.iterate_add_apply]
  exact (hlevel.agree_iterate (level^[more] below) other _ bytes (Nat.lt_succ_self _)).1

/-- Reading level after level without an end is reading as many levels as there are octets. -/
theorem Deepens.eq_of_iterate {level : Reader α → Reader α} (hlevel : Deepens level)
    (below : Reader α) (bytes : Bytes) :
    level (fun inner => level^[inner.length + 1] below inner) bytes =
      level^[bytes.length + 1] below bytes := by
  have hagree : Agree bytes.length (fun inner => level^[inner.length + 1] below inner)
      (level^[bytes.length] below) := by
    intro inner hshorter
    refine ⟨(hlevel.iterate_eq hshorter below below).symm, ?_⟩
    exact (hlevel.agree_iterate below below bytes.length inner hshorter).2
  rw [Function.iterate_succ_apply']
  exact (hlevel hagree bytes (Nat.lt_succ_self _)).1

/-- Reading level after level comes to an end: a reader goes into itself without a bound, and yet
nothing that would be done below as many levels as there are octets is done. -/
structure Grounded (level : Reader α → Reader α) (reader : Reader α) : Prop where
  fixed : level reader = reader
  reached : ∀ {bytes : Bytes} {depth : Nat}, bytes.length < depth → ∀ below : Reader α,
    level^[depth] below bytes = reader bytes

theorem Deepens.grounded {level : Reader α → Reader α} (hlevel : Deepens level) (below : Reader α) :
    Grounded level fun bytes => level^[bytes.length + 1] below bytes where
  fixed := funext (hlevel.eq_of_iterate below)
  reached hdepth other := hlevel.iterate_eq hdepth other below

/-- A list is read back where its items are, all of them being no longer than the list. -/
theorem takes_readList_of_pos {item : Reader β} {written : α → Bytes} {value : α → β}
    {items : List α} (hpos : ∀ a, 0 < (written a).length)
    (hfits : (items.flatMap written).length < 2 ^ 64)
    (hitem : ∀ a, (written a).length ≤ (items.flatMap written).length →
      Takes item (written a) (value a)) :
    Takes (readList item) (writeLength items.length ++ items.flatMap written)
      (items.map value) := by
  have hcount := Nat.lt_of_le_of_lt (length_le_flatMap_of_pos hpos items) hfits
  exact takes_readList hcount fun a hmem => hitem a (length_le_flatMap_of_mem hmem)

/-- Values that hold others of their kind, read and written one level after the other. -/
structure Nested (level : Reader α → Reader α) (written : α → Bytes) (value : α → α) : Prop where
  deepens : Deepens level
  spells : ∀ {inner : Reader α}, Spells inner written → Spells (level inner) written
  length_pos : ∀ a, 0 < (written a).length
  takes : ∀ {inner : Reader α} {a}, (written a).length < 2 ^ 64 →
    (∀ b, (written b).length < (written a).length → Takes inner (written b) (value b)) →
    Takes (level inner) (written a) (value a)

namespace Nested

variable {level : Reader α → Reader α} {written : α → Bytes} {value : α → α}

theorem spells_iterate (hnested : Nested level written value) (fault : CodecError) (depth : Nat) :
    Spells (level^[depth] (throw fault)) written := by
  induction depth with
  | zero =>
      intro bytes a rest hread
      cases hread
  | succ depth ih =>
      rw [Function.iterate_succ_apply']
      exact hnested.spells ih

/-- A value is read where there are as many levels as it has octets. -/
theorem takes_iterate (hnested : Nested level written value) (below : Reader α) {depth : Nat}
    {a : α}
    (hdepth : (written a).length ≤ depth) (hlength : (written a).length < 2 ^ 64) :
    Takes (level^[depth] below) (written a) (value a) := by
  induction depth generalizing a with
  | zero => exact absurd (hnested.length_pos a) (Nat.not_lt.mpr hdepth)
  | succ depth ih =>
      rw [Function.iterate_succ_apply']
      exact hnested.takes hlength fun b hshorter => ih (by omega) (by omega)

/-- A value is read by as many levels as there are octets at hand, and one more. -/
theorem carries (hnested : Nested level written value) (below : Reader α) (a : α) :
    Carries (fun bytes => level^[bytes.length + 1] below bytes) (written a) (value a) := by
  intro hlength
  constructor
  · intro rest
    refine (hnested.takes_iterate below ?_ hlength).whole rest
    rw [List.length_append]
    omega
  · intro front back hcut hback
    -- The levels for the front alone are too few for all of the value.
    have hfront : front.length < (written a).length := by
      have hpos := List.length_pos_iff.mpr hback
      rw [hcut, List.length_append]
      omega
    obtain ⟨error, herror⟩ :=
      (hnested.takes_iterate below (Nat.le_refl _) hlength).cut front back hcut hback
    exact ⟨error, (Deepens.iterate_eq hnested.deepens hfront below below).symm.trans herror⟩

end Nested

end Wire

/-! ### Receipts -/

namespace Receipt

/-- One level of a receipt, where the receipts in it are read by `inner`. -/
def level (inner : Reader Receipt) : Reader Receipt := do
  let status ← read
  let transactionId ← read
  let accountId ← read
  let topicId ← read
  let topicSequenceNumber ← read
  let children ← readList inner
  let duplicates ← readList inner
  return { status, transactionId, accountId, topicId, topicSequenceNumber, children, duplicates }

theorem readWithin_eq_iterate (depth : Nat) :
    readWithin depth = level^[depth] (throw .endOfInput) :=
  eq_iterate_of_levels (fun _ => rfl) depth

theorem read_eq_iterate :
    Wire.read (α := Receipt) = fun bytes => level^[bytes.length + 1] (throw .endOfInput) bytes := by
  funext bytes
  rw [← readWithin_eq_iterate]
  rfl

theorem writeAll_eq_flatMap (receipts : List Receipt) :
    writeAll receipts = receipts.flatMap write := by
  induction receipts with
  | nil => rfl
  | cons first rest ih => rw [writeAll, ih, List.flatMap_cons]

theorem deepens_level : Deepens level := by
  intro count inner other hinner
  refine Agree.behind fun status => ?_
  refine (Agree.read count).bind fun transactionId => ?_
  refine (Agree.read count).bind fun accountId => ?_
  refine (Agree.read count).bind fun topicId => ?_
  refine (Agree.read count).bind fun topicSequenceNumber => ?_
  refine hinner.readList.bind fun children => ?_
  refine hinner.readList.bind fun duplicates => ?_
  exact Agree.pure count _

theorem spells_level {inner : Reader Receipt} (hinner : Spells inner write) :
    Spells (level inner) write := by
  intro bytes outcome rest hread
  obtain ⟨status, _, rfl, htransaction⟩ := read_bind_eq_ok hread
  obtain ⟨transaction, _, rfl, haccount⟩ := read_bind_eq_ok htransaction
  obtain ⟨account, _, rfl, htopic⟩ := read_bind_eq_ok haccount
  obtain ⟨topic, _, rfl, hsequence⟩ := read_bind_eq_ok htopic
  obtain ⟨sequence, _, rfl, hchildren⟩ := read_bind_eq_ok hsequence
  obtain ⟨children, _, rfl, hduplicates⟩ := (spells_readList hinner).bind hchildren
  obtain ⟨duplicates, _, rfl, hpure⟩ := (spells_readList hinner).bind hduplicates
  cases hpure
  simp only [write, writeAll_eq_flatMap, List.append_assoc]

theorem length_write_pos (outcome : Receipt) : 0 < (write outcome).length := by
  cases outcome with
  | mk status =>
      have hstatus := length_pos status
      simp only [write, List.length_append]
      omega

theorem takes_level {inner : Reader Receipt} {outcome : Receipt}
    (hlength : (write outcome).length < 2 ^ 64)
    (hinner : ∀ other : Receipt, (write other).length < (write outcome).length →
      Takes inner (write other) other.bare) :
    Takes (level inner) (write outcome) outcome.bare := by
  cases outcome with
  | mk status transaction account topic sequence children duplicates =>
      have hstatus := length_pos status
      simp only [write, writeAll_eq_flatMap, List.length_append] at hlength hinner
      -- What is nested stands behind the status, so it is shorter.
      have hchildren : Takes (readList inner)
          (writeLength children.length ++ children.flatMap write) (children.map bare) :=
        takes_readList_of_pos length_write_pos (by omega) fun child hle => hinner child (by omega)
      have hduplicates : Takes (readList inner)
          (writeLength duplicates.length ++ duplicates.flatMap write) (duplicates.map bare) :=
        takes_readList_of_pos length_write_pos (by omega) fun other hle => hinner other (by omega)
      simp only [write, bare, bareAll_eq_map, writeAll_eq_flatMap, List.append_assoc]
      refine (carries status (by omega)).bind ?_
      refine (carries transaction (by omega)).bind ?_
      refine (carries account (by omega)).bind ?_
      refine (carries topic (by omega)).bind ?_
      refine (carries sequence (by omega)).bind ?_
      rw [← List.append_assoc (writeLength children.length)]
      exact hchildren.bind (hduplicates.bind_pure _)

theorem nested_level : Nested level write bare where
  deepens := deepens_level
  spells := spells_level
  length_pos := length_write_pos
  takes := takes_level

theorem grounded_level : Grounded level Wire.read := by
  rw [read_eq_iterate]
  exact Deepens.grounded deepens_level _

theorem spells_readWithin (depth : Nat) : Spells (readWithin depth) write := by
  rw [readWithin_eq_iterate]
  exact nested_level.spells_iterate _ depth

instance : Canonical Receipt where
  spells _ _ _ hread := spells_readWithin _ hread

instance : Faithful Receipt where
  carried := bare
  length_pos := length_write_pos
  carries outcome := by
    rw [read_eq_iterate]
    exact nested_level.carries _ outcome

end Receipt

/-! ### Records -/

namespace Record

/-- One level of a record, where the records in it are read by `inner`. -/
def level (inner : Reader Record) : Reader Record := do
  let receipt ← read
  let transactionHash ← read
  let consensusTimestamp ← read
  let memo ← read
  let transactionFee ← read
  let children ← readList inner
  let duplicates ← readList inner
  return { receipt, transactionHash, consensusTimestamp, memo, transactionFee, children,
           duplicates }

theorem readWithin_eq_iterate (depth : Nat) :
    readWithin depth = level^[depth] (throw .endOfInput) :=
  eq_iterate_of_levels (fun _ => rfl) depth

theorem read_eq_iterate :
    Wire.read (α := Record) = fun bytes => level^[bytes.length + 1] (throw .endOfInput) bytes := by
  funext bytes
  rw [← readWithin_eq_iterate]
  rfl

theorem writeAll_eq_flatMap (records : List Record) : writeAll records = records.flatMap write := by
  induction records with
  | nil => rfl
  | cons first rest ih => rw [writeAll, ih, List.flatMap_cons]

theorem deepens_level : Deepens level := by
  intro count inner other hinner
  refine Agree.behind fun outcome => ?_
  refine (Agree.read count).bind fun transactionHash => ?_
  refine (Agree.read count).bind fun consensusTimestamp => ?_
  refine (Agree.read count).bind fun memo => ?_
  refine (Agree.read count).bind fun transactionFee => ?_
  refine hinner.readList.bind fun children => ?_
  refine hinner.readList.bind fun duplicates => ?_
  exact Agree.pure count _

theorem spells_level {inner : Reader Record} (hinner : Spells inner write) :
    Spells (level inner) write := by
  intro bytes account rest hread
  obtain ⟨outcome, _, rfl, hhash⟩ := read_bind_eq_ok hread
  obtain ⟨hash, _, rfl, htimestamp⟩ := read_bind_eq_ok hhash
  obtain ⟨timestamp, _, rfl, hmemo⟩ := read_bind_eq_ok htimestamp
  obtain ⟨memo, _, rfl, hfee⟩ := read_bind_eq_ok hmemo
  obtain ⟨fee, _, rfl, hchildren⟩ := read_bind_eq_ok hfee
  obtain ⟨children, _, rfl, hduplicates⟩ := (spells_readList hinner).bind hchildren
  obtain ⟨duplicates, _, rfl, hpure⟩ := (spells_readList hinner).bind hduplicates
  cases hpure
  simp only [write, writeAll_eq_flatMap, List.append_assoc]

theorem length_write_pos (account : Record) : 0 < (write account).length := by
  cases account with
  | mk outcome =>
      have houtcome := length_pos outcome
      simp only [write, List.length_append]
      omega

theorem takes_level {inner : Reader Record} {account : Record}
    (hlength : (write account).length < 2 ^ 64)
    (hinner : ∀ other : Record, (write other).length < (write account).length →
      Takes inner (write other) other.bare) :
    Takes (level inner) (write account) account.bare := by
  cases account with
  | mk outcome hash timestamp memo fee children duplicates =>
      have houtcome := length_pos outcome
      simp only [write, writeAll_eq_flatMap, List.length_append] at hlength hinner
      -- What is nested stands behind the receipt, so it is shorter.
      have hchildren : Takes (readList inner)
          (writeLength children.length ++ children.flatMap write) (children.map bare) :=
        takes_readList_of_pos length_write_pos (by omega) fun child hle => hinner child (by omega)
      have hduplicates : Takes (readList inner)
          (writeLength duplicates.length ++ duplicates.flatMap write) (duplicates.map bare) :=
        takes_readList_of_pos length_write_pos (by omega) fun other hle => hinner other (by omega)
      have htimestamp := carries timestamp
      have hwhole : Faithful.carried timestamp = timestamp := by cases timestamp <;> rfl
      rw [hwhole] at htimestamp
      simp only [write, bare, bareAll_eq_map, writeAll_eq_flatMap, List.append_assoc]
      refine (carries outcome (by omega)).bind ?_
      refine (carries_bytes hash (by omega)).bind ?_
      refine (htimestamp (by omega)).bind ?_
      refine (carries memo (by omega)).bind ?_
      refine (carries fee (by omega)).bind ?_
      rw [← List.append_assoc (writeLength children.length)]
      exact hchildren.bind (hduplicates.bind_pure _)

theorem nested_level : Nested level write bare where
  deepens := deepens_level
  spells := spells_level
  length_pos := length_write_pos
  takes := takes_level

theorem grounded_level : Grounded level Wire.read := by
  rw [read_eq_iterate]
  exact Deepens.grounded deepens_level _

theorem spells_readWithin (depth : Nat) : Spells (readWithin depth) write := by
  rw [readWithin_eq_iterate]
  exact nested_level.spells_iterate _ depth

instance : Canonical Record where
  spells _ _ _ hread := spells_readWithin _ hread

instance : Faithful Record where
  carried := bare
  length_pos := length_write_pos
  carries account := by
    rw [read_eq_iterate]
    exact nested_level.carries _ account

end Record

end LedgerClient
