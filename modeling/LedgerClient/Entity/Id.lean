import LedgerClient.Text.Numeral
import LedgerClient.Text.Split

/-!
# Entity identifiers

Accounts and topics are named `shard.realm.num`. A name may carry the five
letters of a checksum, which is advice about the name and no part of it: two
identifiers are the same when their three numbers are.
-/

namespace LedgerClient

/-- The name of an account or a topic, with the checksum it was written with. -/
structure EntityId where
  shard : UInt64
  realm : UInt64
  num : UInt64
  /-- Advisory checksum, taken as it was written. -/
  checksum : Option String := none

namespace EntityId

instance : Inhabited EntityId := ⟨⟨0, 0, 0, none⟩⟩

/-- What the identifier names. -/
def key (id : EntityId) : UInt64 × UInt64 × UInt64 := (id.shard, id.realm, id.num)

/-- The identifier `0.0.num`. -/
def ofNum (num : UInt64) : EntityId := ⟨0, 0, num, none⟩

/-- The identifier without its checksum. -/
def bare (id : EntityId) : EntityId := { id with checksum := none }

/-- The identifier with `checksum` in place of its own. -/
def withChecksum (id : EntityId) (checksum : String) : EntityId :=
  { id with checksum := some checksum }

instance : BEq EntityId := ⟨fun a b => a.key == b.key⟩

instance : Hashable EntityId := ⟨fun id => hash id.key⟩

/-- Order by shard, realm and number. -/
def compare (a b : EntityId) : Ordering :=
  (Ord.compare a.shard b.shard).then ((Ord.compare a.realm b.realm).then (Ord.compare a.num b.num))

instance : Ord EntityId := ⟨compare⟩

theorem beq_iff {a b : EntityId} : (a == b) = true ↔ a.key = b.key := by
  show (a.key == b.key) = true ↔ _
  simp

instance : EquivBEq EntityId where
  rfl := beq_iff.2 rfl
  symm h := beq_iff.2 (beq_iff.1 h).symm
  trans h k := beq_iff.2 ((beq_iff.1 h).trans (beq_iff.1 k))

instance : LawfulHashable EntityId where
  hash_eq a b h := by
    show hash a.key = hash b.key
    rw [beq_iff.1 h]

/-- The three numbers with points between them. -/
def text (id : EntityId) : String :=
  toString id.shard.toNat ++ "." ++ toString id.realm.toNat ++ "." ++ toString id.num.toNat

instance : ToString EntityId := ⟨text⟩

/-- Five lower-case ASCII letters. -/
def isChecksumText (chars : List Char) : Bool :=
  chars.length == 5 && chars.all fun c => 'a' ≤ c && c ≤ 'z'

/-- Reads a run of digits below 2^64. -/
def part? (chars : List Char) : Option UInt64 :=
  (Numeral.below? UInt64.size chars).map UInt64.ofNat

/-- Reads three numbers with points between them. -/
def address? (chars : List Char) : Option EntityId :=
  match chars.splitOn '.' with
  | [shard, realm, num] => do
      return ⟨← part? shard, ← part? realm, ← part? num, none⟩
  | _ => none

/-- Reads `shard.realm.num`, with a checksum after a dash if there is a dash. -/
def ofChars? (chars : List Char) : Option EntityId :=
  match Text.splitFirst '-' chars with
  | none => address? chars
  | some (address, checksum) =>
      if isChecksumText checksum then
        (address? address).map (·.withChecksum (String.ofList checksum))
      else none

/-- The identifier a text names. -/
def ofText? (text : String) : Option EntityId := ofChars? text.toList

end EntityId

/-- Names an account. -/
abbrev AccountId := EntityId

/-- Names a topic. -/
abbrev TopicId := EntityId

end LedgerClient
