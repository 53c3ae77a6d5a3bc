import LedgerClient.Bytes.Hex

/-!
# Documents

Values are exchanged with tools as trees of numbers, texts, lists and named fields.
Byte strings are hexadecimal texts; an alternative is a word, or a single field
named for it; what is absent is null, and reading treats a missing field as null.
-/

namespace LedgerClient

/-- A tree of values. -/
inductive Document where
  | null
  | flag (value : Bool)
  /-- The number `mantissa / 10 ^ places`. -/
  | decimal (mantissa : Int) (places : Nat)
  | text (value : String)
  | list (items : List Document)
  | fields (entries : List (String × Document))
  deriving Inhabited

/-- Values with a document. -/
class ToDocument (α : Type) where
  document : α → Document

/-- Values that documents are read as. -/
class OfDocument (α : Type) where
  ofDocument? : Document → Option α

export ToDocument (document)
export OfDocument (ofDocument?)

namespace Document

/-- A whole number. -/
def number (n : Int) : Document := .decimal n 0

/-- A named part of a document. -/
def entry {α : Type} [ToDocument α] (name : String) (value : α) : String × Document :=
  (name, document value)

/-- An alternative that carries a value. -/
def variant {α : Type} [ToDocument α] (name : String) (value : α) : Document :=
  .fields [entry name value]

/-- The field of a name, null if there is none. -/
def field : Document → String → Document
  | .fields entries, name => (entries.lookup name).getD .null
  | _, _ => .null

/-- A field read as a value. -/
def take {α : Type} [OfDocument α] (d : Document) (name : String) : Option α :=
  ofDocument? (d.field name)

/-- The name of an alternative and what it carries. -/
def variant? : Document → Option (String × Document)
  | .text name => some (name, .null)
  | .fields [(name, value)] => some (name, value)
  | _ => none

/-- A whole number read. -/
def int? : Document → Option Int
  | .decimal n 0 => some n
  | _ => none

/-- A whole number from `low` up to, and without, `high`. -/
def bounded? (low high : Int) (d : Document) : Option Int :=
  d.int?.filter fun n => low ≤ n ∧ n < high

mutual

/-- How deep the lists and fields of a document nest. -/
def depth : Document → Nat
  | .list items => depthOfList items + 1
  | .fields entries => depthOfFields entries + 1
  | _ => 0

def depthOfList : List Document → Nat
  | [] => 0
  | first :: rest => max (depth first) (depthOfList rest)

def depthOfFields : List (String × Document) → Nat
  | [] => 0
  | (_, first) :: rest => max (depth first) (depthOfFields rest)

end

end Document

open Document

instance : ToDocument Document := ⟨id⟩
instance : OfDocument Document := ⟨some⟩
instance : ToDocument Unit := ⟨fun _ => .null⟩
instance : ToDocument Bool := ⟨.flag⟩
instance : OfDocument Bool := ⟨fun | .flag value => some value | .null => some false | _ => none⟩
instance : ToDocument String := ⟨.text⟩
instance : OfDocument String := ⟨fun | .text value => some value | _ => none⟩
instance : ToDocument Int := ⟨number⟩
instance : OfDocument Int := ⟨int?⟩
instance : ToDocument Nat := ⟨fun n => number n⟩
instance : OfDocument Nat := ⟨fun d => (d.int?.filter (0 ≤ ·)).map (·.toNat)⟩
instance : ToDocument UInt16 := ⟨fun n => number n.toNat⟩
instance : OfDocument UInt16 := ⟨fun d => (d.bounded? 0 UInt16.size).map fun n => .ofNat n.toNat⟩
instance : ToDocument UInt32 := ⟨fun n => number n.toNat⟩
instance : OfDocument UInt32 := ⟨fun d => (d.bounded? 0 UInt32.size).map fun n => .ofNat n.toNat⟩
instance : ToDocument UInt64 := ⟨fun n => number n.toNat⟩
instance : OfDocument UInt64 := ⟨fun d => (d.bounded? 0 UInt64.size).map fun n => .ofNat n.toNat⟩
instance : ToDocument Int32 := ⟨fun n => number n.toInt⟩
instance : OfDocument Int32 :=
  ⟨fun d => (d.bounded? Int32.minValue.toInt (Int32.maxValue.toInt + 1)).map .ofInt⟩
instance : ToDocument Int64 := ⟨fun n => number n.toInt⟩
instance : OfDocument Int64 :=
  ⟨fun d => (d.bounded? Int64.minValue.toInt (Int64.maxValue.toInt + 1)).map .ofInt⟩

instance {α : Type} [ToDocument α] : ToDocument (Option α) :=
  ⟨fun | none => .null | some value => document value⟩
instance {α : Type} [OfDocument α] : OfDocument (Option α) :=
  ⟨fun | .null => some none | d => (ofDocument? d).map some⟩
instance (priority := low) {α : Type} [ToDocument α] : ToDocument (List α) :=
  ⟨fun values => .list (values.map document)⟩
instance (priority := low) {α : Type} [OfDocument α] : OfDocument (List α) :=
  ⟨fun | .null => some [] | .list items => items.mapM ofDocument? | _ => none⟩
instance {α β : Type} [ToDocument α] [ToDocument β] : ToDocument (α × β) :=
  ⟨fun (a, b) => .list [document a, document b]⟩
instance {α β : Type} [OfDocument α] [OfDocument β] : OfDocument (α × β) :=
  ⟨fun | .list [a, b] => do return (← ofDocument? a, ← ofDocument? b) | _ => none⟩

instance : ToDocument Bytes := ⟨fun bytes => .text (Hex.encode bytes)⟩
instance : OfDocument Bytes := ⟨fun | .text hex => (Hex.decode hex).toOption | _ => none⟩

end LedgerClient
