import LedgerClient.Proofs.Text.Utf8
import LedgerClient.Wire.Format
import Mathlib.Algebra.Group.Nat.Defs

/-!
# Reading back what was written

A reader that takes its value off the front of a byte string takes exactly the
octets that were written for it, whatever follows them, and fails where they are
cut short. Lengths and counts have eight octets, so this is said of encodings of
less than 2^64 octets.
-/

namespace LedgerClient.Wire

variable {α β : Type}

/-- A reader takes octets off the front of a byte string for a value, and fails where they are cut
short. -/
structure Takes (reader : Reader α) (octets : Bytes) (value : α) : Prop where
  whole : ∀ rest, reader (octets ++ rest) = .ok (value, rest)
  cut : ∀ front back, octets = front ++ back → back ≠ [] → ∃ error, reader front = .error error

namespace Takes

theorem pure (value : α) : Takes (Pure.pure value) [] value where
  whole _ := rfl
  cut _ _ hcut hback := absurd (List.append_eq_nil_iff.mp hcut.symm).2 hback

theorem bind {first : Reader α} {second : α → Reader β} {front back : Bytes} {a : α} {b : β}
    (hfirst : Takes first front a) (hsecond : Takes (second a) back b) :
    Takes (first >>= second) (front ++ back) b where
  whole rest := by
    show (first (front ++ back ++ rest) >>= fun taken => second taken.1 taken.2) = _
    rw [List.append_assoc, hfirst.whole]
    exact hsecond.whole rest
  cut start rest hcut hrest := by
    show ∃ error, (first start >>= fun taken => second taken.1 taken.2) = .error error
    rcases List.append_eq_append_iff.mp hcut with ⟨middle, rfl, hback⟩ | ⟨middle, hfront, rfl⟩
    · -- The cut is behind the first value.
      obtain ⟨error, herror⟩ := hsecond.cut middle rest hback hrest
      exact ⟨error, by rw [hfirst.whole]; exact herror⟩
    · -- It is within the first value, or just between the two.
      by_cases hmiddle : middle = []
      · subst hmiddle
        obtain ⟨error, herror⟩ := hsecond.cut [] back rfl hrest
        rw [List.append_nil] at hfront
        have hwhole := hfirst.whole []
        rw [List.append_nil, hfront] at hwhole
        exact ⟨error, by rw [hwhole]; exact herror⟩
      · obtain ⟨error, herror⟩ := hfirst.cut start middle hfront hmiddle
        exact ⟨error, by rw [herror]; rfl⟩

theorem bind_nil {first : Reader α} {second : α → Reader β} {front : Bytes} {a : α} {b : β}
    (hfirst : Takes first front a) (hsecond : Takes (second a) [] b) :
    Takes (first >>= second) front b := by
  have hbind := hfirst.bind hsecond
  rwa [List.append_nil] at hbind

/-- A value made of one that is taken is taken. -/
theorem bind_pure {reader : Reader α} {octets : Bytes} {a : α} (htakes : Takes reader octets a)
    (change : α → β) : Takes (reader >>= fun value => Pure.pure (change value)) octets (change a) :=
  htakes.bind_nil (.pure (change a))

theorem map {reader : Reader α} {octets : Bytes} {a : α} (htakes : Takes reader octets a)
    (change : α → β) : Takes (change <$> reader) octets (change a) := by
  rw [← bind_pure_comp]
  exact htakes.bind_pure change

end Takes

/-! ### Octets, numbers and counts -/

theorem takes_takeBytes (octets : Bytes) : Takes (takeBytes octets.length) octets octets where
  whole rest := by simp [takeBytes]
  cut front back hcut hback := by
    have hlength := List.length_pos_iff.mpr hback
    refine ⟨.endOfInput, if_neg ?_⟩
    rw [hcut, List.length_append]
    omega

theorem takes_readNat (count : Nat) {n : Nat} (hfits : n < Nat.pow 256 count) :
    Takes (readNat count) (Bytes.ofNatLE count n) n := by
  have htake := takes_takeBytes (Bytes.ofNatLE count n)
  rw [Bytes.length_ofNatLE] at htake
  have hread := htake.bind_pure Bytes.toNatLE
  rwa [Bytes.toNatLE_ofNatLE count n hfits] at hread

theorem takes_readVariant {count index : Nat} (hindex : index < count) (hcount : count ≤ 2 ^ 32) :
    Takes (readVariant count) (writeVariant index) index := by
  have hfits : index < Nat.pow 256 4 := Nat.lt_of_lt_of_le hindex hcount
  exact (takes_readNat 4 hfits).bind_nil (by rw [if_pos hindex]; exact .pure index)

theorem takes_takeText (octets : Bytes) : Takes (takeText octets.length) octets octets where
  whole rest := by simp [takeText]
  cut front back hcut hback := by
    have hlength := List.length_pos_iff.mpr hback
    refine ⟨.endOfText, if_neg ?_⟩
    rw [hcut, List.length_append]
    omega

theorem takes_readMany {item : Reader α} {write : β → Bytes} {value : β → α} {items : List β}
    (hitems : ∀ b ∈ items, Takes item (write b) (value b)) :
    Takes (readMany item items.length) (items.flatMap write) (items.map value) := by
  induction items with
  | nil => exact .pure []
  | cons first rest ih =>
      have hrest := ih fun b hb => hitems b (List.mem_cons_of_mem first hb)
      exact (hitems first List.mem_cons_self).bind (hrest.bind_pure (value first :: ·))

theorem takes_readList {item : Reader α} {write : β → Bytes} {value : β → α} {items : List β}
    (hcount : items.length < 2 ^ 64) (hitems : ∀ b ∈ items, Takes item (write b) (value b)) :
    Takes (readList item) (writeLength items.length ++ items.flatMap write) (items.map value) :=
  (takes_readNat 8 hcount).bind (takes_readMany hitems)

/-! ### Values -/

/-- A reader takes octets for a value, provided that they are few enough for lengths and counts. -/
def Carries (reader : Reader α) (octets : Bytes) (value : α) : Prop :=
  octets.length < 2 ^ 64 → Takes reader octets value

namespace Carries

theorem bind {first : Reader α} {second : α → Reader β} {front back : Bytes} {a : α} {b : β}
    (hfirst : Carries first front a) (hsecond : Carries (second a) back b) :
    Carries (first >>= second) (front ++ back) b := by
  intro hlength
  rw [List.length_append] at hlength
  exact (hfirst (by omega)).bind (hsecond (by omega))

theorem bind_pure {reader : Reader α} {octets : Bytes} {a : α} (hcarries : Carries reader octets a)
    (change : α → β) : Carries (reader >>= fun value => Pure.pure (change value)) octets (change a) :=
  fun hlength => (hcarries hlength).bind_pure change

theorem map {reader : Reader α} {octets : Bytes} {a : α} (hcarries : Carries reader octets a)
    (change : α → β) : Carries (change <$> reader) octets (change a) :=
  fun hlength => (hcarries hlength).map change

end Carries

theorem length_append_pos {front : Bytes} (hfront : 0 < front.length) (back : Bytes) :
    0 < (front ++ back).length := by
  rw [List.length_append]
  omega

/-- Values that are read back from their encodings, as far as the wire carries them: all but the
checksums of identifiers. -/
class Faithful (α : Type) [Encoded α] where
  carried : α → α
  length_pos : ∀ value : α, 0 < (write value).length
  carries : ∀ value : α, Carries read (write value) (carried value)

export Faithful (carried)

/-- What the wire carries of a value is decoded from its encoding, whatever follows it. -/
theorem decode_encode [Encoded α] [Faithful α] (value : α)
    (hlength : (encode value).length < 2 ^ 64) (rest : Bytes) :
    decode α (encode value ++ rest) = .ok (carried value) := by
  unfold decode
  rw [encode, (Faithful.carries value hlength).whole]
  rfl

instance : Faithful UInt8 where
  carried := id
  length_pos _ := Nat.zero_lt_one
  carries n _ := ⟨fun _ => rfl, by
    intro front back hcut hback
    cases front with
    | nil => exact ⟨.endOfInput, rfl⟩
    | cons first rest =>
        have hlength : [n].length = (first :: rest ++ back).length := congrArg List.length hcut
        have hpos := List.length_pos_iff.mpr hback
        simp only [List.length_append, List.length_cons, List.length_nil] at hlength
        omega⟩

instance : Faithful UInt16 where
  carried := id
  length_pos n := by simp [write]
  carries n _ := by
    have hnumber := (takes_readNat 2 n.toNat_lt).map UInt16.ofNat
    rwa [UInt16.ofNat_toNat] at hnumber

instance : Faithful UInt32 where
  carried := id
  length_pos n := by simp [write]
  carries n _ := by
    have hnumber := (takes_readNat 4 n.toNat_lt).map UInt32.ofNat
    rwa [UInt32.ofNat_toNat] at hnumber

instance : Faithful UInt64 where
  carried := id
  length_pos n := by simp [write]
  carries n _ := by
    have hnumber := (takes_readNat 8 n.toNat_lt).map UInt64.ofNat
    rwa [UInt64.ofNat_toNat] at hnumber

instance : Faithful Int32 where
  carried := id
  length_pos n := Faithful.length_pos n.toUInt32
  carries n := (Faithful.carries n.toUInt32).map UInt32.toInt32

instance : Faithful Int64 where
  carried := id
  length_pos n := Faithful.length_pos n.toUInt64
  carries n := (Faithful.carries n.toUInt64).map UInt64.toInt64

theorem takes_tag (tag : UInt8) : Takes read [tag] tag :=
  Faithful.carries tag (by decide : 1 < 2 ^ 64)

instance : Faithful Bool where
  carried := id
  length_pos _ := Nat.zero_lt_one
  carries b _ := by
    cases b with
    | false => exact (takes_tag 0).bind (.pure false)
    | true => exact (takes_tag 1).bind (.pure true)

instance [Encoded α] [Faithful α] : Faithful (Option α) where
  carried := Option.map carried
  length_pos value := by cases value <;> exact Nat.zero_lt_succ _
  carries value hlength := by
    cases value with
    | none => exact (takes_tag 0).bind (.pure none)
    | some value =>
        have hvalue : (write value).length < 2 ^ 64 := Nat.lt_of_succ_lt hlength
        exact (takes_tag 1).bind ((Faithful.carries value hvalue).map some)

theorem length_le_flatMap_of_pos {written : α → Bytes} (hpos : ∀ value, 0 < (written value).length)
    (values : List α) : values.length ≤ (values.flatMap written).length := by
  induction values with
  | nil => exact Nat.le_refl 0
  | cons first rest ih =>
      have hfirst := hpos first
      simp only [List.flatMap_cons, List.length_append, List.length_cons]
      omega

theorem length_le_flatMap [Encoded α] [Faithful α] (values : List α) :
    values.length ≤ (values.flatMap write).length :=
  length_le_flatMap_of_pos Faithful.length_pos values

theorem length_le_flatMap_of_mem {written : α → Bytes} {values : List α} {value : α}
    (hmem : value ∈ values) : (written value).length ≤ (values.flatMap written).length := by
  obtain ⟨before, after, rfl⟩ := List.append_of_mem hmem
  simp only [List.flatMap_append, List.flatMap_cons, List.length_append]
  omega

theorem length_writeLength (length : Nat) : (writeLength length).length = 8 :=
  Bytes.length_ofNatLE 8 length

theorem length_writeVariant (index : Nat) : (writeVariant index).length = 4 :=
  Bytes.length_ofNatLE 4 index

instance [Encoded α] [Faithful α] : Faithful (List α) where
  carried := List.map carried
  length_pos values := length_append_pos (by rw [length_writeLength]; decide) _
  carries values hlength := by
    have hitems : (values.flatMap write).length < 2 ^ 64 := by
      refine Nat.lt_of_le_of_lt ?_ hlength
      show _ ≤ (writeLength values.length ++ values.flatMap write).length
      rw [List.length_append]
      omega
    -- Every item has an octet, so the count fits where the octets do.
    have hcount := Nat.lt_of_le_of_lt (length_le_flatMap values) hitems
    exact takes_readList hcount fun value hmem =>
      Faithful.carries value (Nat.lt_of_le_of_lt (length_le_flatMap_of_mem hmem) hitems)

instance : Faithful String where
  carried := id
  length_pos text := length_append_pos (by rw [length_writeLength]; decide) _
  carries text hlength := by
    have hoctets : (Utf8.encode text).length < 2 ^ 64 := by
      refine Nat.lt_of_le_of_lt ?_ hlength
      show _ ≤ (writeLength (Utf8.encode text).length ++ Utf8.encode text).length
      rw [List.length_append]
      omega
    exact (takes_readNat 8 hoctets).bind ((takes_takeText (Utf8.encode text)).bind_nil
      (by rw [Utf8.decode_encode]; exact .pure text))

/-- An alternative is taken after its number. -/
theorem carries_variant {count index : Nat} (hindex : index < count) (hcount : count ≤ 2 ^ 32)
    {rest : Nat → Reader α} {octets : Bytes} {value : α}
    (hrest : Carries (rest index) octets value) :
    Carries (readVariant count >>= rest) (writeVariant index ++ octets) value := by
  have hvariant : Carries (readVariant count) (writeVariant index) index :=
    fun _ => takes_readVariant hindex hcount
  exact hvariant.bind hrest

end LedgerClient.Wire
