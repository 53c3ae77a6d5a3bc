import LedgerClient.Proofs.Text.Utf8
import LedgerClient.Wire.Format

/-!
# One encoding for each value

A reader that succeeds has taken just the octets that are written for its value. So
nothing else is read as the value: no truth value, tag, number, length, count or text has
a second spelling, and a count that the octets cannot hold is refused.
-/

namespace LedgerClient.Wire

variable {α β : Type}

/-- What a reader takes off the front of a byte string is what is written for its value. -/
def Spells (reader : Reader α) (written : α → Bytes) : Prop :=
  ∀ ⦃bytes value rest⦄, reader bytes = .ok (value, rest) → bytes = written value ++ rest

theorem bind_eq_ok {first : Reader α} {second : α → Reader β} {bytes rest : Bytes} {b : β}
    (hread : (first >>= second) bytes = .ok (b, rest)) :
    ∃ a middle, first bytes = .ok (a, middle) ∧ second a middle = .ok (b, rest) := by
  change (first bytes >>= fun taken => second taken.1 taken.2) = _ at hread
  cases hfirst : first bytes with
  | error error =>
      rw [hfirst] at hread
      cases hread
  | ok taken =>
      rw [hfirst] at hread
      exact ⟨taken.1, taken.2, rfl, hread⟩

theorem map_eq_ok {reader : Reader α} {change : α → β} {bytes rest : Bytes} {b : β}
    (hread : (change <$> reader) bytes = .ok (b, rest)) :
    ∃ a, reader bytes = .ok (a, rest) ∧ change a = b := by
  rw [← bind_pure_comp] at hread
  obtain ⟨a, middle, hfirst, hpure⟩ := bind_eq_ok hread
  cases hpure
  exact ⟨a, hfirst, rfl⟩

namespace Spells

theorem bind {first : Reader α} {written : α → Bytes} {second : α → Reader β}
    {bytes rest : Bytes} {b : β} (hfirst : Spells first written)
    (hread : (first >>= second) bytes = .ok (b, rest)) :
    ∃ a middle, bytes = written a ++ middle ∧ second a middle = .ok (b, rest) := by
  obtain ⟨a, middle, htaken, hsecond⟩ := bind_eq_ok hread
  exact ⟨a, middle, hfirst htaken, hsecond⟩

theorem readMany {item : Reader α} {written : α → Bytes} (hitem : Spells item written)
    {count : Nat} {bytes rest : Bytes} {values : List α}
    (hread : Wire.readMany item count bytes = .ok (values, rest)) :
    values.length = count ∧ bytes = values.flatMap written ++ rest := by
  induction count generalizing bytes values with
  | zero =>
      cases hread
      exact ⟨rfl, rfl⟩
  | succ count ih =>
      obtain ⟨first, _, rfl, hbehind⟩ := hitem.bind hread
      obtain ⟨others, _, hothers, hpure⟩ := bind_eq_ok hbehind
      cases hpure
      obtain ⟨hcount, rfl⟩ := ih hothers
      rw [List.length_cons, hcount, List.flatMap_cons, List.append_assoc]
      exact ⟨rfl, rfl⟩

end Spells

/-! ### Octets, numbers and counts -/

theorem takeBytes_eq_ok {count : Nat} {bytes octets rest : Bytes}
    (hread : takeBytes count bytes = .ok (octets, rest)) :
    octets.length = count ∧ bytes = octets ++ rest := by
  unfold takeBytes at hread
  split at hread
  next hcount =>
    cases hread
    exact ⟨List.length_take_of_le hcount, (List.take_append_drop count bytes).symm⟩
  next => cases hread

theorem takeText_eq_ok {count : Nat} {bytes octets rest : Bytes}
    (hread : takeText count bytes = .ok (octets, rest)) :
    octets.length = count ∧ bytes = octets ++ rest := by
  unfold takeText at hread
  split at hread
  next hcount =>
    cases hread
    exact ⟨List.length_take_of_le hcount, (List.take_append_drop count bytes).symm⟩
  next => cases hread

theorem readNat_eq_ok {count n : Nat} {bytes rest : Bytes}
    (hread : readNat count bytes = .ok (n, rest)) :
    n < Nat.pow 256 count ∧ bytes = Bytes.ofNatLE count n ++ rest := by
  obtain ⟨octets, _, htake, hpure⟩ := bind_eq_ok hread
  cases hpure
  obtain ⟨rfl, rfl⟩ := takeBytes_eq_ok htake
  rw [Bytes.ofNatLE_toNatLE]
  exact ⟨Bytes.toNatLE_lt octets, rfl⟩

theorem spells_readNat (count : Nat) : Spells (readNat count) (Bytes.ofNatLE count) := by
  intro bytes n rest hread
  exact (readNat_eq_ok hread).2

/-- However large a count, no more items are looked for than there are octets. -/
theorem readMany_eq_of_length_lt {item : Reader α} {written : α → Bytes}
    (hspells : Spells item written) (hpos : ∀ a, 0 < (written a).length) {bytes : Bytes}
    {count other : Nat} (hcount : bytes.length < count) (hother : bytes.length < other) :
    readMany item count bytes = readMany item other bytes := by
  induction count generalizing other bytes with
  | zero => exact absurd hcount (Nat.not_lt_zero _)
  | succ count ih =>
      cases other with
      | zero => exact absurd hother (Nat.not_lt_zero _)
      | succ other =>
          change (item bytes >>= fun taken => (readMany item count >>= fun others =>
              pure (taken.1 :: others)) taken.2) =
            (item bytes >>= fun taken => (readMany item other >>= fun others =>
              pure (taken.1 :: others)) taken.2)
          cases hitem : item bytes with
          | error error => rfl
          | ok taken =>
              have hfirst := hpos taken.1
              have hlength := congrArg List.length (hspells hitem)
              rw [List.length_append] at hlength
              have hothers : readMany item count taken.2 = readMany item other taken.2 :=
                ih (by omega) (by omega)
              change (readMany item count taken.2 >>= _) = (readMany item other taken.2 >>= _)
              rw [hothers]

theorem spells_readList {item : Reader α} {written : α → Bytes} (hitem : Spells item written) :
    Spells (readList item) fun values => writeLength values.length ++ values.flatMap written := by
  intro bytes values rest hread
  obtain ⟨count, _, rfl, hvalues⟩ := (spells_readNat 8).bind hread
  obtain ⟨rfl, rfl⟩ := hitem.readMany hvalues
  exact (List.append_assoc _ _ _).symm

/-- An alternative is read after its number, which is one of those there are. -/
theorem readVariant_bind_eq_ok {count : Nat} {second : Nat → Reader β} {bytes rest : Bytes} {b : β}
    (hread : (readVariant count >>= second) bytes = .ok (b, rest)) :
    ∃ index < count, ∃ middle, bytes = writeVariant index ++ middle ∧
      second index middle = .ok (b, rest) := by
  obtain ⟨index, middle, hvariant, hsecond⟩ := bind_eq_ok hread
  obtain ⟨number, _, rfl, hpure⟩ := (spells_readNat 4).bind hvariant
  split at hpure
  next hindex =>
    cases hpure
    exact ⟨index, hindex, middle, rfl, hsecond⟩
  next => cases hpure

/-! ### Values -/

/-- Values of which each is read from its encoding only. -/
class Canonical (α : Type) [Encoded α] : Prop where
  spells : Spells (read (α := α)) write

theorem read_bind_eq_ok [Encoded α] [Canonical α] {second : α → Reader β} {bytes rest : Bytes}
    {b : β} (hread : (read >>= second) bytes = .ok (b, rest)) :
    ∃ a middle, bytes = write a ++ middle ∧ second a middle = .ok (b, rest) :=
  Canonical.spells.bind hread

theorem length_rest_le [Encoded α] [Canonical α] {bytes rest : Bytes} {value : α}
    (hread : read bytes = .ok (value, rest)) : rest.length ≤ bytes.length := by
  rw [Canonical.spells hread, List.length_append]
  omega

instance : Canonical UInt8 where
  spells := by
    intro bytes n rest hread
    cases bytes with
    | nil => cases hread
    | cons first others =>
        cases hread
        rfl

instance : Canonical UInt16 where
  spells := by
    intro bytes n rest hread
    obtain ⟨number, hnumber, rfl⟩ := map_eq_ok hread
    obtain ⟨hfits, rfl⟩ := readNat_eq_ok hnumber
    change _ = Bytes.ofNatLE 2 (UInt16.ofNat number).toNat ++ rest
    rw [UInt16.toNat_ofNat_of_lt' hfits]

instance : Canonical UInt32 where
  spells := by
    intro bytes n rest hread
    obtain ⟨number, hnumber, rfl⟩ := map_eq_ok hread
    obtain ⟨hfits, rfl⟩ := readNat_eq_ok hnumber
    change _ = Bytes.ofNatLE 4 (UInt32.ofNat number).toNat ++ rest
    rw [UInt32.toNat_ofNat_of_lt' hfits]

instance : Canonical UInt64 where
  spells := by
    intro bytes n rest hread
    obtain ⟨number, hnumber, rfl⟩ := map_eq_ok hread
    obtain ⟨hfits, rfl⟩ := readNat_eq_ok hnumber
    change _ = Bytes.ofNatLE 8 (UInt64.ofNat number).toNat ++ rest
    rw [UInt64.toNat_ofNat_of_lt' hfits]

instance : Canonical Int32 where
  spells := by
    intro bytes n rest hread
    obtain ⟨word, hword, rfl⟩ := map_eq_ok hread
    rw [Canonical.spells hword]
    rfl

instance : Canonical Int64 where
  spells := by
    intro bytes n rest hread
    obtain ⟨word, hword, rfl⟩ := map_eq_ok hread
    rw [Canonical.spells hword]
    rfl

instance : Canonical Bool where
  spells := by
    intro bytes b rest hread
    obtain ⟨tag, _, rfl, htag⟩ := read_bind_eq_ok hread
    split at htag
    next hzero =>
      cases htag
      rw [hzero]
      rfl
    next =>
      split at htag
      next hone =>
        cases htag
        rw [hone]
        rfl
      next => cases htag

instance [Encoded α] [Canonical α] : Canonical (Option α) where
  spells := by
    intro bytes value rest hread
    obtain ⟨tag, _, rfl, htag⟩ := read_bind_eq_ok hread
    split at htag
    next hzero =>
      cases htag
      rw [hzero]
      rfl
    next =>
      split at htag
      next hone =>
        obtain ⟨inner, hinner, rfl⟩ := map_eq_ok htag
        rw [hone, Canonical.spells hinner]
        rfl
      next => cases htag

instance [Encoded α] [Canonical α] : Canonical (List α) where
  spells := spells_readList Canonical.spells

instance : Canonical String where
  spells := by
    intro bytes text rest hread
    obtain ⟨count, _, rfl, hoctets⟩ := (spells_readNat 8).bind hread
    obtain ⟨octets, _, htake, htext⟩ := bind_eq_ok hoctets
    obtain ⟨rfl, rfl⟩ := takeText_eq_ok htake
    cases hdecode : Utf8.decode octets with
    | error fault =>
        rw [hdecode] at htext
        cases htext
    | ok decoded =>
        rw [hdecode] at htext
        cases htext
        rw [← Utf8.encode_of_decode hdecode]
        exact (List.append_assoc _ _ _).symm

end LedgerClient.Wire
