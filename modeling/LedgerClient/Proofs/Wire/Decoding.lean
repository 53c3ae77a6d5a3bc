import LedgerClient.Error
import LedgerClient.Proofs.Wire.Nesting

/-!
# Decoding

A transaction body, a request or a response is decoded from its encoding, whatever stands
behind it, and from nothing else. A decoder ends on all octets: no deeper nesting and no
longer list is followed than the octets at hand could hold.
-/

namespace LedgerClient

open Wire
open Faithful (length_pos carries)

/-! ### Answers -/

namespace Wire

instance : Faithful AccountBalance where
  carried := AccountBalance.bare
  length_pos b := length_append_pos (length_pos b.accountId) _
  carries b := (carries b.accountId).bind ((carries b.balance).bind_pure _)

instance : Canonical AccountBalance where
  spells := by
    intro bytes holding rest hread
    obtain ⟨account, _, rfl, hbalance⟩ := read_bind_eq_ok hread
    obtain ⟨balance, _, rfl, hpure⟩ := read_bind_eq_ok hbalance
    cases hpure
    change _ = write account ++ write balance ++ rest
    simp only [List.append_assoc]

instance : Faithful ResponseBody where
  carried := ResponseBody.bare
  length_pos body := by
    cases body with
    | empty => exact length_writeVariant_pos 0
    | receipt => exact length_append_pos (length_writeVariant_pos 1) _
    | record => exact length_append_pos (length_writeVariant_pos 2) _
    | accountBalance => exact length_append_pos (length_writeVariant_pos 3) _
    | external => exact length_append_pos (length_writeVariant_pos 4) _
  carries body := by
    cases body with
    | empty => exact fun _ => (takes_readVariant (by decide) (by decide)).bind_nil (.pure _)
    | receipt outcome =>
        exact carries_variant (by decide) (by decide) ((carries outcome).bind_pure _)
    | record account =>
        exact carries_variant (by decide) (by decide) ((carries account).bind_pure _)
    | accountBalance holding =>
        exact carries_variant (by decide) (by decide) ((carries holding).bind_pure _)
    | external payload =>
        exact carries_variant (by decide) (by decide) ((carries_bytes payload).bind_pure _)

instance : Canonical ResponseBody where
  spells := by
    intro bytes body rest hread
    obtain ⟨index, hindex, _, rfl, hbody⟩ := readVariant_bind_eq_ok hread
    have hcases : index = 0 ∨ index = 1 ∨ index = 2 ∨ index = 3 ∨ index = 4 := by omega
    rcases hcases with rfl | rfl | rfl | rfl | rfl
    · cases hbody
      rfl
    · obtain ⟨outcome, _, rfl, hpure⟩ := read_bind_eq_ok hbody
      cases hpure
      exact (List.append_assoc _ _ _).symm
    · obtain ⟨account, _, rfl, hpure⟩ := read_bind_eq_ok hbody
      cases hpure
      exact (List.append_assoc _ _ _).symm
    · obtain ⟨holding, _, rfl, hpure⟩ := read_bind_eq_ok hbody
      cases hpure
      exact (List.append_assoc _ _ _).symm
    · obtain ⟨payload, _, rfl, hpure⟩ := read_bind_eq_ok hbody
      cases hpure
      exact (List.append_assoc _ _ _).symm

instance : Faithful Response where
  carried := Response.bare
  length_pos r := length_append_pos (length_append_pos (length_pos r.precheck) _) _
  carries r := by
    change Carries read (write r.precheck ++ write r.cost ++ write r.body) _
    rw [List.append_assoc]
    exact (carries r.precheck).bind ((carries r.cost).bind ((carries r.body).bind_pure _))

instance : Canonical Response where
  spells := by
    intro bytes response rest hread
    obtain ⟨precheck, _, rfl, hcost⟩ := read_bind_eq_ok hread
    obtain ⟨cost, _, rfl, hbody⟩ := read_bind_eq_ok hcost
    obtain ⟨body, _, rfl, hpure⟩ := read_bind_eq_ok hbody
    cases hpure
    change _ = write precheck ++ write cost ++ write body ++ rest
    simp only [List.append_assoc]

end Wire

/-! ### What is decoded -/

namespace Decoding

variable {α : Type} [Encoded α]

/-- Values are decoded, but for their checksums, from their encodings with anything behind them, and
not from an encoding that is cut short. Lengths and counts have eight octets. -/
def ReadsBack (α : Type) [Encoded α] (bare : α → α) : Prop :=
  ∀ value : α, (encode value).length < 2 ^ 64 →
    (∀ rest, decoded α (encode value ++ rest) = .ok (bare value)) ∧
    ∀ front, front <+: encode value → front ≠ encode value →
      ∃ fault, decoded α front = .error (.codec fault)

/-- Nothing but encodings with anything behind them is decoded. -/
structure ReadsEncodings (α : Type) [Encoded α] (bare : α → α) : Prop where
  encode_of_ok : ∀ bytes (value : α), decoded α bytes = .ok value → encode value <+: bytes
  eq_ok_iff : ∀ bytes (value : α), bytes.length < 2 ^ 64 →
    (decoded α bytes = .ok value ↔ bare value = value ∧ encode value <+: bytes)
  isOk_iff : ∀ bytes, bytes.length < 2 ^ 64 →
    ((∃ value, decoded α bytes = .ok value) ↔
      ∃ (value : α) (rest : Bytes), bytes = encode value ++ rest)
  codec_of_error : ∀ bytes error, decoded α bytes = .error error → ∃ fault, error = .codec fault

/-- A list is followed no further than the octets at hand, whatever the count in front of it. -/
def Heeds (item : Reader α) : Prop :=
  ∀ {bytes : Bytes} {count other : Nat}, bytes.length < count → bytes.length < other →
    readMany item count bytes = readMany item other bytes

/-- What may go on in a message comes to an end: nesting, and every kind of list. -/
structure Ends : Prop where
  receipts : Grounded Receipt.level read
  records : Grounded Record.level read
  octets : Heeds (read (α := UInt8))
  transfers : Heeds (read (α := AccountAmount))
  signatures : Heeds (read (α := SignaturePair))
  receiptLists : ∀ depth, Heeds (Receipt.readWithin depth)
  recordLists : ∀ depth, Heeds (Record.readWithin depth)

theorem decoded_eq_ok_iff {bytes : Bytes} {value : α} :
    decoded α bytes = .ok value ↔ ∃ rest, read bytes = .ok (value, rest) := by
  unfold decoded decode
  cases hread : read (α := α) bytes with
  | error fault =>
      constructor
      · intro hok
        cases hok
      · rintro ⟨rest, hrest⟩
        cases hrest
  | ok taken =>
      change (.ok taken.1 : Outcome α) = .ok value ↔ _
      simp [Prod.ext_iff]

theorem decoded_of_read_error {bytes : Bytes} {fault : CodecError}
    (hread : read (α := α) bytes = .error fault) : decoded α bytes = .error (.codec fault) := by
  unfold decoded decode
  rw [hread]
  rfl

theorem codec_of_decoded_error {bytes : Bytes} {error : ClientError}
    (hdecoded : decoded α bytes = .error error) : ∃ fault, error = .codec fault := by
  cases hread : read (α := α) bytes with
  | error fault =>
      rw [decoded_of_read_error hread] at hdecoded
      cases hdecoded
      exact ⟨fault, rfl⟩
  | ok taken =>
      rw [decoded_eq_ok_iff.mpr ⟨taken.2, hread⟩] at hdecoded
      cases hdecoded

theorem decoded_encode [Faithful α] (value : α) (hlength : (encode value).length < 2 ^ 64)
    (rest : Bytes) : decoded α (encode value ++ rest) = .ok (carried value) := by
  unfold decoded
  rw [decode_encode value hlength rest]
  rfl

theorem encode_of_decoded [Canonical α] {bytes : Bytes} {value : α}
    (hdecoded : decoded α bytes = .ok value) : encode value <+: bytes := by
  obtain ⟨rest, hread⟩ := decoded_eq_ok_iff.mp hdecoded
  exact ⟨rest, (Canonical.spells hread).symm⟩

theorem readsBack [Faithful α] : ReadsBack α carried := by
  intro value hlength
  refine ⟨decoded_encode value hlength, ?_⟩
  intro front hfront hcut
  obtain ⟨back, hback⟩ := hfront
  have hmore : back ≠ [] := by
    rintro rfl
    rw [List.append_nil] at hback
    exact hcut hback
  obtain ⟨fault, hfault⟩ := (carries value hlength).cut front back hback.symm hmore
  exact ⟨fault, decoded_of_read_error hfault⟩

/-- Octets that start with the encoding of a value have room for no other value. -/
theorem decoded_of_encode [Faithful α] {bytes : Bytes} {value : α} (hlength : bytes.length < 2 ^ 64)
    (hencode : encode value <+: bytes) : decoded α bytes = .ok (carried value) := by
  have hshort := hencode.length_le
  obtain ⟨rest, rfl⟩ := hencode
  exact decoded_encode value (by omega) rest

theorem readsEncodings [Faithful α] [Canonical α] : ReadsEncodings α carried where
  encode_of_ok _ _ := encode_of_decoded
  eq_ok_iff bytes value hlength := by
    constructor
    · intro hdecoded
      have hencode := encode_of_decoded hdecoded
      rw [decoded_of_encode hlength hencode] at hdecoded
      exact ⟨Except.ok.inj hdecoded, hencode⟩
    · rintro ⟨hbare, hencode⟩
      rw [decoded_of_encode hlength hencode, hbare]
  isOk_iff bytes hlength := by
    constructor
    · rintro ⟨value, hdecoded⟩
      obtain ⟨rest, hrest⟩ := encode_of_decoded hdecoded
      exact ⟨value, rest, hrest.symm⟩
    · rintro ⟨value, rest, rfl⟩
      exact ⟨carried value, decoded_of_encode hlength (List.prefix_append _ _)⟩
  codec_of_error _ _ := codec_of_decoded_error

theorem heeds [Faithful α] [Canonical α] : Heeds (read (α := α)) :=
  readMany_eq_of_length_lt Canonical.spells length_pos

theorem ends : Ends where
  receipts := Receipt.grounded_level
  records := Record.grounded_level
  octets := heeds
  transfers := heeds
  signatures := heeds
  receiptLists depth :=
    readMany_eq_of_length_lt (Receipt.spells_readWithin depth) Receipt.length_write_pos
  recordLists depth :=
    readMany_eq_of_length_lt (Record.spells_readWithin depth) Record.length_write_pos

/-- Messages of all kinds are read back, however deep receipts and records nest in them. -/
theorem messages_readsBack :
    ReadsBack TransactionBody TransactionBody.bare ∧ ReadsBack Request Request.bare ∧
      ReadsBack Response Response.bare :=
  ⟨readsBack, readsBack, readsBack⟩

/-- A record with a child, whose receipt has a duplicate that names the account it created. -/
def nestedAnswer : Response where
  precheck := .ok
  cost := 3
  body := .record
    { receipt := .ofStatus .success
      transactionHash := [1, 2]
      consensusTimestamp := some ⟨5, 9⟩
      memo := "paid"
      transactionFee := 4
      children := [
        { receipt := { Receipt.ofStatus (.other (-2)) with
            duplicates :=
              [{ Receipt.ofStatus .busy with accountId := some ⟨0, 0, 7, some "abcde"⟩ }] }
          transactionHash := []
          consensusTimestamp := none
          memo := ""
          transactionFee := 0
          children := []
          duplicates := [] }]
      duplicates := [] }

theorem messages_readsBack_nested :
    (encode nestedAnswer).length < 2 ^ 64 ∧
      decoded Response (encode nestedAnswer ++ [1, 2]) = .ok nestedAnswer.bare ∧
      ∃ fault, decoded Response (encode nestedAnswer).dropLast = .error (.codec fault) := by
  have hfits : (encode nestedAnswer).length < 2 ^ 64 := by decide +kernel
  obtain ⟨hwhole, hcut⟩ := messages_readsBack.2.2 nestedAnswer hfits
  refine ⟨hfits, hwhole [1, 2], ?_⟩
  exact hcut _ (List.dropLast_prefix _) (by decide +kernel)

/-- Decoding ends on all octets, and messages are decoded from their encodings only. -/
theorem messages_readsEncodings :
    Ends ∧ ReadsEncodings TransactionBody TransactionBody.bare ∧
      ReadsEncodings Request Request.bare ∧ ReadsEncodings Response Response.bare :=
  ⟨ends, readsEncodings, readsEncodings, readsEncodings⟩

end Decoding

end LedgerClient
