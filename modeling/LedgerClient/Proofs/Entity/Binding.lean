import LedgerClient.Proofs.Entity.Checksum

/-!
# Ledgers that checksums tell apart

All that a checksum takes from the ledger is one hash, which is added to the packed address. So
two ledgers whose checksums agree on one address have one hash and agree on every address, and a
checksum tells two ledgers apart on all addresses or on none. It tells them apart when their
identities have one length and differ in one byte: the hashes then differ by the difference of the
two bytes, times a power of 31, which has an inverse modulo 26^5.
-/

namespace LedgerClient

/-- Identities of one length that differ at one position and no other. -/
structure LedgerId.DifferInOneByte (ledger other : LedgerId) : Prop where
  length : ledger.bytes.length = other.bytes.length
  position : ∃! position : Nat, ledger.bytes[position]? ≠ other.bytes[position]?

/-- Byte strings of one length that differ at one position and no other are alike before and behind
a byte. -/
theorem exists_append_cons_of_differ {first second : Bytes} (hlength : first.length = second.length)
    {position : Nat} (hat : first[position]? ≠ second[position]?)
    (hsame : ∀ elsewhere, elsewhere ≠ position → first[elsewhere]? = second[elsewhere]?) :
    ∃ front back here there, here ≠ there ∧
      first = front ++ here :: back ∧ second = front ++ there :: back := by
  induction first generalizing second position with
  | nil =>
      obtain rfl : second = [] := List.length_eq_zero_iff.mp hlength.symm
      exact absurd rfl hat
  | cons here rest ih =>
      cases second with
      | nil => cases hlength
      | cons there others =>
          cases position with
          | zero =>
              have hrest : rest = others := List.ext_getElem? fun index =>
                hsame (index + 1) (Nat.succ_ne_zero index)
              have hne : here ≠ there := fun heq => hat (congrArg some heq)
              exact ⟨[], rest, here, there, hne, rfl, by rw [hrest]; rfl⟩
          | succ position =>
              have hhead : here = there := Option.some.inj (hsame 0 (Nat.succ_ne_zero position).symm)
              have htail : ∀ elsewhere, elsewhere ≠ position →
                  rest[elsewhere]? = others[elsewhere]? := fun elsewhere hne =>
                hsame (elsewhere + 1) fun heq => hne (Nat.succ.inj heq)
              obtain ⟨front, back, a, b, hne, rfl, rfl⟩ := ih (Nat.succ.inj hlength) hat htail
              exact ⟨here :: front, back, a, b, hne, rfl, by rw [hhead]; rfl⟩

theorem LedgerId.DifferInOneByte.exists_append_cons {ledger other : LedgerId}
    (hdiffer : DifferInOneByte ledger other) :
    ∃ front back here there, here ≠ there ∧
      ledger.bytes = front ++ here :: back ∧ other.bytes = front ++ there :: back := by
  obtain ⟨position, hat, honly⟩ := hdiffer.position
  refine exists_append_cons_of_differ hdiffer.length hat fun elsewhere hne => ?_
  by_contra hdiffers
  exact hne (honly elsewhere hdiffers)

namespace Checksum

/-- The number whose base-31 digits are the bytes, the most significant first. -/
def byteNumber (bytes : Bytes) : Nat := Nat.ofDigits 31 (bytes.reverse.map UInt8.toNat)

theorem byteNumber_append_cons (front back : Bytes) (b : UInt8) :
    byteNumber (front ++ b :: back) =
      byteNumber back + 31 ^ back.length * (b.toNat + 31 * byteNumber front) := by
  simp [byteNumber, Nat.ofDigits_append, Nat.ofDigits_cons]

theorem ledgerHash_eq_byteNumber (ledger : LedgerId) :
    ledgerHash ledger = byteNumber (ledger.bytes ++ ledgerPadding) % modulus :=
  foldl_hash_eq_ofDigits modulus UInt8.toNat _

/-- Powers of 31 have inverses. -/
theorem coprime_modulus_pow (count : Nat) : modulus.gcd (31 ^ count) = 1 :=
  Nat.Coprime.pow_right count (by decide)

/-- A byte can be told from the number that it is a digit of. -/
theorem byteNumber_modEq_iff {front back : Bytes} {here there : UInt8} :
    byteNumber (front ++ here :: back) ≡ byteNumber (front ++ there :: back) [MOD modulus] ↔
      here = there := by
  constructor
  · intro hnumbers
    rw [byteNumber_append_cons, byteNumber_append_cons] at hnumbers
    have hdigits := Nat.ModEq.cancel_left_of_coprime (coprime_modulus_pow back.length)
      (hnumbers.add_left_cancel' _)
    have hbytes : here.toNat ≡ there.toNat [MOD modulus] := hdigits.add_right_cancel' _
    have hbelow : ∀ b : UInt8, b.toNat < modulus := fun b => b.toNat_lt.trans (by decide)
    exact UInt8.toNat_inj.mp (hbytes.eq_of_lt_of_lt (hbelow here) (hbelow there))
  · rintro rfl
    rfl

/-- A byte of a ledger identity can be told from its hash and the other bytes. -/
theorem ledgerHash_eq_iff {front back : Bytes} {here there : UInt8} :
    ledgerHash ⟨front ++ here :: back⟩ = ledgerHash ⟨front ++ there :: back⟩ ↔ here = there := by
  rw [ledgerHash_eq_byteNumber, ledgerHash_eq_byteNumber, List.append_assoc, List.append_assoc]
  exact byteNumber_modEq_iff

/-- Ledgers that differ in one byte have different checksums for every address. -/
theorem generate_ne_of_differInOneByte {ledger other : LedgerId}
    (hdiffer : ledger.DifferInOneByte other) (address : String) :
    generate ledger address ≠ generate other address := by
  obtain ⟨front, back, here, there, hne, hledger, hother⟩ := hdiffer.exists_append_cons
  obtain rfl : ledger = ⟨front ++ here :: back⟩ := congrArg LedgerId.mk hledger
  obtain rfl : other = ⟨front ++ there :: back⟩ := congrArg LedgerId.mk hother
  rw [Ne, generate_eq_generate_iff_ledgerHash, ledgerHash_eq_iff]
  exact hne

/-- Ledgers whose checksums agree on one address agree on every address. Ledgers whose identities
have one length and differ in one byte agree on none, so on either of them an identifier that
carries the checksum of the other is refused, with both checksums in the error. -/
theorem checksums_bind_to_ledger (ledger other : LedgerId) :
    ((∃ address, generate ledger address = generate other address) →
      ∀ address, generate ledger address = generate other address) ∧
    (ledger.DifferInOneByte other →
      (∀ address, generate ledger address ≠ generate other address) ∧
      ∀ id : EntityId, (id.withChecksum (generate ledger id.text)).validate other =
        .error ⟨id.text, generate other id.text, generate ledger id.text⟩) := by
  constructor
  · rintro ⟨address, hagree⟩ elsewhere
    have hhashes := generate_eq_generate_iff_ledgerHash.mp hagree
    exact generate_eq_generate_iff_ledgerHash.mpr hhashes
  · intro hdiffer
    have hne := generate_ne_of_differInOneByte hdiffer
    exact ⟨hne, fun id => EntityId.validate_withChecksum_of_ne (hne id.text).symm⟩

/-- Zero bytes are hashed behind every identity, so the empty one shares its checksums with that of
a single zero byte. An identity of another single byte does not. -/
theorem checksums_bind_to_ledger_of_short_identities :
    (generate ⟨[]⟩ "0.0.1" = generate .mainnet "0.0.1" ∧
      ∀ address, generate ⟨[]⟩ address = generate .mainnet address) ∧
    LedgerId.mainnet.DifferInOneByte .testnet ∧
      ((EntityId.ofNum 1).withChecksum "dfkxr").validate .testnet =
        .error ⟨"0.0.1", "mswfa", "dfkxr"⟩ := by
  have hagree : generate ⟨[]⟩ "0.0.1" = generate .mainnet "0.0.1" := rfl
  have hdiffer : LedgerId.mainnet.DifferInOneByte .testnet := by
    refine ⟨rfl, 0, by decide, fun position hdiffers => ?_⟩
    cases position with
    | zero => rfl
    | succ next => exact absurd rfl hdiffers
  refine ⟨⟨hagree, (checksums_bind_to_ledger ⟨[]⟩ .mainnet).1 ⟨_, hagree⟩⟩, hdiffer, ?_⟩
  exact ((checksums_bind_to_ledger .mainnet .testnet).2 hdiffer).2 (.ofNum 1)

end Checksum

end LedgerClient
