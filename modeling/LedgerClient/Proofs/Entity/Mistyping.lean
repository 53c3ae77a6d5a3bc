import LedgerClient.Proofs.Entity.Checksum
import LedgerClient.Proofs.Entity.Grammar

/-!
# Mistyped addresses

One wrong character, two neighbours the wrong way round and characters too many or too few are
noticed: each changes a residue that the checksum is made of. The characters of an address have
eleven weights, so a wrong one changes the sum of the positions it stands among; so do two
neighbours that change places, since their positions differ in parity; and the length counts
modulo 5. What is checked is the address as it is printed, with no zeros in front of its numbers.
-/

namespace LedgerClient

namespace Checksum

/-- A digit or a point. -/
def IsAddressChar (c : Char) : Prop := c.isDigit = true ∨ c = '.'

instance : DecidablePred IsAddressChar := fun _ => inferInstanceAs (Decidable (_ ∨ _))

/-- A text of digits and points. -/
def IsAddress (address : String) : Prop := ∀ c ∈ address.toList, IsAddressChar c

instance : DecidablePred IsAddress := fun address =>
  List.decidableBAll IsAddressChar address.toList

/-- Ways to get a text wrong. -/
inductive Mistyped : (meant typed : List Char) → Prop where
  | substituted (front back : List Char) (due wrong : Char) (hwrong : due ≠ wrong) :
      Mistyped (front ++ due :: back) (front ++ wrong :: back)
  | transposed (front back : List Char) (first second : Char) (hdistinct : first ≠ second) :
      Mistyped (front ++ first :: second :: back) (front ++ second :: first :: back)
  | resized {meant typed : List Char}
      (hchange : ¬ (5 : Int) ∣ (typed.length : Int) - meant.length) : Mistyped meant typed

/-! ### Weights -/

theorem weight_le (c : Char) : weight c ≤ 10 := by
  unfold weight
  split
  next hdigit =>
    have := Numeral.digit_bounds hdigit
    omega
  next => exact Nat.le_refl 10

/-- Characters of an address are told apart by their weights. -/
theorem eq_of_weight_eq {a b : Char} (ha : IsAddressChar a) (hb : IsAddressChar b)
    (heq : weight a = weight b) : a = b := by
  have hpoint : weight '.' = 10 := rfl
  have hdigits : ∀ {c : Char}, c.isDigit = true → weight c = c.toNat - 48 :=
    fun hdigit => if_pos hdigit
  rcases ha with ha | rfl <;> rcases hb with hb | rfl
  · have := Numeral.digit_bounds ha
    have := Numeral.digit_bounds hb
    rw [hdigits ha, hdigits hb] at heq
    exact Char.toNat_inj.mp (by omega)
  · have := Numeral.digit_bounds ha
    rw [hdigits ha, hpoint] at heq
    omega
  · have := Numeral.digit_bounds hb
    rw [hdigits hb, hpoint] at heq
    omega
  · rfl

theorem eq_of_weight_modEq {a b : Char} (ha : IsAddressChar a) (hb : IsAddressChar b)
    (heq : weight a ≡ weight b [MOD 11]) : a = b :=
  eq_of_weight_eq ha hb
    (heq.eq_of_lt_of_lt (Nat.lt_succ_of_le (weight_le a)) (Nat.lt_succ_of_le (weight_le b)))

/-! ### Residues of mistyped addresses -/

/-- Addresses with the same residues have the same sums at both parities. -/
theorem SameResidues.sumAt {first second : List Char} (hsame : SameResidues first second)
    (position : Nat) :
    sumAt (position % 2) first ≡ sumAt (position % 2) second [MOD 11] := by
  rcases Nat.mod_two_eq_zero_or_one position with hparity | hparity
  · rw [hparity]
    exact hsame.evenSum
  · rw [hparity]
    exact hsame.oddSum

/-- The sum at the parity of a position has the weight there as a part. -/
theorem sumAt_append_cons (front back : List Char) (c : Char) :
    sumAt (front.length % 2) (front ++ c :: back) =
      weight c + (sumFrom 0 (front.length % 2) front +
        sumFrom (front.length + 1) (front.length % 2) back) := by
  rw [sumAt, sumFrom_append, sumFrom_cons]
  simp only [weightAt, Nat.zero_add, if_true]
  omega

/-- The neighbour behind a position is not in the sum at its parity. -/
theorem sumFrom_cons_behind (position : Nat) (c : Char) (back : List Char) :
    sumFrom (position + 1) (position % 2) (c :: back) =
      sumFrom (position + 2) (position % 2) back := by
  have hparity : (position + 1) % 2 ≠ position % 2 := by omega
  rw [sumFrom_cons, weightAt, if_neg hparity, Nat.zero_add]

theorem not_sameResidues_of_mistyped {meant typed : List Char}
    (hmeant : ∀ c ∈ meant, IsAddressChar c) (htyped : ∀ c ∈ typed, IsAddressChar c)
    (hmistyped : Mistyped meant typed) : ¬ SameResidues meant typed := by
  intro hsame
  cases hmistyped with
  | substituted front back due wrong hwrong =>
      have hsums := hsame.sumAt front.length
      rw [sumAt_append_cons, sumAt_append_cons] at hsums
      exact hwrong (eq_of_weight_modEq (hmeant _ (by simp)) (htyped _ (by simp))
        (hsums.add_right_cancel' _))
  | transposed front back first second hdistinct =>
      have hsums := hsame.sumAt front.length
      rw [sumAt_append_cons, sumAt_append_cons, sumFrom_cons_behind, sumFrom_cons_behind] at hsums
      exact hdistinct (eq_of_weight_modEq (hmeant _ (by simp)) (htyped _ (by simp))
        (hsums.add_right_cancel' _))
  | resized hchange =>
      have hlength := hsame.length
      unfold Nat.ModEq at hlength
      omega

/-- A mistyped address has another checksum, on every ledger. -/
theorem generate_ne_of_mistyped (ledger : LedgerId) {meant typed : String}
    (hmeant : IsAddress meant) (htyped : IsAddress typed)
    (hmistyped : Mistyped meant.toList typed.toList) :
    generate ledger typed ≠ generate ledger meant := by
  intro heq
  exact not_sameResidues_of_mistyped hmeant htyped hmistyped (generate_eq_generate_iff.mp heq.symm)

end Checksum

namespace EntityId

theorem isAddress_text (id : EntityId) : Checksum.IsAddress id.text :=
  fun _ hmem => id.spells_text.mem_address hmem

end EntityId

namespace Checksum

/-- On every ledger, checksums are equal exactly when the addresses agree in their length modulo 5,
in the sums of their weights at even and at odd positions modulo 11, and in their base-31 number
modulo 26^3. So a mistyped address of digits and points has another checksum, and an identifier
that carries the checksum of an address it is a mistyping of is refused, with both checksums in
the error. -/
theorem mistyped_identifiers_are_refused (ledger : LedgerId) :
    (∀ first second : String, generate ledger first = generate ledger second ↔
      SameResidues first.toList second.toList) ∧
    (∀ meant typed : String, IsAddress meant → IsAddress typed →
      Mistyped meant.toList typed.toList → generate ledger typed ≠ generate ledger meant) ∧
    ∀ (id : EntityId) (meant : String), IsAddress meant → Mistyped meant.toList id.text.toList →
      (id.withChecksum (generate ledger meant)).validate ledger =
        .error ⟨id.text, generate ledger id.text, generate ledger meant⟩ := by
  refine ⟨fun first second => generate_eq_generate_iff,
    fun meant typed hmeant htyped hmistyped => ?_, fun id meant hmeant hmistyped => ?_⟩
  · exact generate_ne_of_mistyped ledger hmeant htyped hmistyped
  · exact EntityId.validate_withChecksum_of_ne
      (generate_ne_of_mistyped ledger hmeant id.isAddress_text hmistyped)

/-- An account with a number that may be wrong, and the checksum of the address that is meant. -/
def typedFor (meant : String) (num : UInt64) : EntityId :=
  (EntityId.ofNum num).withChecksum (generate .mainnet meant)

theorem mistyped_identifiers_are_refused_each_way :
    IsAddress "0.0.123" ∧ generate .mainnet "0.0.123" = "vfmkw" ∧
      (Mistyped "0.0.123".toList "0.0.124".toList ∧
        (typedFor "0.0.123" 124).validate .mainnet = .error ⟨"0.0.124", "dpjsn", "vfmkw"⟩) ∧
      (Mistyped "0.0.123".toList "0.0.132".toList ∧
        (typedFor "0.0.123" 132).validate .mainnet = .error ⟨"0.0.132", "kijgm", "vfmkw"⟩) ∧
      Mistyped "0.0.123".toList "0.0.12".toList ∧
        (typedFor "0.0.123" 12).validate .mainnet = .error ⟨"0.0.12", "uuuup", "vfmkw"⟩ := by
  obtain ⟨_, _, hrefused⟩ := mistyped_identifiers_are_refused .mainnet
  have hmeant : IsAddress "0.0.123" := by decide
  have hchecksum : generate .mainnet "0.0.123" = "vfmkw" := rfl
  have hsubstituted : Mistyped "0.0.123".toList "0.0.124".toList :=
    .substituted "0.0.12".toList [] '3' '4' (by decide)
  have htransposed : Mistyped "0.0.123".toList "0.0.132".toList :=
    .transposed "0.0.1".toList [] '2' '3' (by decide)
  have hresized : Mistyped "0.0.123".toList "0.0.12".toList := .resized (by decide)
  have htexts : (EntityId.ofNum 124).text = "0.0.124" ∧ (EntityId.ofNum 132).text = "0.0.132" ∧
      (EntityId.ofNum 12).text = "0.0.12" := ⟨rfl, rfl, rfl⟩
  have hdue : generate .mainnet "0.0.124" = "dpjsn" ∧ generate .mainnet "0.0.132" = "kijgm" ∧
      generate .mainnet "0.0.12" = "uuuup" := ⟨rfl, rfl, rfl⟩
  refine ⟨hmeant, hchecksum, ⟨hsubstituted, ?_⟩, ⟨htransposed, ?_⟩, hresized, ?_⟩
  · refine (hrefused (.ofNum 124) "0.0.123" hmeant (htexts.1 ▸ hsubstituted)).trans ?_
    rw [htexts.1, hdue.1, hchecksum]
  · refine (hrefused (.ofNum 132) "0.0.123" hmeant (htexts.2.1 ▸ htransposed)).trans ?_
    rw [htexts.2.1, hdue.2.1, hchecksum]
  · refine (hrefused (.ofNum 12) "0.0.123" hmeant (htexts.2.2 ▸ hresized)).trans ?_
    rw [htexts.2.2, hdue.2.2, hchecksum]

end Checksum

end LedgerClient
