import LedgerClient.Entity.Checksum
import LedgerClient.Proofs.Text.Utf8
import Mathlib.Data.List.Induction
import Mathlib.Data.Nat.Digits.Defs
import Mathlib.Data.Nat.ModEq

/-!
# What the letters of a checksum tell

The letters are the base-26 digits of a residue, spread by a factor that has an inverse, so they
tell the sum of the packed address and the ledger hash up to 26^5. On one ledger they tell the
packed address itself, which is below 26^5, and with it the four residues that are packed: the
length, the sums of the weights at even and at odd positions, and the number whose base-31
digits are the weights.
-/

namespace LedgerClient.Checksum

/-! ### Letters -/

theorem letter_eq_iff {m n : Nat} : letter m = letter n ↔ m % 26 = n % 26 := by
  constructor
  · intro heq
    have hcode : ∀ k, (letter k).toNat = 97 + k % 26 := fun k => Utf8.toNat_ofNat (by omega)
    have hcodes := congrArg Char.toNat heq
    rw [hcode, hcode] at hcodes
    exact Nat.add_left_cancel hcodes
  · intro heq
    rw [letter, letter, heq]

/-- Letters tell a number up to the power of 26 that there are so many letters of. -/
theorem letters_eq_iff {count m n : Nat} :
    letters count m = letters count n ↔ m ≡ n [MOD 26 ^ count] := by
  induction count generalizing m n with
  | zero => simp [letters, Nat.modEq_one]
  | succ count ih =>
      have hsplit : ∀ k, k % 26 ^ (count + 1) = k % 26 + 26 * (k / 26 % 26 ^ count) := by
        intro k
        rw [Nat.pow_succ', Nat.mod_mul]
      rw [letters, letters, List.append_singleton_inj, ih, letter_eq_iff]
      unfold Nat.ModEq
      rw [hsplit, hsplit]
      omega

/-! ### Residues -/

theorem evenSum_lt (address : List Char) : evenSum address < 11 := by
  unfold evenSum
  split
  · decide
  · exact Nat.mod_lt _ (by decide)
  · exact Nat.mod_lt _ (by decide)

theorem oddSum_lt (address : List Char) : oddSum address < 11 := by
  unfold oddSum
  split
  · decide
  · exact evenSum_lt _

/-- The weight of a character where its position has a parity, and nothing elsewhere. -/
def weightAt (parity : Nat) (placed : Char × Nat) : Nat :=
  if placed.2 % 2 = parity then weight placed.1 else 0

/-- The sum of the weights at the positions of a parity, the first position being `start`. -/
def sumFrom (start parity : Nat) (chars : List Char) : Nat :=
  ((chars.zipIdx start).map (weightAt parity)).sum

/-- The sum of the weights at the positions of a parity. -/
def sumAt (parity : Nat) (address : List Char) : Nat := sumFrom 0 parity address

/-- The number whose base-31 digits are the weights, the most significant first. -/
def base31 (address : List Char) : Nat := Nat.ofDigits 31 (address.reverse.map weight)

theorem sumFrom_cons (start parity : Nat) (c : Char) (chars : List Char) :
    sumFrom start parity (c :: chars) =
      weightAt parity (c, start) + sumFrom (start + 1) parity chars := by
  simp [sumFrom, List.zipIdx_cons]

theorem sumFrom_append (start parity : Nat) (front back : List Char) :
    sumFrom start parity (front ++ back) =
      sumFrom start parity front + sumFrom (start + front.length) parity back := by
  simp [sumFrom, List.zipIdx_append]

theorem evenSum_eq (start : Nat) (chars : List Char) :
    evenSum chars = sumFrom start (start % 2) chars % 11 := by
  induction chars using evenSum.induct generalizing start with
  | case1 => rfl
  | case2 c => simp [evenSum, sumFrom, weightAt]
  | case3 c skipped rest ih =>
      have hparity : (start + 2) % 2 = start % 2 := by omega
      have hnext : (start + 1) % 2 ≠ start % 2 := by omega
      have hsum : sumFrom start (start % 2) (c :: skipped :: rest) =
          weight c + sumFrom (start + 2) (start % 2) rest := by
        simp [sumFrom_cons, weightAt, hnext]
      rw [evenSum, ih (start + 2), hparity, hsum, Nat.add_mod_mod]

theorem evenSum_eq_sumAt (address : List Char) : evenSum address = sumAt 0 address % 11 :=
  evenSum_eq 0 address

theorem oddSum_eq_sumAt (address : List Char) : oddSum address = sumAt 1 address % 11 := by
  cases address with
  | nil => rfl
  | cons c rest =>
      rw [oddSum, evenSum_eq 1, sumAt, sumFrom_cons]
      simp [weightAt]

/-- The hash of values is the number that they are the base-31 digits of, the most significant
first. -/
theorem foldl_hash_eq_ofDigits {α : Type} (bound : Nat) (weigh : α → Nat) (values : List α) :
    values.foldl (fun hash a => (31 * hash + weigh a) % bound) 0 =
      Nat.ofDigits 31 (values.reverse.map weigh) % bound := by
  -- The hash takes the values from the front, so the induction is on the last one.
  induction values using List.reverseRecOn with
  | nil => exact (Nat.zero_mod bound).symm
  | append_singleton front a ih =>
      rw [List.foldl_append, List.foldl_cons, List.foldl_nil, ih, List.reverse_append,
        List.reverse_singleton, List.singleton_append, List.map_cons, Nat.ofDigits_cons,
        Nat.add_mod, Nat.mul_mod_mod, ← Nat.add_mod, Nat.add_comm]

theorem addressHash_eq_base31 (address : List Char) :
    addressHash address = base31 address % addressModulus :=
  foldl_hash_eq_ofDigits addressModulus weight address

/-- Addresses agree in all that their checksums are made of. -/
structure SameResidues (first second : List Char) : Prop where
  length : first.length ≡ second.length [MOD 5]
  evenSum : sumAt 0 first ≡ sumAt 0 second [MOD 11]
  oddSum : sumAt 1 first ≡ sumAt 1 second [MOD 11]
  base31 : base31 first ≡ base31 second [MOD 26 ^ 3]

theorem packed_lt (address : List Char) : packed address < modulus := by
  have heven := evenSum_lt address
  have hodd := oddSum_lt address
  have hhash : addressHash address < addressModulus := by
    rw [addressHash_eq_base31]
    exact Nat.mod_lt _ (by decide)
  simp only [packed, addressModulus, modulus] at hhash ⊢
  omega

/-- What is packed can be told from the number it is packed into. -/
theorem packed_eq_iff {first second : List Char} :
    packed first = packed second ↔ SameResidues first second := by
  have hfirst : base31 first % 17576 < 17576 := Nat.mod_lt _ (by decide)
  have hsecond : base31 second % 17576 < 17576 := Nat.mod_lt _ (by decide)
  simp only [packed, evenSum_eq_sumAt, oddSum_eq_sumAt, addressHash_eq_base31, addressModulus]
  constructor
  · intro hpacked
    refine ⟨?_, ?_, ?_, ?_⟩ <;> simp only [Nat.ModEq] <;> omega
  · rintro ⟨hlength, heven, hodd, hbase⟩
    simp only [Nat.ModEq] at hlength heven hodd hbase
    omega

/-! ### Checksums -/

/-- The factor that spreads the values has an inverse. -/
theorem coprime_modulus_multiplier : modulus.gcd multiplier = 1 := by decide

/-- Checksums are equal exactly when the packed addresses and the ledger hashes add up to the same,
up to 26^5. -/
theorem generate_eq_iff {ledger other : LedgerId} {first second : String} :
    generate ledger first = generate other second ↔
      packed first.toList + ledgerHash ledger ≡ packed second.toList + ledgerHash other
        [MOD modulus] := by
  have hpower : 26 ^ 5 = modulus := rfl
  rw [generate, generate, String.ofList_inj, letters_eq_iff, hpower, value, value]
  constructor
  · intro hvalues
    have hspread := ((Nat.mod_modEq _ _).symm.trans hvalues).trans (Nat.mod_modEq _ _)
    have hsums := Nat.ModEq.cancel_right_of_coprime coprime_modulus_multiplier hspread
    exact ((Nat.mod_modEq _ _).symm.trans hsums).trans (Nat.mod_modEq _ _)
  · intro hsums
    rw [hsums]

/-- On one ledger checksums are equal exactly when the residues of the addresses are. -/
theorem generate_eq_generate_iff {ledger : LedgerId} {first second : String} :
    generate ledger first = generate ledger second ↔
      SameResidues first.toList second.toList := by
  rw [generate_eq_iff, ← packed_eq_iff]
  constructor
  · intro hsums
    exact (hsums.add_right_cancel' _).eq_of_lt_of_lt (packed_lt _) (packed_lt _)
  · intro hpacked
    rw [hpacked]

theorem ledgerHash_lt (ledger : LedgerId) : ledgerHash ledger < modulus := by
  rw [ledgerHash, foldl_hash_eq_ofDigits]
  exact Nat.mod_lt _ (by decide)

/-- On one address checksums are equal exactly when the hashes of the ledgers are. -/
theorem generate_eq_generate_iff_ledgerHash {ledger other : LedgerId} {address : String} :
    generate ledger address = generate other address ↔ ledgerHash ledger = ledgerHash other := by
  rw [generate_eq_iff]
  constructor
  · intro hsums
    exact (hsums.add_left_cancel' _).eq_of_lt_of_lt (ledgerHash_lt _) (ledgerHash_lt _)
  · intro hhashes
    rw [hhashes]

end LedgerClient.Checksum

namespace LedgerClient.EntityId

theorem validate_withChecksum_of_ne {id : EntityId} {ledger : LedgerId} {actual : String}
    (hne : Checksum.generate ledger id.text ≠ actual) :
    (id.withChecksum actual).validate ledger =
      .error ⟨id.text, Checksum.generate ledger id.text, actual⟩ :=
  if_neg hne

/-- The checksum of its own address is what an identifier should carry. -/
theorem validate_withChecksum_generate (id : EntityId) (ledger : LedgerId) :
    (id.withChecksum (Checksum.generate ledger id.text)).validate ledger = .ok () :=
  if_pos rfl

end LedgerClient.EntityId
