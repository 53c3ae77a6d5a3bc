import LedgerClient.Text.Numeral
import Mathlib.Data.List.Induction
import Mathlib.Tactic.Ring

/-!
# What numerals stand for

A run of decimal digits stands for a number whatever zeros are in front of it, and each number has
the run it is written with. A signed numeral is such a run, alone or behind one sign. Reading
gives the number of every numeral within the bounds, and refuses every other text.
-/

namespace LedgerClient.Numeral

/-- A run of decimal digits, and the number it stands for. -/
inductive IsDecimal : List Char → Nat → Prop
  | digit {c : Char} (hdigit : c.isDigit = true) : IsDecimal [c] (c.toNat - 48)
  | more {front : List Char} {n : Nat} {c : Char} (hfront : IsDecimal front n)
      (hdigit : c.isDigit = true) : IsDecimal (front ++ [c]) (10 * n + (c.toNat - 48))

/-- A run of digits that may follow one sign, and the number it stands for. -/
inductive IsSigned : List Char → Int → Prop
  | plain {chars : List Char} {n : Nat} (hdecimal : IsDecimal chars n) : IsSigned chars n
  | plus {chars : List Char} {n : Nat} (hdecimal : IsDecimal chars n) : IsSigned ('+' :: chars) n
  | minus {chars : List Char} {n : Nat} (hdecimal : IsDecimal chars n) :
      IsSigned ('-' :: chars) (-n)

/-! ### Runs of digits -/

theorem digit_bounds {c : Char} (hdigit : c.isDigit = true) : 48 ≤ c.toNat ∧ c.toNat ≤ 57 := by
  simpa [Char.isDigit, UInt32.le_iff_toNat_le] using hdigit

theorem IsDecimal.isDigit_of_mem {chars : List Char} {n : Nat} (hdecimal : IsDecimal chars n)
    {c : Char} (hmem : c ∈ chars) : c.isDigit = true := by
  induction hdecimal with
  | digit hdigit => rwa [List.mem_singleton.mp hmem]
  | more hfront hdigit ih =>
      rcases List.mem_append.mp hmem with hfront | hlast
      · exact ih hfront
      · rwa [List.mem_singleton.mp hlast]

theorem IsDecimal.notMem {chars : List Char} {n : Nat} (hdecimal : IsDecimal chars n) {c : Char}
    (hother : c.isDigit = false) : c ∉ chars := by
  intro hmem
  rw [hdecimal.isDigit_of_mem hmem] at hother
  cases hother

theorem IsDecimal.ne_nil {chars : List Char} {n : Nat} (hdecimal : IsDecimal chars n) :
    chars ≠ [] := by
  cases hdecimal <;> simp

theorem IsDecimal.ofDigitChars_eq {chars : List Char} {n : Nat} (hdecimal : IsDecimal chars n) :
    Nat.ofDigitChars 10 chars 0 = n := by
  induction hdecimal with
  | digit => simp [Nat.ofDigitChars_cons]
  | more hfront hdigit ih => simp [Nat.ofDigitChars_append, Nat.ofDigitChars_cons, ih]

theorem isDecimal_ofDigitChars {chars : List Char} (hne : chars ≠ [])
    (hdigits : ∀ c ∈ chars, c.isDigit = true) :
    IsDecimal chars (Nat.ofDigitChars 10 chars 0) := by
  -- The value grows at the end, so the induction is on the last digit.
  induction chars using List.reverseRecOn with
  | nil => exact absurd rfl hne
  | append_singleton front c ih =>
      have hdigit : c.isDigit = true := hdigits c (by simp)
      rw [Nat.ofDigitChars_append]
      rcases eq_or_ne front [] with rfl | hfront
      · simpa [Nat.ofDigitChars_cons] using IsDecimal.digit hdigit
      · have hdecimal := ih hfront fun d hmem => hdigits d (List.mem_append_left _ hmem)
        simpa [Nat.ofDigitChars_cons] using hdecimal.more hdigit

theorem natOf?_eq_some_iff {chars : List Char} {n : Nat} :
    natOf? chars = some n ↔ IsDecimal chars n := by
  unfold natOf?
  constructor
  · intro hread
    split at hread
    next hrun =>
      rw [← Option.some.inj hread]
      exact isDecimal_ofDigitChars hrun.1 (List.all_eq_true.mp hrun.2)
    next => cases hread
  · intro hdecimal
    rw [if_pos ⟨hdecimal.ne_nil, List.all_eq_true.mpr fun _ => hdecimal.isDigit_of_mem⟩,
      hdecimal.ofDigitChars_eq]

theorem below?_eq_some_iff {bound : Nat} {chars : List Char} {n : Nat} :
    below? bound chars = some n ↔ IsDecimal chars n ∧ n < bound := by
  rw [below?, Option.filter_eq_some_iff, natOf?_eq_some_iff, decide_eq_true_iff]

/-- A number is what its digits stand for. -/
theorem isDecimal_toDigits (n : Nat) : IsDecimal (Nat.toDigits 10 n) n := by
  have hdigits : ∀ c ∈ Nat.toDigits 10 n, c.isDigit = true := fun _ hmem =>
    Nat.isDigit_of_mem_toDigits (by decide) (by decide) hmem
  have hdecimal := isDecimal_ofDigitChars Nat.toDigits_ne_nil hdigits
  rwa [Nat.ofDigitChars_ten_toDigits] at hdecimal

/-- A run of digits stands for one number. -/
theorem IsDecimal.unique {chars : List Char} {m n : Nat} (hfirst : IsDecimal chars m)
    (hsecond : IsDecimal chars n) : m = n :=
  hfirst.ofDigitChars_eq.symm.trans hsecond.ofDigitChars_eq

theorem toDigits_injective {m n : Nat} (heq : Nat.toDigits 10 m = Nat.toDigits 10 n) : m = n := by
  have hdecimal := isDecimal_toDigits m
  rw [heq] at hdecimal
  exact hdecimal.unique (isDecimal_toDigits n)

theorem IsDecimal.lt {chars : List Char} {n : Nat} (hdecimal : IsDecimal chars n) :
    n < 10 ^ chars.length := by
  induction hdecimal with
  | digit hdigit =>
      have hbounds := digit_bounds hdigit
      rw [List.length_singleton, Nat.pow_one]
      omega
  | more hfront hdigit ih =>
      have hbounds := digit_bounds hdigit
      rw [List.length_append, List.length_singleton, Nat.pow_succ]
      omega

/-- Zeros behind a run of digits multiply its number. -/
theorem IsDecimal.append_replicate {chars : List Char} {n : Nat} (hdecimal : IsDecimal chars n)
    (count : Nat) : IsDecimal (chars ++ List.replicate count '0') (n * 10 ^ count) := by
  induction count with
  | zero => simpa using hdecimal
  | succ count ih =>
      have hmore := ih.more (c := '0') rfl
      have hvalue : 10 * (n * 10 ^ count) + ('0'.toNat - 48) = n * 10 ^ (count + 1) := by
        rw [Nat.pow_succ]
        show 10 * (n * 10 ^ count) + 0 = _
        ring
      rwa [hvalue, List.append_assoc, ← List.replicate_succ'] at hmore

theorem IsDecimal.cons_zero {chars : List Char} {n : Nat} (hdecimal : IsDecimal chars n) :
    IsDecimal ('0' :: chars) n := by
  induction hdecimal with
  | digit hdigit => simpa using IsDecimal.more (.digit (c := '0') rfl) hdigit
  | more hfront hdigit ih => exact ih.more hdigit

/-- Zeros in front of a run of digits do not count. -/
theorem IsDecimal.replicate_append {chars : List Char} {n : Nat} (hdecimal : IsDecimal chars n)
    (count : Nat) : IsDecimal (List.replicate count '0' ++ chars) n := by
  induction count with
  | zero => exact hdecimal
  | succ count ih => exact ih.cons_zero

theorem isDecimal_padded (width n : Nat) : IsDecimal (padded width n) n :=
  (isDecimal_toDigits n).replicate_append _

theorem length_padded {width n : Nat} (hwidth : 0 < width) (hfits : n < 10 ^ width) :
    (padded width n).length = width := by
  have hdigits := (Nat.length_toDigits_le_iff (by decide) hwidth).mpr hfits
  simp only [padded, List.length_append, List.length_replicate]
  omega

/-! ### Signs -/

theorem intOf?_eq_some_iff {chars : List Char} {n : Int} :
    intOf? chars = some n ↔ IsSigned chars n := by
  constructor
  · intro hread
    unfold intOf? at hread
    split at hread
    next rest =>
      obtain ⟨value, hvalue, rfl⟩ := Option.map_eq_some_iff.mp hread
      exact .plus (natOf?_eq_some_iff.mp hvalue)
    next rest =>
      obtain ⟨value, hvalue, rfl⟩ := Option.map_eq_some_iff.mp hread
      exact .minus (natOf?_eq_some_iff.mp hvalue)
    next =>
      obtain ⟨value, hvalue, rfl⟩ := Option.map_eq_some_iff.mp hread
      exact .plain (natOf?_eq_some_iff.mp hvalue)
  · intro hsigned
    cases hsigned with
    | plain hdecimal =>
        rw [intOf?, natOf?_eq_some_iff.mpr hdecimal]
        · rfl
        · rintro rest rfl
          exact absurd (hdecimal.isDigit_of_mem List.mem_cons_self) (by decide)
        · rintro rest rfl
          exact absurd (hdecimal.isDigit_of_mem List.mem_cons_self) (by decide)
    | plus hdecimal => rw [intOf?, natOf?_eq_some_iff.mpr hdecimal]; rfl
    | minus hdecimal => rw [intOf?, natOf?_eq_some_iff.mpr hdecimal]; rfl

theorem signedBelow?_eq_some_iff {bound : Nat} {chars : List Char} {n : Int} :
    signedBelow? bound chars = some n ↔ IsSigned chars n ∧ -(bound : Int) ≤ n ∧ n < bound := by
  rw [signedBelow?, Option.filter_eq_some_iff, intOf?_eq_some_iff, decide_eq_true_iff]

/-- The numbers within the bounds are those that a word of so many values keeps. -/
theorem signedBelow?_eq_some_iff_bmod {half : Nat} (hpos : 0 < half) {chars : List Char} {n : Int} :
    signedBelow? half chars = some n ↔ IsSigned chars n ∧ n.bmod (2 * half) = n := by
  have hfits : (-(half : Int) ≤ n ∧ n < half) ↔ n.bmod (2 * half) = n := by
    constructor
    · rintro ⟨hlow, hhigh⟩
      exact Int.bmod_eq_of_le (by omega) (by omega)
    · intro hsame
      have hlow := Int.le_bmod (x := n) (m := 2 * half) (by omega)
      have hhigh := Int.bmod_lt (x := n) (m := 2 * half) (by omega)
      omega
  rw [signedBelow?_eq_some_iff, hfits]

theorem IsSigned.mem {chars : List Char} {n : Int} (hsigned : IsSigned chars n) {c : Char}
    (hmem : c ∈ chars) : c.isDigit = true ∨ c = '+' ∨ c = '-' := by
  cases hsigned with
  | plain hdecimal => exact .inl (hdecimal.isDigit_of_mem hmem)
  | plus hdecimal =>
      rcases List.mem_cons.mp hmem with rfl | hrest
      · exact .inr (.inl rfl)
      · exact .inl (hdecimal.isDigit_of_mem hrest)
  | minus hdecimal =>
      rcases List.mem_cons.mp hmem with rfl | hrest
      · exact .inr (.inr rfl)
      · exact .inl (hdecimal.isDigit_of_mem hrest)

theorem isSigned_toString (n : Int) : IsSigned (toString n).toList n := by
  have htext : (toString n).toList =
      if 0 ≤ n then Nat.toDigits 10 n.toNat else '-' :: Nat.toDigits 10 (-n).toNat := by
    rw [show toString n = n.repr from rfl, Int.repr_eq_if]
    split <;> simp
  rw [htext]
  split
  next hnonneg =>
    have hplain := IsSigned.plain (isDecimal_toDigits n.toNat)
    rwa [Int.toNat_of_nonneg hnonneg] at hplain
  next hneg =>
    have hminus := IsSigned.minus (isDecimal_toDigits (-n).toNat)
    rwa [Int.toNat_of_nonneg (by omega), Int.neg_neg] at hminus

end LedgerClient.Numeral
