import LedgerClient.Error
import LedgerClient.Proofs.Text.Numeral

/-!
# Texts that name an entity

An entity is named by three runs of decimal digits with points between them, and five lower-case
letters behind a dash if it carries a checksum. Reading takes a text exactly when it has this form
and its numbers are below 2^64, and gives those numbers and that checksum; the refusal of any other
text carries the whole text.
-/

namespace LedgerClient.EntityId

/-- Five lower-case ASCII letters. -/
structure IsChecksum (letters : List Char) : Prop where
  length : letters.length = 5
  isLower : ∀ c ∈ letters, c.isLower = true

/-- A text of three numbers with points between them, with a checksum behind a dash or without. -/
inductive Spells : List Char → (shard realm num : Nat) → (checksum : Option String) → Prop
  | plain {shardText realmText numText : List Char} {shard realm num : Nat}
      (hshard : Numeral.IsDecimal shardText shard) (hrealm : Numeral.IsDecimal realmText realm)
      (hnum : Numeral.IsDecimal numText num) :
      Spells (shardText ++ '.' :: (realmText ++ '.' :: numText)) shard realm num none
  | checked {address letters : List Char} {shard realm num : Nat}
      (haddress : Spells address shard realm num none) (hchecksum : IsChecksum letters) :
      Spells (address ++ '-' :: letters) shard realm num (some (String.ofList letters))

/-! ### Parts of a name -/

theorem isLower_iff {c : Char} : c.isLower = true ↔ 97 ≤ c.toNat ∧ c.toNat ≤ 122 := by
  show (decide (97 ≤ c.val) && decide (c.val ≤ 122)) = true ↔ _
  simp [UInt32.le_iff_toNat_le]

theorem isChecksumText_iff {letters : List Char} :
    isChecksumText letters = true ↔ IsChecksum letters := by
  have hlower : ∀ c : Char, ('a' ≤ c ∧ c ≤ 'z') ↔ c.isLower = true := by
    intro c
    rw [isLower_iff]
    exact Iff.rfl
  simp only [isChecksumText, Bool.and_eq_true, beq_iff_eq, List.all_eq_true, decide_eq_true_eq,
    hlower]
  constructor
  · rintro ⟨hlength, hletters⟩
    exact ⟨hlength, hletters⟩
  · intro hchecksum
    exact ⟨hchecksum.length, hchecksum.isLower⟩

theorem part?_eq_some_iff {chars : List Char} {part : UInt64} :
    part? chars = some part ↔ Numeral.IsDecimal chars part.toNat := by
  rw [part?, Option.map_eq_some_iff]
  constructor
  · rintro ⟨n, hread, rfl⟩
    obtain ⟨hdecimal, hbelow⟩ := Numeral.below?_eq_some_iff.mp hread
    rwa [UInt64.toNat_ofNat_of_lt' hbelow]
  · intro hdecimal
    exact ⟨part.toNat, Numeral.below?_eq_some_iff.mpr ⟨hdecimal, part.toNat_lt⟩,
      UInt64.ofNat_toNat⟩

theorem splitOn_point {shard realm num : List Char} (hshard : '.' ∉ shard) (hrealm : '.' ∉ realm)
    (hnum : '.' ∉ num) :
    (shard ++ '.' :: (realm ++ '.' :: num)).splitOn '.' = [shard, realm, num] := by
  rw [List.splitOn_append_cons_self_of_not_mem hshard,
    List.splitOn_append_cons_self_of_not_mem hrealm, List.splitOn_eq_singleton hnum]

theorem address?_eq_some_iff {chars : List Char} {id : EntityId} :
    address? chars = some id ↔
      Spells chars id.shard.toNat id.realm.toNat id.num.toNat none ∧ id.checksum = none := by
  constructor
  · intro hread
    unfold address? at hread
    split at hread
    next shardText realmText numText hsplit =>
      simp only [Option.bind_eq_bind, Option.bind_eq_some_iff, Option.pure_def,
        Option.some.injEq] at hread
      obtain ⟨shard, hshard, realm, hrealm, num, hnum, rfl⟩ := hread
      have hjoined : ['.'].intercalate (chars.splitOn '.') = chars := List.intercalate_splitOn '.'
      have htext : chars = shardText ++ '.' :: (realmText ++ '.' :: numText) := by
        rw [← hjoined, hsplit]
        simp
      rw [htext]
      exact ⟨.plain (part?_eq_some_iff.mp hshard) (part?_eq_some_iff.mp hrealm)
        (part?_eq_some_iff.mp hnum), rfl⟩
    next => cases hread
  · rintro ⟨hspells, hnone⟩
    cases hspells with
    | plain hshard hrealm hnum =>
        rw [address?, splitOn_point (hshard.notMem rfl) (hrealm.notMem rfl) (hnum.notMem rfl)]
        simp only [part?_eq_some_iff.mpr hshard, part?_eq_some_iff.mpr hrealm,
          part?_eq_some_iff.mpr hnum]
        obtain ⟨shard, realm, num, checksum⟩ := id
        obtain rfl : checksum = none := hnone
        rfl

/-! ### Names -/

theorem Spells.mem_address {address : List Char} {shard realm num : Nat}
    (haddress : Spells address shard realm num none) {c : Char} (hmem : c ∈ address) :
    c.isDigit = true ∨ c = '.' := by
  cases haddress with
  | plain hshard hrealm hnum =>
      simp only [List.mem_append, List.mem_cons] at hmem
      rcases hmem with hmem | rfl | hmem | rfl | hmem
      · exact .inl (hshard.isDigit_of_mem hmem)
      · exact .inr rfl
      · exact .inl (hrealm.isDigit_of_mem hmem)
      · exact .inr rfl
      · exact .inl (hnum.isDigit_of_mem hmem)

theorem Spells.dash_notMem {address : List Char} {shard realm num : Nat}
    (haddress : Spells address shard realm num none) : '-' ∉ address := by
  intro hmem
  exact absurd (haddress.mem_address hmem) (by decide)

theorem Spells.mem {chars : List Char} {shard realm num : Nat} {checksum : Option String}
    (hspells : Spells chars shard realm num checksum) {c : Char} (hmem : c ∈ chars) :
    c.isDigit = true ∨ c = '.' ∨ c = '-' ∨ c.isLower = true := by
  cases hspells with
  | plain hshard hrealm hnum =>
      rcases (Spells.plain hshard hrealm hnum).mem_address hmem with hdigit | hpoint
      · exact .inl hdigit
      · exact .inr (.inl hpoint)
  | checked haddress hchecksum =>
      rcases List.mem_append.mp hmem with hmem | hmem
      · rcases haddress.mem_address hmem with hdigit | hpoint
        · exact .inl hdigit
        · exact .inr (.inl hpoint)
      · rcases List.mem_cons.mp hmem with hdash | hmem
        · exact .inr (.inr (.inl hdash))
        · exact .inr (.inr (.inr (hchecksum.isLower _ hmem)))

theorem ofChars?_eq_some_iff {chars : List Char} {id : EntityId} :
    ofChars? chars = some id ↔
      Spells chars id.shard.toNat id.realm.toNat id.num.toNat id.checksum := by
  constructor
  · intro hread
    unfold ofChars? at hread
    split at hread
    next hsplit =>
      obtain ⟨hspells, hnone⟩ := address?_eq_some_iff.mp hread
      rwa [hnone]
    next address letters hsplit =>
      split at hread
      next hchecksum =>
        obtain ⟨bare, hbare, rfl⟩ := Option.map_eq_some_iff.mp hread
        rw [(Text.splitFirst_eq_some hsplit).1]
        exact .checked (address?_eq_some_iff.mp hbare).1 (isChecksumText_iff.mp hchecksum)
      next => cases hread
  · intro hspells
    obtain ⟨shard, realm, num, checksum⟩ := id
    cases hspells with
    | plain hshard hrealm hnum =>
        have haddress := Spells.plain hshard hrealm hnum
        rw [ofChars?, Text.splitFirst_eq_none_iff.mpr haddress.dash_notMem]
        exact address?_eq_some_iff.mpr ⟨haddress, rfl⟩
    | checked haddress hchecksum =>
        rw [ofChars?, Text.splitFirst_append haddress.dash_notMem]
        have hread : address? _ = some ⟨shard, realm, num, none⟩ :=
          address?_eq_some_iff.mpr ⟨haddress, rfl⟩
        simp only [if_pos (isChecksumText_iff.mpr hchecksum), hread]
        rfl

theorem toList_text (id : EntityId) :
    id.text.toList = Nat.toDigits 10 id.shard.toNat ++
      '.' :: (Nat.toDigits 10 id.realm.toNat ++ '.' :: Nat.toDigits 10 id.num.toNat) := by
  simp [text]

theorem spells_text (id : EntityId) :
    Spells id.text.toList id.shard.toNat id.realm.toNat id.num.toNat none := by
  rw [toList_text]
  exact .plain (Numeral.isDecimal_toDigits _) (Numeral.isDecimal_toDigits _)
    (Numeral.isDecimal_toDigits _)

theorem read_eq_ok_iff {text : String} {id : EntityId} :
    read text = .ok id ↔
      Spells text.toList id.shard.toNat id.realm.toNat id.num.toNat id.checksum := by
  rw [← ofChars?_eq_some_iff, read, ofText?]
  cases ofChars? text.toList <;> simp

/-- Reading takes exactly the texts of three numbers below 2^64, with a checksum or without, gives
those numbers and that checksum, and refuses every other text with an error that carries it. -/
theorem read_accepts_exactly (text : String) :
    (∀ id, read text = .ok id ↔
      Spells text.toList id.shard.toNat id.realm.toNat id.num.toNat id.checksum) ∧
    (read text = .error (.entityIdParse text) ↔
      ¬ ∃ shard realm num checksum, Spells text.toList shard realm num checksum ∧
        shard < 2 ^ 64 ∧ realm < 2 ^ 64 ∧ num < 2 ^ 64) := by
  refine ⟨fun id => read_eq_ok_iff, ?_⟩
  constructor
  · rintro hrefused ⟨shard, realm, num, checksum, hspells, hshard, hrealm, hnum⟩
    have hread : read text = .ok ⟨.ofNat shard, .ofNat realm, .ofNat num, checksum⟩ := by
      rw [read_eq_ok_iff, UInt64.toNat_ofNat_of_lt' hshard, UInt64.toNat_ofNat_of_lt' hrealm,
        UInt64.toNat_ofNat_of_lt' hnum]
      exact hspells
    rw [hread] at hrefused
    cases hrefused
  · intro hnone
    unfold read
    split
    next id hread =>
      refine absurd ?_ hnone
      exact ⟨_, _, _, _, ofChars?_eq_some_iff.mp hread, id.shard.toNat_lt, id.realm.toNat_lt,
        id.num.toNat_lt⟩
    next => rfl

example : read "007.0.10-dfkxr" = .ok ⟨7, 0, 10, some "dfkxr"⟩ := rfl

example : read "0.0.18446744073709551616" =
    .error (.entityIdParse "0.0.18446744073709551616") := rfl

end LedgerClient.EntityId
