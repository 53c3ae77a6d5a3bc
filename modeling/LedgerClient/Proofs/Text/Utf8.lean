import LedgerClient.Text.Utf8

/-!
# Texts read back

A text is read back from its octets, and from no other octets. Each character falls
into one of four ranges, and its octets pass just the checks that are made of that
range.
-/

namespace LedgerClient.Utf8

theorem toNat_octet {marker n : Nat} (hbyte : marker + n < 256) :
    (octet marker n).toNat = marker + n := by
  unfold octet
  exact UInt8.toNat_ofNat_of_lt' hbyte

theorem octet_lt_iff {marker n : Nat} (hbyte : marker + n < 256) (bound : UInt8) :
    octet marker n < bound ↔ marker + n < bound.toNat := by
  rw [UInt8.lt_iff_toNat_lt, toNat_octet hbyte]

theorem octet_between_iff {marker n : Nat} (hbyte : marker + n < 256) (least most : UInt8) :
    (least ≤ octet marker n && octet marker n ≤ most) = true ↔
      least.toNat ≤ marker + n ∧ marker + n ≤ most.toNat := by
  simp only [Bool.and_eq_true, decide_eq_true_eq, UInt8.le_iff_toNat_le, toNat_octet hbyte]

theorem continues_octet {n : Nat} (hlow : n < 64) : continues (octet 0x80 n) = true := by
  refine (octet_between_iff (by omega) 0x80 0xBF).mpr ?_
  simp only [UInt8.reduceToNat]
  omega

theorem low_octet {n : Nat} (hlow : n < 64) : low (octet 0x80 n) = n := by
  rw [low, toNat_octet (by omega)]
  omega

theorem mod_sixtyFour_lt (n : Nat) : n % 64 < 64 := Nat.mod_lt n (by decide)

theorem decodeFrom_one (index : Nat) {n : Nat} (hone : n < 0x80) (rest : Bytes) :
    decodeFrom index (octet 0 n :: rest) =
      (decodeFrom (index + 1) rest).map (Char.ofNat n :: ·) := by
  have hfirst : (octet 0 n).toNat = n := (toNat_octet (by omega)).trans (Nat.zero_add n)
  have hsmall : octet 0 n < 0x80 := by
    rw [UInt8.lt_iff_toNat_lt, hfirst]
    exact hone
  rw [decodeFrom.eq_def]
  simp only [if_pos hsmall, hfirst]

theorem decodeFrom_two (index : Nat) {n : Nat} (hone : ¬ n < 0x80) (htwo : n < 0x800)
    (rest : Bytes) :
    decodeFrom index (octet 0xC0 (n / 64) :: octet 0x80 (n % 64) :: rest) =
      (decodeFrom (index + 2) rest).map (Char.ofNat n :: ·) := by
  have hbyte : 0xC0 + n / 64 < 256 := by omega
  have hlarge : ¬ octet 0xC0 (n / 64) < 0x80 := by
    rw [octet_lt_iff hbyte]
    simp only [UInt8.reduceToNat]
    omega
  have hlead : (0xC2 ≤ octet 0xC0 (n / 64) && octet 0xC0 (n / 64) ≤ 0xDF) = true := by
    rw [octet_between_iff hbyte]
    simp only [UInt8.reduceToNat]
    omega
  have hvalue : (0xC0 + n / 64) % 32 * 64 + n % 64 = n := by omega
  rw [decodeFrom.eq_def]
  simp only [if_neg hlarge, if_pos hlead, continues_octet (mod_sixtyFour_lt _), if_pos,
    toNat_octet hbyte, low_octet (mod_sixtyFour_lt _), hvalue]

theorem continuesThree_octet {n : Nat} (htwo : ¬ n < 0x800) (hthree : n < 0x10000)
    (hrange : n < 0xD800 ∨ 0xDFFF < n) :
    continuesThree (octet 0xE0 (n / 4096)) (octet 0x80 (n / 64 % 64)) = true := by
  have hfirst : (octet 0xE0 (n / 4096)).toNat = 0xE0 + n / 4096 := toNat_octet (by omega)
  unfold continuesThree
  split
  next hleast =>
    -- Fewer octets would do for a second one that is smaller.
    have hhigh := congrArg UInt8.toNat hleast
    simp only [hfirst, UInt8.reduceToNat] at hhigh
    refine (octet_between_iff (by omega) 0xA0 0xBF).mpr ?_
    simp only [UInt8.reduceToNat]
    omega
  next =>
    split
    next hsurrogate =>
      -- A larger second octet would make a surrogate.
      have hhigh := congrArg UInt8.toNat hsurrogate
      simp only [hfirst, UInt8.reduceToNat] at hhigh
      refine (octet_between_iff (by omega) 0x80 0x9F).mpr ?_
      simp only [UInt8.reduceToNat]
      omega
    next => exact continues_octet (mod_sixtyFour_lt _)

theorem decodeFrom_three (index : Nat) {n : Nat} (htwo : ¬ n < 0x800) (hthree : n < 0x10000)
    (hrange : n < 0xD800 ∨ 0xDFFF < n) (rest : Bytes) :
    decodeFrom index (octet 0xE0 (n / 4096) :: octet 0x80 (n / 64 % 64) ::
        octet 0x80 (n % 64) :: rest) =
      (decodeFrom (index + 3) rest).map (Char.ofNat n :: ·) := by
  have hbyte : 0xE0 + n / 4096 < 256 := by omega
  have hlarge : ¬ octet 0xE0 (n / 4096) < 0x80 := by
    rw [octet_lt_iff hbyte]
    simp only [UInt8.reduceToNat]
    omega
  have hnotTwo : ¬ (0xC2 ≤ octet 0xE0 (n / 4096) && octet 0xE0 (n / 4096) ≤ 0xDF) = true := by
    rw [octet_between_iff hbyte]
    simp only [UInt8.reduceToNat]
    omega
  have hlead : (0xE0 ≤ octet 0xE0 (n / 4096) && octet 0xE0 (n / 4096) ≤ 0xEF) = true := by
    rw [octet_between_iff hbyte]
    simp only [UInt8.reduceToNat]
    omega
  have hvalue : (0xE0 + n / 4096) % 16 * 4096 + n / 64 % 64 * 64 + n % 64 = n := by omega
  rw [decodeFrom.eq_def]
  simp only [if_neg hlarge, if_neg hnotTwo, if_pos hlead,
    continuesThree_octet htwo hthree hrange, continues_octet (mod_sixtyFour_lt _), if_pos,
    toNat_octet hbyte, low_octet (mod_sixtyFour_lt _), hvalue]

theorem continuesFour_octet {n : Nat} (hthree : ¬ n < 0x10000) (hfour : n < 0x110000) :
    continuesFour (octet 0xF0 (n / 262144)) (octet 0x80 (n / 4096 % 64)) = true := by
  have hfirst : (octet 0xF0 (n / 262144)).toNat = 0xF0 + n / 262144 := toNat_octet (by omega)
  unfold continuesFour
  split
  next hleast =>
    -- Three octets would do for a second one that is smaller.
    have hhigh := congrArg UInt8.toNat hleast
    simp only [hfirst, UInt8.reduceToNat] at hhigh
    refine (octet_between_iff (by omega) 0x90 0xBF).mpr ?_
    simp only [UInt8.reduceToNat]
    omega
  next =>
    split
    next hmost =>
      -- There are no characters beyond a second octet that is larger.
      have hhigh := congrArg UInt8.toNat hmost
      simp only [hfirst, UInt8.reduceToNat] at hhigh
      refine (octet_between_iff (by omega) 0x80 0x8F).mpr ?_
      simp only [UInt8.reduceToNat]
      omega
    next => exact continues_octet (mod_sixtyFour_lt _)

theorem decodeFrom_four (index : Nat) {n : Nat} (hthree : ¬ n < 0x10000) (hfour : n < 0x110000)
    (rest : Bytes) :
    decodeFrom index (octet 0xF0 (n / 262144) :: octet 0x80 (n / 4096 % 64) ::
        octet 0x80 (n / 64 % 64) :: octet 0x80 (n % 64) :: rest) =
      (decodeFrom (index + 4) rest).map (Char.ofNat n :: ·) := by
  have hbyte : 0xF0 + n / 262144 < 256 := by omega
  have hlarge : ¬ octet 0xF0 (n / 262144) < 0x80 := by
    rw [octet_lt_iff hbyte]
    simp only [UInt8.reduceToNat]
    omega
  have hnotTwo :
      ¬ (0xC2 ≤ octet 0xF0 (n / 262144) && octet 0xF0 (n / 262144) ≤ 0xDF) = true := by
    rw [octet_between_iff hbyte]
    simp only [UInt8.reduceToNat]
    omega
  have hnotThree :
      ¬ (0xE0 ≤ octet 0xF0 (n / 262144) && octet 0xF0 (n / 262144) ≤ 0xEF) = true := by
    rw [octet_between_iff hbyte]
    simp only [UInt8.reduceToNat]
    omega
  have hlead : (0xF0 ≤ octet 0xF0 (n / 262144) && octet 0xF0 (n / 262144) ≤ 0xF4) = true := by
    rw [octet_between_iff hbyte]
    simp only [UInt8.reduceToNat]
    omega
  have hvalue : (0xF0 + n / 262144) % 8 * 262144 + n / 4096 % 64 * 4096 + n / 64 % 64 * 64 +
      n % 64 = n := by omega
  rw [decodeFrom.eq_def]
  simp only [if_neg hlarge, if_neg hnotTwo, if_neg hnotThree, if_pos hlead,
    continuesFour_octet hthree hfour, continues_octet (mod_sixtyFour_lt _), if_pos,
    toNat_octet hbyte, low_octet (mod_sixtyFour_lt _), hvalue]

/-- The octets of a character are read as the character, whatever follows them. -/
theorem decodeFrom_encodeChar (index : Nat) (c : Char) (rest : Bytes) :
    decodeFrom index (encodeChar c ++ rest) =
      (decodeFrom (index + (encodeChar c).length) rest).map (c :: ·) := by
  have hrange : c.toNat < 0xD800 ∨ (0xDFFF < c.toNat ∧ c.toNat < 0x110000) := c.valid
  have hback : Char.ofNat c.toNat = c := Char.ofNat_toNat c
  simp only [encodeChar]
  generalize c.toNat = n at hrange hback ⊢
  subst hback
  by_cases hone : n < 0x80
  · simp only [if_pos hone]
    exact decodeFrom_one index hone rest
  by_cases htwo : n < 0x800
  · simp only [if_neg hone, if_pos htwo]
    exact decodeFrom_two index hone htwo rest
  by_cases hthree : n < 0x10000
  · simp only [if_neg hone, if_neg htwo, if_pos hthree]
    exact decodeFrom_three index htwo hthree (by omega) rest
  · simp only [if_neg hone, if_neg htwo, if_neg hthree]
    exact decodeFrom_four index hthree (by omega) rest

theorem decodeFrom_flatMap (index : Nat) (chars : List Char) :
    decodeFrom index (chars.flatMap encodeChar) = .ok chars := by
  induction chars generalizing index with
  | nil => simp [decodeFrom]
  | cons c rest ih =>
      rw [List.flatMap_cons, decodeFrom_encodeChar, ih]
      rfl

/-- A text is read back from its octets. -/
theorem decode_encode (text : String) : decode (encode text) = .ok text := by
  unfold decode encode
  rw [decodeFrom_flatMap]
  exact congrArg Except.ok String.ofList_toList

/-! ### The one way to write a text -/

theorem octet_eq_iff {marker n : Nat} (hbyte : marker + n < 256) {b : UInt8} :
    octet marker n = b ↔ marker + n = b.toNat := by
  rw [← UInt8.toNat_inj, toNat_octet hbyte]

theorem between_iff {least b most : UInt8} :
    (least ≤ b && b ≤ most) = true ↔ least.toNat ≤ b.toNat ∧ b.toNat ≤ most.toNat := by
  simp only [Bool.and_eq_true, decide_eq_true_eq, UInt8.le_iff_toNat_le]

theorem toNat_ofNat {n : Nat} (hvalid : n < 0xD800 ∨ 0xDFFF < n ∧ n < 0x110000) :
    (Char.ofNat n).toNat = n := by
  unfold Char.ofNat
  rw [dif_pos hvalid]
  rfl

/-- A second octet is bounded on one more side behind the least and behind the greatest of the first
ones. -/
theorem bounds_of_narrowed {a b first last least most : UInt8} (hne : first ≠ last)
    (hleast : 0x80 ≤ least.toNat) (hmost : most.toNat ≤ 0xBF)
    (hab : (if a = first then least ≤ b && b ≤ 0xBF
      else if a = last then 0x80 ≤ b && b ≤ most else continues b) = true) :
    0x80 ≤ b.toNat ∧ b.toNat ≤ 0xBF ∧ (a = first → least.toNat ≤ b.toNat) ∧
      (a = last → b.toNat ≤ most.toNat) := by
  split at hab
  next hfirst =>
    have hbounds := between_iff.mp hab
    simp only [UInt8.reduceToNat] at hbounds
    have hlast : a ≠ last := hfirst ▸ hne
    exact ⟨by omega, hbounds.2, fun _ => hbounds.1, fun heq => absurd heq hlast⟩
  next hfirst =>
    split at hab
    next hlast =>
      have hbounds := between_iff.mp hab
      simp only [UInt8.reduceToNat] at hbounds
      exact ⟨hbounds.1, by omega, fun heq => absurd heq hfirst, fun _ => hbounds.2⟩
    next hlast =>
      have hbounds := between_iff.mp hab
      exact ⟨hbounds.1, hbounds.2, fun heq => absurd heq hfirst, fun heq => absurd heq hlast⟩

theorem continuesThree_bounds {a b : UInt8} (hab : continuesThree a b = true) :
    0x80 ≤ b.toNat ∧ b.toNat ≤ 0xBF ∧ (a.toNat = 0xE0 → 0xA0 ≤ b.toNat) ∧
      (a.toNat = 0xED → b.toNat ≤ 0x9F) := by
  have hbounds := bounds_of_narrowed (by decide) (by decide) (by decide) hab
  simpa only [← UInt8.toNat_inj, UInt8.reduceToNat] using hbounds

theorem continuesFour_bounds {a b : UInt8} (hab : continuesFour a b = true) :
    0x80 ≤ b.toNat ∧ b.toNat ≤ 0xBF ∧ (a.toNat = 0xF0 → 0x90 ≤ b.toNat) ∧
      (a.toNat = 0xF4 → b.toNat ≤ 0x8F) := by
  have hbounds := bounds_of_narrowed (by decide) (by decide) (by decide) hab
  simpa only [← UInt8.toNat_inj, UInt8.reduceToNat] using hbounds

theorem encodeChar_one {a : UInt8} (ha : a < 0x80) : encodeChar (Char.ofNat a.toNat) = [a] := by
  have hsmall : a.toNat < 0x80 := UInt8.lt_iff_toNat_lt.mp ha
  have hvalue : (Char.ofNat a.toNat).toNat = a.toNat := toNat_ofNat (by omega)
  simp only [encodeChar, hvalue, if_pos hsmall]
  rw [(octet_eq_iff (by omega)).mpr (Nat.zero_add _)]

theorem encodeChar_two {a b : UInt8} (ha : (0xC2 ≤ a && a ≤ 0xDF) = true)
    (hb : continues b = true) :
    encodeChar (Char.ofNat (a.toNat % 32 * 64 + low b)) = [a, b] := by
  have hfirst := between_iff.mp ha
  have hsecond := between_iff.mp hb
  simp only [UInt8.reduceToNat] at hfirst hsecond
  unfold low
  obtain ⟨n, hn⟩ : ∃ n, n = a.toNat % 32 * 64 + b.toNat % 64 := ⟨_, rfl⟩
  rw [← hn]
  have hvalue : (Char.ofNat n).toNat = n := toNat_ofNat (by omega)
  have hone : ¬ n < 0x80 := by omega
  have htwo : n < 0x800 := by omega
  simp only [encodeChar, hvalue, if_neg hone, if_pos htwo]
  have ha : octet 0xC0 (n / 64) = a := (octet_eq_iff (by omega)).mpr (by omega)
  have hb : octet 0x80 (n % 64) = b := (octet_eq_iff (by omega)).mpr (by omega)
  rw [ha, hb]

theorem encodeChar_three {a b c : UInt8} (ha : (0xE0 ≤ a && a ≤ 0xEF) = true)
    (hb : continuesThree a b = true) (hc : continues c = true) :
    encodeChar (Char.ofNat (a.toNat % 16 * 4096 + low b * 64 + low c)) = [a, b, c] := by
  have hfirst := between_iff.mp ha
  have hsecond := continuesThree_bounds hb
  have hthird := between_iff.mp hc
  simp only [UInt8.reduceToNat] at hfirst hthird
  unfold low
  obtain ⟨n, hn⟩ : ∃ n, n = a.toNat % 16 * 4096 + b.toNat % 64 * 64 + c.toNat % 64 := ⟨_, rfl⟩
  rw [← hn]
  have hvalue : (Char.ofNat n).toNat = n := toNat_ofNat (by omega)
  have hone : ¬ n < 0x80 := by omega
  have htwo : ¬ n < 0x800 := by omega
  have hthree : n < 0x10000 := by omega
  simp only [encodeChar, hvalue, if_neg hone, if_neg htwo, if_pos hthree]
  have ha : octet 0xE0 (n / 4096) = a := (octet_eq_iff (by omega)).mpr (by omega)
  have hb : octet 0x80 (n / 64 % 64) = b := (octet_eq_iff (by omega)).mpr (by omega)
  have hc : octet 0x80 (n % 64) = c := (octet_eq_iff (by omega)).mpr (by omega)
  rw [ha, hb, hc]

theorem encodeChar_four {a b c d : UInt8} (ha : (0xF0 ≤ a && a ≤ 0xF4) = true)
    (hb : continuesFour a b = true) (hc : continues c = true) (hd : continues d = true) :
    encodeChar (Char.ofNat (a.toNat % 8 * 262144 + low b * 4096 + low c * 64 + low d)) =
      [a, b, c, d] := by
  have hfirst := between_iff.mp ha
  have hsecond := continuesFour_bounds hb
  have hthird := between_iff.mp hc
  have hfourth := between_iff.mp hd
  simp only [UInt8.reduceToNat] at hfirst hthird hfourth
  unfold low
  obtain ⟨n, hn⟩ : ∃ n, n = a.toNat % 8 * 262144 + b.toNat % 64 * 4096 + c.toNat % 64 * 64 +
    d.toNat % 64 := ⟨_, rfl⟩
  rw [← hn]
  have hvalue : (Char.ofNat n).toNat = n := toNat_ofNat (by omega)
  have hone : ¬ n < 0x80 := by omega
  have htwo : ¬ n < 0x800 := by omega
  have hthree : ¬ n < 0x10000 := by omega
  simp only [encodeChar, hvalue, if_neg hone, if_neg htwo, if_neg hthree]
  have ha : octet 0xF0 (n / 262144) = a := (octet_eq_iff (by omega)).mpr (by omega)
  have hb : octet 0x80 (n / 4096 % 64) = b := (octet_eq_iff (by omega)).mpr (by omega)
  have hc : octet 0x80 (n / 64 % 64) = c := (octet_eq_iff (by omega)).mpr (by omega)
  have hd : octet 0x80 (n % 64) = d := (octet_eq_iff (by omega)).mpr (by omega)
  rw [ha, hb, hc, hd]

/-- One more character in front of characters that are read from the octets behind it. -/
theorem flatMap_encodeChar_cons {c : Char} {octets rest : Bytes} {chars : List Char}
    {read : Except Fault (List Char)} (hc : encodeChar c = octets)
    (hrest : ∀ {others : List Char}, read = .ok others → others.flatMap encodeChar = rest)
    (hread : read.map (c :: ·) = .ok chars) : chars.flatMap encodeChar = octets ++ rest := by
  cases read with
  | error fault => cases hread
  | ok others =>
      cases hread
      rw [List.flatMap_cons, hc, hrest rfl]

/-- Octets that are read as characters are the octets of these characters. -/
theorem flatMap_encodeChar_of_decodeFrom {index : Nat} {bytes : Bytes} {chars : List Char}
    (hdecode : decodeFrom index bytes = .ok chars) : chars.flatMap encodeChar = bytes := by
  fun_induction decodeFrom index bytes generalizing chars with
  | case1 =>
      cases hdecode
      rfl
  | case2 _ _ _ ha ih => exact flatMap_encodeChar_cons (encodeChar_one ha) ih hdecode
  | case4 _ _ _ ha _ _ hb ih =>
      exact flatMap_encodeChar_cons (encodeChar_two ha hb) ih hdecode
  | case8 _ _ _ _ ha _ hb _ _ hc ih =>
      exact flatMap_encodeChar_cons (encodeChar_three ha hb hc) ih hdecode
  | case14 _ _ _ _ _ ha _ hb _ hc _ _ hd ih =>
      exact flatMap_encodeChar_cons (encodeChar_four ha hb hc hd) ih hdecode
  -- All other ways to read end in a fault.
  | _ => cases hdecode

/-- A text has no other octets than those it is written as. -/
theorem encode_of_decode {octets : Bytes} {text : String} (hdecode : decode octets = .ok text) :
    encode text = octets := by
  unfold decode at hdecode
  cases hchars : decodeFrom 0 octets with
  | error fault =>
      rw [hchars] at hdecode
      cases hdecode
  | ok chars =>
      rw [hchars] at hdecode
      cases hdecode
      unfold encode
      rw [String.toList_ofList]
      exact flatMap_encodeChar_of_decodeFrom hchars

end LedgerClient.Utf8
