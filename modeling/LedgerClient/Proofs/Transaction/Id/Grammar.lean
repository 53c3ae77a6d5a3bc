import LedgerClient.Proofs.Entity.Grammar
import LedgerClient.Proofs.Timestamp.Order
import LedgerClient.Transaction.Id

/-!
# Texts that name a transaction

A transaction is named by its account, a moment behind an at sign, the mark of a scheduled
transaction where it applies, and a nonce behind a slash, which may be left out when it is zero.
The moment has seconds, with one sign or none, and one to nine digits of a fraction; zeros behind
the fraction make it nanoseconds. Reading takes a text exactly when it has this form, its seconds
have 64 bits and its nonce has 32, and gives what it names; the refusal of any other text carries
the whole text.

Reading takes the nonce off before the mark. It can, since no moment holds a slash; and what
is left is no moment if it still ends in the mark, since no moment holds a letter.
-/

namespace LedgerClient.TransactionId

/-- One to nine digits, and the nanoseconds they stand for with zeros behind them. -/
structure IsFraction (digits : List Char) (nanos : Nat) : Prop where
  ne_nil : digits ≠ []
  length_le : digits.length ≤ 9
  isDecimal : Numeral.IsDecimal (digits ++ List.replicate (9 - digits.length) '0') nanos

/-- A signed numeral of seconds and a fraction with a point between them. -/
inductive IsMoment : List Char → Timestamp → Prop
  | mk {secondsText fraction : List Char} {seconds : Int64} {nanos : UInt32}
      (hseconds : Numeral.IsSigned secondsText seconds.toInt)
      (hfraction : IsFraction fraction nanos.toNat) :
      IsMoment (secondsText ++ '.' :: fraction) ⟨seconds, nanos⟩

/-- A signed numeral behind a slash, or nothing for zero. -/
inductive IsNonce : List Char → Int32 → Prop
  | absent : IsNonce [] 0
  | given {digits : List Char} {nonce : Int32} (hdigits : Numeral.IsSigned digits nonce.toInt) :
      IsNonce ('/' :: digits) nonce

/-- The mark of scheduled transactions, and nothing for others. -/
def markText (scheduled : Bool) : List Char := if scheduled then scheduledMark.toList else []

/-- An account, a moment, the mark where it applies, and a nonce. -/
inductive Spells : List Char → TransactionId → Prop
  | mk {accountText momentText nonceText : List Char} {account : AccountId}
      {validStart : Timestamp} {scheduled : Bool} {nonce : Int32}
      (haccount : EntityId.ofChars? accountText = some account)
      (hmoment : IsMoment momentText validStart) (hnonce : IsNonce nonceText nonce) :
      Spells (accountText ++ '@' :: (momentText ++ markText scheduled ++ nonceText))
        ⟨account, validStart, scheduled, nonce⟩

/-! ### Moments -/

theorem IsFraction.isDigit_of_mem {digits : List Char} {nanos : Nat}
    (hfraction : IsFraction digits nanos) {c : Char} (hmem : c ∈ digits) : c.isDigit = true :=
  hfraction.isDecimal.isDigit_of_mem (List.mem_append_left _ hmem)

theorem IsFraction.lt {digits : List Char} {nanos : Nat} (hfraction : IsFraction digits nanos) :
    nanos < 1000000000 := by
  have hlt := hfraction.isDecimal.lt
  have hlength : (digits ++ List.replicate (9 - digits.length) '0').length = 9 := by
    have hle := hfraction.length_le
    simp only [List.length_append, List.length_replicate]
    omega
  rwa [hlength] at hlt

theorem fraction?_eq_some_iff {digits : List Char} {nanos : UInt32} :
    fraction? digits = some nanos ↔ IsFraction digits nanos.toNat := by
  unfold fraction?
  constructor
  · intro hread
    split at hread
    next hle =>
      obtain ⟨n, hvalue, rfl⟩ := Option.map_eq_some_iff.mp hread
      have hdecimal := Numeral.natOf?_eq_some_iff.mp hvalue
      have hpadded := hdecimal.append_replicate (9 - digits.length)
      have hlt := hpadded.lt
      rw [List.length_append, List.length_replicate, Nat.add_sub_cancel' hle] at hlt
      refine ⟨hdecimal.ne_nil, hle, ?_⟩
      rwa [Nat.pow_eq, UInt32.toNat_ofNat_of_lt' (hlt.trans (by decide))]
    next => cases hread
  · intro hfraction
    have hdecimal := Numeral.isDecimal_ofDigitChars hfraction.ne_nil fun _ =>
      hfraction.isDigit_of_mem
    have hvalue := (hdecimal.append_replicate _).unique hfraction.isDecimal
    rw [if_pos hfraction.length_le, Numeral.natOf?_eq_some_iff.mpr hdecimal, Option.map_some,
      Nat.pow_eq, hvalue, UInt32.ofNat_toNat]

theorem IsMoment.isNormal {chars : List Char} {t : Timestamp} (hmoment : IsMoment chars t) :
    t.IsNormal := by
  cases hmoment with
  | mk hseconds hfraction => exact hfraction.lt

theorem IsMoment.mem {chars : List Char} {t : Timestamp} (hmoment : IsMoment chars t) {c : Char}
    (hmem : c ∈ chars) : c.isDigit = true ∨ c = '+' ∨ c = '-' ∨ c = '.' := by
  cases hmoment with
  | mk hseconds hfraction =>
      simp only [List.mem_append, List.mem_cons] at hmem
      rcases hmem with hmem | rfl | hmem
      · rcases hseconds.mem hmem with hdigit | rfl | rfl <;> simp [*]
      · simp
      · exact .inl (hfraction.isDigit_of_mem hmem)

theorem seconds_eq_some_iff {chars : List Char} {n : Int} :
    Numeral.signedBelow? (UInt64.size / 2) chars = some n ↔
      Numeral.IsSigned chars n ∧ (Int64.ofInt n).toInt = n := by
  rw [Numeral.signedBelow?_eq_some_iff_bmod (by decide), Int64.toInt_ofInt]
  rfl

theorem moment?_eq_some_iff {chars : List Char} {t : Timestamp} :
    moment? chars = some t ↔ IsMoment chars t := by
  simp only [moment?, Option.bind_eq_bind, Option.bind_eq_some_iff, Option.pure_def,
    Option.some.injEq]
  constructor
  · rintro ⟨⟨secondsText, fraction⟩, hsplit, nanos, hnanos, seconds, hseconds, rfl⟩
    obtain ⟨hsigned, hsame⟩ := seconds_eq_some_iff.mp hseconds
    have hfraction := fraction?_eq_some_iff.mp hnanos
    have hnormal : (Timestamp.mk (Int64.ofInt seconds) nanos).IsNormal := hfraction.lt
    rw [(Text.splitFirst_eq_some hsplit).1, Timestamp.normal, Timestamp.ofTotal_total hnormal]
    exact .mk (by rwa [hsame]) hfraction
  · intro hmoment
    have hnormal := hmoment.isNormal
    cases hmoment with
    | @mk secondsText fraction seconds nanos hseconds hfraction =>
        have hpoint : '.' ∉ secondsText := fun hmem => absurd (hseconds.mem hmem) (by decide)
        refine ⟨(secondsText, fraction), Text.splitFirst_append hpoint, nanos,
          fraction?_eq_some_iff.mpr hfraction, seconds.toInt, seconds_eq_some_iff.mpr ?_, ?_⟩
        · exact ⟨hseconds, by rw [Int64.ofInt_toInt]⟩
        · rw [Int64.ofInt_toInt, Timestamp.normal, Timestamp.ofTotal_total hnormal]

/-! ### Mark and nonce -/

theorem nonce_eq_some_iff {chars : List Char} {n : Int} :
    Numeral.signedBelow? (UInt32.size / 2) chars = some n ↔
      Numeral.IsSigned chars n ∧ (Int32.ofInt n).toInt = n := by
  rw [Numeral.signedBelow?_eq_some_iff_bmod (by decide), Int32.toInt_ofInt]
  rfl

theorem nonce?_eq_some_iff {chars before : List Char} {nonce : Int32} :
    nonce? chars = some (before, nonce) ↔
      ∃ nonceText, chars = before ++ nonceText ∧ '/' ∉ before ∧ IsNonce nonceText nonce := by
  unfold nonce?
  constructor
  · intro hread
    split at hread
    next hsplit =>
      obtain ⟨rfl, rfl⟩ := Prod.mk.inj (Option.some.inj hread)
      exact ⟨[], (List.append_nil _).symm, Text.splitFirst_eq_none_iff.mp hsplit, .absent⟩
    next front digits hsplit =>
      obtain ⟨n, hvalue, hpair⟩ := Option.map_eq_some_iff.mp hread
      obtain ⟨rfl, rfl⟩ := Prod.mk.inj hpair
      obtain ⟨hsigned, hsame⟩ := nonce_eq_some_iff.mp hvalue
      obtain ⟨hchars, hslash⟩ := Text.splitFirst_eq_some hsplit
      exact ⟨'/' :: digits, hchars, hslash, .given (by rwa [hsame])⟩
  · rintro ⟨nonceText, rfl, hslash, hnonce⟩
    cases hnonce with
    | absent => rw [List.append_nil, Text.splitFirst_eq_none_iff.mpr hslash]
    | given hdigits =>
        have hvalue := nonce_eq_some_iff.mpr ⟨hdigits, by rw [Int32.ofInt_toInt]⟩
        simp only [Text.splitFirst_append hslash, hvalue, Option.map_some, Int32.ofInt_toInt]

theorem scheduled?_eq_iff {chars before : List Char} {scheduled : Bool} (hletter : 'd' ∉ before) :
    scheduled? chars = (before, scheduled) ↔ before ++ markText scheduled = chars := by
  unfold scheduled?
  constructor
  · intro hread
    split at hread
    next front hdrop =>
      obtain ⟨rfl, rfl⟩ := Prod.mk.inj hread
      exact Text.dropEnding?_eq_some_iff.mp hdrop
    next =>
      obtain ⟨rfl, rfl⟩ := Prod.mk.inj hread
      exact List.append_nil _
  · rintro rfl
    cases scheduled with
    | true =>
        have hdrop : Text.dropEnding? scheduledMark.toList (before ++ markText true) =
            some before := Text.dropEnding?_eq_some_iff.mpr rfl
        rw [hdrop]
    | false =>
        rw [show markText false = [] from rfl, List.append_nil]
        cases hdrop : Text.dropEnding? scheduledMark.toList before with
        | none => rfl
        | some front =>
            rw [← Text.dropEnding?_eq_some_iff.mp hdrop] at hletter
            exact absurd (List.mem_append_right _ (by decide)) hletter

/-! ### Names -/

theorem Spells.isNormal {chars : List Char} {id : TransactionId} (hspells : Spells chars id) :
    id.validStart.IsNormal := by
  cases hspells with
  | mk haccount hmoment hnonce => exact hmoment.isNormal

theorem IsMoment.notMem {chars : List Char} {t : Timestamp} (hmoment : IsMoment chars t) {c : Char}
    (hother : ¬ (c.isDigit = true ∨ c = '+' ∨ c = '-' ∨ c = '.')) : c ∉ chars :=
  fun hmem => hother (hmoment.mem hmem)

theorem slash_notMem_markText (scheduled : Bool) : '/' ∉ markText scheduled := by
  cases scheduled <;> decide

theorem ofChars?_eq_some_iff {chars : List Char} {id : TransactionId} :
    ofChars? chars = some id ↔ Spells chars id := by
  simp only [ofChars?, Option.bind_eq_bind, Option.bind_eq_some_iff, Option.pure_def,
    Option.some.injEq]
  constructor
  · rintro ⟨⟨accountText, behind⟩, hsplit, account, haccount, ⟨rest, nonce⟩, hnonce, validStart,
      hmoment, rfl⟩
    dsimp only at haccount hnonce hmoment ⊢
    rw [moment?_eq_some_iff] at hmoment
    obtain ⟨nonceText, hbehind, _, hnonce⟩ := nonce?_eq_some_iff.mp hnonce
    have hmark : (scheduled? rest).1 ++ markText (scheduled? rest).2 = rest :=
      (scheduled?_eq_iff (hmoment.notMem (by decide))).mp rfl
    have hspells : Spells _ ⟨account, validStart, (scheduled? rest).2, nonce⟩ :=
      .mk haccount hmoment hnonce
    rwa [hmark, ← hbehind, ← (Text.splitFirst_eq_some hsplit).1] at hspells
  · intro hspells
    cases hspells with
    | @mk accountText momentText nonceText account validStart scheduled nonce haccount hmoment
        hnonce =>
        have hat : '@' ∉ accountText := fun hmem =>
          absurd ((EntityId.ofChars?_eq_some_iff.mp haccount).mem hmem) (by decide)
        have hslash : '/' ∉ momentText ++ markText scheduled := by
          rw [List.mem_append, not_or]
          exact ⟨hmoment.notMem (by decide), slash_notMem_markText scheduled⟩
        have hmark : scheduled? (momentText ++ markText scheduled) = (momentText, scheduled) :=
          (scheduled?_eq_iff (hmoment.notMem (by decide))).mpr rfl
        refine ⟨_, Text.splitFirst_append hat, account, haccount,
          (momentText ++ markText scheduled, nonce), ?_, validStart, ?_, ?_⟩
        · exact nonce?_eq_some_iff.mpr ⟨nonceText, rfl, hslash, hnonce⟩
        · rw [hmark]
          exact moment?_eq_some_iff.mpr hmoment
        · rw [hmark]

theorem read_eq_ok_iff {text : String} {id : TransactionId} :
    read text = .ok id ↔ Spells text.toList id := by
  rw [← ofChars?_eq_some_iff, read, ofText?]
  cases ofChars? text.toList <;> simp

/-! ### The form alone -/

/-- Nothing, or a signed numeral of 32 bits behind a slash. -/
inductive HasNonceForm : List Char → Prop
  | absent : HasNonceForm []
  | given {digits : List Char} {n : Int} (hdigits : Numeral.IsSigned digits n)
      (hlow : -2 ^ 31 ≤ n) (hhigh : n < 2 ^ 31) : HasNonceForm ('/' :: digits)

/-- An account that is read, seconds of 64 bits, one to nine digits, the mark or not, and a nonce
or none. -/
inductive HasForm : List Char → Prop
  | mk {accountText secondsText fraction nonceText : List Char} {account : AccountId}
      {seconds : Int} (scheduled : Bool)
      (haccount : EntityId.read (String.ofList accountText) = .ok account)
      (hseconds : Numeral.IsSigned secondsText seconds) (hlow : -2 ^ 63 ≤ seconds)
      (hhigh : seconds < 2 ^ 63) (hne : fraction ≠ []) (hlength : fraction.length ≤ 9)
      (hdigits : ∀ c ∈ fraction, c.isDigit = true) (hnonce : HasNonceForm nonceText) :
      HasForm (accountText ++
        '@' :: (secondsText ++ '.' :: fraction ++ markText scheduled ++ nonceText))

theorem read_account_eq_ok_iff {accountText : List Char} {account : AccountId} :
    EntityId.read (String.ofList accountText) = .ok account ↔
      EntityId.ofChars? accountText = some account := by
  rw [EntityId.read_eq_ok_iff, String.toList_ofList, EntityId.ofChars?_eq_some_iff]

theorem hasNonceForm_iff {chars : List Char} :
    HasNonceForm chars ↔ ∃ nonce, IsNonce chars nonce := by
  constructor
  · intro hform
    cases hform with
    | absent => exact ⟨0, .absent⟩
    | @given digits n hdigits hlow hhigh =>
        have hsame : (Int32.ofInt n).toInt = n := Int32.toInt_ofInt_of_le hlow hhigh
        exact ⟨Int32.ofInt n, .given (by rwa [hsame])⟩
  · rintro ⟨nonce, hnonce⟩
    cases hnonce with
    | absent => exact .absent
    | given hdigits => exact .given hdigits nonce.le_toInt nonce.toInt_lt

/-- One to nine digits are some number of nanoseconds. -/
theorem exists_isFraction {digits : List Char} (hne : digits ≠ []) (hlength : digits.length ≤ 9)
    (hdigits : ∀ c ∈ digits, c.isDigit = true) :
    ∃ nanos : UInt32, IsFraction digits nanos.toNat := by
  have hvalue := Numeral.natOf?_eq_some_iff.mpr (Numeral.isDecimal_ofDigitChars hne hdigits)
  have hread : (fraction? digits).isSome = true := by
    rw [fraction?, if_pos hlength, hvalue, Option.map_some, Option.isSome_some]
  obtain ⟨nanos, hnanos⟩ := Option.isSome_iff_exists.mp hread
  exact ⟨nanos, fraction?_eq_some_iff.mp hnanos⟩

theorem hasForm_iff {chars : List Char} : HasForm chars ↔ ∃ id, Spells chars id := by
  constructor
  · intro hform
    cases hform with
    | @mk accountText secondsText fraction nonceText account seconds scheduled haccount hseconds
        hlow hhigh hne hlength hdigits hnonce =>
        obtain ⟨nanos, hfraction⟩ := exists_isFraction hne hlength hdigits
        obtain ⟨nonce, hnonce⟩ := hasNonceForm_iff.mp hnonce
        have hsame : (Int64.ofInt seconds).toInt = seconds := Int64.toInt_ofInt_of_le hlow hhigh
        have hmoment : IsMoment (secondsText ++ '.' :: fraction) ⟨Int64.ofInt seconds, nanos⟩ :=
          .mk (by rwa [hsame]) hfraction
        exact ⟨_, .mk (read_account_eq_ok_iff.mp haccount) hmoment hnonce⟩
  · rintro ⟨id, hspells⟩
    cases hspells with
    | @mk accountText momentText nonceText account validStart scheduled nonce haccount hmoment
        hnonce =>
        cases hmoment with
        | @mk secondsText fraction seconds nanos hseconds hfraction =>
            exact .mk scheduled (read_account_eq_ok_iff.mpr haccount) hseconds seconds.le_toInt
              seconds.toInt_lt hfraction.ne_nil hfraction.length_le
              (fun _ => hfraction.isDigit_of_mem) (hasNonceForm_iff.mpr ⟨nonce, hnonce⟩)

theorem read_eq_error_iff {text : String} :
    read text = .error (.transactionIdParse text) ↔ ∀ id, read text ≠ .ok id := by
  unfold read
  cases ofText? text <;> simp

/-- Reading takes exactly the texts of the form and gives what they name, the nanoseconds being the
fraction with zeros behind it up to nine digits; it refuses every other text with an error that
carries it. -/
theorem names_are_read_exactly (text : String) :
    (∀ id, read text = .ok id ↔ Spells text.toList id) ∧
    ((∃ id, read text = .ok id) ↔ HasForm text.toList) ∧
    (read text = .error (.transactionIdParse text) ↔ ¬ HasForm text.toList) := by
  have htaken : (∃ id, read text = .ok id) ↔ HasForm text.toList := by
    rw [hasForm_iff]
    exact exists_congr fun _ => read_eq_ok_iff
  refine ⟨fun _ => read_eq_ok_iff, htaken, ?_⟩
  rw [read_eq_error_iff, ← htaken, not_exists]

example : read "0.0.2@+01.5?scheduled/-3" =
    .ok ⟨⟨0, 0, 2, none⟩, ⟨1, 500000000⟩, true, -3⟩ := rfl

example : read "0.0.2@1.5/3?scheduled" = .error (.transactionIdParse "0.0.2@1.5/3?scheduled") := rfl

end LedgerClient.TransactionId
