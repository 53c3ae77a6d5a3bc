import LedgerClient.Proofs.Entity.RoundTrip
import LedgerClient.Proofs.Transaction.Id.Grammar

/-!
# Names of transactions read back

The text of an identifier is a name of it as long as its moment is normal: seconds with the sign
they have, a fraction of nine digits, the mark where it applies, and a nonce other than zero. What
is read from a name has a normal moment, so its own text reads back to it, and is the one form
that all texts which are read alike are printed in.
-/

namespace LedgerClient.TransactionId

theorem isFraction_padded {nanos : Nat} (hfits : nanos < 1000000000) :
    IsFraction (Numeral.padded 9 nanos) nanos := by
  have hlength : (Numeral.padded 9 nanos).length = 9 := Numeral.length_padded (by decide) hfits
  refine ⟨?_, hlength.le, ?_⟩
  · intro hnil
    rw [hnil] at hlength
    cases hlength
  · rw [hlength, Nat.sub_self, List.replicate_zero, List.append_nil]
    exact Numeral.isDecimal_padded 9 nanos

theorem isMoment_text {t : Timestamp} (hnormal : t.IsNormal) : IsMoment t.text.toList t := by
  have htext : t.text.toList =
      (toString t.seconds.toInt).toList ++ '.' :: Numeral.padded 9 t.nanos.toNat := by
    simp [Timestamp.text]
  rw [htext]
  exact .mk (Numeral.isSigned_toString _) (isFraction_padded hnormal)

/-- The text of a nonce. -/
def nonceText (nonce : Int32) : List Char :=
  if nonce ≠ 0 then '/' :: (toString nonce.toInt).toList else []

theorem isNonce_nonceText (nonce : Int32) : IsNonce (nonceText nonce) nonce := by
  unfold nonceText
  split
  next => exact .given (Numeral.isSigned_toString _)
  next hzero =>
    rw [not_not.mp hzero]
    exact .absent

theorem toList_text (id : TransactionId) :
    id.text.toList = id.account.text.toList ++
      '@' :: (id.validStart.text.toList ++ markText id.scheduled ++ nonceText id.nonce) := by
  have hmark : (if id.scheduled then scheduledMark else "").toList = markText id.scheduled := by
    cases id.scheduled <;> rfl
  have hnonce : (if id.nonce ≠ 0 then "/" ++ toString id.nonce.toInt else "").toList =
      nonceText id.nonce := by
    unfold nonceText
    split <;> simp
  simp only [text, String.toList_append, hmark, hnonce]
  simp

theorem spells_text {id : TransactionId} (hnormal : id.validStart.IsNormal) :
    Spells id.text.toList { id with account := id.account.bare } := by
  rw [toList_text]
  exact .mk (EntityId.ofChars?_eq_some_iff.mpr id.account.spells_text) (isMoment_text hnormal)
    (isNonce_nonceText id.nonce)

theorem read_text {id : TransactionId} (hnormal : id.validStart.IsNormal) :
    read id.text = .ok { id with account := id.account.bare } :=
  read_eq_ok_iff.mpr (spells_text hnormal)

theorem bare_beq (id : TransactionId) : ({ id with account := id.account.bare } == id) = true := by
  obtain ⟨account, validStart, scheduled, nonce⟩ := id
  have haccount : (account.bare == account) = true := EntityId.beq_iff.mpr rfl
  show (account.bare == account &&
    (validStart == validStart && (scheduled == scheduled && nonce == nonce))) = true
  simp [haccount]

/-- An identifier whose moment is normal reads back from its text to an equal one. What is read
from any text has a normal moment and reads back in the same way, and what it reads back to has
the same text. -/
theorem transaction_ids_read_back :
    (∀ id : TransactionId, id.validStart.IsNormal →
      ∃ again, read id.text = .ok again ∧ (again == id) = true) ∧
    ∀ (text : String) (id : TransactionId), read text = .ok id →
      id.validStart.IsNormal ∧
        ∃ again, read id.text = .ok again ∧ (again == id) = true ∧ again.text = id.text := by
  constructor
  · intro id hnormal
    exact ⟨_, read_text hnormal, id.bare_beq⟩
  · intro text id hread
    have hnormal := (read_eq_ok_iff.mp hread).isNormal
    exact ⟨hnormal, _, read_text hnormal, id.bare_beq, rfl⟩

theorem transaction_ids_read_back_at_limits :
    ((Timestamp.mk Int64.minValue 999999999).IsNormal ∧
      ∃ again,
        read "0.0.5005@-9223372036854775808.999999999?scheduled/-2147483648" = .ok again ∧
        (again == ⟨.ofNum 5005, ⟨Int64.minValue, 999999999⟩, true, Int32.minValue⟩) = true) ∧
    read "00.0.2-abcde@-0.5?scheduled/+3" =
        .ok ⟨⟨0, 0, 2, some "abcde"⟩, ⟨0, 500000000⟩, true, 3⟩ ∧
      ∃ again, read "0.0.2@0.500000000?scheduled/3" = .ok again ∧
        (again == ⟨⟨0, 0, 2, some "abcde"⟩, ⟨0, 500000000⟩, true, 3⟩) = true ∧
        again.text = "0.0.2@0.500000000?scheduled/3" := by
  have hnormal : (Timestamp.mk Int64.minValue 999999999).IsNormal := by decide
  have hread : read "00.0.2-abcde@-0.5?scheduled/+3" =
      .ok ⟨⟨0, 0, 2, some "abcde"⟩, ⟨0, 500000000⟩, true, 3⟩ := rfl
  refine ⟨⟨hnormal, ?_⟩, hread, ?_⟩
  · exact transaction_ids_read_back.1 ⟨.ofNum 5005, ⟨Int64.minValue, 999999999⟩, true,
      Int32.minValue⟩ hnormal
  · exact (transaction_ids_read_back.2 _ _ hread).2

end LedgerClient.TransactionId
