import LedgerClient.Proofs.Entity.Checksum
import LedgerClient.Proofs.Entity.Grammar

/-!
# Names read back

The text of an entity is a name of it, and the text with its checksum on a ledger is a name that
carries this checksum, so both read back, the second to an identifier that the ledger accepts. A
name that was typed in another way, with zeros in front of its numbers or with a checksum, is
printed as the name without them, and names the same entity.
-/

namespace LedgerClient

namespace Checksum

theorem length_letters (count n : Nat) : (letters count n).length = count := by
  induction count generalizing n with
  | zero => rfl
  | succ count ih => simp [letters, ih]

theorem isLower_letter (digit : Nat) : (letter digit).isLower = true := by
  have hcode : (letter digit).toNat = 97 + digit % 26 := Utf8.toNat_ofNat (by omega)
  rw [EntityId.isLower_iff, hcode]
  omega

theorem isLower_of_mem_letters {count n : Nat} {c : Char} (hmem : c ∈ letters count n) :
    c.isLower = true := by
  induction count generalizing n with
  | zero => cases hmem
  | succ count ih =>
      rcases List.mem_append.mp hmem with hfront | hlast
      · exact ih hfront
      · rw [List.mem_singleton.mp hlast]
        exact isLower_letter n

theorem isChecksum_generate (ledger : LedgerId) (address : String) :
    EntityId.IsChecksum (generate ledger address).toList := by
  rw [generate, String.toList_ofList]
  exact ⟨length_letters _ _, fun _ => isLower_of_mem_letters⟩

end Checksum

namespace EntityId

theorem read_text (id : EntityId) : read id.text = .ok id.bare :=
  read_eq_ok_iff.mpr id.spells_text

/-- Two identifiers have one text exactly when they name the same thing. -/
theorem text_eq_iff {a b : EntityId} : a.text = b.text ↔ a.key = b.key := by
  constructor
  · intro htext
    have hread := a.read_text
    rw [htext, b.read_text] at hread
    have hkeys : b.bare.key = a.bare.key := congrArg key (Except.ok.inj hread)
    exact hkeys.symm
  · intro hkey
    simp only [key, Prod.mk.injEq] at hkey
    simp only [text, hkey.1, hkey.2.1, hkey.2.2]

theorem read_textWithChecksum (id : EntityId) (ledger : LedgerId) :
    read (id.textWithChecksum ledger) =
      .ok (id.withChecksum (Checksum.generate ledger id.text)) := by
  have hspells := id.spells_text.checked (Checksum.isChecksum_generate ledger id.text)
  rw [String.ofList_toList] at hspells
  rw [read_eq_ok_iff, textWithChecksum, String.toList_append, String.toList_append,
    List.append_assoc]
  exact hspells

/-- Every identifier reads back from its text, without a checksum, and from its text for a ledger,
with a checksum of five lower-case letters that the ledger accepts; and what is read from any text
is equal to what its own text reads back to. -/
theorem identifiers_read_back :
    (∀ id : EntityId, read id.text = .ok id.bare) ∧
    (∀ (id : EntityId) (ledger : LedgerId), ∃ checksum : String, IsChecksum checksum.toList ∧
      read (id.textWithChecksum ledger) = .ok (id.withChecksum checksum) ∧
      (id.withChecksum checksum).check ledger = .ok ()) ∧
    ∀ (text : String) (id : EntityId), read text = .ok id →
      ∃ again, read id.text = .ok again ∧ (again == id) = true := by
  refine ⟨read_text, fun id ledger => ?_, fun text id _ => ?_⟩
  · refine ⟨Checksum.generate ledger id.text, Checksum.isChecksum_generate ledger id.text,
      id.read_textWithChecksum ledger, ?_⟩
    rw [check, validate_withChecksum_generate]
    rfl
  · exact ⟨id.bare, id.read_text, beq_iff.mpr rfl⟩

theorem identifiers_read_back_typed_with_zeros :
    read "007.0.010-abcde" = .ok ⟨7, 0, 10, some "abcde"⟩ ∧
      ∃ again, read "7.0.10" = .ok again ∧ (again == ⟨7, 0, 10, some "abcde"⟩) = true := by
  have hread : read "007.0.010-abcde" = .ok ⟨7, 0, 10, some "abcde"⟩ := rfl
  exact ⟨hread, identifiers_read_back.2.2 "007.0.010-abcde" ⟨7, 0, 10, some "abcde"⟩ hread⟩

end EntityId

end LedgerClient
