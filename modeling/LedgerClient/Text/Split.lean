/-!
# Cutting texts at separators

Texts are cut at the first or at the last occurrence of a separator, or lose a
marker at one end. Each cut keeps the characters: the parts and the separator
in order are the text.
-/

namespace LedgerClient.Text

/-- The parts before and after the first `sep`. -/
def splitFirst (sep : Char) : List Char → Option (List Char × List Char)
  | [] => none
  | c :: rest =>
      if c = sep then some ([], rest)
      else (splitFirst sep rest).map fun (before, after) => (c :: before, after)

/-- The parts before and after the last `sep`. -/
def splitLast (sep : Char) (chars : List Char) : Option (List Char × List Char) :=
  (splitFirst sep chars.reverse).map fun (after, before) => (before.reverse, after.reverse)

/-- What precedes `ending`, if the text ends in it. -/
def dropEnding? (ending chars : List Char) : Option (List Char) :=
  if ending.isSuffixOf chars then some (chars.take (chars.length - ending.length)) else none

/-- The text without the hexadecimal markers `0x` in front, however many there are. -/
def dropHexMarkers : List Char → List Char
  | '0' :: 'x' :: rest => dropHexMarkers rest
  | chars => chars

/-- The part before the first `sep` holds none of it, and the parts restore the text. -/
theorem splitFirst_eq_some {sep : Char} {chars before after : List Char}
    (hcut : splitFirst sep chars = some (before, after)) :
    chars = before ++ sep :: after ∧ sep ∉ before := by
  induction chars generalizing before with
  | nil => simp [splitFirst] at hcut
  | cons c rest ih =>
      unfold splitFirst at hcut
      split at hcut
      next heq => simp only [Option.some.injEq, Prod.mk.injEq] at hcut; simp [← hcut.1, ← hcut.2, heq]
      next hne =>
        obtain ⟨⟨inner, tail⟩, hinner, hpair⟩ := Option.map_eq_some_iff.1 hcut
        simp only [Prod.mk.injEq] at hpair
        obtain ⟨rfl, rfl⟩ := hpair
        obtain ⟨hrest, hnot⟩ := ih hinner
        exact ⟨by simp [hrest], by simp [hnot, Ne.symm hne]⟩

/-- A text is cut nowhere exactly when it lacks the separator. -/
theorem splitFirst_eq_none_iff {sep : Char} {chars : List Char} :
    splitFirst sep chars = none ↔ sep ∉ chars := by
  induction chars with
  | nil => simp [splitFirst]
  | cons c rest ih =>
      unfold splitFirst
      split
      next heq => simp [heq]
      next hne => simp [ih, Ne.symm hne]

/-- A text cut after a part without the separator is cut there. -/
theorem splitFirst_append {sep : Char} {before after : List Char} (hnot : sep ∉ before) :
    splitFirst sep (before ++ sep :: after) = some (before, after) := by
  induction before with
  | nil => simp [splitFirst]
  | cons c rest ih =>
      simp only [List.mem_cons, not_or] at hnot
      simp [splitFirst, Ne.symm hnot.1, ih hnot.2]

/-- What precedes an ending is the text without it. -/
theorem dropEnding?_eq_some_iff {ending chars before : List Char} :
    dropEnding? ending chars = some before ↔ before ++ ending = chars := by
  unfold dropEnding?
  constructor
  · intro hdrop
    split at hdrop
    next hends =>
      obtain ⟨front, rfl⟩ := List.isSuffixOf_iff_suffix.mp hends
      rw [← Option.some.inj hdrop]
      simp
    next => cases hdrop
  · rintro rfl
    rw [if_pos (List.isSuffixOf_iff_suffix.mpr ⟨before, rfl⟩)]
    simp

end LedgerClient.Text
