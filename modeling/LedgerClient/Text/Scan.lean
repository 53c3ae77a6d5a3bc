/-!
# Scanning texts

A scanner takes something off the front of a list of characters, or refuses; after a
refusal nothing is taken. Repetitions end where the repeated scanner refuses or
takes nothing.
-/

namespace LedgerClient.Text

/-- Takes a value off the front of a text. -/
abbrev Scan := StateT (List Char) Option

namespace Scan

variable {α β : Type}

/-- The next character, which is not taken. -/
def peek? : Scan (Option Char) := fun chars => some (chars.head?, chars)

/-- The end of the text. -/
def finished : Scan Unit := fun chars => if chars.isEmpty then some ((), chars) else none

/-- A character of a class. -/
def one (isOf : Char → Bool) : Scan Char := fun
  | [] => none
  | c :: rest => if isOf c then some (c, rest) else none

/-- One given character. -/
def char (c : Char) : Scan Unit := do
  let _ ← one (· == c)

/-- A given word. -/
def word (w : String) : Scan Unit := fun chars =>
  if w.toList.isPrefixOf chars then some ((), chars.drop w.length) else none

/-- All characters of a class that stand at the front. -/
def run (isOf : Char → Bool) : Scan (List Char) := fun chars =>
  some (chars.takeWhile isOf, chars.dropWhile isOf)

/-- At least one character of a class, and all that stand at the front. -/
def run1 (isOf : Char → Bool) : Scan (List Char) := do
  return (← one isOf) :: (← run isOf)

/-- Items as long as there are any, at most `count`. -/
def upTo : (count : Nat) → Scan α → Scan (List α)
  | 0, _ => fun chars => some ([], chars)
  | count + 1, item => fun chars =>
      match item chars with
      | none => some ([], chars)
      | some (value, rest) =>
          if rest.length < chars.length then
            (upTo count item rest).map fun (values, rest) => (value :: values, rest)
          else some ([], chars)

/-- Items as long as there are any. -/
def many (item : Scan α) : Scan (List α) := fun chars => upTo chars.length item chars

/-- At least one item, with separators between them. -/
def separated1 (separator : Scan β) (item : Scan α) : Scan (List α) := do
  return (← item) :: (← many (separator *> item))

/-- Items with separators between them. -/
def separated (separator : Scan β) (item : Scan α) : Scan (List α) :=
  separated1 separator item <|> pure []

/-- The value of a whole text. -/
def whole (item : Scan α) (text : List Char) : Option α :=
  match item text with
  | some (value, []) => some value
  | _ => none

end Scan

end LedgerClient.Text
