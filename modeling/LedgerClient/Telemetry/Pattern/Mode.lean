import LedgerClient.Text.Blank

/-!
# Modes of patterns

How the characters of a pattern are understood may change from place to place. No
table of characters is at hand, which rules out what would need one, and a pattern
has to describe whole characters, which rules out octets that are none.
-/

namespace LedgerClient.Telemetry.Pattern

/-- How characters are understood at some place of a pattern. -/
structure Mode where
  /-- Characters are not only those of ASCII. -/
  unicode : Bool := true
  /-- Letters stand for both cases. -/
  folding : Bool := false
  /-- Blanks and comments have no meaning. -/
  spaced : Bool := false

namespace Mode

/-- Whether characters may be named. Both cases of any character would need a table. -/
def namesChars (mode : Mode) : Bool := !(mode.unicode && mode.folding)

/-- Whether a class may name a character. Without the others, a class is one of octets. -/
def namesInClass (mode : Mode) (c : Char) : Bool :=
  mode.namesChars && (mode.unicode || c.toNat < 128)

/-- The rest after blanks and comments. A comment runs from a number sign to the end of a line. -/
def afterBlanks (inComment : Bool) : List Char → List Char
  | [] => []
  | c :: rest =>
      if inComment then afterBlanks (c != '\n') rest
      else if c == '#' then afterBlanks true rest
      else if Text.isBlank c then afterBlanks false rest
      else c :: rest

/-- The rest from the next character that has a meaning. -/
def skip (mode : Mode) (chars : List Char) : List Char :=
  if mode.spaced then afterBlanks false chars else chars

/-- The character after a hyphen in a class which tells what the hyphen means. Of a comment only
the sign in front is left out, and a blank counts if there is nothing else. -/
def afterHyphen? (mode : Mode) (chars : List Char) : Option Char :=
  if mode.spaced then
    let rest :=
      match chars.dropWhile Text.isBlank with
      | '#' :: rest => rest.dropWhile Text.isBlank
      | rest => rest
    rest.head?.or chars.head?
  else chars.head?

/-- A mode after switches: those after a hyphen are turned off. Each may be there once. -/
def switched? (mode : Mode) (switches : List Char) : Option Mode :=
  let (on, off) := switches.span (· != '-')
  let turned (switch : Char) (before : Bool) :=
    if on.contains switch then true else if off.contains switch then false else before
  if switches.all ("imsURux-".toList.contains ·) && decide switches.Nodup &&
    switches.getLast? != some '-' then
    some { unicode := turned 'u' mode.unicode,
           folding := turned 'i' mode.folding,
           spaced := turned 'x' mode.spaced }
  else none

end Mode

end LedgerClient.Telemetry.Pattern
