import LedgerClient.Telemetry.Pattern.Depth
import LedgerClient.Telemetry.Pattern.Item

/-!
# Classes in brackets

A class lists characters, ranges of them, classes that have a name and other classes
in brackets. Two signs of one kind between such lists take what is common to both,
what is only in the first, or what is in one of them.
-/

namespace LedgerClient.Telemetry.Pattern

/-- The classes of ASCII characters that have a name. -/
def classNames : List String :=
  ["alnum", "alpha", "ascii", "blank", "cntrl", "digit", "graph", "lower", "print", "punct", "space",
   "upper", "word", "xdigit"]

/-- Whether the complement of a class is named, and the rest after the name. The opening bracket is
taken; what is no name begins a class of its own. -/
def className? : List Char → Option (Bool × List Char)
  | ':' :: rest =>
      let (negation, rest) := rest.span (· == '^')
      let (name, rest) := rest.span (· != ':')
      match rest with
      | ':' :: ']' :: rest =>
          if classNames.contains (String.ofList name) && negation.length ≤ 1 then
            some (!negation.isEmpty, rest)
          else none
      | _ => none
  | _ => none

/-- A class up to some place. -/
structure Bracket where
  /-- The depth of what stands before the last two signs. -/
  left : Option Nat := none
  items : Row := {}
  /-- There are only hyphens so far. -/
  isFresh : Bool := true

namespace Bracket

/-- One more item has been read. -/
def add (bracket : Bracket) (depth : Nat) : Bracket :=
  { bracket with items := bracket.items.add depth, isFresh := false }

/-- The depth of what has been read. -/
def depth (bracket : Bracket) : Nat :=
  match bracket.left with
  | none => bracket.items.depth
  | some left => max left bracket.items.depth + 1

/-- Two signs that join what has been read with what follows. -/
def joined (bracket : Bracket) : Bracket := { left := some bracket.depth, isFresh := false }

end Bracket

/-- The rest of the opening of a class. Without characters beyond ASCII the complement of a class
does not keep to characters. -/
def bracketOpened? (mode : Mode) (chars : List Char) : Option (List Char) :=
  match mode.skip chars with
  | '^' :: rest => if mode.unicode then some rest else none
  | rest => some rest

/-- An item of a class. -/
def classItem? (mode : Mode) : List Char → Option (Item × List Char)
  | [] => none
  | '\\' :: rest => escaped? mode rest
  | c :: rest => some (.literal c, rest)

/-- The rest after a character, a range or a class after a backslash. A hyphen in front of another
one or at the end of a class makes no range. -/
def afterMember? (mode : Mode) (chars : List Char) : Option (List Char) := do
  let (first, rest) ← classItem? mode chars
  let alone : Option (List Char) :=
    match first with
    | .literal c => if mode.namesInClass c then some rest else none
    | .several => some rest
    | .place => none
  match mode.skip rest with
  | '-' :: next =>
      if [some ']', some '-'].contains (mode.afterHyphen? next) then alone
      else
        match first, ← classItem? mode (mode.skip next) with
        | .literal low, (.literal high, rest) =>
            if low ≤ high && mode.namesInClass low && mode.namesInClass high then some rest else none
        | _, _ => none
  | _ => alone

/-- The depth of a class and the rest after it, where `inner` has been read of the innermost class
and `outer` of those around it. -/
def classEnd? (mode : Mode) :
    (fuel : Nat) → (inner : Bracket) → (outer : List Bracket) → List Char → Option (Nat × List Char)
  | 0, _, _, _ => none
  | fuel + 1, inner, outer, chars =>
      match mode.skip chars with
      | [] => none
      | '-' :: rest =>
          if inner.isFresh then
            if mode.namesChars then
              classEnd? mode fuel { inner with items := inner.items.add 0 } outer rest
            else none
          else if rest.head? = some '-' then classEnd? mode fuel inner.joined outer (rest.drop 1)
          else (afterMember? mode ('-' :: rest)).bind (classEnd? mode fuel (inner.add 0) outer)
      | ']' :: rest =>
          if inner.isFresh && inner.items.count == 0 then
            if mode.namesChars then classEnd? mode fuel (inner.add 0) outer rest else none
          else
            match outer with
            | [] => some (inner.depth + 1, rest)
            | next :: outer => classEnd? mode fuel (next.add (inner.depth + 1)) outer rest
      | '[' :: rest =>
          match className? rest with
          | some (isNegated, rest) =>
              if mode.namesChars && (mode.unicode || !isNegated) then
                classEnd? mode fuel (inner.add 0) outer rest
              else none
          | none => (bracketOpened? mode rest).bind (classEnd? mode fuel {} (inner :: outer))
      | '&' :: '&' :: rest | '~' :: '~' :: rest => classEnd? mode fuel inner.joined outer rest
      | rest => (afterMember? mode rest).bind (classEnd? mode fuel (inner.add 0) outer)

/-- The depth of a class whose opening bracket is taken, and the rest after it. -/
def bracketed? (mode : Mode) (chars : List Char) : Option (Nat × List Char) :=
  (bracketOpened? mode chars).bind (classEnd? mode (chars.length + 1) {} [])

end LedgerClient.Telemetry.Pattern
