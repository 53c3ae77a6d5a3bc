import LedgerClient.Telemetry.Pattern.Bracket
import LedgerClient.Text.Alphanumeric

/-!
# Patterns of values

A log filter may name the value that a field of a span is to have: a number, or a
regular expression. Nothing is matched here; what matters is which expressions are
well formed, since a filter with another one is refused.

Expressions are read without tables of characters. So classes of letters, digits and
blanks, the bounds of words and letters in either case are refused, unless the
expression keeps to ASCII; and where it does, it must still describe whole characters.
A closing brace ends the field that holds the expression, so nothing that needs one
is accepted.
-/

namespace LedgerClient.Telemetry.Pattern

/-- A group up to some place. -/
structure Group where
  mode : Mode := {}
  /-- The branches that have ended. -/
  branches : Row := {}
  /-- The items of the branch that has not. -/
  items : Row := {}
  /-- The depth of the item before this place, if that may be repeated. -/
  last : Option Nat := none

namespace Group

/-- An item that may be repeated has been read. -/
def past (group : Group) (depth : Nat) : Group :=
  { group with items := group.items.add depth, last := some depth }

/-- Another mode holds from here to the end of the group. -/
def turned (group : Group) (mode : Mode) : Group :=
  { group with mode, items := group.items.add 0, last := none }

/-- Another branch begins. -/
def branched (group : Group) : Group :=
  { group with branches := group.branches.add group.items.depth, items := {}, last := none }

/-- The item before this place is repeated, which lies one level above the item itself. -/
def repeated? (group : Group) : Option Group :=
  group.last.map fun depth =>
    { group with
      items := { group.items with deepest := max group.items.deepest (depth + 1) },
      last := some (depth + 1) }

/-- The depth of all branches together. -/
def depth (group : Group) : Nat := (group.branches.add group.items.depth).depth

end Group

/-- How far an expression has been read. -/
structure Reading where
  /-- What stands outside of all groups is read like a group. -/
  inner : Group := {}
  /-- The groups around the innermost one. -/
  outer : List Group := []
  /-- The names of groups. -/
  names : List (List Char) := []

namespace Reading

/-- An item that may be repeated has been read. -/
def past (reading : Reading) (depth : Nat) : Reading :=
  { reading with inner := reading.inner.past depth }

/-- A group has been opened, in which some mode holds. -/
def enter (reading : Reading) (mode : Mode) : Reading :=
  { reading with inner := { mode }, outer := reading.inner :: reading.outer }

/-- The innermost group ends, and the mode before it holds again. -/
def leave? (reading : Reading) : Option Reading :=
  match reading.outer with
  | [] => none
  | next :: outer => some { reading with inner := next.past (reading.inner.depth + 1), outer }

/-- Whether a group may have a name. -/
def isName : List Char → Bool
  | [] => false
  | c :: rest =>
      (c == '_' || Text.isAlphabetic c) &&
        rest.all fun c => ['_', '.', '[', ']'].contains c || Text.isAlphanumeric c

/-- The rest of the opening of a group with a name. -/
def named? (reading : Reading) (chars : List Char) : Option (Reading × List Char) :=
  match chars.span (· != '>') with
  | (name, _ :: rest) =>
      if isName name && !reading.names.contains name then
        some ({ reading.enter reading.inner.mode with names := name :: reading.names }, rest)
      else none
  | (_, []) => none

/-- What follows an opening parenthesis. Looking ahead or back is not known. -/
def opened? (reading : Reading) (chars : List Char) : Option (Reading × List Char) :=
  let mode := reading.inner.mode
  match mode.skip chars with
  | '?' :: 'P' :: '<' :: rest | '?' :: '<' :: rest => reading.named? rest
  | '?' :: rest =>
      let (switches, rest) := rest.span fun c => c != ':' && c != ')'
      match mode.switched? switches, rest with
      | some mode, ':' :: rest => some (reading.enter mode, rest)
      | some mode, ')' :: rest =>
          if switches.isEmpty then none
          else some ({ reading with inner := reading.inner.turned mode }, rest)
      | _, _ => none
  | rest => some (reading.enter mode, rest)

/-- Reads what begins with a character. A repetition may be followed by the sign of a short one. -/
def step? (reading : Reading) (c : Char) (rest : List Char) : Option (Reading × List Char) :=
  let mode := reading.inner.mode
  match c with
  | '(' => reading.opened? rest
  | ')' => reading.leave?.map (·, rest)
  | '|' => some ({ reading with inner := reading.inner.branched }, rest)
  | '*' | '+' | '?' =>
      reading.inner.repeated?.map fun inner =>
        ({ reading with inner }, if rest.head? = some '?' then rest.drop 1 else rest)
  | '{' => none
  | '[' => (bracketed? mode rest).map fun (depth, rest) => (reading.past depth, rest)
  | '\\' =>
      (escaped? mode rest).bind fun
        | (.literal _, rest) => if mode.namesChars then some (reading.past 0, rest) else none
        | (_, rest) => some (reading.past 0, rest)
  | '.' => if mode.unicode then some (reading.past 0, rest) else none
  | '^' | '$' => some (reading.past 0, rest)
  | _ => if mode.namesChars then some (reading.past 0, rest) else none

/-- Reads to the end. -/
def isComplete (fuel : Nat) (reading : Reading) (chars : List Char) : Bool :=
  match fuel, reading.inner.mode.skip chars with
  | _, [] => reading.outer.isEmpty && decide (reading.inner.depth ≤ maxDepth)
  | 0, _ :: _ => false
  | fuel + 1, c :: rest =>
      match reading.step? c rest with
      | some (reading, rest) => isComplete fuel reading rest
      | none => false

end Reading

/-- Whether a text is a number: digits with a point, a sign in front and an exponent, or a word. -/
def isNumber (chars : List Char) : Bool :=
  let unsigned : List Char → List Char
    | '+' :: rest | '-' :: rest => rest
    | rest => rest
  let body := unsigned ((String.ofList chars).toLower.toList)
  let (whole, rest) := body.span Char.isDigit
  let (places, rest) :=
    match rest with
    | '.' :: rest => rest.span Char.isDigit
    | _ => ([], rest)
  let exponent :=
    match rest with
    | 'e' :: rest =>
        let digits := unsigned rest
        !digits.isEmpty && digits.all Char.isDigit
    | rest => rest.isEmpty
  ["inf", "infinity", "nan"].contains (String.ofList body) ||
    (!(whole ++ places).isEmpty && exponent)

/-- Whether a value may be asked for. -/
def isWellFormed (value : List Char) : Bool :=
  isNumber value || Reading.isComplete value.length {} value

end LedgerClient.Telemetry.Pattern
