import LedgerClient.Toml.Lexeme
import LedgerClient.Toml.Value

/-!
# Reading settings texts

A settings text is a sequence of lines: headings in brackets, names with values,
comments and empty lines. Values may be lists, which run over several lines, and
tables, which do not.
-/

namespace LedgerClient.Toml

open Text Text.Scan

/-- A name with its value, where values are read by `value`. -/
def pair (value : Scan Value) : Scan ((List String × String) × Value) := do
  let name ← key
  char '='
  blanks
  return (name, ← value)

/-- A list of values. A comma may follow the last one. -/
def list (value : Scan Value) : Scan Value := do
  char '['
  let items ← separated (char ',') (gaps *> value <* gaps)
  if !items.isEmpty then
    let _ ← optional (char ',')
  gaps
  char ']'
  return .list items

/-- A table as one value. -/
def inlineTable (value : Scan Value) : Scan Value := do
  char '{'
  let pairs ← separated (char ',') (pair value <* blanks)
  blanks
  char '}'
  match Entries.ofPairs pairs with
  | some entries => return .table .closed entries
  | none => failure

/-- A value that holds no others. -/
def scalar : Scan Value :=
  (do return .text (← text)) <|>
    (word "true" *> pure (.flag true)) <|> (word "false" *> pure (.flag false)) <|>
    (moment *> pure .other) <|> (fractional *> pure .other) <|>
    (do return .integer (← integer))

/-- A value in which lists and tables nest at most `depth` deep. -/
def value : (depth : Nat) → Scan Value
  | 0 => scalar
  | depth + 1 => list (value depth) <|> inlineTable (value depth) <|> scalar

/-- A heading, with a number of brackets on each side. -/
def heading (brackets : Nat) : Scan (List String × String) := do
  let _ ← exactly (char '[') brackets
  let name ← key
  let _ ← exactly (char ']') brackets
  return name

/-- A line, and what it states, if anything. -/
def line : Scan (Option Statement) := do
  match ← peek? with
  | some '#' => comment *> lineEnd *> pure none
  | some '\n' | some '\r' => lineBreak *> pure none
  | some '[' =>
      let statement ←
        (do let (path, name) ← heading 2; return Statement.element path name) <|>
        (do let (path, name) ← heading 1; return Statement.heading path name)
      trailing
      return some statement
  | _ =>
      let ((path, name), value) ← pair (value nesting)
      trailing
      return some (.entry path name value)

/-- All lines of a text. A mark of the order of octets may stand in front of them. -/
def lines : Scan (List Statement) := do
  let _ ← optional (char '\ufeff')
  blanks
  let lines ← many (line <* blanks)
  finished
  return lines.filterMap id

/-- The table that a settings text builds. -/
def read (text : String) : Option Entries := do
  Entries.ofStatements (← whole lines text.toList)

end LedgerClient.Toml
