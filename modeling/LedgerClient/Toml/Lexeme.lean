import LedgerClient.Decimal.Range
import LedgerClient.Text.Scan

/-!
# Words of settings texts

Blanks and comments, names, quoted texts, numbers and moments. Quoted texts on
several lines lose a line break right after the opening quotes, and carry line
breaks as one character; one or two quotes may stand inside them, and up to two
before the closing ones.
-/

namespace LedgerClient.Toml

open Text Text.Scan

/-- A space or a tab. -/
def isBlank (c : Char) : Bool := c == ' ' || c == '\t'

/-- A character that may stand in a comment or a quoted text: tabs, and all that is no control
character of ASCII. -/
def isPlain (c : Char) : Bool := c == '\t' || (' ' ≤ c && c != '\x7f')

/-- Blanks, if there are any. -/
def blanks : Scan Unit := do
  let _ ← run isBlank

/-- The end of a line. -/
def lineBreak : Scan Unit := word "\n" <|> word "\r\n"

/-- A comment. -/
def comment : Scan Unit := do
  char '#'
  let _ ← run isPlain

/-- The end of a line, or of the text. -/
def lineEnd : Scan Unit := lineBreak <|> finished

/-- What may follow on a line. -/
def trailing : Scan Unit := do
  blanks
  let _ ← optional comment
  lineEnd

/-- Blanks, comments and line breaks between the items of a list. -/
def gaps : Scan Unit := do
  blanks
  let _ ← many ((optional comment *> lineBreak) <* blanks)

/-- The value of a hexadecimal digit. -/
def digitValue (c : Char) : Nat :=
  if c.isDigit then c.toNat - '0'.toNat else c.toLower.toNat - 'a'.toNat + 10

/-- The number that digits of a base stand for. -/
def valueOf (base : Nat) (digits : List Char) : Nat :=
  digits.foldl (fun value digit => value * base + digitValue digit) 0

/-- A digit below a base. -/
def isDigitOf (base : Nat) (c : Char) : Bool :=
  (c.isDigit || ('a' ≤ c.toLower && c.toLower ≤ 'f')) && digitValue c < base

/-- A fixed number of items. -/
def exactly {α : Type} (item : Scan α) : (count : Nat) → Scan (List α)
  | 0 => pure []
  | count + 1 => do return (← item) :: (← exactly item count)

/-- The character of a number given in hexadecimal digits. Only characters have such a number. -/
def numberedChar (digits : Nat) : Scan Char := do
  let number := valueOf 16 (← exactly (one (isDigitOf 16)) digits)
  if number.isValidChar then return Char.ofNat number else failure

/-- The character that is written after a backslash. -/
def escape : Scan Char := do
  char '\\'
  match ← one fun _ => true with
  | 'b' => return '\x08'
  | 't' => return '\t'
  | 'n' => return '\n'
  | 'f' => return '\x0c'
  | 'r' => return '\r'
  | '\x22' => return '\x22'
  | '\\' => return '\\'
  | 'u' => numberedChar 4
  | 'U' => numberedChar 8
  | _ => failure

/-- A text in quotes, on one line, with escapes. -/
def basicText : Scan String := do
  char '\x22'
  let chars ← many (one (fun c => isPlain c && c != '\x22' && c != '\\') <|> escape)
  char '\x22'
  return String.ofList chars

/-- A text in apostrophes, on one line, as it stands. -/
def literalText : Scan String := do
  char '\x27'
  let chars ← run fun c => isPlain c && c != '\x27'
  char '\x27'
  return String.ofList chars

/-- A backslash that ends a line, with the blanks and line breaks after it. -/
def joint : Scan Unit := do
  char '\\'
  blanks
  lineBreak
  let _ ← many (lineBreak <|> (one isBlank *> pure ()))

/-- One or two quotes that do not belong to three. -/
def loneQuotes (quote : Char) : Scan (List Char) := do
  let quotes ← run1 (· == quote)
  if quotes.length < 3 then return quotes else failure

/-- The quotes that close a text on several lines, with up to two that belong to the text. -/
def closingQuotes (quote : Char) : Scan (List Char) := do
  let quotes ← run (· == quote)
  if 3 ≤ quotes.length ∧ quotes.length ≤ 5 then return quotes.drop 3 else failure

/-- A text on several lines between three quotes, made of parts. -/
def longText (quote : Char) (part : Scan (List Char)) : Scan String := do
  let _ ← exactly (char quote) 3
  let _ ← optional lineBreak
  let parts ← many (part <|> (lineBreak *> pure ['\n']) <|> loneQuotes quote)
  return String.ofList (parts.flatten ++ (← closingQuotes quote))

/-- A text on several lines with escapes. -/
def longBasicText : Scan String :=
  longText '\x22' <|
    run1 (fun c => isPlain c && c != '\x22' && c != '\\') <|> (joint *> pure []) <|>
      (do return [← escape])

/-- A text on several lines as it stands. -/
def longLiteralText : Scan String :=
  longText '\x27' (run1 fun c => isPlain c && c != '\x27')

/-- A quoted text. -/
def text : Scan String := longBasicText <|> basicText <|> longLiteralText <|> literalText

/-- A name: a word of ASCII letters, digits, underscores and hyphens, or a text on one line. -/
def simpleName : Scan String :=
  (do return String.ofList (← run1 fun c => c.isAlphanum || c == '_' || c == '-')) <|>
    basicText <|> literalText

/-- How deep values may nest, and how many names a key may have. -/
def nesting : Nat := 79

/-- Names with dots between them: the path, and the last name. -/
def key : Scan (List String × String) := do
  let names ← separated1 (char '.') (blanks *> simpleName <* blanks)
  if nesting < names.length then failure
  match names.getLast? with
  | some name => return (names.dropLast, name)
  | none => failure

/-- Digits of a base, in which underscores may stand between two. -/
def digits (base : Nat) : Scan (List Char) := do
  let digit := one (isDigitOf base)
  return (← digit) :: (← many (digit <|> (char '_' *> digit)))

/-- A sign, if there is one. -/
def sign : Scan (Option Char) := optional (one fun c => c == '+' || c == '-')

/-- Decimal digits without a needless zero in front. -/
def decimal : Scan (List Char) := do
  match ← peek? with
  | some '0' => return [← one fun _ => true]
  | _ => digits 10

/-- A whole number of 64 bits with a sign, in decimal, hexadecimal, octal or binary digits; only
decimal ones may carry a sign. -/
def integer : Scan Int := do
  let unsigned (marker : String) (base : Nat) : Scan Int := do
    word marker
    return valueOf base (← digits base)
  let signed : Scan Int := do
    let isNegative := (← sign) == some '-'
    let magnitude : Int := valueOf 10 (← decimal)
    return if isNegative then -magnitude else magnitude
  let value ← unsigned "0x" 16 <|> unsigned "0o" 8 <|> unsigned "0b" 2 <|> signed
  if Int64.minValue.toInt ≤ value ∧ value ≤ Int64.maxValue.toInt then return value else failure

/-- A number with a fraction or an exponent, or a word for one that is not finite. A number too large
for a double is refused, unless it is negative. -/
def fractional : Scan Unit := do
  let exponent : Scan Int := do
    let _ ← one fun c => c == 'e' || c == 'E'
    let isNegative := (← sign) == some '-'
    let magnitude : Int := valueOf 10 (← digits 10)
    return if isNegative then -magnitude else magnitude
  let fraction : Scan (List Char × Int) := do
    char '.'
    return (← digits 10, (← optional exponent).getD 0)
  let isNegative := (← sign) == some '-'
  word "inf" <|> word "nan" <|> do
    let whole ← decimal
    let (places, shift) ← (do return ([], ← exponent)) <|> fraction
    if isNegative || Decimal.isFinite (valueOf 10 (whole ++ places)) (shift - places.length) then
      return ()
    else failure

/-- A number of a fixed count of digits, within bounds. -/
def bounded (count low high : Nat) : Scan Nat := do
  let value := valueOf 10 (← exactly (one Char.isDigit) count)
  if low ≤ value ∧ value ≤ high then return value else failure

/-- The number of days of a month. -/
def daysIn (year month : Nat) : Nat :=
  if month = 2 then
    if year % 4 = 0 ∧ (year % 100 ≠ 0 ∨ year % 400 = 0) then 29 else 28
  else if month = 4 ∨ month = 6 ∨ month = 9 ∨ month = 11 then 30 else 31

/-- A date. -/
def date : Scan Unit := do
  let year ← bounded 4 0 9999
  char '-'
  let month ← bounded 2 1 12
  char '-'
  let _ ← bounded 2 1 (daysIn year month)

/-- A time of day. -/
def timeOfDay : Scan Unit := do
  let _ ← bounded 2 0 23
  char ':'
  let _ ← bounded 2 0 59
  char ':'
  let _ ← bounded 2 0 60
  let _ ← optional (char '.' *> run1 Char.isDigit)

/-- A date, a time of day, or both, and then maybe with an offset. -/
def moment : Scan Unit := do
  let zone : Scan Unit := (one fun c => c == 'Z' || c == 'z') *> pure () <|> do
    let _ ← one fun c => c == '+' || c == '-'
    let _ ← bounded 2 0 23
    char ':'
    let _ ← bounded 2 0 59
  let time : Scan Unit := do
    let _ ← one fun c => c == 'T' || c == 't' || c == ' '
    timeOfDay
    let _ ← optional zone
  (date *> optional time *> pure ()) <|> timeOfDay

end LedgerClient.Toml
