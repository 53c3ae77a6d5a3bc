import LedgerClient.Text.Unprintable

/-!
# Quoted text

Messages show texts between quotes, and single characters between apostrophes.
The quote that delimits, the backslash and the usual control characters have
short escapes; what cannot be shown is written by number.
-/

namespace LedgerClient.Text

/-- A backslash followed by `c`. -/
def backslash (c : Char) : List Char := ['\\', c]

/-- The number of a character in hexadecimal between braces. -/
def byNumber (c : Char) : List Char :=
  ['\\', 'u', '\x7b'] ++ Nat.toDigits 16 c.toNat ++ ['\x7d']

/-- How a character is shown between two `delimiter`s. -/
def shownWithin (delimiter c : Char) : List Char :=
  if c = '\x00' then backslash '0'
  else if c = '\t' then backslash 't'
  else if c = '\r' then backslash 'r'
  else if c = '\n' then backslash 'n'
  else if c = '\\' || c = delimiter then backslash c
  else if ' ' ≤ c && c ≤ '~' then [c]
  else if isUnprintable c then byNumber c
  else [c]

/-- A text between quotes. -/
def quoted (text : String) : String :=
  String.ofList ('\x22' :: text.toList.flatMap (shownWithin '\x22') ++ ['\x22'])

/-- A character between apostrophes. -/
def quotedChar (c : Char) : String :=
  String.ofList ('\x27' :: shownWithin '\x27' c ++ ['\x27'])

end LedgerClient.Text
