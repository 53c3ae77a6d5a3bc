import LedgerClient.Telemetry.Pattern
import LedgerClient.Text.Blank
import LedgerClient.Text.Numeral
import LedgerClient.Text.Utf8

/-!
# Log filters

A filter is a list of directives with commas between them. A directive is a level,
a target, or a target with a level after an equals sign; a target without a level
lets everything through. It covers the events whose target it begins. Square
brackets after the target hold the name of a span, and between braces a field, which
may have a value. A field alone must be one that an event names for the event to be
covered; outside spans, where all events of this library are, a directive with a span
or a value covers nothing. Of the directives that cover an event the one with the
longest target decides, and of equally long ones the one with a field.
-/

namespace LedgerClient.Telemetry

/-- How grave an event is. -/
inductive Level where
  | error
  | warn
  | info
  | debug
  | trace
  deriving DecidableEq

namespace Level

/-- The name of the level in capitals. -/
def name : Level → String
  | .error => "ERROR"
  | .warn => "WARN"
  | .info => "INFO"
  | .debug => "DEBUG"
  | .trace => "TRACE"

/-- Position from the gravest on. -/
def rank : Level → Nat
  | .error => 1
  | .warn => 2
  | .info => 3
  | .debug => 4
  | .trace => 5

end Level

/-- The gravity up to which events pass: the rank of the last level, or zero for none. -/
abbrev Threshold := Nat

/-- Reads a threshold: the name of a level in any case, `off`, or a rank. -/
def Threshold.ofChars? (chars : List Char) : Option Threshold :=
  match (String.ofList chars).toLower with
  | "off" => some 0
  | "error" | "" => some Level.error.rank
  | "warn" => some Level.warn.rank
  | "info" => some Level.info.rank
  | "debug" => some Level.debug.rank
  | "trace" => some Level.trace.rank
  | _ => Numeral.plusBelow? 6 chars

/-- What one directive lets through. -/
structure Directive where
  /-- The beginning of the targets it covers. -/
  target : List Char := []
  /-- A field of the events it covers. -/
  field : Option (List Char) := none
  threshold : Threshold
  /-- It applies inside some spans only. -/
  spanned : Bool := false

namespace Directive

/-- The octets that a text takes. -/
def octets (chars : List Char) : Nat := (chars.flatMap Utf8.encodeChar).length

/-- The part of a text from one position on, up to another one if there is one. Positions count
octets, and a part consists of whole characters. -/
def cut? (text : List Char) (start : Nat) (stop : Option Nat) : Option (List Char) :=
  let rest := (text.flatMap Utf8.encodeChar).drop start
  match Utf8.decode (match stop with | some stop => rest.take (stop - start) | none => rest) with
  | .ok part => some part.toList
  | .error _ => none

/-- A threshold after an equals sign; nothing after it is everything. -/
def threshold? : List Char → Option Threshold
  | [] => some Level.trace.rank
  | chars => Threshold.ofChars? chars

/-- A field, and whether it is to have a value. -/
def field? (chars : List Char) : Option (List Char × Bool) :=
  match chars.splitOn '=' with
  | [] | [[]] => none
  | [name] => some (name, false)
  | name :: value :: _ => if Pattern.isWellFormed value then some (name, true) else none

/-- The threshold that stands at a position, after a closing bracket. -/
def afterSpan? (text : List Char) (position : Nat) : List Char → Option Threshold
  | [] => some Level.trace.rank
  | '=' :: _ => (cut? text (position + 1) none).bind threshold?
  | _ => none

/-- Reads the part behind an opening bracket, which stands at a position. -/
def spanned? (text target : List Char) (position : Nat) (rest : List Char) : Option Directive :=
  let (span, rest) := rest.span fun c => c != ']' && c != '{'
  let stop := position + 1 + octets span
  match rest with
  | ']' :: rest =>
      (afterSpan? text (stop + 1) rest).map fun threshold => { target, threshold, spanned := true }
  | '{' :: rest => do
      let (field, rest) := rest.span (· != '}')
      let last := stop + 1 + octets field
      let (name, hasValue) ← field? (← cut? text (stop + 1) last)
      match rest with
      | '}' :: ']' :: rest =>
          let threshold ← afterSpan? text (last + 2) rest
          return { target, field := name, threshold, spanned := !span.isEmpty || hasValue }
      | _ => none
  | _ => none

/-- A directive starts with a letter, a number, a dash, a colon or an underline. -/
def isStart (c : Char) : Bool := Text.isAlphanumeric c || c == '-' || c == ':' || c == '_'

/-- Reads a directive. Positions are found without the blanks in front, but parts are cut from the
text with its blanks: blanks at the end belong to the last part, and after blanks in front the parts
begin and end too early. -/
def ofChars? (text : List Char) : Option Directive := do
  match Text.trim text with
  | [] => none
  | '[' :: rest => spanned? text [] 0 rest
  | c :: rest =>
      if !isStart c then none
      else
        let (name, rest) := (c :: rest).span fun c => c != '=' && c != '['
        let stop := octets name
        match rest with
        | [] =>
            match Threshold.ofChars? text with
            | some threshold => return { threshold }
            | none => return { target := text, threshold := Level.trace.rank }
        | '=' :: _ =>
            return { target := ← cut? text 0 stop
                     threshold := ← threshold? (← cut? text (stop + 1) none) }
        | _ :: rest => spanned? text (← cut? text 0 stop) stop rest

/-- Whether an event outside spans is covered, of which the target and the names of the fields are
given. -/
def covers (directive : Directive) (target : String) (names : List String) : Bool :=
  !directive.spanned && directive.target.isPrefixOf target.toList &&
    directive.field.all fun name => names.contains (String.ofList name)

/-- Whether another directive decides first, where both cover an event: the one with the longer
target, else the one with a field, and of two fields the one that is later in order. -/
def yields (directive other : Directive) : Bool :=
  directive.target.length < other.target.length ||
    (directive.target.length = other.target.length &&
      match directive.field, other.field with
      | none, field => field.isSome
      | some _, none => false
      | some first, some second => (List.compareLex compare first second).isLT)

end Directive

/-- What a log lets through. -/
structure Filter where
  directives : List Directive

namespace Filter

/-- Reads a filter. Empty parts are no directives. -/
def ofText? (text : String) : Option Filter := do
  return ⟨← ((text.toList.splitOn ',').filter (· ≠ [])).mapM Directive.ofChars?⟩

/-- The directive that decides; of equal ones the last. -/
def deciding (best : Option Directive) (next : Directive) : Option Directive :=
  match best with
  | none => some next
  | some first => some (if next.yields first then first else next)

/-- Whether an event with a target, with fields of some names and of a level passes. Without a
directive that covers it it does not. -/
def passes (filter : Filter) (target : String) (names : List String) (level : Level) : Bool :=
  match (filter.directives.filter (·.covers target names)).foldl deciding none with
  | none => false
  | some directive => level.rank ≤ directive.threshold

end Filter

end LedgerClient.Telemetry
