/-!
# Depth of patterns

Parts of a pattern lie inside of others. A single part in a row counts as the row
itself; two or more lie one level below it.
-/

namespace LedgerClient.Telemetry.Pattern

/-- The greatest depth that is allowed. -/
def maxDepth : Nat := 250

/-- Parts that follow each other. -/
structure Row where
  count : Nat := 0
  /-- The greatest depth of a part. -/
  deepest : Nat := 0

namespace Row

/-- The row with one more part of some depth. -/
def add (row : Row) (depth : Nat) : Row :=
  { count := row.count + 1, deepest := max row.deepest depth }

/-- The depth of the row itself. -/
def depth (row : Row) : Nat :=
  if 2 ≤ row.count then row.deepest + 1 else row.deepest

end Row

end LedgerClient.Telemetry.Pattern
