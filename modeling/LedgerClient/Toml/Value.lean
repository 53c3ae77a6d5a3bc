/-!
# Tables of settings

A settings text builds one table out of lines. Lines under a heading go to the table
of that heading; a heading may also add an element to a list of tables. A table is
stated once: it may be named on the way to another one before that, but nothing is
added to it from elsewhere afterwards, and no name is given two values.
-/

namespace LedgerClient.Toml

/-- How a table came to be, which decides what may still be added to it. -/
inductive Origin where
  /-- Named on the way to the table of a heading. -/
  | implied
  /-- Made by keys with dots, which may add to it. -/
  | dotted
  /-- Stated by a heading of its own. -/
  | stated
  /-- Written as one value. -/
  | closed
  deriving DecidableEq

/-- A value. -/
inductive Value where
  | text (value : String)
  | integer (value : Int)
  | flag (value : Bool)
  /-- A number with a fraction or an exponent, or a moment. -/
  | other
  | list (items : List Value)
  /-- Tables of one heading: those that are complete, and the last one. -/
  | tables (earlier : List (List (String × Value))) (last : List (String × Value))
  | table (origin : Origin) (entries : List (String × Value))
  deriving Inhabited

/-- Names and their values. -/
abbrev Entries := List (String × Value)

namespace Entries

/-- Changes what a name stands for, if `change` allows it. -/
def alter (name : String) (change : Option Value → Option Value) : Entries → Option Entries
  | [] => (change none).map fun value => [(name, value)]
  | (first, value) :: rest =>
      if first = name then (change (some value)).map fun value => (first, value) :: rest
      else (alter name change rest).map ((first, value) :: ·)

/-- Gives a name its value. -/
def define (name : String) (value : Value) : Entries → Option Entries :=
  alter name fun
    | none => some value
    | some _ => none

/-- Gives a value to a name at the end of a path of a key with dots. -/
def assign (name : String) (value : Value) : (path : List String) → Entries → Option Entries
  | [] => define name value
  | first :: path => alter first fun
      | none => (assign name value path []).map (.table .dotted)
      | some (.table .dotted entries) => (assign name value path entries).map (.table .dotted)
      | some _ => none

/-- Changes the table at the end of the path of a heading. Of a list of tables the last one is meant;
what is missing is made on the way. -/
def within (change : Entries → Option Entries) : (path : List String) → Entries → Option Entries
  | [] => change
  | first :: path => alter first fun
      | none => (within change path []).map (.table .implied)
      | some (.table .closed _) => none
      | some (.table origin entries) => (within change path entries).map (.table origin)
      | some (.tables earlier last) => (within change path last).map (.tables earlier)
      | some _ => none

/-- States the table of a heading, which may be implied so far. -/
def state (name : String) : Entries → Option Entries :=
  alter name fun
    | none => some (.table .stated [])
    | some (.table .implied entries) => some (.table .stated entries)
    | some _ => none

/-- Adds a table to the list of a heading. -/
def append (name : String) : Entries → Option Entries :=
  alter name fun
    | none => some (.tables [] [])
    | some (.tables earlier last) => some (.tables (earlier ++ [last]) [])
    | some _ => none

end Entries

/-- A line of a settings text. -/
inductive Statement where
  | heading (path : List String) (name : String)
  /-- A heading for one more table of a list. -/
  | element (path : List String) (name : String)
  | entry (path : List String) (name : String) (value : Value)

/-- The table built so far, and the path of the last heading. -/
structure Draft where
  entries : Entries := []
  heading : List String := []

/-- Adds a line to a table. -/
def Draft.add (draft : Draft) : Statement → Option Draft
  | .heading path name =>
      (draft.entries.within (Entries.state name) path).map (⟨·, path ++ [name]⟩)
  | .element path name =>
      (draft.entries.within (Entries.append name) path).map (⟨·, path ++ [name]⟩)
  | .entry path name value =>
      (draft.entries.within (Entries.assign name value path) draft.heading).map (⟨·, draft.heading⟩)

/-- The table that lines build. -/
def Entries.ofStatements (statements : List Statement) : Option Entries :=
  (statements.foldlM (Draft.add · ·) {}).map (·.entries)

/-- The table that keys with dots build as one value. -/
def Entries.ofPairs (pairs : List ((List String × String) × Value)) : Option Entries :=
  pairs.foldlM (fun entries ((path, name), value) => entries.assign name value path) []

end LedgerClient.Toml
