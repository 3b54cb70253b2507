/-
# SqlLex.Toml -- tables that are filled once

A TOML document is a table of values by key.  A key is given a value once, and a
table is opened in one of several ways that differ in what may be added to it
later (`Origin`): by a header of its own, on the way to another header, by a
dotted key, or within braces.

`Entries.insert` puts a value at the end of a dotted key, `Entries.openTable` and
`Entries.openElement` open the table of a header; each refuses what would give a
key a second meaning.  A dotted key ends in a table that dotted keys opened, though
on the way it may pass tables that were themselves passed on the way to a header.
-/

namespace SqlLex

set_option autoImplicit false

namespace Toml

/-- How a table came to be. -/
inductive Origin where
  /-- By a header. -/
  | header
  /-- On the way to the table of another header. -/
  | passed
  /-- On the way of a dotted key. -/
  | dotted
  /-- Within braces. -/
  | inline
deriving DecidableEq, Repr

end Toml

/-- A value of a TOML document. -/
inductive Toml where
  | string (s : String)
  /-- A number, truth value, date or time as it is written. -/
  | literal (spelling : String)
  | array (elems : List Toml)
  | table (origin : Toml.Origin) (entries : List (String × Toml))
  /-- The elements of an array opened by headers, the last first. -/
  | tables (elems : List (List (String × Toml)))
deriving Repr

namespace Toml

/-- The values of a table, each with its key. -/
abbrev Entries := List (String × Toml)

namespace Entries

/-- Changes the value of a key, or gives it one; refused where `change` refuses. -/
def alter (key : String) (change : Option Toml → Option Toml) : Entries → Option Entries
  | [] => (change none).map fun v => [(key, v)]
  | (own, v) :: rest =>
      if own = key then (change (some v)).map fun v => (own, v) :: rest
      else (alter key change rest).map ((own, v) :: ·)

/-- Changes the entries of a table, which is opened if there is none.  A table within braces takes
no more entries, and a dotted key does not pass one that has a header. -/
def within (dotted : Bool) (change : Entries → Option Entries) : Option Toml → Option Toml
  | none => (change []).map (.table (if dotted then .dotted else .passed))
  | some (.table .inline _) => none
  | some (.table .header entries) =>
      if dotted then none else (change entries).map (.table .header)
  | some (.table origin entries) => (change entries).map (.table origin)
  | some (.tables (last :: earlier)) =>
      (change last).map fun entries => .tables (entries :: earlier)
  | some _ => none

/-- Changes the entries of the table at the end of a path. -/
def along (dotted : Bool) (change : Entries → Option Entries) :
    List String → Entries → Option Entries
  | [], entries => change entries
  | key :: path, entries => alter key (within dotted (along dotted change path)) entries

/-- Gives a value to a key that has none. -/
def define (v : Toml) : Option Toml → Option Toml
  | none => some v
  | some _ => none

/-- Gives a value to a key of a table that dotted keys opened, or opens such a table. -/
def extend (key : String) (v : Toml) : Option Toml → Option Toml
  | none => some (.table .dotted [(key, v)])
  | some (.table .dotted entries) => (alter key (define v) entries).map (.table .dotted)
  | some _ => none

/-- Gives a value to a dotted key, `path` first and `key` last. -/
def insert (path : List String) (key : String) (v : Toml) (entries : Entries) : Option Entries :=
  match path.getLast? with
  | none => alter key (define v) entries
  | some last => along true (alter last (extend key v)) path.dropLast entries

/-- A header opens a table that was at most passed on the way to another. -/
def asTable : Option Toml → Option Toml
  | none => some (.table .header [])
  | some (.table .passed entries) => some (.table .header entries)
  | some _ => none

/-- Opens the table of a header. -/
def openTable (path : List String) (key : String) (entries : Entries) : Option Entries :=
  along false (alter key asTable) path entries

/-- A doubled header opens one more element of an array of such. -/
def asElement : Option Toml → Option Toml
  | none => some (.tables [[]])
  | some (.tables elems) => some (.tables ([] :: elems))
  | some _ => none

/-- Opens the next element of the array of a doubled header. -/
def openElement (path : List String) (key : String) (entries : Entries) : Option Entries :=
  along false (alter key asElement) path entries

end Entries

end Toml

end SqlLex
