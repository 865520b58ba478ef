/-!
# TOML documents

A document is a table of entries, each a key with a value. Tables stand inside tables, and a table
is put together from lines that may be far apart: under a header, under a header of a table inside
it, or with dotted keys. Whether a line may still add to a table depends on how the table came
about, which is its `Origin`.

Numbers, truth values and dates are kept as they were written.
-/

namespace TabTools.Toml

/-- How a table came about. -/
inductive Origin where
  /-- Written between braces, and complete with them. -/
  | braces
  /-- Named by a header of its own. -/
  | header
  /-- On the way to the table of a header, without a header of its own so far. -/
  | passed
  /-- On the way to the last part of a dotted key. -/
  | dotted
deriving DecidableEq, Repr

inductive Value where
  | text (value : String)
  /-- A number, a truth value or a date, as written. -/
  | literal (written : String)
  | array (items : List Value)
  | table (origin : Origin) (entries : List (String × Value))
  /-- An array of tables that headers put together. The last one is still open. -/
  | tables (earlier : List (List (String × Value))) (last : List (String × Value))
deriving Repr

/-- The entries of a table, in the order in which they came. -/
abbrev Entries := List (String × Value)

/-- A value with no items or entries in it. -/
def Value.isEmpty : Value → Bool
  | .array [] => true
  | .table _ [] => true
  | _ => false

namespace Entries

/-- Gives a key that is there another value. -/
def replace (key : String) (value : Value) : Entries → Entries
  | [] => []
  | (k, v) :: rest => if k = key then (k, value) :: rest else (k, v) :: replace key value rest

/-- Adds an entry, unless the key is there. -/
def addNew (key : String) (value : Value) (entries : Entries) : Option Entries :=
  if (entries.lookup key).isSome then none else some (entries ++ [(key, value)])

/-- Changes the table at the end of a path of keys. Tables that are missing on the way are made with
the origin `made`; those that are there must be passable. An array of tables leads to its last
table. The change sees the origin of the table it is made to. -/
def within (passable : Origin → Bool) (made : Origin)
    (change : Origin → Entries → Option Entries) :
    (path : List String) → (origin : Origin) → Entries → Option Entries
  | [], origin, entries => change origin entries
  | key :: path, _, entries =>
    match entries.lookup key with
    | none =>
      (within passable made change path made []).map fun sub => entries ++ [(key, .table made sub)]
    | some (.table origin sub) =>
      if passable origin then
        (within passable made change path origin sub).map fun sub =>
          entries.replace key (.table origin sub)
      else none
    | some (.tables earlier last) =>
      (within passable made change path .header last).map fun last =>
        entries.replace key (.tables earlier last)
    | some _ => none

/-- Follows the keys of a header. -/
def underHeader (path : List String) (change : Origin → Entries → Option Entries)
    (entries : Entries) : Option Entries :=
  within (· != .braces) .passed change path .header entries

/-- Puts a value under a dotted key. The tables on the way must not have headers of their own, and
the last of them must have been made by a dotted key. -/
def put (path : List String) (key : String) (value : Value) (origin : Origin)
    (entries : Entries) : Option Entries :=
  within (fun o => o == .passed || o == .dotted) .dotted
    (fun o sub => if (o == .dotted) == path.isEmpty then none else sub.addNew key value)
    path origin entries

/-- Opens a table under a header. A table can be opened once, and not when it was made by a dotted
key. -/
def openTable (key : String) (entries : Entries) : Option Entries :=
  match entries.lookup key with
  | none => some (entries ++ [(key, .table .header [])])
  | some (.table .passed sub) => some (entries.replace key (.table .header sub))
  | some _ => none

/-- Opens another table of an array of tables. -/
def openNext (key : String) (entries : Entries) : Option Entries :=
  match entries.lookup key with
  | none => some (entries ++ [(key, .tables [] [])])
  | some (.tables earlier last) => some (entries.replace key (.tables (earlier ++ [last]) []))
  | some _ => none

end Entries

end TabTools.Toml
