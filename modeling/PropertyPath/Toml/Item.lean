/-!
# TOML documents as data

A table lists its keys in the order in which they came up, and remembers how it
came up itself: by a header of its own, as a table that a longer header implies,
by dotted keys, or written inline. That origin decides what may still be added,
since no table is defined twice and no value is replaced.
-/

namespace PropertyPath.Toml

/-- How a table came up. The whole document counts as a table with a header. -/
inductive Origin where
  | header
  | implied
  | dotted
  | inlined
  deriving DecidableEq, Repr

/-- What a key stands for. A date or a time is known to be one and no more. A
sequence of tables is built by headers in double brackets. -/
inductive Item where
  | string (text : String)
  | integer (n : Int64)
  | float (x : Float)
  | boolean (b : Bool)
  | datetime
  | array (items : List Item)
  | tables (tables : List (List (String × Item)))
  | table (origin : Origin) (entries : List (String × Item))
  deriving Inhabited

/-- The entries of a table. -/
abbrev Entries := List (String × Item)

namespace Entries

/-- Gives a key an item, in the place of the one it had or else at the end. -/
def put (key : String) (item : Item) : Entries → Entries
  | [] => [(key, item)]
  | (other, old) :: rest =>
    if other = key then (key, item) :: rest else (other, old) :: put key item rest

/-- Changes the table at the end of a path, by an edit that is told how that table
came up. Tables missing on the way come up as `fresh` says, and of a sequence of
tables the last one is entered. No path enters an inline table, and dotted keys do
not enter a table with a header of its own. -/
def change (fresh : Origin) (edit : Origin → Entries → Option Entries) :
    List String → Origin → Entries → Option Entries
  | [], origin, entries => edit origin entries
  | key :: path, _, entries =>
    match entries.lookup key with
    | none => (change fresh edit path fresh []).map fun inner => put key (.table fresh inner) entries
    | some (.table origin inner) =>
      if origin = .inlined ∨ (fresh = .dotted ∧ origin = .header) then none
      else (change fresh edit path origin inner).map fun inner =>
        put key (.table origin inner) entries
    | some (.tables tables) =>
      match tables.getLast? with
      | none => none
      | some last => (change fresh edit path .header last).map fun last =>
        put key (.tables (tables.dropLast ++ [last])) entries
    | some _ => none

/-- Adds a key by a path of dotted keys below a table. The key must be new, and
the path must lead to a table that dotted keys made. -/
def define (path : List String) (key : String) (item : Item) (origin : Origin)
    (entries : Entries) : Option Entries :=
  change .dotted (fun found inner =>
    if (!path.isEmpty && found ≠ .dotted) || (inner.lookup key).isSome then none
    else some (put key item inner)) path origin entries

/-- Adds a key by dotted keys below the table that the last header opened. -/
def defineAt (header path : List String) (key : String) (item : Item) (entries : Entries) :
    Option Entries :=
  change .implied (define path key item) header .header entries

/-- Opens the table of a header. Only a table that longer headers implied may be
there already; it moves to the end. -/
def openTable (path : List String) (key : String) (entries : Entries) : Option Entries :=
  change .implied (fun _ inner =>
    match inner.lookup key with
    | none => some (put key (.table .header []) inner)
    | some (.table .implied own) =>
      some (inner.filter (·.1 ≠ key) ++ [(key, .table .header own)])
    | some _ => none) path .header entries

/-- Adds a table to the sequence of a header in double brackets. -/
def openElement (path : List String) (key : String) (entries : Entries) : Option Entries :=
  change .implied (fun _ inner =>
    match inner.lookup key with
    | none => some (put key (.tables [[]]) inner)
    | some (.tables tables) => some (put key (.tables (tables ++ [[]])) inner)
    | some _ => none) path .header entries

end Entries

end PropertyPath.Toml
