import HidPointer.Toml.Value

/-!
# Building tables

A TOML document defines its tables bit by bit: by headers, by dotted keys, and by the mere mention
of a longer path. Which of them may add to a table depends on how the table came about.
-/

set_option autoImplicit false

namespace HidPointer.Toml

/-- How a table came about. -/
inductive Origin where
  /-- By a header of its own. -/
  | header
  /-- By a header of a table within it. A header of its own may still follow. -/
  | implied
  /-- By a dotted key. Other dotted keys may add to it. -/
  | dotted
  deriving DecidableEq, Repr

inductive Node where
  /-- A value, to which nothing can be added. -/
  | value (value : Toml)
  | table (origin : Origin) (entries : List (String × Node))
  /-- The tables of an array of tables. The last one can still grow. -/
  | tables (items : List (List (String × Node)))

abbrev Entries := List (String × Node)

namespace Entries

def put (key : String) (node : Node) : Entries → Entries
  | [] => [(key, node)]
  | (other, kept) :: entries =>
      if other = key then (key, node) :: entries else (other, kept) :: put key node entries

/-- Changes the table at the end of a path. Tables that are missing on the way are created with
the origin `fresh`. A path of dotted keys does not lead through a table that has a header. -/
def changeAt (fresh : Origin) (change : Origin → Entries → Option Entries) :
    List String → Origin → Entries → Option Entries
  | [], origin, entries => change origin entries
  | key :: path, _, entries =>
      match entries.lookup key with
      | none =>
          (changeAt fresh change path fresh []).map fun inner =>
            put key (.table fresh inner) entries
      | some (.value _) => none
      | some (.table origin inner) =>
          if fresh = .dotted ∧ origin = .header then none
          else
            (changeAt fresh change path origin inner).map fun inner =>
              put key (.table origin inner) entries
      | some (.tables items) =>
          match items.getLast? with
          | none => none
          | some last =>
              (changeAt fresh change path .header last).map fun last =>
                put key (.tables (items.dropLast ++ [last])) entries

/-- Adds a value under a dotted key: the last part names the value, the others lead to its table.
That table must be one that dotted keys made, unless it is the one the path starts at. -/
def insert (origin : Origin) (entries : Entries) (path : List String) (key : String)
    (value : Toml) : Option Entries :=
  let add (origin : Origin) (entries : Entries) : Option Entries :=
    if path ≠ [] ∧ origin ≠ .dotted then none
    else if (entries.lookup key).isSome then none
    else some (entries ++ [(key, .value value)])
  changeAt .dotted add path origin entries

def openTable (entries : Entries) (path : List String) (key : String) : Option Entries :=
  let define (_ : Origin) (entries : Entries) : Option Entries :=
    match entries.lookup key with
    | none => some (entries ++ [(key, .table .header [])])
    | some (.table .implied inner) => some (put key (.table .header inner) entries)
    | some _ => none
  changeAt .implied define path .header entries

def openArrayTable (entries : Entries) (path : List String) (key : String) : Option Entries :=
  let extend (_ : Origin) (entries : Entries) : Option Entries :=
    match entries.lookup key with
    | none => some (entries ++ [(key, .tables [[]])])
    | some (.tables items) => some (put key (.tables (items ++ [[]])) entries)
    | some _ => none
  changeAt .implied extend path .header entries

/-- Adds a value to the table that the last header opened. -/
def insertUnder (entries : Entries) (header path : List String) (key : String) (value : Toml) :
    Option Entries :=
  changeAt .implied (fun origin entries => insert origin entries path key value) header .header
    entries

end Entries

mutual

def Node.close : Node → Toml
  | .value value => value
  | .table _ entries => .table (closeEntries entries)
  | .tables items => .array (closeTables items)

def closeEntries : List (String × Node) → List (String × Toml)
  | [] => []
  | (key, node) :: entries => (key, node.close) :: closeEntries entries

def closeTables : List (List (String × Node)) → List Toml
  | [] => []
  | entries :: items => .table (closeEntries entries) :: closeTables items

end

end HidPointer.Toml
