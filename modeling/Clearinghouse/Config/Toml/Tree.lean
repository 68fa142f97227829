/-
# The tables of a configuration file

A file fills its tables in any order, but no table in two ways. A table is
opened by a header of its own, implied by the header of a table below it, or
implied by a dotted key, and each way limits what may still be added. A header
may open a table that only a header has implied; a dotted key may go through
implied tables, and add to one that dotted keys have made. A list of tables
grows at its end, and paths through it lead to its last table.
-/

import Clearinghouse.Config.Document

namespace Clearinghouse.Config.Toml

/-- How a table came to be. -/
inductive Origin
  /-- It has a header of its own, or is the whole file. -/
  | header
  /-- The header of a table below it implies it. -/
  | path
  /-- A dotted key implies it. -/
  | dotted
  deriving DecidableEq, Repr

/-- What a name stands for while the file is read. -/
inductive Node
  | value (document : Document)
  | table (origin : Origin) (entries : List (String × Node))
  /-- A list of tables, each with a header. -/
  | tables (elements : List (List (String × Node)))

/-- The entries of a table, in the order in which they were added. -/
abbrev Entries := List (String × Node)

/-- A name with the names of the tables that lead to it. -/
structure Key where
  path : List String
  name : String
  deriving DecidableEq, Repr

/-- The number of names of a key. -/
def Key.length (key : Key) : Nat := key.path.length + 1

namespace Entries

/-- The entries with another node for a name, which stays in its place. -/
def put (entries : Entries) (name : String) (node : Node) : Entries :=
  if entries.any (·.1 == name) then
    entries.map fun entry => if entry.1 == name then (name, node) else entry
  else entries ++ [(name, node)]

/-- Changes the table that a path leads to, starting from a table with an origin
of its own. Tables that are missing on the way are made, and `implied` is their
origin. -/
def alter (implied : Origin) (change : Origin → Entries → Option Entries) :
    List String → Origin → Entries → Option Entries
  | [], origin, entries => change origin entries
  | name :: path, _, entries => do
    match entries.lookup name with
    | none => return entries.put name (.table implied (← alter implied change path implied []))
    | some (.value _) => none
    | some (.table origin inner) =>
      if implied = .dotted ∧ origin = .header then none
      else return entries.put name (.table origin (← alter implied change path origin inner))
    | some (.tables elements) =>
      let last ← elements.getLast?
      return entries.put name
        (.tables (elements.dropLast ++ [← alter implied change path .header last]))

/-- Changes the table that headers lead to by a path. -/
def below (entries : Entries) (path : List String) (change : Entries → Option Entries) :
    Option Entries :=
  alter .path (fun _ entries => change entries) path .header entries

/-- Adds a value by its key. The name must be new in a table that dotted keys may
add to. -/
def addValue (entries : Entries) (key : Key) (value : Document) : Option Entries :=
  alter .dotted (fun origin inner =>
    if (key.path ≠ [] ∧ origin ≠ .dotted) ∨ inner.any (·.1 == key.name) then none
    else some (inner ++ [(key.name, .value value)])) key.path .header entries

/-- Opens the table of a header. -/
def openTable (entries : Entries) (key : Key) : Option Entries :=
  entries.below key.path fun inner =>
    match inner.lookup key.name with
    | none => some (inner ++ [(key.name, .table .header [])])
    | some (.table .path known) => some (inner.put key.name (.table .header known))
    | some _ => none

/-- Opens a new table at the end of the list of a header. -/
def openElement (entries : Entries) (key : Key) : Option Entries :=
  entries.below key.path fun inner =>
    match inner.lookup key.name with
    | none => some (inner ++ [(key.name, .tables [[]])])
    | some (.tables elements) => some (inner.put key.name (.tables (elements ++ [[]])))
    | some _ => none

end Entries

mutual

/-- A node without the traces of how it was written. -/
def Node.document : Node → Document
  | .value document => document
  | .table _ entries => .table (documents entries)
  | .tables elements => .list (tableDocuments elements)

/-- The entries of a table without those traces. -/
def documents : List (String × Node) → List (String × Document)
  | [] => []
  | (name, node) :: rest => (name, node.document) :: documents rest

/-- The tables of a list without those traces. -/
def tableDocuments : List (List (String × Node)) → List Document
  | [] => []
  | entries :: rest => .table (documents entries) :: tableDocuments rest

end

end Clearinghouse.Config.Toml
