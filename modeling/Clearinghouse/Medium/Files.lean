/-
# The files that media keep

A tree of files, as far as media and configurations can tell them apart: a
directory, a file of bytes, a database of rows, or a directory that holds a tree
of keys. A path is the list of names that lead to a file; a file is only found
below directories.
-/

import Clearinghouse.Medium.Table

namespace Clearinghouse

/-- The names that lead to a file. The first name of a path from the root is a
single slash. -/
abbrev Path := List String

/-- Values by key, both byte strings, in the order of the keys. -/
abbrev KeyTree := Std.ExtTreeMap (List UInt8) (List UInt8)

/-- What stands at a path. -/
inductive FileNode
  | directory
  | file (content : List UInt8)
  /-- A database of account rows. -/
  | rows (table : Table)
  /-- A directory that holds a tree of keys; one store at a time may hold it. -/
  | keys (tree : KeyTree) (isHeld : Bool)

/-- What stands at each path. -/
abbrev Files := Std.ExtTreeMap Path FileNode

/-- The names of a written path. Empty names and single dots mean nothing, two
dots take the name before them back. -/
def Path.parse (text : String) : Path :=
  let names := (text.toList.splitOn '/').map String.ofList
  let root := if text.toList.head? = some '/' then ["/"] else []
  names.foldl (fun path name =>
    if name = "" ∨ name = "." then path
    else if name = ".." then (if path = ["/"] then path else path.dropLast)
    else path ++ [name]) root

namespace Files

/-- A path that other files can stand below. -/
def isDirectory (files : Files) (path : Path) : Bool :=
  match path with
  | [] | ["/"] => true
  | _ => match files[path]? with
    | some .directory | some (.keys ..) => true
    | _ => false

/-- Makes the directories of a path below `above`, except those that exist.
Nothing if a file is in the way. -/
def makeDirectoriesFrom (above : Path) : List String → Files → Option Files
  | [], files => some files
  | name :: names, files =>
    let path := above ++ [name]
    if files.isDirectory path then makeDirectoriesFrom path names files
    else match files[path]? with
      | some _ => none
      | none => makeDirectoriesFrom path names (files.insert path .directory)

/-- Makes the directories of a path. -/
def makeDirectories (files : Files) (path : Path) : Option Files :=
  makeDirectoriesFrom [] path files

/-- Why a file cannot be read. -/
inductive Unreadable
  | missing
  /-- Something stands in the way, or the file is none that can be read. -/
  | other
  deriving DecidableEq, Repr, Inhabited

/-- Something that is no directory stands at a path or above it. -/
def isBlocked (files : Files) (path : Path) : Bool :=
  (List.range (path.length + 1)).any fun n =>
    files.contains (path.take n) && !files.isDirectory (path.take n)

/-- The bytes of a file by its written path. Nothing has the empty path. A path
that ends in a slash asks for a directory. -/
def read (files : Files) (text : String) : Except Unreadable (List UInt8) :=
  let path := Path.parse text
  if text = "" then .error .missing
  else if text.contains '\x00' then .error .other
  else match files[path]? with
    | some (.file content) =>
      if text.toList.getLast? = some '/' then .error .other else .ok content
    | _ =>
      if files.isDirectory path ∨ files.isBlocked path then .error .other else .error .missing

end Files

end Clearinghouse
