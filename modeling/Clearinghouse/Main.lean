/-
# The command line

The program between its system and its logic: it fetches the files that a run
may look at, hands everything to the program, and puts back the databases that
the run has changed. A database of rows is a file, a tree of keys a directory
with one file in it.
-/

import Clearinghouse.Medium.Image
import Clearinghouse.Program

namespace Clearinghouse.Main

/-- Fetches a file, as `node` reads its bytes. A path to something else than a
file counts as a directory, a path to nothing changes nothing. -/
def fetch (node : List UInt8 → FileNode) (source path : String) (files : Files) : IO Files := do
  match ← (IO.FS.readBinFile source).toBaseIO with
  | .ok bytes => return files.insert (Path.parse path) (node bytes.toList)
  | .error (.noFileOrDirectory ..) => return files
  | .error _ => return files.insert (Path.parse path) .directory

/-- The file that holds a tree of keys. -/
def keyFile (path : String) : String := path ++ "/accounts"

/-- Fetches the database that settings name. -/
def fetchStorage (storage : Config.Storage) (files : Files) : IO Files := do
  match storage with
  | .rows path =>
    if path = RowStore.inMemory then return files else fetch Image.rowsOf path path files
  | .keyTree path => fetch Image.keysOf (keyFile path) path (← fetch .file path path files)
  | _ => return files

/-- A path as text again. -/
def written (path : Path) : String :=
  match path with
  | "/" :: names => "/" ++ String.intercalate "/" names
  | names => String.intercalate "/" names

/-- Puts the text of the database at a path into a file in a directory. -/
def putBack (files : Files) (path : String) (target : String) (directory : Path) : IO Unit := do
  match files[Path.parse path]?.bind Image.textOf? with
  | none => return
  | some text =>
    if directory ≠ [] then
      IO.FS.createDirAll (written directory)
    IO.FS.writeFile target text

/-- Puts back the database that settings name. -/
def putBackStorage (storage : Config.Storage) (files : Files) : IO Unit := do
  match storage with
  | .rows path =>
    if path ≠ RowStore.inMemory then
      putBack files path path (RowStore.parentOf path)
  | .keyTree path => putBack files path (keyFile path) (Path.parse path)
  | _ => return

/-- Reads a stream to its end. -/
partial def readAll (stream : IO.FS.Stream) (before : ByteArray) : IO ByteArray := do
  let part ← stream.read 65536
  if part.isEmpty then return before else readAll stream (before ++ part)

/-- Fetches what a run with the given arguments may look at: files, the storage it
uses and its standard input. -/
def gather (arguments : List String) : IO (Files × Option Config.Storage × List UInt8) := do
  match CommandLine.parse arguments with
  | .error _ => return (∅, none, [])
  | .ok arguments =>
    let files ← fetch .file arguments.config arguments.config ∅
    let storage := (Config.Settings.load files arguments).toOption.map (·.storage)
    let files ← match arguments.input with
      | some path => if path = "-" then pure files else fetch .file path path files
      | none => pure files
    let files ← match storage with
      | some storage => fetchStorage storage files
      | none => pure files
    let standardInput ←
      if arguments.input = some "-" then readAll (← IO.getStdin) .empty else pure .empty
    return (files, storage, standardInput.toList)

end Clearinghouse.Main

/-- Runs the program. -/
def main (arguments : List String) : IO UInt32 := do
  let (files, storage, standardInput) ← Clearinghouse.Main.gather arguments
  let seed ← IO.getRandomBytes 32
  let around := { Clearinghouse.Surroundings.empty with files }
  let (finished, around) :=
    Clearinghouse.Program.run arguments standardInput seed.toList around
  if let some storage := storage then
    Clearinghouse.Main.putBackStorage storage around.files
  IO.print finished.output
  if let some complaint := finished.complaint then
    IO.eprintln s!"Error: {complaint}"
  return UInt32.ofNat finished.exit.code
