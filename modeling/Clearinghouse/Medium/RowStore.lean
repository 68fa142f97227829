/-
# Accounts in the rows of a database

A medium with one row for each account, kept in a file or, under a reserved
name, in memory for as long as a store is connected. A list of changes is
written in one native transaction: if one of them cannot be written, none is.
Identifiers of rows are signed, so an account beyond the largest signed number
can neither be read nor written.
-/

import Clearinghouse.Medium.Files

namespace Clearinghouse.RowStore

/-- The path that stands for a database in memory. -/
def inMemory : String := ":memory:"

/-- A store's connection: where the database is, whether it is connected, and the
rows of a database in memory. -/
structure Handle where
  path : String
  isConnected : Bool
  rows : Table

/-- A store that is not connected yet. An empty path leads nowhere. -/
def Handle.new (path : String) : Except StoreError Handle :=
  if path = "" then .error (.invalidConfiguration "sqlite: path is required")
  else .ok ⟨path, false, ∅⟩

/-- The state of the medium: the connection, and the files the database is
among. -/
abbrev State := Handle × Files

/-- The largest identifier of a row. -/
def maxId : Nat := Int64.maxValue.toNatClampNeg

/-- An account that no row can stand for. -/
def outOfRange (id : AccountId) : StoreError :=
  .medium "account id out of range" s!"{id} exceeds INTEGER"

/-- Refuses an identifier that no row can have. -/
def checkId (id : AccountId) : Step State Unit := do
  if maxId < id.toNat then
    throw (outOfRange id)

/-- The names above the last one of a written path; none if it has no slash. -/
def parentOf (text : String) : Path :=
  (Path.parse text).dropLast

/-- Connects to the database, making its file and directories as needed. A file
that is no database is only noticed when the rows are asked for. -/
def connect : Step State Unit := do
  let (handle, files) ← get
  if handle.path = inMemory then
    set (Handle.mk handle.path true ∅, files)
  else
    let path := Path.parse handle.path
    match files.makeDirectories (parentOf handle.path) with
    | none => throw (.io "a file is in the way")
    | some files =>
      set (handle, files)
      match files[path]? with
      | none =>
        if files.isDirectory path then
          throw (.medium "failed to open database" "unavailable")
        set (Handle.mk handle.path true ∅, files.insert path (.rows ∅))
      | some (.file []) => set (Handle.mk handle.path true ∅, files.insert path (.rows ∅))
      | some (.rows _) => set (Handle.mk handle.path true ∅, files)
      | some (.file _) => throw (.medium "failed to create schema" "file is not a database")
      | some .directory | some (.keys ..) =>
        throw (.medium "failed to open database" "unavailable")

/-- Ends the connection; rows in memory are gone with it. -/
def release (state : State) : State := (⟨state.1.path, false, ∅⟩, state.2)

/-- The rows of the connected database. -/
def rows : Step State Table := do
  let (handle, files) ← get
  if !handle.isConnected then
    throw .notInitialized
  else if handle.path = inMemory then
    return handle.rows
  else match files[Path.parse handle.path]? with
    | some (.rows table) => return table
    | _ => throw .notInitialized

/-- Puts rows in place of those of the connected database. -/
def setRows (table : Table) : Step State Unit :=
  modify fun (handle, files) =>
    if handle.path = inMemory then ({ handle with rows := table }, files)
    else (handle, files.insert (Path.parse handle.path) (.rows table))

/-- The medium of rows in a database. -/
def backend : Backend State where
  name := "sqlite"
  guarantee := .atomic
  connect := connect
  disconnect := modify release
  load id := do
    checkId id
    return (← rows).account? id
  loadAll := return (← rows).accounts
  flush changes := do
    let table ← rows
    match changes.find? fun change => maxId < change.id.toNat with
    | some change => throw (outOfRange change.id)
    | none => setRows (table.recordAll changes)

end Clearinghouse.RowStore
