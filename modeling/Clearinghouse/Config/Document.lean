/-
# What a configuration says

A configuration is a tree of tables, lists and plain values, whatever format it
was written in. A table keeps its entries in order and may name one of them
twice, which is refused by whoever asks for that entry.
-/

import Clearinghouse.Json.Reader

namespace Clearinghouse.Config

/-- A node of a configuration. -/
inductive Document
  | null
  | boolean (value : Bool)
  | integer (value : Int)
  | floating
  | text (value : String)
  /-- A date, a time or both. -/
  | moment
  | list (items : List Document)
  | table (entries : List (String × Document))
  deriving Repr, Inhabited

namespace Document

/-- The text of a node. -/
def text? : Document → Option String
  | text value => some value
  | _ => none

/-- The truth value of a node. -/
def boolean? : Document → Option Bool
  | boolean value => some value
  | _ => none

/-- The signed 64-bit number of a node. -/
def signed? : Document → Option Int64
  | integer value =>
    if Int64.minValue.toInt ≤ value ∧ value ≤ Int64.maxValue.toInt then some (Int64.ofInt value)
    else none
  | _ => none

/-- The unsigned 64-bit number of a node. -/
def unsigned? : Document → Option UInt64
  | integer value =>
    if 0 ≤ value ∧ value < UInt64.size then some (UInt64.ofNat value.toNat) else none
  | _ => none

/-- The items of a list, each as `item` reads it. -/
def list? {α : Type} (item : Document → Option α) : Document → Option (List α)
  | list items => items.mapM item
  | _ => none

/-- The entries of a record of named fields. A record may also be written as a
list of its fields in order; a date counts as a record without known fields. -/
inductive Record
  | named (entries : List (String × Document))
  | positional (items : List Document)

/-- A node as a record. -/
def record? : Document → Option Record
  | table entries => some (.named entries)
  | list items => some (.positional items)
  | moment => some (.named [])
  | _ => none

/-- The field of a record with a name and a position. Nothing if the record is
refused because the field comes twice; otherwise the field, if it is there. -/
def Record.field? (record : Record) (index : Nat) (name : String) : Option (Option Document) :=
  match record with
  | named entries =>
    match entries.filter (·.1 == name) with
    | [] => some none
    | [(_, value)] => some (some value)
    | _ => none
  | positional items => some items[index]?

/-- A field that must be there. -/
def Record.required? {α : Type} (record : Record) (index : Nat) (name : String)
    (read : Document → Option α) : Option α := do
  read (← (← record.field? index name))

/-- A field that has a value of its own when it is not there. -/
def Record.optional? {α : Type} (record : Record) (index : Nat) (name : String)
    (read : Document → Option α) (default : α) : Option α := do
  match ← record.field? index name with
  | some value => read value
  | none => some default

/-- A text that may be null. -/
def nullableText? : Document → Option (Option String)
  | null => some none
  | text value => some (some value)
  | _ => none

end Document

/-! ## Configurations written as JSON -/

namespace Json

open Clearinghouse.Json (Reader Problem)

/-- How deep lists and records may nest, less one. -/
def maxDepth : Nat := 127

/-- The entries of a record from the next one on; `fuel` is at least the number of
remaining bytes. -/
def entries (value : Reader Document) : Nat → Bool → Reader (List (String × Document))
  | 0, _ => throw Problem.truncated
  | fuel + 1, isFirst => do
    match ← Reader.nextName isFirst with
    | none => return []
    | some name =>
      Reader.colon
      let entry ← value
      return (name, entry) :: (← entries value fuel false)

/-- A value without parts. -/
def ofFound : Clearinghouse.Json.Found → Reader Document
  | .null => return .null
  | .boolean value => return .boolean value
  | .integer value => return .integer value
  | .text value => return .text value
  | .floating _ => return .floating
  | .list | .record => throw Problem.malformed

/-- Reads a value of any shape; `depth` more lists or records may be opened. -/
def value : Nat → Reader Document
  | 0 => do ofFound (← Reader.found)
  | depth + 1 => do
    match ← Reader.peek with
    | some 0x5b =>
      Reader.advance
      let items ← Reader.elements (value depth) ((← get).length + 1) true
      Reader.close false
      return .list items
    | some 0x7b =>
      Reader.advance
      let fields ← entries (value depth) ((← get).length + 1) true
      Reader.close true
      return .table fields
    | _ => ofFound (← Reader.found)

/-- Reads a configuration. -/
def parse? (bytes : List UInt8) : Option Document :=
  (Reader.document (value maxDepth) bytes).toOption

end Json

end Clearinghouse.Config
