/-
# Reading a document of a known shape

A reader takes the value at the front of the remaining bytes. Readers are built
from a few pieces: numbers, texts, lists, and records with named fields. A
record may also be written as a list of its fields in order. Fields that nobody
asks for are passed over, however deep they nest; a field that comes twice or
not at all is a problem. Because a reader never looks ahead of the value it
reads, the first problem of the document is the one reported.
-/

import Clearinghouse.Json.Number
import Clearinghouse.Json.Text

namespace Clearinghouse.Json

/-- Reads a value off the front of the remaining bytes. -/
abbrev Reader (α : Type) := StateT (List UInt8) (Except Problem) α

namespace Reader

/-- The byte separates the parts of a document. -/
def isSpace (byte : UInt8) : Bool := byte == 0x20 || byte == 0x0a || byte == 0x0d || byte == 0x09

/-- Passes over white space and shows the next byte. -/
def peek : Reader (Option UInt8) :=
  modifyGet fun bytes => let rest := bytes.dropWhile isSpace; (rest.head?, rest)

/-- Takes the next byte. -/
def advance : Reader Unit := modify List.tail

/-- Lifts a function on the remaining bytes. -/
def ofFunction {α : Type} (f : List UInt8 → Except Problem (α × List UInt8)) : Reader α := f

/-- Lifts a function that only passes over bytes. -/
def ofSkip (f : List UInt8 → Except Problem (List UInt8)) : Reader Unit :=
  fun bytes => do return ((), ← f bytes)

/-- Reads the rest of a word whose first letter has been seen. -/
def word : List UInt8 → Reader Unit
  | [] => return
  | letter :: letters => do
    match ← get with
    | [] => throw .truncated
    | byte :: rest =>
      if byte ≠ letter then throw .malformed
      set rest
      word letters

/-- The letters of `null`. -/
def nullLetters : List UInt8 := [0x6e, 0x75, 0x6c, 0x6c]

/-- The letters of `true`. -/
def trueLetters : List UInt8 := [0x74, 0x72, 0x75, 0x65]

/-- The letters of `false`. -/
def falseLetters : List UInt8 := [0x66, 0x61, 0x6c, 0x73, 0x65]

/-- Reads what stands where something else was expected. Lists and records are
not read further than their bracket. -/
def found : Reader Found := do
  match ← peek with
  | some 0x6e => word nullLetters; return .null
  | some 0x74 => word trueLetters; return .boolean true
  | some 0x66 => word falseLetters; return .boolean false
  | some 0x22 => advance; return .text (← ofFunction Quoted.read)
  | some 0x5b => return .list
  | some 0x7b => return .record
  | some byte =>
    if byte = 0x2d ∨ Number.isDigit byte then
      return (← ofFunction Number.read).found
    else
      throw .malformed
  | none => throw .truncated

/-- Refuses the next value, which is not what was expected. -/
def mismatch {α : Type} (expected : String) : Reader α := do
  throw (.mismatch (← found) expected)

/-- Reads a number, or refuses what stands there instead. -/
def number (expected : String) : Reader Number := do
  match ← peek with
  | some byte =>
    if byte = 0x2d ∨ Number.isDigit byte then ofFunction Number.read else mismatch expected
  | none => throw .truncated

/-- Reads an unsigned 64-bit number. -/
def unsigned : Reader UInt64 := do
  match ← number "u64" with
  | .natural value => return value
  | .negative value => throw (.outOfRange (.negSucc value) "u64")
  | .floating text => throw (.mismatch (.floating text) "u64")

/-- Reads a signed 64-bit number. -/
def signed : Reader Int64 := do
  match ← number "i64" with
  | .natural value =>
    if value.toNat < Nat.pow 2 63 then return Int64.ofInt value.toNat
    else throw (.outOfRange value.toNat "i64")
  | .negative value => return Int64.ofInt (.negSucc value)
  | .floating text => throw (.mismatch (.floating text) "i64")

/-- Reads a text. -/
def text (expected : String) : Reader String := do
  match ← peek with
  | some 0x22 => advance; ofFunction Quoted.read
  | some _ => mismatch expected
  | none => throw .truncated

/-- The brackets that enclose the values being passed over, innermost first;
true stands for a record. -/
abbrev Enclosing := List Bool

/-- Reads the name and colon of a record's next field, unread. -/
def skipName : Reader Unit := do
  match ← peek with
  | some 0x22 =>
    advance
    ofSkip Quoted.skip
    match ← peek with
    | some 0x3a => advance
    | some _ => throw .malformed
    | none => throw .truncated
  | some _ => throw .malformed
  | none => throw .truncated

/-- Passes over a value that has no parts; false when it opens a list or
record. -/
def skipScalar : Reader Bool := do
  match ← peek with
  | some 0x6e => word nullLetters; return true
  | some 0x74 => word trueLetters; return true
  | some 0x66 => word falseLetters; return true
  | some 0x22 => advance; ofSkip Quoted.skip; return true
  | some 0x5b | some 0x7b => return false
  | some byte =>
    if byte = 0x2d ∨ Number.isDigit byte then
      ofSkip Number.skip
      return true
    else
      throw .malformed
  | none => throw .truncated

/-- The closing bracket of a list or record. -/
def closing (isRecord : Bool) : UInt8 := if isRecord then 0x7d else 0x5d

mutual

/-- Passes over a value and everything that must follow it up to the outermost
bracket; `fuel` is at least the number of remaining bytes. -/
def skipValueIn : Nat → Enclosing → Reader Unit
  | 0, _ => throw .truncated
  | fuel + 1, enclosing => do
    if ← skipScalar then
      skipAfterIn fuel enclosing
    else
      let isRecord := (← get).head? == some 0x7b
      advance
      match ← peek with
      | some byte =>
        if byte = closing isRecord then
          advance
          skipAfterIn fuel enclosing
        else
          if isRecord then skipName
          skipValueIn fuel (isRecord :: enclosing)
      | none => throw .truncated

/-- Passes over what follows a value inside its enclosing brackets. -/
def skipAfterIn : Nat → Enclosing → Reader Unit
  | _, [] => return
  | 0, _ => throw .truncated
  | fuel + 1, isRecord :: enclosing => do
    match ← peek with
    | some byte =>
      if byte = 0x2c then
        advance
        if isRecord then skipName
        skipValueIn fuel (isRecord :: enclosing)
      else if byte = closing isRecord then
        advance
        skipAfterIn fuel enclosing
      else
        throw .malformed
    | none => throw .truncated

end

/-- Passes over a value of any shape and depth. -/
def skip : Reader Unit := do
  skipValueIn (2 * (← get).length + 1) []

/-- Moves to the next element of a list; false at its closing bracket, which is
not taken. -/
def hasElement (isFirst : Bool) : Reader Bool := do
  match ← peek with
  | none => throw .truncated
  | some byte =>
    if byte = 0x5d then return false
    else if isFirst then return true
    else if byte = 0x2c then
      advance
      match ← peek with
      | none => throw .truncated
      | some byte => if byte = 0x5d then throw .malformed else return true
    else throw .malformed

/-- Takes the closing bracket of a list or record, before which nothing is left. -/
def close (isRecord : Bool) : Reader Unit := do
  match ← peek with
  | none => throw .truncated
  | some byte => if byte = closing isRecord then advance else throw .malformed

/-- The elements from the next one to the end of a list; `fuel` is at least the
number of remaining bytes. -/
def elements {α : Type} (item : Reader α) : Nat → Bool → Reader (List α)
  | 0, _ => throw .truncated
  | fuel + 1, isFirst => do
    if ← hasElement isFirst then
      let head ← item
      return head :: (← elements item fuel false)
    else
      return []

/-- Reads a list. -/
def list {α : Type} (item : Reader α) : Reader (List α) := do
  match ← peek with
  | some 0x5b =>
    advance
    let items ← elements item ((← get).length + 1) true
    close false
    return items
  | some _ => mismatch "a sequence"
  | none => throw .truncated

/-- A named field of a record that is being collected in a draft `D`. -/
structure Field (D : Type) where
  name : String
  isSet : D → Bool
  /-- Reads the value and enters it into the draft. -/
  read : D → Reader D

variable {D : Type}

/-- Moves to the next field of a record and reads its name; nothing at the
closing bracket, which is not taken. -/
def nextName (isFirst : Bool) : Reader (Option String) := do
  let readName : Reader (Option String) := do
    advance
    return some (← ofFunction Quoted.read)
  match ← peek with
  | none => throw .truncated
  | some byte =>
    if byte = 0x7d then return none
    else if isFirst then
      if byte = 0x22 then readName else throw .malformed
    else if byte = 0x2c then
      advance
      match ← peek with
      | some 0x22 => readName
      | some _ => throw .malformed
      | none => throw .truncated
    else throw .malformed

/-- Takes the colon between a name and its value. -/
def colon : Reader Unit := do
  match ← peek with
  | some 0x3a => advance
  | some _ => throw .malformed
  | none => throw .truncated

/-- Reads the fields of a record in any order; `fuel` is at least the number of
remaining bytes. -/
def members (fields : List (Field D)) : Nat → Bool → D → Reader D
  | 0, _, _ => throw .truncated
  | fuel + 1, isFirst, draft => do
    match ← nextName isFirst with
    | none => return draft
    | some name =>
      match fields.find? (·.name == name) with
      | none =>
        colon
        skip
        members fields fuel false draft
      | some field =>
        if field.isSet draft then throw (.duplicateField name)
        colon
        members fields fuel false (← field.read draft)

/-- Reads the fields of a record as the elements of a list; `index` counts those
already read. -/
def positional (expected : String) : List (Field D) → Nat → D → Reader D
  | [], _, draft => return draft
  | field :: fields, index, draft => do
    if ← hasElement (index == 0) then
      positional expected fields (index + 1) (← field.read draft)
    else
      throw (.tooShort index expected)

/-- The number of elements that a record written as a list must have. -/
def elementCount (n : Nat) : String := if n = 1 then "1 element" else s!"{n} elements"

/-- Reads a record into a draft with every field set. -/
def record (what : String) (fields : List (Field D)) (empty : D) : Reader D := do
  match ← peek with
  | some 0x7b =>
    advance
    let draft ← members fields ((← get).length + 1) true empty
    match fields.find? (!·.isSet draft) with
    | some field => throw (.missingField field.name)
    | none =>
      close true
      return draft
  | some 0x5b =>
    advance
    let draft ← positional s!"{what} with {elementCount fields.length}" fields 0 empty
    close false
    return draft
  | some _ => mismatch what
  | none => throw .truncated

/-- Reads a whole document, after which only white space may follow. -/
def document {α : Type} (reader : Reader α) (bytes : List UInt8) : Except Problem α := do
  let (value, rest) ← reader bytes
  if rest.all isSpace then return value else throw .malformed

end Reader

end Clearinghouse.Json
