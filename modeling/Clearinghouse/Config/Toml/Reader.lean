/-
# Configuration files

A file is a sequence of lines: a header in brackets opens a table, a header in
double brackets opens a new table of a list, and every other line gives a value
to a key of the open table. Comments start with a number sign. Values are words,
quoted texts, lists, which may go over several lines, and inline tables, which
may not.
-/

import Clearinghouse.Config.Toml.Scalar
import Clearinghouse.Config.Toml.Text
import Clearinghouse.Config.Toml.Tree

namespace Clearinghouse.Config.Toml

/-- Reads something off the front of the remaining characters, if it is there. -/
abbrev Reader (α : Type) := StateT (List Char) Option α

namespace Reader

/-- The next character. -/
def peek : Reader (Option Char) := return (← get).head?

/-- Takes the next character, which must be the given one. -/
def expect (mark : Char) : Reader Unit := do
  set (← (afterMark? mark (← get) : Option _))

/-- Passes over blanks. -/
def spaces : Reader Unit := modify (·.dropWhile isSpace)

/-- Passes over a comment if one is next. -/
def comment : Reader Unit := do
  if (← peek) = some '#' then
    modify (·.dropWhile isPlain)

/-- Passes over the end of a line, which may hold a comment. The end of the file
ends a line as well. -/
def lineEnd : Reader Unit := do
  spaces
  comment
  match ← get with
  | [] => return
  | cs => set (← (afterBreak? cs : Option _))

/-- Passes over blanks, line breaks and comments; `fuel` is more than the number
of characters left. -/
def trivia : Nat → Reader Unit
  | 0 => return
  | fuel + 1 => do
    modify afterBlanks
    if (← peek) = some '#' then
      comment
      trivia fuel

/-- Passes over blanks, line breaks and comments. -/
def gap : Reader Unit := do trivia ((← get).length + 1)

/-- A character of a name without quotes. -/
def isNameChar (c : Char) : Bool := c.isAlphanum || c = '_' || c = '-'

/-- Reads one name of a key. -/
def name : Reader String := do
  let cs ← get
  match cs with
  | '"' :: _ | '\'' :: _ =>
    let (text, rest) ← (quotedLine? cs : Option _)
    set rest
    return String.ofList text
  | _ =>
    let name := cs.takeWhile isNameChar
    guard (name ≠ [])
    set (cs.dropWhile isNameChar)
    return String.ofList name

/-- Reads a key with blanks around its names; `fuel` is more than the number of
characters left. -/
def names : Nat → Reader Key
  | 0 => failure
  | fuel + 1 => do
    spaces
    let first ← name
    spaces
    if (← peek) = some '.' then
      expect '.'
      let rest ← names fuel
      return ⟨first :: rest.path, rest.name⟩
    else
      return ⟨[], first⟩

/-- The least number of names that a key cannot have, and of lists or inline
tables that cannot be nested. -/
def depthLimit : Nat := 128

/-- Reads a key. -/
def key : Reader Key := do
  let key ← names ((← get).length + 1)
  guard (key.length < depthLimit)
  return key

/-- Reads a word. A date may go on with a time after a blank. -/
def word : Reader Document := do
  let cs ← get
  let first := cs.takeWhile isWordChar
  let rest := cs.dropWhile isWordChar
  let (word, rest) := match rest with
    | ' ' :: c :: _ =>
      if isDate first ∧ c.isDigit then
        (first ++ ' ' :: (rest.drop 1).takeWhile isWordChar, (rest.drop 1).dropWhile isWordChar)
      else (first, rest)
    | _ => (first, rest)
  set rest
  (scalar? word : Option _)

/-- Reads a quoted text. -/
def text : Reader Document := do
  let (text, rest) ← (quoted? (← get) : Option _)
  set rest
  return .text (String.ofList text)

/-- Reads the items of a list from the next one on, with its closing bracket. A
comma may follow the last item. -/
def items (value : Reader Document) : Nat → Reader (List Document)
  | 0 => failure
  | fuel + 1 => do
    gap
    if (← peek) = some ']' then
      expect ']'
      return []
    else
      let item ← value
      gap
      if (← peek) = some ',' then
        expect ','
        return item :: (← items value fuel)
      else
        expect ']'
        return [item]

/-- Reads a key and its value, with the blanks after it. -/
def entry (value : Reader Document) : Reader (Key × Document) := do
  let key ← key
  expect '='
  spaces
  let document ← value
  spaces
  return (key, document)

/-- Reads the entries of an inline table from the next one on, with its closing
brace, and adds them to those before. -/
def fields (value : Reader Document) : Nat → Entries → Reader Entries
  | 0, _ => failure
  | fuel + 1, entries => do
    let (key, document) ← entry value
    let entries ← (entries.addValue key document : Option _)
    if (← peek) = some ',' then
      expect ','
      fields value fuel entries
    else
      expect '\x7d'
      return entries

/-- Reads a value; fewer than `depth` lists or inline tables may be opened. -/
def value : Nat → Reader Document
  | 0 => failure
  | depth + 1 => do
    match ← peek with
    | some '"' | some '\'' => text
    | some '[' =>
      guard (0 < depth)
      expect '['
      return .list (← items (value depth) ((← get).length + 1))
    | some '\x7b' =>
      guard (0 < depth)
      expect '\x7b'
      spaces
      if (← peek) = some '\x7d' then
        expect '\x7d'
        return .table []
      else
        return .table (documents (← fields (value depth) ((← get).length + 1) []))
    | _ => word

/-- What has been read of a file: its tables, and the path to the open one. -/
structure Draft where
  tables : Entries
  path : List String

/-- Reads a header of a table. -/
def header (draft : Draft) : Reader Draft := do
  expect '['
  let isElement := (← peek) = some '['
  if isElement then
    expect '['
  let key ← key
  expect ']'
  if isElement then
    expect ']'
  lineEnd
  let opened := if isElement then draft.tables.openElement key else draft.tables.openTable key
  return ⟨← (opened : Option _), key.path ++ [key.name]⟩

/-- Reads a value for a key of the open table. -/
def assignment (draft : Draft) : Reader Draft := do
  let (key, document) ← entry (value depthLimit)
  lineEnd
  let tables ← (draft.tables.below draft.path (·.addValue key document) : Option _)
  return { draft with tables }

/-- Reads the rest of a file, line by line. -/
def lines : Nat → Draft → Reader Draft
  | 0, _ => failure
  | fuel + 1, draft => do
    spaces
    match ← peek with
    | none => return draft
    | some '#' | some '\n' | some '\r' =>
      lineEnd
      lines fuel draft
    | some '[' => lines fuel (← header draft)
    | some _ => lines fuel (← assignment draft)

end Reader

/-- The characters of a file without the mark that may start it. -/
def withoutMark (text : String) : List Char :=
  match text.toList with
  | '\ufeff' :: rest => rest
  | cs => cs

/-- Reads a configuration file. -/
def parse? (text : String) : Option Document := do
  let cs := withoutMark text
  let (draft, _) ← Reader.lines (cs.length + 1) ⟨[], []⟩ cs
  return .table (documents draft.tables)

end Clearinghouse.Config.Toml
