/-
# Writing documents

The documents written here are made of whole numbers, texts without characters
that need an escape, lists and records. They hold no white space, and the fields
of a record come in the order given.
-/

import Clearinghouse.Account
import Clearinghouse.Text.Decimal

namespace Clearinghouse.Json.Writer

/-- The characters of a document. -/
abbrev Document := List Char

/-- A whole number. -/
def number (n : Int) : Document := Text.Decimal.ofInt n

/-- A text, of which no character needs an escape. -/
def text (cs : List Char) : Document := '"' :: cs ++ ['"']

/-- Documents with a comma between any two. -/
def commaSeparated : List Document → Document
  | [] => []
  | [d] => d
  | d :: ds => d ++ ',' :: commaSeparated ds

/-- A list. -/
def list (items : List Document) : Document := '[' :: commaSeparated items ++ [']']

/-- A record with its fields in the order given. -/
def record (fields : List (List Char × Document)) : Document :=
  '\x7b' :: commaSeparated (fields.map fun (name, value) => text name ++ ':' :: value) ++ ['\x7d']

/-- An account as a record. -/
def account (a : Account) : Document :=
  record [("id".toList, number a.id.toNat), ("balance".toList, number a.balance.toInt)]

end Clearinghouse.Json.Writer
