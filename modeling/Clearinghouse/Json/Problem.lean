/-
# How reading a document fails

A document is read once, from front to back, and the first problem decides. It
ends too early, it is not well formed, or it is well formed but does not have
the expected shape. A mismatch names what was found and what was expected.
-/

import Clearinghouse.Text.Quoted

namespace Clearinghouse.Json

/-- What a document holds where something else was expected. -/
inductive Found
  | null
  | boolean (value : Bool)
  | integer (value : Int)
  /-- A number that is no 64-bit integer, by its text. -/
  | floating (text : String)
  | text (value : String)
  | list
  | record
  deriving DecidableEq, Repr, Inhabited

/-- Why a document was refused. -/
inductive Problem
  /-- The document ends too early. -/
  | truncated
  /-- The bytes are no document. -/
  | malformed
  | mismatch (found : Found) (expected : String)
  /-- A number of the right kind that the expected type cannot hold. -/
  | outOfRange (value : Int) (expected : String)
  /-- A record written as a list of too few elements. -/
  | tooShort (length : Nat) (expected : String)
  | missingField (name : String)
  | duplicateField (name : String)
  /-- A text whose content was refused. -/
  | rejected (message : String)
  deriving DecidableEq, Repr, Inhabited

/-- The text of what was found. -/
def Found.message : Found → String
  | null => "null"
  | boolean value => s!"boolean `{value}`"
  | integer value => s!"integer `{value}`"
  | floating shown => s!"floating point `{shown}`"
  | text value => s!"string {Text.Quoted.text value}"
  | list => "sequence"
  | record => "map"

/-- The text shown to people: the class of the problem, and for a document of
the wrong shape also what is wrong with it. -/
def Problem.message : Problem → String
  | truncated => "<json eof>"
  | malformed => "<json syntax>"
  | mismatch found expected => s!"<json data: invalid type: {found.message}, expected {expected}>"
  | outOfRange value expected =>
    s!"<json data: invalid value: integer `{value}`, expected {expected}>"
  | tooShort length expected => s!"<json data: invalid length {length}, expected {expected}>"
  | missingField name => s!"<json data: missing field `{name}`>"
  | duplicateField name => s!"<json data: duplicate field `{name}`>"
  | rejected text => s!"<json data: {text}>"

end Clearinghouse.Json
