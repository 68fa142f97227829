/-
# Lines of an input

An input splits into lines at its line feeds. A carriage return right before the
line feed belongs to the line's end. The last line needs no line feed, but an
input that ends with one has no further line.
-/

namespace Clearinghouse.Text

/-- A line without the carriage return at its end. -/
def withoutReturn (line : List UInt8) : List UInt8 :=
  if line.getLast? = some 0x0d then line.dropLast else line

/-- The lines of an input whose current line began with the bytes of `line`, in
reverse order. -/
def linesFrom (line : List UInt8) : List UInt8 → List (List UInt8)
  | [] => if line.isEmpty then [] else [line.reverse]
  | 0x0a :: rest => withoutReturn line.reverse :: linesFrom [] rest
  | byte :: rest => linesFrom (byte :: line) rest

/-- The lines of an input. -/
def lines (bytes : List UInt8) : List (List UInt8) := linesFrom [] bytes

end Clearinghouse.Text
