/-
# Quoted texts

A text quoted in a message stands between double quotes, a single character
between single quotes. Inside, the usual short escapes stand for tab, line feed,
carriage return and the zero character, a backslash and the enclosing quote
carry a backslash, and a hidden character is written by its number. Everything
else is shown as it is.
-/

import Clearinghouse.Text.Hidden

namespace Clearinghouse.Text.Quoted

/-- The characters that stand for one character between two quotes `quote`. -/
def escape (quote c : Char) : List Char :=
  if c = '\x00' then ['\\', '0']
  else if c = '\t' then ['\\', 't']
  else if c = '\n' then ['\\', 'n']
  else if c = '\r' then ['\\', 'r']
  else if c = '\\' ∨ c = quote then ['\\', c]
  else if 0x20 ≤ c.toNat ∧ c.toNat < 0x7f then [c]
  else if c.toNat < 0x7f ∨ isHidden c then
    "\\u\x7b".toList ++ Nat.toDigits 16 c.toNat ++ ['\x7d']
  else [c]

/-- A text between double quotes. -/
def text (s : String) : String :=
  String.ofList ('"' :: s.toList.flatMap (escape '"') ++ ['"'])

/-- A character between single quotes. -/
def character (c : Char) : String :=
  String.ofList ('\'' :: escape '\'' c ++ ['\''])

end Clearinghouse.Text.Quoted
