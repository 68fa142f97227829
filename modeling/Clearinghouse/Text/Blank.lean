/-
# Blank characters

The white space of a text is the Unicode property of that name, which has more
members than the ASCII blanks. Keys are trimmed of it at both ends, and a line
of nothing else counts as empty.
-/

namespace Clearinghouse.Text

/-- The character is white space. -/
def isBlank (c : Char) : Bool :=
  let code := c.toNat
  (9 ≤ code && code ≤ 13) || code == 0x20 || code == 0x85 || code == 0xa0 || code == 0x1680 ||
    (0x2000 ≤ code && code ≤ 0x200a) || code == 0x2028 || code == 0x2029 || code == 0x202f ||
    code == 0x205f || code == 0x3000

/-- A text without the white space at its ends. -/
def trim (cs : List Char) : List Char :=
  ((cs.dropWhile isBlank).reverse.dropWhile isBlank).reverse

/-- The bytes of a text. -/
def bytes (s : String) : List UInt8 := s.toUTF8.toList

end Clearinghouse.Text
