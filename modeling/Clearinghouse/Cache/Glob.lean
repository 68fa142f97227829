/-
# Patterns for keys

A pattern is literal text in which a backslash makes the next character stand
for itself, optionally followed by one unescaped star that matches any rest. Text
escaped for a pattern matches itself and nothing else, so a prefix escaped and
followed by a star matches exactly the keys that start with the prefix.
-/

namespace Clearinghouse.Cache.Glob

/-- The character means something in a pattern. -/
def isSpecial (c : Char) : Bool :=
  c == '*' || c == '?' || c == '[' || c == ']' || c == '\\'

/-- Text as a pattern for itself. -/
def escape (text : List Char) : List Char :=
  text.flatMap fun c => if isSpecial c then ['\\', c] else [c]

/-- What a pattern asks for: its literal text, and whether any rest may follow. -/
def parse : List Char → List Char × Bool
  | [] => ([], false)
  | ['*'] => ([], true)
  | ['\\'] => ([], false)
  | '\\' :: c :: rest => let (literal, isOpen) := parse rest; (c :: literal, isOpen)
  | c :: rest => let (literal, isOpen) := parse rest; (c :: literal, isOpen)

/-- The pattern matches the key. -/
def accepts (pattern key : List Char) : Bool :=
  let (literal, isOpen) := parse pattern
  if isOpen then literal.isPrefixOf key else key == literal

end Clearinghouse.Cache.Glob
