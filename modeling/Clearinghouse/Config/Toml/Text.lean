/-
# Quoted texts of a configuration file

A text stands between double quotes, where a backslash starts an escape, or
between single quotes, where every character stands for itself. Three quotes
enclose a text of several lines: a line break right after the opening quotes
does not count, line breaks are read as line feeds, and a backslash at the end
of a line takes away the break and all blanks after it. Up to two quotes may
stand right before the closing ones.
-/

import Clearinghouse.Text.Hex

namespace Clearinghouse.Config.Toml

/-- A character that a text, or a comment, may hold as it is. -/
def isPlain (c : Char) : Bool := c = '\t' || (0x20 ≤ c.toNat && c.toNat != 0x7f)

/-- A blank within a line. -/
def isSpace (c : Char) : Bool := c = ' ' || c = '\t'

/-- What follows a line break. -/
def afterBreak? : List Char → Option (List Char)
  | '\n' :: rest | '\r' :: '\n' :: rest => some rest
  | _ => none

/-- What follows blanks and line breaks. -/
def afterBlanks : List Char → List Char
  | ' ' :: rest | '\t' :: rest | '\n' :: rest | '\r' :: '\n' :: rest => afterBlanks rest
  | cs => cs

/-- The character of a number written in `count` hexadecimal digits, and what
follows them. -/
def codePoint? (count : Nat) (cs : List Char) : Option (Char × List Char) := do
  let digits := cs.take count
  guard (digits.length = count)
  let code ← digits.foldlM (fun n c =>
    if c.toNat < 128 then (Text.Hex.digitValue? (UInt8.ofNat c.toNat)).map (16 * n + ·)
    else none) 0
  if h : code.isValidChar then some (Char.ofNatAux code h, cs.drop count) else none

/-- The character that an escape stands for, and what follows it. -/
def escape? : List Char → Option (Char × List Char)
  | 'b' :: rest => some ('\x08', rest)
  | 't' :: rest => some ('\t', rest)
  | 'n' :: rest => some ('\n', rest)
  | 'f' :: rest => some ('\x0c', rest)
  | 'r' :: rest => some ('\r', rest)
  | '"' :: rest => some ('"', rest)
  | '\\' :: rest => some ('\\', rest)
  | 'u' :: rest => codePoint? 4 rest
  | 'U' :: rest => codePoint? 8 rest
  | _ => none

/-- Texts between a quote allow escapes. -/
def allowsEscapes (quote : Char) : Bool := quote = '"'

/-- The rest of a text on one line, and what follows its closing quote; `fuel` is
more than the number of characters left. -/
def line? (quote : Char) : Nat → List Char → Option (List Char × List Char)
  | 0, _ | _, [] => none
  | fuel + 1, c :: rest =>
    if c = quote then some ([], rest)
    else if c = '\\' ∧ allowsEscapes quote then do
      let (escaped, rest) ← escape? rest
      let (text, rest) ← line? quote fuel rest
      return (escaped :: text, rest)
    else if isPlain c then do
      let (text, rest) ← line? quote fuel rest
      return (c :: text, rest)
    else none

/-- The rest of a text of several lines, and what follows its closing quotes;
`fuel` is more than the number of characters left. -/
def block? (quote : Char) : Nat → List Char → Option (List Char × List Char)
  | 0, _ => none
  | fuel + 1, cs =>
    let quotes := (cs.takeWhile (· = quote)).length
    if 5 < quotes then none
    else if 3 ≤ quotes then some (List.replicate (quotes - 3) quote, cs.drop quotes)
    else if 0 < quotes then do
      let (text, rest) ← block? quote fuel (cs.drop quotes)
      return (List.replicate quotes quote ++ text, rest)
    else
      match afterBreak? cs, cs with
      | some rest, _ => do
        let (text, rest) ← block? quote fuel rest
        return ('\n' :: text, rest)
      | none, [] => none
      | none, c :: rest =>
        if c = '\\' ∧ allowsEscapes quote then
          if (afterBreak? (rest.dropWhile isSpace)).isSome then block? quote fuel (afterBlanks rest)
          else do
            let (escaped, rest) ← escape? rest
            let (text, rest) ← block? quote fuel rest
            return (escaped :: text, rest)
        else if isPlain c then do
          let (text, rest) ← block? quote fuel rest
          return (c :: text, rest)
        else none

/-- The text of one line whose opening quote stands at the front. -/
def quotedLine? : List Char → Option (List Char × List Char)
  | [] => none
  | quote :: rest =>
    if quote = '"' ∨ quote = '\'' then line? quote (rest.length + 1) rest else none

/-- The text whose opening quote or quotes stand at the front. -/
def quoted? (cs : List Char) : Option (List Char × List Char) :=
  match cs with
  | a :: b :: c :: rest =>
    if (a = '"' ∨ a = '\'') ∧ b = a ∧ c = a then
      block? a (rest.length + 1) ((afterBreak? rest).getD rest)
    else quotedLine? cs
  | _ => quotedLine? cs

end Clearinghouse.Config.Toml
