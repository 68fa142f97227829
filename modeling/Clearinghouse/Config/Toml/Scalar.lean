/-
# Plain words of a configuration file

A value that stands neither in quotes nor in brackets is one word, and the word
alone tells whether it is a truth value, a date, a whole number or another
number. Readers below answer whether the whole word has that form; nothing is
ever read from a part of a word.
-/

import Clearinghouse.Config.Document
import Clearinghouse.Text.Decimal

namespace Clearinghouse.Config.Toml

open Clearinghouse.Text

/-- A character that words are made of. -/
def isWordChar (c : Char) : Bool := c.isAlphanum || ['_', '+', '-', '.', ':'].contains c

/-! ## Numbers -/

/-- The digits of a run. A single underscore may stand between two digits. -/
def digitRun? (isDigit : Char → Bool) : List Char → Option (List Char)
  | [] => none
  | [c] => if isDigit c then some [c] else none
  | c :: '_' :: rest => if isDigit c then (digitRun? isDigit rest).map (c :: ·) else none
  | c :: rest => if isDigit c then (digitRun? isDigit rest).map (c :: ·) else none

/-- The digits of a decimal number without leading zeros. -/
def decimalRun? (word : List Char) : Option (List Char) := do
  let digits ← digitRun? Char.isDigit word
  if digits.head? = some '0' ∧ digits ≠ ['0'] then none else some digits

/-- Takes the sign off a word; answers whether it was a minus sign. -/
def splitSign : List Char → Bool × List Char
  | '-' :: rest => (true, rest)
  | '+' :: rest => (false, rest)
  | word => (false, word)

/-- The value of a digit in bases up to sixteen. -/
def digitValue (c : Char) : Nat :=
  if c.isDigit then c.toNat - '0'.toNat else c.toLower.toNat - 'a'.toNat + 10

/-- The digits of bases up to ten. -/
def isDigitBelow (base : Nat) (c : Char) : Bool := c.isDigit && digitValue c < base

/-- The digits of base sixteen. -/
def isHexDigit (c : Char) : Bool := c.isDigit || ('a' ≤ c.toLower && c.toLower ≤ 'f')

/-- The number that a run of digits has in a base. -/
def numberIn? (base : Nat) (isDigit : Char → Bool) (word : List Char) : Option Int := do
  let digits ← digitRun? isDigit word
  return ((digits.foldl (fun n c => base * n + digitValue c) 0 : Nat) : Int)

/-- The whole number of a word, before its size is looked at. Only decimal
numbers carry a sign. -/
def wholeNumber? : List Char → Option Int
  | '0' :: 'x' :: rest => numberIn? 16 isHexDigit rest
  | '0' :: 'o' :: rest => numberIn? 8 (isDigitBelow 8) rest
  | '0' :: 'b' :: rest => numberIn? 2 (isDigitBelow 2) rest
  | word => do
    let (isNegative, rest) := splitSign word
    let magnitude : Int := Decimal.value (← decimalRun? rest)
    return if isNegative then -magnitude else magnitude

/-- The whole number of a word, which must fit a signed word of 64 bits. -/
def integer? (word : List Char) : Option Int :=
  (wholeNumber? word).filter fun n => Int64.minValue.toInt ≤ n ∧ n ≤ Int64.maxValue.toInt

/-- The exponent that ends a number, written with a letter; zero if there is none. -/
def exponent? : List Char → Option Int
  | [] => some 0
  | letter :: rest => do
    guard (letter = 'e' ∨ letter = 'E')
    let (isNegative, digits) := splitSign rest
    let magnitude : Int := Decimal.value (← digitRun? Char.isDigit digits)
    return if isNegative then -magnitude else magnitude

/-- The number `value digits * 10 ^ exponent` rounds to no floating-point number.
Exponents are looked at before powers are computed, so that no power is huge. -/
def isTooLarge (digits : List Char) (exponent : Int) : Bool :=
  let digits := digits.dropWhile (· = '0')
  let magnitude := (digits.length : Int) + exponent
  if digits = [] ∨ magnitude < 309 then false
  else if 309 < magnitude then true
  else
    let limit := Nat.pow 2 1024 - Nat.pow 2 970
    if 0 ≤ exponent then limit ≤ Decimal.value digits * Nat.pow 10 exponent.toNat
    else limit * Nat.pow 10 (-exponent).toNat ≤ Decimal.value digits

/-- The word is a number with a fraction or an exponent, infinity or no number.
A positive number must not be too large; a negative one that is counts as
infinity. -/
def isFloating (word : List Char) : Bool :=
  let (isNegative, magnitude) := splitSign word
  let isMark := fun c => c = '.' ∨ c = 'e' ∨ c = 'E'
  if magnitude = "inf".toList ∨ magnitude = "nan".toList then true
  else
    match decimalRun? (magnitude.takeWhile (!isMark ·)), magnitude.dropWhile (!isMark ·) with
    | some whole, '.' :: rest =>
      let isLetter := fun c => c = 'e' ∨ c = 'E'
      match digitRun? Char.isDigit (rest.takeWhile (!isLetter ·)),
          exponent? (rest.dropWhile (!isLetter ·)) with
      | some fraction, some exponent =>
        isNegative || !isTooLarge (whole ++ fraction) (exponent - fraction.length)
      | _, _ => false
    | some whole, letter :: rest =>
      match exponent? (letter :: rest) with
      | some exponent => isNegative || !isTooLarge whole exponent
      | none => false
    | _, _ => false

/-! ## Dates and times -/

/-- What follows two digits with a value between bounds. -/
def afterPair? (low high : Nat) : List Char → Option (List Char)
  | a :: b :: rest =>
    if a.isDigit ∧ b.isDigit ∧ low ≤ Decimal.value [a, b] ∧ Decimal.value [a, b] ≤ high then
      some rest
    else none
  | _ => none

/-- What follows a mark. -/
def afterMark? (mark : Char) : List Char → Option (List Char)
  | c :: rest => if c = mark then some rest else none
  | [] => none

/-- What follows a date. -/
def afterDate? (word : List Char) : Option (List Char) := do
  let month ← afterMark? '-' (← afterPair? 0 99 (← afterPair? 0 99 word))
  afterPair? 1 31 (← afterMark? '-' (← afterPair? 1 12 month))

/-- What follows hours and minutes. -/
def afterMinutes? (word : List Char) : Option (List Char) := do
  afterPair? 0 59 (← afterMark? ':' (← afterPair? 0 23 word))

/-- What follows a time. A minute may have a leap second. -/
def afterTime? (word : List Char) : Option (List Char) := do
  match ← afterPair? 0 60 (← afterMark? ':' (← afterMinutes? word)) with
  | '.' :: rest => if (rest.takeWhile Char.isDigit).isEmpty then none else rest.dropWhile Char.isDigit
  | rest => some rest

/-- The word is the distance of a local time from the world's, or empty. -/
def isOffset : List Char → Bool
  | [] | ['Z'] | ['z'] => true
  | sign :: rest => (sign = '+' ∨ sign = '-') && afterMinutes? rest == some []

/-- The word is a date. -/
def isDate (word : List Char) : Bool := afterDate? word == some []

/-- The word is a date, a time or both. A date and its time stand apart by a
letter or by a blank. -/
def isMoment (word : List Char) : Bool :=
  match afterDate? word with
  | some [] => true
  | some (mark :: rest) =>
    ['T', 't', ' '].contains mark && ((afterTime? rest).map isOffset).getD false
  | none => afterTime? word == some []

/-! ## All words -/

/-- The value of a word. -/
def scalar? (word : List Char) : Option Document :=
  if word = "true".toList then some (.boolean true)
  else if word = "false".toList then some (.boolean false)
  else if isMoment word then some .moment
  else if isFloating word then some .floating
  else (integer? word).map .integer

end Clearinghouse.Config.Toml
