/-
# Numbers of a document

A number is an optional minus sign, an integer part without leading zeros, and
an optional fraction and exponent. Integers of 64 bits, signed or unsigned, are
kept exactly; every other number becomes a floating-point number, computed from
its leading digits and a power of ten. Minus zero is not an integer. A number
too large for a floating-point number is no number at all.

The integer part keeps as many leading digits as fit 64 bits and counts the
rest. A fraction continues with the digits kept so far.
-/

import Clearinghouse.Json.Problem
import Clearinghouse.Text.Floating

namespace Clearinghouse.Json

/-- A number as read. -/
inductive Number
  | natural (value : UInt64)
  /-- The number `-value - 1`, at least `-2 ^ 63`. -/
  | negative (value : Nat)
  | floating (text : String)
  deriving DecidableEq, Repr, Inhabited

namespace Number

/-- The byte is a decimal digit. -/
def isDigit (byte : UInt8) : Bool := 0x30 ≤ byte && byte ≤ 0x39

/-- The value of a digit. -/
def digitValue (byte : UInt8) : Nat := byte.toNat - 0x30

/-- Appends digits to a number while it fits 64 bits. Answers the number, how
many digits were taken, and how many were left. -/
def absorb (n : Nat) : List UInt8 → Nat × Nat × Nat
  | [] => (n, 0, 0)
  | d :: ds =>
    if 10 * n + digitValue d < UInt64.size then
      let (n, taken, left) := absorb (10 * n + digitValue d) ds
      (n, taken + 1, left)
    else (n, 0, ds.length + 1)

/-- Divides by powers of ten of at most 308, as many as the exponent asks for;
zero is reached after a few. -/
def divideByPower (x : Float) : Nat → Nat → Float
  | 0, _ => 0
  | steps + 1, power =>
    if power ≤ 308 then x / Float.ofScientific 1 false power
    else if x == 0 then x
    else divideByPower (x / Float.ofScientific 1 false 308) steps (power - 308)

/-- The floating-point number `significand * 10 ^ exponent`, which must not be
too large. -/
def scale (isNegative : Bool) (significand : Nat) (exponent : Int) : Except Problem Number := do
  let x := (UInt64.ofNat significand).toFloat
  let scaled ←
    if exponent < 0 then pure (divideByPower x 8 exponent.natAbs)
    else if exponent ≤ 308 then
      let y := x * Float.ofScientific 1 false exponent.natAbs
      if y.isInf then throw .malformed else pure y
    else if significand = 0 then pure 0
    else throw .malformed
  return .floating (Text.Floating.text (if isNegative then -scaled else scaled))

/-- The digits at the front, and what follows them. -/
def splitDigits (bytes : List UInt8) : List UInt8 × List UInt8 :=
  (bytes.takeWhile isDigit, bytes.dropWhile isDigit)

/-- The largest exponent that is looked at digit by digit. -/
def maxExponent : Nat := 2147483647

/-- Reads what follows the letter of an exponent. -/
def readExponent (isNegative : Bool) (significand : Nat) (exponent : Int) (bytes : List UInt8) :
    Except Problem (Number × List UInt8) := do
  let (isDown, bytes) := match bytes with
    | 0x2b :: rest => (false, rest)
    | 0x2d :: rest => (true, rest)
    | _ => (false, bytes)
  match splitDigits bytes with
  | ([], []) => throw .truncated
  | ([], _) => throw .malformed
  | (digits, rest) =>
    let power := digits.foldl (fun n d => 10 * n + digitValue d) 0
    if maxExponent < power then
      if significand ≠ 0 ∧ !isDown then throw .malformed
      return (← scale isNegative 0 0, rest)
    return (← scale isNegative significand (if isDown then exponent - power else exponent + power),
      rest)

/-- Reads an exponent if one follows. -/
def readTail (isNegative : Bool) (significand : Nat) (exponent : Int) (bytes : List UInt8) :
    Except Problem (Number × List UInt8) := do
  match bytes with
  | 0x65 :: rest | 0x45 :: rest => readExponent isNegative significand exponent rest
  | _ => return (← scale isNegative significand exponent, bytes)

/-- Reads what follows the point of a fraction. -/
def readFraction (isNegative : Bool) (significand : Nat) (exponent : Int) (bytes : List UInt8) :
    Except Problem (Number × List UInt8) := do
  match splitDigits bytes with
  | ([], []) => throw .truncated
  | ([], _) => throw .malformed
  | (digits, rest) =>
    let (significand, taken, _) := absorb significand digits
    readTail isNegative significand (exponent - taken) rest

/-- The integer `n`, or its negative, if 64 bits hold it. -/
def integer (isNegative : Bool) (n : Nat) : Except Problem Number :=
  if !isNegative then .ok (.natural (UInt64.ofNat n))
  else if 0 < n ∧ n ≤ Nat.pow 2 63 then .ok (.negative (n - 1))
  else scale true n 0

/-- Reads a number after its sign. -/
def readUnsigned (isNegative : Bool) (bytes : List UInt8) :
    Except Problem (Number × List UInt8) := do
  match splitDigits bytes with
  | ([], []) => throw .truncated
  | ([], _) => throw .malformed
  | (0x30 :: _ :: _, _) => throw .malformed
  | (digits, rest) =>
    let (significand, _, left) := absorb 0 digits
    match rest with
    | 0x2e :: rest => readFraction isNegative significand left rest
    | 0x65 :: rest | 0x45 :: rest => readExponent isNegative significand left rest
    | _ =>
      if left = 0 then return (← integer isNegative significand, rest)
      else return (← scale isNegative significand left, rest)

/-- Reads a number. -/
def read (bytes : List UInt8) : Except Problem (Number × List UInt8) :=
  match bytes with
  | 0x2d :: rest => readUnsigned true rest
  | _ => readUnsigned false bytes

/-- The number as something found where it was not expected. -/
def found : Number → Found
  | natural value => .integer value.toNat
  | negative value => .integer (.negSucc value)
  | floating text => .floating text

/-- Passes over an exponent without computing it. -/
def skipExponent (bytes : List UInt8) : Except Problem (List UInt8) :=
  let bytes := match bytes with
    | 0x2b :: rest | 0x2d :: rest => rest
    | _ => bytes
  match splitDigits bytes with
  | ([], _) => throw .malformed
  | (_, rest) => return rest

/-- Passes over a fraction or exponent if one follows. -/
def skipTail (bytes : List UInt8) : Except Problem (List UInt8) :=
  match bytes with
  | 0x2e :: rest =>
    match splitDigits rest with
    | ([], _) => throw .malformed
    | (_, 0x65 :: rest) | (_, 0x45 :: rest) => skipExponent rest
    | (_, rest) => return rest
  | 0x65 :: rest | 0x45 :: rest => skipExponent rest
  | _ => return bytes

/-- Passes over a number whose value nobody asks for. -/
def skip (bytes : List UInt8) : Except Problem (List UInt8) :=
  let bytes := match bytes with
    | 0x2d :: rest => rest
    | _ => bytes
  match splitDigits bytes with
  | ([], _) => throw .malformed
  | (0x30 :: _ :: _, _) => throw .malformed
  | (_, rest) => skipTail rest

end Number

end Clearinghouse.Json
