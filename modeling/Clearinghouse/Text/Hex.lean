/-
# Bytes as hexadecimal digits

Bytes are written as two lower-case digits each. Reading accepts both cases and
works on the bytes of a text rather than on its characters, so an error names
the offending byte and its position in bytes. An odd number of digits is noticed
before any digit is looked at.
-/

import Clearinghouse.Text.Quoted

namespace Clearinghouse.Text.Hex

/-- Why a text is not a sequence of hexadecimal bytes. -/
inductive Problem
  | oddLength
  | badDigit (byte : UInt8) (position : Nat)
  deriving DecidableEq, Repr, Inhabited

/-- The text shown to people. The offending byte is shown as the character with
that number. -/
def Problem.message : Problem → String
  | .oddLength => "Odd number of digits"
  | .badDigit byte position =>
    s!"Invalid character {Quoted.character (Char.ofNat byte.toNat)} at position {position}"

/-- The digit of a number below sixteen. -/
def digit (n : Nat) : Char :=
  if n < 10 then Char.ofNat ('0'.toNat + n) else Char.ofNat ('a'.toNat + (n - 10))

/-- The value of a byte read as a hexadecimal digit. -/
def digitValue? (byte : UInt8) : Option Nat :=
  let code := byte.toNat
  if 48 ≤ code ∧ code ≤ 57 then some (code - 48)
  else if 97 ≤ code ∧ code ≤ 102 then some (code - 87)
  else if 65 ≤ code ∧ code ≤ 70 then some (code - 55)
  else none

/-- Writes bytes as lower-case digits. -/
def encode (bytes : List UInt8) : List Char :=
  bytes.flatMap fun byte => [digit (byte.toNat / 16), digit (byte.toNat % 16)]

/-- Reads pairs of digits; `position` is that of the first byte. -/
def decodeFrom (position : Nat) : List UInt8 → Except Problem (List UInt8)
  | high :: low :: rest =>
    match digitValue? high, digitValue? low with
    | none, _ => throw (.badDigit high position)
    | _, none => throw (.badDigit low (position + 1))
    | some h, some l => return UInt8.ofNat (16 * h + l) :: (← decodeFrom (position + 2) rest)
  | _ => return []

/-- Reads bytes written as digits. -/
def decode (text : List UInt8) : Except Problem (List UInt8) :=
  if text.length % 2 = 1 then throw .oddLength else decodeFrom 0 text

/-- The digits of a number, most significant first, without leading zeros. -/
def digits (n : Nat) : List Char :=
  if n < 16 then [digit n] else digits (n / 16) ++ [digit (n % 16)]
termination_by n

end Clearinghouse.Text.Hex
