/-
# Texts of a document

A text is read after its opening quote. Reading one undoes its escapes and asks
for well-formed text in the end; passing over one only looks for its closing
quote, so an unread text may hold any bytes and any escaped number.
-/

import Clearinghouse.Json.Problem
import Clearinghouse.Text.Utf8

namespace Clearinghouse.Json.Quoted

/-- The value of a hexadecimal digit. -/
def hexValue? (byte : UInt8) : Option Nat :=
  if 0x30 ≤ byte ∧ byte ≤ 0x39 then some (byte.toNat - 0x30)
  else if 0x61 ≤ byte ∧ byte ≤ 0x66 then some (byte.toNat - 0x57)
  else if 0x41 ≤ byte ∧ byte ≤ 0x46 then some (byte.toNat - 0x37)
  else none

/-- The number of four hexadecimal digits. -/
def unit (a b c d : UInt8) : Except Problem Nat :=
  match hexValue? a, hexValue? b, hexValue? c, hexValue? d with
  | some a, some b, some c, some d => return ((a * 16 + b) * 16 + c) * 16 + d
  | _, _, _, _ => throw .malformed

/-- The number is the first half of a character beyond the first 65536. -/
def isHigh (unit : Nat) : Bool := 0xd800 ≤ unit && unit < 0xdc00

/-- The number is the second half of such a character. -/
def isLow (unit : Nat) : Bool := 0xdc00 ≤ unit && unit < 0xe000

/-- The bytes of a character by its number. -/
def encodeNumber (code : Nat) : List UInt8 := Text.Utf8.encodeChar (Char.ofNat code)

/-- The bytes of a character by its two halves. -/
def encodeHalves (high low : Nat) : List UInt8 :=
  encodeNumber (0x10000 + (high - 0xd800) * 0x400 + (low - 0xdc00))

/-- The byte that a short escape stands for. -/
def shortEscape? (letter : UInt8) : Option UInt8 :=
  if letter = 0x22 ∨ letter = 0x5c ∨ letter = 0x2f then some letter
  else if letter = 0x62 then some 0x08
  else if letter = 0x66 then some 0x0c
  else if letter = 0x6e then some 0x0a
  else if letter = 0x72 then some 0x0d
  else if letter = 0x74 then some 0x09
  else none

/-- Puts bytes in front of a text. -/
def prepend (content : List UInt8) (text : Except Problem (List UInt8 × List UInt8)) :
    Except Problem (List UInt8 × List UInt8) := do
  let (after, rest) ← text
  return (content ++ after, rest)

/-- Reads up to the closing quote. -/
def readBytes : List UInt8 → Except Problem (List UInt8 × List UInt8)
  | [] => throw .truncated
  | byte :: rest =>
    if byte = 0x22 then
      return ([], rest)
    else if byte = 0x5c then
      match rest with
      | [] => throw .truncated
      | 0x75 :: a :: b :: c :: d :: rest => do
        let first ← unit a b c d
        if isLow first then
          throw .malformed
        else if isHigh first then
          match rest with
          | [] | [0x5c] => throw .truncated
          | 0x5c :: 0x75 :: a :: b :: c :: d :: rest =>
            let second ← unit a b c d
            if isLow second then prepend (encodeHalves first second) (readBytes rest)
            else throw .malformed
          | 0x5c :: 0x75 :: _ => throw .truncated
          | _ => throw .malformed
        else prepend (encodeNumber first) (readBytes rest)
      | 0x75 :: _ => throw .truncated
      | letter :: rest =>
        match shortEscape? letter with
        | none => throw .malformed
        | some byte => prepend [byte] (readBytes rest)
    else if byte < 0x20 then
      throw .malformed
    else prepend [byte] (readBytes rest)

/-- Reads a text after its opening quote. -/
def read (bytes : List UInt8) : Except Problem (String × List UInt8) := do
  let (content, rest) ← readBytes bytes
  match Text.Utf8.text? content with
  | some text => return (text, rest)
  | none => throw .malformed

/-- Passes over a text after its opening quote. -/
def skip : List UInt8 → Except Problem (List UInt8)
  | [] => throw .truncated
  | byte :: rest =>
    if byte = 0x22 then
      return rest
    else if byte = 0x5c then
      match rest with
      | [] => throw .truncated
      | 0x75 :: a :: b :: c :: d :: rest => do
        let _ ← unit a b c d
        skip rest
      | 0x75 :: _ => throw .truncated
      | letter :: rest =>
        if (shortEscape? letter).isSome then skip rest else throw .malformed
    else if byte < 0x20 then
      throw .malformed
    else
      skip rest

end Clearinghouse.Json.Quoted
