/-
# Text as bytes

A sequence of bytes stands for a text when it splits into the shortest encodings
of characters: one byte below 128, or a leading byte that announces one to three
continuation bytes. Longer encodings of a character, surrogates and numbers
beyond the last character are refused.
-/

namespace Clearinghouse.Text.Utf8

/-- The six bits that a continuation byte carries. -/
def continuation? (byte : UInt8) : Option Nat :=
  if 0x80 ≤ byte.toNat ∧ byte.toNat < 0xc0 then some (byte.toNat - 0x80) else none

/-- The character of a number, if it is one and is not below `least`. -/
def character? (least code : Nat) : Option Char :=
  if h : least ≤ code ∧ code.isValidChar then some (Char.ofNatAux code h.2) else none

/-- Splits bytes into characters. -/
def decode? : List UInt8 → Option (List Char)
  | [] => some []
  | a :: rest =>
    let lead := a.toNat
    if lead < 0x80 then (decode? rest).map (Char.ofNat lead :: ·)
    else match rest with
      | [] => none
      | b :: rest =>
        if 0xc0 ≤ lead ∧ lead < 0xe0 then do
          let b ← continuation? b
          let c ← character? 0x80 ((lead - 0xc0) * 64 + b)
          return c :: (← decode? rest)
        else match rest with
          | [] => none
          | c :: rest =>
            if 0xe0 ≤ lead ∧ lead < 0xf0 then do
              let b ← continuation? b
              let c ← continuation? c
              let char ← character? 0x800 (((lead - 0xe0) * 64 + b) * 64 + c)
              return char :: (← decode? rest)
            else match rest with
              | [] => none
              | d :: rest =>
                if 0xf0 ≤ lead ∧ lead < 0xf8 then do
                  let b ← continuation? b
                  let c ← continuation? c
                  let d ← continuation? d
                  let char ← character? 0x10000 ((((lead - 0xf0) * 64 + b) * 64 + c) * 64 + d)
                  return char :: (← decode? rest)
                else none

/-- The bytes of one character. -/
def encodeChar (c : Char) : List UInt8 :=
  let code := c.toNat
  if code < 0x80 then [UInt8.ofNat code]
  else if code < 0x800 then
    [UInt8.ofNat (0xc0 + code / 64), UInt8.ofNat (0x80 + code % 64)]
  else if code < 0x10000 then
    [UInt8.ofNat (0xe0 + code / 4096), UInt8.ofNat (0x80 + code / 64 % 64),
      UInt8.ofNat (0x80 + code % 64)]
  else
    [UInt8.ofNat (0xf0 + code / 262144), UInt8.ofNat (0x80 + code / 4096 % 64),
      UInt8.ofNat (0x80 + code / 64 % 64), UInt8.ofNat (0x80 + code % 64)]

/-- The bytes of a text. -/
def encode (s : String) : List UInt8 := s.toList.flatMap encodeChar

/-- The text that bytes stand for. -/
def text? (bytes : List UInt8) : Option String := (decode? bytes).map String.ofList

end Clearinghouse.Text.Utf8
