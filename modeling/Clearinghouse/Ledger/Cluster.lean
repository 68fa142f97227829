/-
# Cluster identifiers

A ledger cluster has a number of 128 bits. It is shown in hexadecimal digits
after `0x`, and configured either as a number of 64 bits or as hexadecimal text,
in which the mark may be repeated or left out.
-/

import Clearinghouse.Text.Hex
import Clearinghouse.Text.Utf8

namespace Clearinghouse.Ledger

/-- The number of a cluster. -/
abbrev ClusterId := BitVec 128

namespace ClusterId

/-- The text shown to people. -/
def text (id : ClusterId) : String := String.ofList ('0' :: 'x' :: Text.Hex.digits id.toNat)

/-- A text without the marks at its start. -/
def stripMarks (mark : Char) : List Char → List Char
  | '0' :: c :: rest => if c = mark then stripMarks mark rest else '0' :: c :: rest
  | cs => cs

/-- The value of hexadecimal digits, of which there must be one. -/
def value? (digits : List Char) : Option Nat :=
  if digits = [] then none
  else
    digits.foldlM (fun n c =>
      if c.toNat < 128 then
        (Text.Hex.digitValue? (UInt8.ofNat c.toNat)).map (16 * n + ·)
      else none) 0

/-- The cluster of a configured number. -/
def ofWord (n : UInt64) : ClusterId := BitVec.ofNat 128 n.toNat

/-- The cluster of a configured text. The digits may carry a plus sign, and must
fit 128 bits. -/
def parse? (text : String) : Option ClusterId := do
  let digits := stripMarks 'X' (stripMarks 'x' text.toList)
  let digits := match digits with
    | '+' :: rest => rest
    | _ => digits
  let n ← value? digits
  if n < Nat.pow 2 128 then some (BitVec.ofNat 128 n) else none

end ClusterId

end Clearinghouse.Ledger
