/-
# Accounts as text

A database that outlives the process is kept as text: a title, and then one line
for each account, with its identifier and its balance in decimal digits.
-/

import Clearinghouse.Medium.KeyStore
import Clearinghouse.Medium.RowStore
import Clearinghouse.Text.Decimal
import Clearinghouse.Text.Lines
import Clearinghouse.Text.Utf8

namespace Clearinghouse.Image

/-- The first line, which tells the text of accounts from others. -/
def title : List Char := "accounts".toList

/-- The line of an account. -/
def line (account : Account) : List Char :=
  Text.Decimal.digits account.id.toNat ++ ' ' :: Text.Decimal.ofInt account.balance.toInt

/-- The text of a list of accounts. -/
def text (accounts : List Account) : String :=
  String.ofList ((title :: accounts.map line).flatMap (· ++ ['\n']))

/-- The balance of a line. -/
def balance? : List Char → Option Balance
  | '-' :: digits => (Text.Decimal.toNat? digits).bind fun n => Balance.ofInt? (-n)
  | digits => (Text.Decimal.toNat? digits).bind fun n => Balance.ofInt? n

/-- The account of a line. -/
def account? (line : List Char) : Option Account := do
  let id ← Text.Decimal.toWord? (line.takeWhile (· ≠ ' '))
  let balance ← balance? ((line.dropWhile (· ≠ ' ')).drop 1)
  return ⟨id, balance⟩

/-- The accounts of a text. -/
def parse? (bytes : List UInt8) : Option (List Account) := do
  match ← (Text.lines bytes).mapM Text.Utf8.decode? with
  | first :: rest => if first = title then rest.mapM account? else none
  | [] => none

/-- The changes that bring accounts into being. -/
def creations (accounts : List Account) : List Change :=
  accounts.map fun account => ⟨account.id, none, account.balance⟩

/-- A database of rows from its text; any other text is a file of its own. -/
def rowsOf (bytes : List UInt8) : FileNode :=
  match parse? bytes with
  | some accounts => .rows (Table.recordAll ∅ (creations accounts))
  | none => .file bytes

/-- A tree of keys from its text, held by nobody; any other text is a file. -/
def keysOf (bytes : List UInt8) : FileNode :=
  match parse? bytes with
  | some accounts => .keys ((creations accounts).foldl KeyStore.record ∅) false
  | none => .file bytes

/-- The text of a database, if what stands at a path is one. -/
def textOf? : FileNode → Option String
  | .rows table => some (text table.accounts)
  | .keys tree _ =>
    match KeyStore.decodeAll (tree.toList.map Prod.snd) with
    | .ok accounts => some (text accounts)
    | .error _ => none
  | .directory | .file _ => none

end Clearinghouse.Image
