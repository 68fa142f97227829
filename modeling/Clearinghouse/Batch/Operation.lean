/-
# Signed transfers

An operation moves an amount from one account to another and carries the
sender's signature over its three numbers. A transaction is a list of operations
that are processed as one batch. Both have one written form, and are read from
any document of the same shape: fields in any order, unknown fields, or lists in
place of records.
-/

import Clearinghouse.Batch.Refusal
import Clearinghouse.Json.Reader
import Clearinghouse.Json.Writer
import Clearinghouse.Text.Hex

namespace Clearinghouse

/-- One signed transfer. -/
structure Operation where
  sender : AccountId
  receiver : AccountId
  amount : Balance
  signature : List UInt8
  deriving DecidableEq, Repr, Inhabited

/-- A list of transfers applied as one unit. -/
structure Transaction where
  operations : List Operation
  deriving DecidableEq, Repr, Inhabited

namespace Operation

/-- The text a sender signs. -/
def signingText (sender receiver : AccountId) (amount : Balance) : List Char :=
  Json.Writer.record
    [("from".toList, Json.Writer.number sender.toNat),
      ("to".toList, Json.Writer.number receiver.toNat),
      ("amount".toList, Json.Writer.number amount.toInt)]

/-- The bytes a sender signs. -/
def signingMessage (sender receiver : AccountId) (amount : Balance) : List UInt8 :=
  (signingText sender receiver amount).flatMap Text.Utf8.encodeChar

/-- The bytes that an operation's signature must belong to. -/
def message (op : Operation) : List UInt8 := signingMessage op.sender op.receiver op.amount

/-- What can be checked of an operation without knowing anything else. -/
def checkShape (op : Operation) : Except Refusal Unit :=
  if op.sender = 0 then throw (.invalidSender op.sender)
  else if op.receiver = 0 then throw (.invalidReceiver op.receiver)
  else if op.amount ≤ 0 then throw (.invalidAmount op.amount)
  else if op.signature.isEmpty then throw .missingSignature
  else return

/-- An operation as a record, its signature in hexadecimal digits. -/
def document (op : Operation) : Json.Writer.Document :=
  Json.Writer.record
    [("from".toList, Json.Writer.number op.sender.toNat),
      ("to".toList, Json.Writer.number op.receiver.toNat),
      ("amount".toList, Json.Writer.number op.amount.toInt),
      ("signature".toList, Json.Writer.text (Text.Hex.encode op.signature))]

/-- The fields of an operation read so far. -/
structure Draft where
  sender? : Option AccountId := none
  receiver? : Option AccountId := none
  amount? : Option Balance := none
  signature? : Option (List UInt8) := none

/-- Reads bytes in hexadecimal digits. -/
def hexText : Json.Reader (List UInt8) := do
  let digits ← Json.Reader.text "a hex encoded string"
  match Text.Hex.decode (Text.Utf8.encode digits) with
  | .ok bytes => return bytes
  | .error problem => throw (.rejected problem.message)

/-- The fields of an operation in order. -/
def fields : List (Json.Reader.Field Draft) :=
  [{ name := "from", isSet := (·.sender?.isSome),
     read := fun draft => return { draft with sender? := some (← Json.Reader.unsigned) } },
   { name := "to", isSet := (·.receiver?.isSome),
     read := fun draft => return { draft with receiver? := some (← Json.Reader.unsigned) } },
   { name := "amount", isSet := (·.amount?.isSome),
     read := fun draft => return { draft with amount? := some (← Json.Reader.signed) } },
   { name := "signature", isSet := (·.signature?.isSome),
     read := fun draft => return { draft with signature? := some (← hexText) } }]

/-- The operation of a draft with every field set. -/
def Draft.finish (draft : Draft) : Operation where
  sender := draft.sender?.getD 0
  receiver := draft.receiver?.getD 0
  amount := draft.amount?.getD 0
  signature := draft.signature?.getD []

/-- Reads an operation. -/
def reader : Json.Reader Operation :=
  return (← Json.Reader.record "struct Operation" fields {}).finish

end Operation

namespace Transaction

/-- The first operation of the wrong shape refuses the transaction; `index` is
the position of the first operation of the list. -/
def checkShapesFrom (index : Nat) : List Operation → Except Rejection Unit
  | [] => return
  | op :: ops => do
    op.checkShape.mapError (.ofOperation index)
    checkShapesFrom (index + 1) ops

/-- What can be checked of a transaction without knowing anything else. -/
def checkShape (tx : Transaction) : Except Rejection Unit :=
  if tx.operations.isEmpty then throw (.ofBatch .emptyTransaction)
  else checkShapesFrom 0 tx.operations

/-- A transaction as a record. -/
def document (tx : Transaction) : Json.Writer.Document :=
  Json.Writer.record [("operations".toList, Json.Writer.list (tx.operations.map (·.document)))]

/-- The written form of a transaction. -/
def encode (tx : Transaction) : List UInt8 := tx.document.flatMap Text.Utf8.encodeChar

/-- The only field of a transaction. -/
def fields : List (Json.Reader.Field (Option (List Operation))) :=
  [{ name := "operations", isSet := (·.isSome),
     read := fun _ => return some (← Json.Reader.list Operation.reader) }]

/-- Reads a transaction. -/
def reader : Json.Reader Transaction :=
  return ⟨(← Json.Reader.record "struct Transaction" fields none).getD []⟩

/-- Reads the document of a transaction. -/
def decode (bytes : List UInt8) : Except Json.Problem Transaction :=
  Json.Reader.document reader bytes

end Transaction

end Clearinghouse
