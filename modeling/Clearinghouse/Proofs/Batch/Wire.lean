/-
# Batches on the wire

A batch is written in one way and read from many documents of the same shape. Whatever it
is read from, writing it and reading it again gives the same batch: identifiers and amounts
of any size, signatures of any length, and any number of operations come back as they were.
-/

import Clearinghouse.Batch.Operation
import Clearinghouse.Proofs.Json.Nesting

namespace Clearinghouse

open Json

namespace Text.Hex

theorem verbatim_digit : ∀ n < 16, Verbatim (digit n) := by decide

theorem digitValue?_digit : ∀ n < 16, digitValue? (UInt8.ofNat (digit n).toNat) = some n := by
  decide

theorem verbatim_encode (bytes : List UInt8) : ∀ c ∈ encode bytes, Verbatim c := by
  intro c hmem
  obtain ⟨byte, -, hdigit⟩ := List.mem_flatMap.mp hmem
  have hbyte := byte.toNat_lt
  simp only [List.mem_cons, List.not_mem_nil, or_false] at hdigit
  rcases hdigit with rfl | rfl
  · exact verbatim_digit _ (by omega)
  · exact verbatim_digit _ (by omega)

/-- Every byte takes two digits. -/
theorem plain_encode_cons (byte : UInt8) (bytes : List UInt8) :
    plain (encode (byte :: bytes)) = UInt8.ofNat (digit (byte.toNat / 16)).toNat ::
      UInt8.ofNat (digit (byte.toNat % 16)).toNat :: plain (encode bytes) := by
  have hbyte := byte.toNat_lt
  have hencode : encode (byte :: bytes) =
      digit (byte.toNat / 16) :: digit (byte.toNat % 16) :: encode bytes := rfl
  rw [hencode, (verbatim_digit _ (by omega)).plain_cons, (verbatim_digit _ (by omega)).plain_cons]

theorem decodeFrom_plain_encode (bytes : List UInt8) (position : Nat) :
    decodeFrom position (plain (encode bytes)) = .ok bytes := by
  induction bytes generalizing position with
  | nil => rfl
  | cons byte bytes ih =>
      have hbyte := byte.toNat_lt
      have hjoined : 16 * (byte.toNat / 16) + byte.toNat % 16 = byte.toNat := by omega
      rw [plain_encode_cons, decodeFrom, digitValue?_digit _ (by omega),
        digitValue?_digit _ (by omega)]
      simp only [hjoined, UInt8.ofNat_toNat, ih]
      rfl

/-- Bytes are read back from their digits. -/
theorem decode_plain_encode (bytes : List UInt8) : decode (plain (encode bytes)) = .ok bytes := by
  have heven : (plain (encode bytes)).length % 2 = 0 := by
    induction bytes with
    | nil => rfl
    | cons byte bytes ih =>
        rw [plain_encode_cons, List.length_cons, List.length_cons]
        omega
  rw [decode, if_neg (by omega), decodeFrom_plain_encode]

end Text.Hex

namespace Operation

/-- A signature is read back. -/
theorem hexText_plain (bytes rest : List UInt8) :
    hexText (plain (Writer.text (Text.Hex.encode bytes)) ++ rest) = .ok (bytes, rest) := by
  have hread := Reader.text_plain (Text.Hex.verbatim_encode bytes) "a hex encoded string" rest
  have hbytes : Text.Utf8.encode (String.ofList (Text.Hex.encode bytes)) =
      plain (Text.Hex.encode bytes) := by
    rw [Text.Utf8.encode, String.toList_ofList]
    rfl
  rw [hexText, Reader.bind_of_ok hread, hbytes, Text.Hex.decode_plain_encode]
  rfl

section

variable (draft : Draft) {rest : List UInt8}

theorem read_sender (sender : AccountId) (ends : Number.Ends rest) :
    fields[0].read draft (plain (Writer.number sender.toNat) ++ rest) =
      .ok ({ draft with sender? := some sender }, rest) :=
  Reader.bind_of_ok (Reader.unsigned_number sender ends)

theorem read_receiver (receiver : AccountId) (ends : Number.Ends rest) :
    fields[1].read draft (plain (Writer.number receiver.toNat) ++ rest) =
      .ok ({ draft with receiver? := some receiver }, rest) :=
  Reader.bind_of_ok (Reader.unsigned_number receiver ends)

theorem read_amount (amount : Balance) (ends : Number.Ends rest) :
    fields[2].read draft (plain (Writer.number amount.toInt) ++ rest) =
      .ok ({ draft with amount? := some amount }, rest) :=
  Reader.bind_of_ok (Reader.signed_number amount ends)

theorem read_signature (signature : List UInt8) :
    fields[3].read draft (plain (Writer.text (Text.Hex.encode signature)) ++ rest) =
      .ok ({ draft with signature? := some signature }, rest) :=
  Reader.bind_of_ok (hexText_plain signature rest)

end

/-- The fields of an operation fill a draft of it, one after the other. -/
theorem document_fills (op : Operation) :
    Reader.Fills fields {}
      [("from".toList, Writer.number op.sender.toNat),
        ("to".toList, Writer.number op.receiver.toNat),
        ("amount".toList, Writer.number op.amount.toInt),
        ("signature".toList, Writer.text (Text.Hex.encode op.signature))]
      ⟨some op.sender, some op.receiver, some op.amount, some op.signature⟩ := by
  have hfrom : fields.find? (·.name == String.ofList "from".toList) = some fields[0] := rfl
  have hto : fields.find? (·.name == String.ofList "to".toList) = some fields[1] := rfl
  have hamount : fields.find? (·.name == String.ofList "amount".toList) = some fields[2] := rfl
  have hsignature : fields.find? (·.name == String.ofList "signature".toList) = some fields[3] :=
    rfl
  exact .step (verbatim_of_all rfl) hfrom rfl
      (fun _ rest delimits => read_sender {} op.sender (delimits.ends rest)) <|
    .step (verbatim_of_all rfl) hto rfl
      (fun _ rest delimits => read_receiver _ op.receiver (delimits.ends rest)) <|
    .step (verbatim_of_all rfl) hamount rfl
      (fun _ rest delimits => read_amount _ op.amount (delimits.ends rest)) <|
    .step (verbatim_of_all rfl) hsignature rfl (fun _ _ _ => read_signature _ op.signature) <|
    .done _

/-- An operation is read back. -/
theorem reader_plain (op : Operation) (rest : List UInt8) :
    reader (plain op.document ++ rest) = .ok (op, rest) := by
  have hrecord : Reader.record "struct Operation" fields {} (plain op.document ++ rest) =
      .ok (⟨some op.sender, some op.receiver, some op.amount, some op.signature⟩, rest) :=
    op.document_fills.record_eq "struct Operation" rfl rest
  rw [reader, Reader.bind_of_ok hrecord]
  rfl

end Operation

namespace Transaction

theorem read_operations (ops : List Operation) (rest : List UInt8) :
    fields[0].read none (plain (Writer.list (ops.map (·.document))) ++ rest) =
      .ok (some ops, rest) := by
  have hlist : Reader.list Operation.reader (plain (Writer.list (ops.map (·.document))) ++ rest) =
      .ok (ops, rest) :=
    Reader.list_plain (fun op _ => op.reader_plain) (fun _ _ => Reader.opens_record _) rest
  exact Reader.bind_of_ok hlist

/-- A transaction is read back. -/
theorem reader_plain (tx : Transaction) (rest : List UInt8) :
    reader (plain tx.document ++ rest) = .ok (tx, rest) := by
  have hknown : fields.find? (·.name == String.ofList "operations".toList) = some fields[0] := rfl
  have hfills : Reader.Fills fields none
      [("operations".toList, Writer.list (tx.operations.map (·.document)))]
      (some tx.operations) :=
    .step (verbatim_of_all rfl) hknown rfl (fun _ _ _ => read_operations tx.operations _) (.done _)
  have hrecord : Reader.record "struct Transaction" fields none (plain tx.document ++ rest) =
      .ok (some tx.operations, rest) :=
    hfills.record_eq "struct Transaction" rfl rest
  rw [reader, Reader.bind_of_ok hrecord]
  rfl

/-- Nothing is lost on the wire. Every transaction is read back as it was written. And from
whatever document a transaction was read, with its fields in any order or as a list, among
other fields and white space, with digits of either case, writing it and reading it again
gives what the document gave. -/
theorem wire_loses_nothing :
    (∀ tx : Transaction, decode tx.encode = .ok tx) ∧
      ∀ bytes, (decode bytes >>= fun tx => decode tx.encode) = decode bytes := by
  have hback : ∀ tx : Transaction, decode tx.encode = .ok tx := by
    intro tx
    have hread := tx.reader_plain []
    rw [List.append_nil] at hread
    have hbytes : tx.encode = plain tx.document := by rw [encode, plain]
    rw [decode, hbytes, Reader.document_of_read hread]
  refine ⟨hback, fun bytes => ?_⟩
  cases decode bytes with
  | error problem => rfl
  | ok tx => exact (pure_bind tx fun tx => decode tx.encode).trans (hback tx)

/-- A list in place of a record, upper-case digits and an unknown field are not written
again. -/
example : ((decode (Text.Utf8.encode
      "\x7b\"note\":null, \"operations\": [[1,2,-3,\"0AfF\"]]\x7d")).toOption.map encode) =
    some (Text.Utf8.encode ("\x7b\"operations\":[\x7b\"from\":1,\"to\":2,\"amount\":-3," ++
      "\"signature\":\"0aff\"\x7d]\x7d")) := by
  decide +kernel

end Transaction

end Clearinghouse
