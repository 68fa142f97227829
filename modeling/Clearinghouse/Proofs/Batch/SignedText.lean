/-
# What a signature is for

The text that is signed names the sender, the receiver and the amount, and all three are read
back from its bytes. So no two transfers have the same bytes to sign, whatever the sizes of
their numbers and the sign of the amount. A signature that was accepted for one transfer is
held against other bytes in every operation with another sender, receiver or amount.
-/

import Clearinghouse.Medium.Memory
import Clearinghouse.Proofs.Batch.Debits
import Clearinghouse.Proofs.Batch.Wire

namespace Clearinghouse

open Json

namespace Operation

/-! ## Reading back what is signed -/

/-- The fields of the signed text: those of an operation, without its signature. -/
def signedFields : List (Reader.Field Draft) := fields.take 3

variable (sender receiver : AccountId) (amount : Balance)

/-- The fields of the signed text fill a draft, one after the other. -/
theorem signingText_fills :
    Reader.Fills signedFields {}
      [("from".toList, Writer.number sender.toNat),
        ("to".toList, Writer.number receiver.toNat),
        ("amount".toList, Writer.number amount.toInt)]
      ⟨some sender, some receiver, some amount, none⟩ := by
  have hfrom : signedFields.find? (·.name == String.ofList "from".toList) = some fields[0] := rfl
  have hto : signedFields.find? (·.name == String.ofList "to".toList) = some fields[1] := rfl
  have hamount : signedFields.find? (·.name == String.ofList "amount".toList) = some fields[2] :=
    rfl
  exact .step (verbatim_of_all rfl) hfrom rfl
      (fun _ rest delimits => read_sender {} sender (delimits.ends rest)) <|
    .step (verbatim_of_all rfl) hto rfl
      (fun _ rest delimits => read_receiver _ receiver (delimits.ends rest)) <|
    .step (verbatim_of_all rfl) hamount rfl
      (fun _ rest delimits => read_amount _ amount (delimits.ends rest)) <|
    .done _

/-- All that was signed is read back. -/
theorem record_signingMessage :
    Reader.record "signed transfer" signedFields {} (signingMessage sender receiver amount) =
      .ok (⟨some sender, some receiver, some amount, none⟩, []) := by
  have hrecord := (signingText_fills sender receiver amount).record_eq "signed transfer" rfl []
  rwa [List.append_nil] at hrecord

variable {sender receiver amount} {sender' receiver' : AccountId} {amount' : Balance}

/-- Transfers with the same bytes to sign are the same. -/
theorem signingMessage_inj :
    signingMessage sender receiver amount = signingMessage sender' receiver' amount' ↔
      sender = sender' ∧ receiver = receiver' ∧ amount = amount' := by
  constructor
  · intro same
    have hfirst := record_signingMessage sender receiver amount
    rw [same, record_signingMessage] at hfirst
    injection hfirst with hread
    injection hread with hdraft
    injection hdraft with hsender hreceiver hamount
    exact ⟨(Option.some.inj hsender).symm, (Option.some.inj hreceiver).symm,
      (Option.some.inj hamount).symm⟩
  · rintro ⟨rfl, rfl, rfl⟩
    rfl

end Operation

namespace Batch

variable {S : Type} {b : Backend S} {keys : KeyRegistry} {s : Store S}

/-- The shape of an operation says nothing of who signed it. -/
theorem checkShape_ne_invalidSignature (op : Operation) :
    op.checkShape ≠ .error .invalidSignature := by
  unfold Operation.checkShape
  split_ifs <;> nofun

/-- Looking for what a sender can spend never finds fault with a signature. -/
theorem spendable_ne_invalidSignature (id : AccountId) :
    (spendable b id s).1 ≠ .error .invalidSignature := by
  rw [spendable]
  split <;> exact fun refused => by cases refused

/-- An operation is refused for its signature exactly if the key of its sender does not
accept the signature for the bytes of that operation. -/
theorem checkOperation_eq_invalidSignature_iff {op : Operation} :
    (checkOperation b keys op s).1 = .error .invalidSignature ↔
      op.checkShape = .ok () ∧ ∃ key, keys[op.sender]? = some key ∧
        key.verify (Operation.signingMessage op.sender op.receiver op.amount) op.signature =
          false := by
  constructor
  · intro refused
    cases hshape : op.checkShape with
    | error reason =>
        rw [checkOperation_of_misshapen hshape] at refused
        cases refused
        exact absurd hshape (checkShape_ne_invalidSignature op)
    | ok =>
        refine ⟨rfl, ?_⟩
        cases hkey : keys[op.sender]? with
        | none =>
            rw [checkOperation_of_unknown hshape hkey] at refused
            cases refused
        | some key =>
            refine ⟨key, rfl, ?_⟩
            cases hverify : key.verify op.message op.signature with
            | false => exact hverify
            | true =>
                rw [checkOperation_of_signed hshape hkey hverify] at refused
                cases hspend : spendable b op.sender s with
                | mk answer s' =>
                    cases answer with
                    | error reason =>
                        rw [Run.bind_of_error hspend] at refused
                        cases refused
                        exact absurd (congrArg Prod.fst hspend) (spendable_ne_invalidSignature _)
                    | ok balance =>
                        rw [Run.bind_of_ok hspend] at refused
                        split at refused <;> cases refused
  · rintro ⟨hshape, key, hkey, hforged⟩
    rw [checkOperation_of_forged hshape hkey hforged]

/-- A signature is for one transfer. The signed bytes are equal for equal triples of sender,
receiver and amount only. So once a signature is accepted for an operation, the key of the
sender accepts it for that operation's bytes, while every operation with another sender,
receiver or amount, under whatever keys and on whatever store, is held against other bytes:
it is refused for its signature exactly if its own sender's key does not accept the
signature it carries for those. -/
theorem signature_is_for_one_transfer :
    (∀ (sender sender' receiver receiver' : AccountId) (amount amount' : Balance),
      Operation.signingMessage sender receiver amount =
          Operation.signingMessage sender' receiver' amount' ↔
        sender = sender' ∧ receiver = receiver' ∧ amount = amount') ∧
      ∀ {S T : Type} (b : Backend S) (c : Backend T) (keys others : KeyRegistry)
        (op moved : Operation) (s : Store S) (t : Store T),
        (checkOperation b keys op s).1 = .ok () →
        (moved.sender, moved.receiver, moved.amount) ≠ (op.sender, op.receiver, op.amount) →
        ∃ key, keys[op.sender]? = some key ∧ key.verify op.message op.signature = true ∧
          moved.message ≠ op.message ∧
          ((checkOperation c others moved t).1 = .error .invalidSignature ↔
            moved.checkShape = .ok () ∧ ∃ other, others[moved.sender]? = some other ∧
              other.verify moved.message moved.signature = false) ∧
          ((checkOperation c others moved t).1 = .ok () →
            ∃ other, others[moved.sender]? = some other ∧
              other.verify moved.message moved.signature = true) := by
  refine ⟨fun _ _ _ _ _ _ => Operation.signingMessage_inj, ?_⟩
  intro S T b c keys others op moved s t accepted differs
  obtain ⟨-, key, hkey, hsigned⟩ := signed_of_passed (Prod.ext accepted rfl)
  refine ⟨key, hkey, hsigned, fun same => differs ?_, checkOperation_eq_invalidSignature_iff,
    fun passed => (signed_of_passed (Prod.ext passed rfl)).2⟩
  obtain ⟨hsender, hreceiver, hamount⟩ := Operation.signingMessage_inj.mp same
  rw [hsender, hreceiver, hamount]

/-- A signature for the smallest payment, carried over to the largest. -/
theorem memory_signature_is_for_one_transfer :
    let key : Signature.PublicKey := ⟨1 :: List.replicate 31 0, Signature.Point.zero⟩
    let keys : KeyRegistry := (∅ : KeyRegistry).insert 1 key
    let signature := (1 :: List.replicate 31 0) ++ List.replicate 32 0
    let op : Operation := ⟨1, 2, 1, signature⟩
    let moved : Operation := ⟨1, 2, Int64.maxValue, signature⟩
    let s : Store Table := ⟨(∅ : Table).insert 1 5, true, none⟩
    (checkOperation Memory.backend keys op s).1 = .ok () ∧ moved.message ≠ op.message := by
  intro key keys signature op moved s
  have haccepted : (checkOperation Memory.backend keys op s).1 = .ok () := by decide +kernel
  obtain ⟨-, -, -, hmessage, -⟩ := signature_is_for_one_transfer.2 Memory.backend Memory.backend
    keys keys op moved s s haccepted (by decide)
  exact ⟨haccepted, hmessage⟩

/-- The smallest amount there is, and one with its digits but another sign. -/
example : Operation.signingMessage 1 23 Int64.minValue =
      Text.Utf8.encode "\x7b\"from\":1,\"to\":23,\"amount\":-9223372036854775808\x7d" ∧
    Operation.signingMessage 12 3 5 ≠ Operation.signingMessage 1 23 5 ∧
    Operation.signingMessage 1 2 5 ≠ Operation.signingMessage 1 2 (-5) := by
  decide +kernel

end Batch

end Clearinghouse
