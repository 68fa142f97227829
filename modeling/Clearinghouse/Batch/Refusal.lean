/-
# Why a batch is refused

A refusal names its cause. Most causes are the customer's business; a store's
own failure keeps its classification, and so decides whether the rest of a batch
may go on without the operation.
-/

import Clearinghouse.Store.Error

namespace Clearinghouse

/-- The causes for which a transaction, an operation or a key is refused. -/
inductive Refusal
  | emptyTransaction
  | invalidSender (id : AccountId)
  | invalidReceiver (id : AccountId)
  | invalidAmount (amount : Balance)
  | missingSignature
  | unknownSigner (id : AccountId)
  | invalidSignature
  | insufficientBalance (balance amount : Balance)
  /-- The bytes are no transaction. -/
  | decoding (message : String)
  /-- A transaction could not be written. -/
  | encoding (message : String)
  | keyAlreadyRegistered (user : AccountId)
  | invalidPublicKey (message : String)
  | storage (error : StoreError)
  deriving DecidableEq, Repr, Inhabited

namespace Refusal

/-- A business rule refused, rather than a fault of the medium or the writer. -/
def isDomain : Refusal → Bool
  | storage error => error.isDomain
  | encoding _ => false
  | _ => true

/-- The text shown to people. -/
def message : Refusal → String
  | emptyTransaction => "transaction must contain at least one operation"
  | invalidSender id => s!"invalid sender ID {id}"
  | invalidReceiver id => s!"invalid recipient ID {id}"
  | invalidAmount amount => s!"invalid amount {amount}"
  | missingSignature => "missing signature"
  | unknownSigner id => s!"no public key registered for user {id}"
  | invalidSignature => "invalid signature"
  | insufficientBalance balance amount => s!"insufficient balance: {balance} < {amount}"
  | decoding text => s!"failed to decode transaction: {text}"
  | encoding text => s!"failed to encode transaction: {text}"
  | keyAlreadyRegistered user => s!"user {user} already has a registered key"
  | invalidPublicKey text => s!"invalid public key: {text}"
  | storage error => error.message

end Refusal

/-- A refusal and the operation that caused it; no operation when the batch as a
whole is refused. -/
structure Rejection where
  index : Option Nat
  reason : Refusal
  deriving DecidableEq, Repr, Inhabited

namespace Rejection

/-- A rejection of the whole batch. -/
def ofBatch (reason : Refusal) : Rejection := ⟨none, reason⟩

/-- A rejection of the operation at a position. -/
def ofOperation (index : Nat) (reason : Refusal) : Rejection := ⟨some index, reason⟩

/-- The text shown to people. -/
def message (r : Rejection) : String :=
  match r.index with
  | some index => s!"operation {index}: {r.reason.message}"
  | none => r.reason.message

end Rejection

/-- A check on a state that may refuse, and leaves a state behind in either
case. -/
abbrev Check (S α : Type) := ExceptT Refusal (StateM S) α

/-- A store's step as a check. -/
def Check.ofStep {S α : Type} (act : Step S α) : Check S α := act.adapt .storage

end Clearinghouse
