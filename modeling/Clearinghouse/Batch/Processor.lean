/-
# Processing a batch

A batch goes through two phases. Every operation is first checked on its own
against the committed accounts: its shape, its signature and the sender's
balance. The operations that passed are then applied in order inside one
transaction of the store, each as a debit followed by a credit. A credit that
fails takes its debit back, so an operation that is left out leaves nothing
behind. The policy decides whether a failing operation is left out or rejects
the batch.
-/

import Clearinghouse.Batch.Operation
import Clearinghouse.Batch.Policy
import Clearinghouse.Keys
import Clearinghouse.Store.Basic

namespace Clearinghouse

/-- What became of a batch. -/
inductive Outcome
  /-- The batch committed; `skipped` lists the operations left out. -/
  | committed (applied : Nat) (skipped : List Rejection)
  | rejected (rejection : Rejection)
  deriving DecidableEq, Repr, Inhabited

namespace Outcome

/-- The batch committed. -/
def isCommitted : Outcome → Bool
  | committed .. => true
  | rejected _ => false

/-- The text reported back for the batch. -/
def message : Outcome → String
  | committed applied [] => s!"Processed {applied} operations"
  | committed applied skipped => s!"Processed {applied} operations, skipped {skipped.length}"
  | rejected rejection => s!"Failed to process transaction: {rejection.message}"

end Outcome

namespace Batch

variable {S : Type}

/-- Phases of a batch, which end early with a rejection. -/
abbrev Phase (S α : Type) := ExceptT Rejection (StateM S) α

/-- Runs a check and hands its refusal on as an answer. -/
def attempt {α : Type} (check : Check S α) : Phase S (Except Refusal α) := ExceptT.lift check.run

/-- A check whose refusal rejects the whole batch. -/
def wholly {α : Type} (check : Check S α) : Phase S α := check.adapt .ofBatch

/-- Lifts a decision that needs no state. -/
def decided {ε α : Type} (decision : Except ε α) : ExceptT ε (StateM S) α :=
  ExceptT.mk (pure decision)

/-- The policy lets the batch go on without an operation refused for this
reason. -/
def leavesOut (policy : Policy) (reason : Refusal) : Bool :=
  policy == .skipFailed && reason.isDomain

variable (b : Backend S) (keys : KeyRegistry) (policy : Policy)

/-- The balance a sender can spend; an account that does not exist holds
nothing. -/
def spendable (id : AccountId) : Check (Store S) Balance := fun s =>
  match Store.getBalance b id s with
  | (.ok balance, s) => (.ok balance, s)
  | (.error (.accountNotFound _), s) => (.ok 0, s)
  | (.error e, s) => (.error (.storage e), s)

/-- Checks one operation on its own. -/
def checkOperation (op : Operation) : Check (Store S) Unit := do
  decided op.checkShape
  match keys[op.sender]? with
  | none => throw (.unknownSigner op.sender)
  | some key =>
    unless key.verify op.message op.signature do
      throw .invalidSignature
    let balance ← spendable b op.sender
    if balance < op.amount then
      throw (.insufficientBalance balance op.amount)

/-- A batch never runs inside a transaction that someone else left open. -/
def ensureNoTransaction : Phase (Store S) Unit := do
  if (← get).inTransaction then
    throw (.ofBatch (.storage .transactionAlreadyOpen))

/-- Checks every operation on its own; `index` is the position of the first
operation of the list. -/
def checkFrom (index : Nat) : List Operation → Phase (Store S) Unit
  | [] => return
  | op :: ops => do
    ExceptT.adapt (.ofOperation index) (checkOperation b keys op)
    checkFrom (index + 1) ops

/-- Decides whether a transaction could be admitted, without changing any
account. -/
def check (tx : Transaction) : Phase (Store S) Unit := do
  ensureNoTransaction
  decided tx.checkShape
  checkFrom b keys 0 tx.operations

/-- Sorts out the operations that fail on their own. Answers those that passed,
with their positions, and the others as rejections. -/
def screen (index : Nat) : List Operation →
    Phase (Store S) (List (Nat × Operation) × List Rejection)
  | [] => return ([], [])
  | op :: ops => do
    match ← attempt (checkOperation b keys op) with
    | .ok () =>
      let (eligible, skipped) ← screen (index + 1) ops
      return ((index, op) :: eligible, skipped)
    | .error reason =>
      if leavesOut policy reason then
        let (eligible, skipped) ← screen (index + 1) ops
        return (eligible, .ofOperation index reason :: skipped)
      else
        throw (.ofOperation index reason)

/-- Debits the sender, then credits the receiver. If the credit fails, the debit
is taken back before the failure is reported. -/
def apply (op : Operation) : Step (Store S) Unit := do
  Store.update b op.sender (-op.amount)
  match ← ExceptT.lift (Store.update b op.receiver op.amount).run with
  | .ok () => return
  | .error e =>
    Store.update b op.sender op.amount
    throw e

/-- Applies operations in the open transaction. Answers how many were applied,
and those left out as rejections. A rejection ends the transaction. -/
def applyAll : List (Nat × Operation) → Phase (Store S) (Nat × List Rejection)
  | [] => return (0, [])
  | (index, op) :: ops => do
    match ← attempt (Check.ofStep (apply b op)) with
    | .ok () =>
      let (applied, skipped) ← applyAll ops
      return (applied + 1, skipped)
    | .error reason =>
      if leavesOut policy reason then
        let (applied, skipped) ← applyAll ops
        return (applied, .ofOperation index reason :: skipped)
      else
        let _ ← attempt (Check.ofStep Store.rollback)
        throw (.ofOperation index reason)

/-- Processes a batch: both phases and the commit. The operations left out are
listed with those that failed on their own first. -/
def run (tx : Transaction) : Phase (Store S) (Nat × List Rejection) := do
  ensureNoTransaction
  if tx.operations.isEmpty then
    throw (.ofBatch .emptyTransaction)
  let (eligible, unfit) ← screen b keys policy 0 tx.operations
  wholly (Check.ofStep Store.begin)
  let (applied, failed) ← applyAll b policy eligible
  wholly (Check.ofStep (Store.commit b))
  return (applied, unfit ++ failed)

/-- Processes a batch and reports what became of it. -/
def process (tx : Transaction) : StateM (Store S) Outcome := do
  match ← (run b keys policy tx).run with
  | .ok (applied, skipped) => return .committed applied skipped
  | .error rejection => return .rejected rejection

end Batch

end Clearinghouse
