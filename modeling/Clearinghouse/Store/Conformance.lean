/-
# What every store does

A set of trials that a fresh store over any medium passes: the guards of its life
cycle, the rules for balances, and what commits, rollbacks and closing do to a
transaction. A trial ends at the first expectation that is not met, and leaves
the store as it was at that moment.
-/

import Clearinghouse.Store.Basic

namespace Clearinghouse.Store.Conformance

variable {S : Type}

/-- A series of expectations on a store. -/
abbrev Trial (S α : Type) := ExceptT Unit (StateM (Store S)) α

/-- The step succeeds. -/
def succeeds {α : Type} (step : Step (Store S) α) : Trial S α := step.adapt fun _ => ()

/-- Something is as expected. -/
def expect (condition : Bool) : Trial S Unit :=
  if condition then return else throw ()

/-- The step fails, for a cause as expected. -/
def fails {α : Type} (step : Step (Store S) α) (cause : StoreError → Bool) : Trial S Unit := do
  match ← ExceptT.lift step.run with
  | .ok _ => throw ()
  | .error e => expect (cause e)

/-- The step succeeds with an answer. -/
def answers {α : Type} [DecidableEq α] (step : Step (Store S) α) (answer : α) :
    Trial S Unit := do
  expect ((← succeeds step) = answer)

/-- The cause is a debit that the balance does not cover. -/
def isOverdraft : StoreError → Bool
  | .insufficientBalance .. => true
  | _ => false

variable (b : Backend S)

/-- Nothing works before the start, and nothing twice. -/
def lifecycleGuards : Trial S Unit := do
  fails (getAccount b 1) (· == .notInitialized)
  fails (contains b 1) (· == .notInitialized)
  fails (update b 1 5) (· == .notInitialized)
  fails begin (· == .notInitialized)
  fails (close b) (· == .notInitialized)
  succeeds (start b)
  expect (← get).initialized
  fails (start b) (· == .alreadyInitialized)
  succeeds (close b)
  expect (!(← get).initialized)
  fails (accounts b) (· == .notInitialized)

/-- A created account can be read, and cannot be created again. -/
def createAndRead : Trial S Unit := do
  succeeds (start b)
  answers (contains b 1) false
  succeeds (create b 1 1000)
  answers (contains b 1) true
  answers (getBalance b 1) 1000
  expect ((← succeeds (getAccount b 1)).id = 1)
  fails (create b 1 5) (· == .accountAlreadyExists 1)
  fails (getAccount b 2) (· == .accountNotFound 2)
  fails (getBalance b 2) (· == .accountNotFound 2)
  succeeds (close b)

/-- A credit creates an account, and a debit needs cover. -/
def updateRules : Trial S Unit := do
  succeeds (start b)
  succeeds (update b 5 30)
  answers (getBalance b 5) 30
  fails (update b 5 (-50)) (· == .insufficientBalance 5 30 (-50))
  answers (getBalance b 5) 30
  succeeds (update b 5 (-30))
  answers (getBalance b 5) 0
  fails (update b 6 0) (· == .accountNotFound 6)
  fails (update b 6 (-1)) (· == .accountNotFound 6)
  answers (contains b 6) false
  succeeds (close b)

/-- A commit makes the writes of a transaction visible. -/
def commitApplies : Trial S Unit := do
  succeeds (start b)
  succeeds (create b 1 1000)
  succeeds (create b 2 0)
  succeeds begin
  expect (← get).inTransaction
  succeeds (update b 1 (-100))
  succeeds (update b 2 100)
  succeeds (update b 1 (-50))
  succeeds (update b 2 50)
  answers (getBalance b 1) 850
  succeeds (commit b)
  expect (!(← get).inTransaction)
  answers (getBalance b 1) 850
  answers (getBalance b 2) 150
  succeeds (close b)

/-- A rollback leaves no trace of a transaction. -/
def rollbackRestores : Trial S Unit := do
  succeeds (start b)
  succeeds (create b 1 100)
  succeeds (create b 2 7)
  let before ← succeeds (accounts b)
  succeeds begin
  succeeds (update b 1 (-60))
  succeeds (update b 2 60)
  succeeds (create b 3 42)
  succeeds (update b 4 9)
  succeeds rollback
  answers (accounts b) before
  answers (contains b 3) false
  answers (contains b 4) false
  succeeds (close b)

/-- A transaction reads its own writes. -/
def readsOwnWrites : Trial S Unit := do
  succeeds (start b)
  succeeds (create b 1 10)
  succeeds begin
  succeeds (create b 2 20)
  answers (contains b 2) true
  answers (getBalance b 2) 20
  fails (create b 2 1) (· == .accountAlreadyExists 2)
  fails (create b 1 1) (· == .accountAlreadyExists 1)
  succeeds (update b 1 5)
  answers (accounts b) [⟨1, 15⟩, ⟨2, 20⟩]
  succeeds (commit b)
  answers (accounts b) [⟨1, 15⟩, ⟨2, 20⟩]
  succeeds (close b)

/-- A failed update inside a transaction changes nothing. -/
def failedUpdateHasNoEffect : Trial S Unit := do
  succeeds (start b)
  succeeds (create b 1 100)
  succeeds begin
  succeeds (update b 1 (-60))
  fails (update b 1 (-60)) isOverdraft
  answers (getBalance b 1) 40
  succeeds rollback
  answers (getBalance b 1) 100
  succeeds (close b)

/-- Commits and rollbacks without a transaction do nothing. -/
def transactionIdempotence : Trial S Unit := do
  succeeds (start b)
  succeeds (commit b)
  succeeds (commit b)
  succeeds rollback
  succeeds rollback
  succeeds begin
  fails begin (· == .transactionAlreadyOpen)
  succeeds rollback
  succeeds begin
  succeeds (commit b)
  succeeds (close b)

/-- Closing discards an open transaction. -/
def closeDiscards : Trial S Unit := do
  succeeds (start b)
  succeeds (create b 1 100)
  succeeds begin
  succeeds (update b 1 900)
  succeeds (close b)
  expect (!(← get).inTransaction)

/-- An account may start below zero. -/
def negativeSeed : Trial S Unit := do
  succeeds (start b)
  succeeds (create b 8 (-5))
  answers (getBalance b 8) (-5)
  fails (update b 8 (-1)) isOverdraft
  succeeds (update b 8 10)
  answers (getBalance b 8) 5
  succeeds (close b)

/-- A movement may be wider than a balance. -/
def largeCreditAfterNegativeSeed : Trial S Unit := do
  succeeds (start b)
  succeeds (create b 1 (-10))
  succeeds begin
  succeeds (update b 1 Int64.maxValue)
  succeeds (update b 1 5)
  succeeds (commit b)
  answers (getBalance b 1) (Int64.maxValue - 5)
  fails (update b 1 10) (· == .balanceOverflow 1)
  answers (getBalance b 1) (Int64.maxValue - 5)
  succeeds (close b)

/-- The trials by name. -/
def trials : List (String × Trial S Unit) :=
  [("lifecycle_guards", lifecycleGuards b), ("create_and_read", createAndRead b),
    ("update_balance_rules", updateRules b), ("commit_applies_overlay", commitApplies b),
    ("rollback_restores_base", rollbackRestores b), ("read_your_writes", readsOwnWrites b),
    ("failed_update_inside_transaction_has_no_effect", failedUpdateHasNoEffect b),
    ("transaction_idempotence", transactionIdempotence b),
    ("close_discards_open_transaction", closeDiscards b),
    ("negative_seed_is_allowed", negativeSeed b),
    ("large_credit_after_negative_seed", largeCreditAfterNegativeSeed b)]

/-- Runs the trial of a name; it must be there and pass. -/
def passes (name : String) : StateM (Store S) Bool := do
  match (trials b).lookup name with
  | none => return false
  | some trial => return (← trial.run).toBool

end Clearinghouse.Store.Conformance
