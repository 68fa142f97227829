/-
# How a store operation fails

Every failure is named by its cause. The causes fall into four kinds: misuse of
the store's life cycle, a business rule that refused the operation, a
configuration that cannot work, and a fault of the storage medium. Only the
second kind is the customer's business, so callers ask for the kind instead of
matching on causes.
-/

import Clearinghouse.Account

namespace Clearinghouse

/-- The causes for which a store refuses or fails. -/
inductive StoreError
  | notInitialized
  | alreadyInitialized
  | transactionAlreadyOpen
  | accountNotFound (id : AccountId)
  | accountAlreadyExists (id : AccountId)
  /-- The exact sum is negative; `balance` is what the account held. -/
  | insufficientBalance (id : AccountId) (balance delta : Balance)
  /-- The exact sum is outside the range of balances. -/
  | balanceOverflow (id : AccountId)
  | invalidConfiguration (message : String)
  /-- The file system failed before the medium was reached. -/
  | io (message : String)
  /-- The medium failed; `context` says what the store was doing. -/
  | medium (context message : String)
  /-- A commit landed in part. `applied` counts the changes that landed, in
  order, where the medium can tell. -/
  | partialCommit (medium : String) (applied : Option Nat) (total : Nat) (message : String)
  deriving DecidableEq, Repr, Inhabited

/-- What a failure says about whom it concerns. -/
inductive StoreError.Kind
  /-- The store was used out of order. -/
  | lifecycle
  /-- A business rule refused the operation. -/
  | domain
  | configuration
  /-- The storage medium failed. -/
  | medium
  deriving DecidableEq, Repr, Inhabited

namespace StoreError

/-- The kind of a failure, by its cause. -/
def kind : StoreError → Kind
  | notInitialized | alreadyInitialized | transactionAlreadyOpen => .lifecycle
  | accountNotFound _ | accountAlreadyExists _ | insufficientBalance .. | balanceOverflow _ => .domain
  | invalidConfiguration _ => .configuration
  | io _ | medium .. | partialCommit .. => .medium

/-- A business rule refused the operation. -/
def isDomain (e : StoreError) : Bool := e.kind == .domain

/-- The storage medium failed. -/
def isMedium (e : StoreError) : Bool := e.kind == .medium

/-- The text shown to people. -/
def message : StoreError → String
  | notInitialized => "storage not initialized"
  | alreadyInitialized => "storage already initialized"
  | transactionAlreadyOpen => "a transaction is already open"
  | accountNotFound id => s!"account not found: {id}"
  | accountAlreadyExists id => s!"account already exists: {id}"
  | insufficientBalance id balance delta =>
    s!"insufficient balance for account {id}: balance {balance}, delta {delta}"
  | balanceOverflow id => s!"balance overflow for account {id}"
  | invalidConfiguration text => s!"invalid configuration: {text}"
  | io text => s!"IO error: {text}"
  | medium context text => s!"{context}: {text}"
  | partialCommit name applied total text =>
    let landed := match applied with
      | some n => toString n
      | none => "an unknown subset"
    s!"partial commit on {name}: {landed} of {total} changes applied: {text}"

end StoreError

/-- A step on a state that may fail. It leaves a state behind in either case,
because a medium keeps what happened before an error. -/
abbrev Step (S α : Type) := ExceptT StoreError (StateM S) α

/-- Runs a step on one part of a larger state and puts the part back. -/
def Step.onPart {S T α : Type} (get : S → T) (set : T → S → S) (act : Step T α) : Step S α :=
  fun s => let (answer, t) := act (get s); (answer, set t s)

end Clearinghouse
