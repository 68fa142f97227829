/-
# Accounts with transactions over any medium

A store adds to a medium a life cycle, at most one open transaction and the
rules for balances. Writes of an open transaction are staged: the first read
for an update copies the committed account, later operations work on the copy,
and a commit hands exactly the written accounts to the medium as one ascending
list. Reads see the staged accounts first, so a transaction reads its own
writes, and nothing of it is visible elsewhere before the commit.
-/

import Clearinghouse.Store.Backend
import Std.Data.ExtTreeMap

namespace Clearinghouse

/-- One account of the open transaction. -/
structure Staged where
  /-- The committed balance at the first access; `none` for an account that the
  transaction creates. -/
  observed : Option Balance
  balance : Balance
  /-- The transaction wrote the account, and did not only read it. -/
  written : Bool
  deriving DecidableEq, Repr, Inhabited

/-- The accounts of the open transaction, in order of identifier. -/
abbrev Staging := Std.ExtTreeMap AccountId Staged

/-- What a commit hands to the medium: the written accounts in order of
identifier. -/
def Staging.changes (staging : Staging) : List Change :=
  staging.toList.filterMap fun (id, entry) =>
    if entry.written then some ⟨id, entry.observed, entry.balance⟩ else none

/-- Stages a balance. An account that is staged already keeps the balance first
observed. -/
def Staging.write (staging : Staging) (id : AccountId) (observed : Option Balance)
    (balance : Balance) : Staging :=
  match staging[id]? with
  | some entry => staging.insert id { entry with balance, written := true }
  | none => staging.insert id ⟨observed, balance, true⟩

/-- A store over the medium state `S`. -/
structure Store (S : Type) where
  medium : S
  initialized : Bool
  /-- The open transaction, if there is one. -/
  staging : Option Staging

namespace Store

variable {S : Type}

/-- A store that has not taken hold of its medium yet. -/
def new (medium : S) : Store S := ⟨medium, false, none⟩

/-- Runs a step of the medium. -/
def onMedium {α : Type} (act : Step S α) : Step (Store S) α :=
  Step.onPart Store.medium (fun medium s => { s with medium }) act

/-- Every operation but `start` begins by asking for this. -/
def ensureInitialized : Step (Store S) Unit := do
  unless (← get).initialized do
    throw .notInitialized

/-- A transaction is open. -/
def inTransaction (s : Store S) : Bool := s.staging.isSome

/-- The staged entry of an account in the open transaction. -/
def staged? (s : Store S) (id : AccountId) : Option Staged := s.staging.bind (·[id]?)

variable (b : Backend S)

/-- The balance of an account, from the open transaction first and else from
the medium. Nothing is copied. -/
def peek (id : AccountId) : Step (Store S) (Option Balance) := do
  match (← get).staged? id with
  | some entry => return some entry.balance
  | none => return (← onMedium (b.load id)).map (·.balance)

/-- The balance of an account, copied into the open transaction so that the
rest of the transaction works on a private snapshot. -/
def observe (id : AccountId) : Step (Store S) (Option Balance) := do
  match (← get).staged? id with
  | some entry => return some entry.balance
  | none =>
    let found ← onMedium (b.load id)
    if let some account := found then
      modify fun s => { s with
        staging := s.staging.map (·.insert id ⟨some account.balance, account.balance, false⟩) }
    return found.map (·.balance)

/-- Writes a balance: into the open transaction, or else as a change of its
own. -/
def write (id : AccountId) (observed : Option Balance) (balance : Balance) :
    Step (Store S) Unit := do
  match (← get).staging with
  | some staging => modify fun s => { s with staging := some (staging.write id observed balance) }
  | none => onMedium (b.flush [⟨id, observed, balance⟩])

/-- Takes hold of the medium. -/
def start : Step (Store S) Unit := do
  if (← get).initialized then
    throw .alreadyInitialized
  onMedium b.connect
  modify fun s => { s with initialized := true }

/-- Discards an open transaction and lets go of the medium. The store counts as
closed even if the medium fails to let go. -/
def close : Step (Store S) Unit := do
  ensureInitialized
  modify fun s => { s with initialized := false, staging := none }
  onMedium b.disconnect

/-- Creates an account with any balance, negative ones included. -/
def create (id : AccountId) (balance : Balance) : Step (Store S) Unit := do
  ensureInitialized
  if (← peek b id).isSome then
    throw (.accountAlreadyExists id)
  write b id none balance

/-- An account exists, in the open transaction or on the medium. -/
def contains (id : AccountId) : Step (Store S) Bool := do
  ensureInitialized
  return (← peek b id).isSome

/-- Reads an account. Inside a transaction the account is copied into it. -/
def getAccount (id : AccountId) : Step (Store S) Account := do
  ensureInitialized
  if (← get).inTransaction then
    match ← observe b id with
    | some balance => return ⟨id, balance⟩
    | none => throw (.accountNotFound id)
  else
    match ← onMedium (b.load id) with
    | some account => return account
    | none => throw (.accountNotFound id)

/-- Reads the balance of an account. -/
def getBalance (id : AccountId) : Step (Store S) Balance := do
  return (← getAccount b id).balance

/-- Moves a balance by `delta`. An account that does not exist is created by a
positive movement. No update leaves a balance negative. -/
def update (id : AccountId) (delta : Balance) : Step (Store S) Unit := do
  ensureInitialized
  match ← observe b id with
  | none =>
    if 0 < delta then
      write b id none delta
    else
      throw (.accountNotFound id)
  | some balance =>
    match balance.add? delta with
    | none => throw (.balanceOverflow id)
    | some sum =>
      if sum < 0 then
        throw (.insufficientBalance id balance delta)
      write b id (some balance) sum

/-- The accounts of a list by identifier; of two with one identifier the later
one counts. -/
def tabulate (accounts : List Account) : Std.ExtTreeMap AccountId Balance :=
  accounts.foldl (fun table account => table.insert account.id account.balance) ∅

/-- Every account in ascending order of identifier, with the staged accounts in
place of the committed ones. -/
def accounts : Step (Store S) (List Account) := do
  ensureInitialized
  let committed := tabulate (← onMedium b.loadAll)
  return (((← get).staging.getD ∅).foldl (fun table id entry => table.insert id entry.balance)
    committed).toList.map fun (id, balance) => ⟨id, balance⟩

/-- Opens a transaction. -/
def begin : Step (Store S) Unit := do
  ensureInitialized
  if (← get).inTransaction then
    throw .transactionAlreadyOpen
  modify fun s => { s with staging := some ∅ }

/-- Ends the transaction and hands its written accounts to the medium. The
transaction has ended even if the medium fails. Without a transaction, or
without a written account, the medium is not asked. -/
def commit : Step (Store S) Unit := do
  ensureInitialized
  match (← get).staging with
  | none => return
  | some staging =>
    modify fun s => { s with staging := none }
    let changes := staging.changes
    unless changes.isEmpty do
      onMedium (b.flush changes)

/-- Ends the transaction and forgets what it staged. -/
def rollback : Step (Store S) Unit := do
  ensureInitialized
  modify fun s => { s with staging := none }

end Store

end Clearinghouse
