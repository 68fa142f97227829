/-
# Accounts on a ledger

A medium on a double-entry ledger. The balance of an account is what the ledger
has credited to it less what it has debited, and every movement is a transfer
between the account and one system account. A commit is one transfer after the
other; if one fails, those before it stay booked, and the failure says how many
changes were booked in full. The service cannot list accounts, so a store lists
those it has created or seen since it connected.
-/

import Clearinghouse.Ledger.Cluster
import Clearinghouse.Ledger.Service
import Clearinghouse.Store.Backend
import Std.Data.ExtTreeSet

namespace Clearinghouse.Ledger

/-- Where a ledger is. -/
structure Settings where
  addresses : List String
  cluster : ClusterId
  /-- Use a ledger in this process instead of the cluster. -/
  simulate : Bool
  deriving DecidableEq, Repr

/-- A store's connection to a ledger. -/
structure Handle where
  settings : Settings
  isConnected : Bool
  /-- The accounts created or seen since the store connected. -/
  known : Std.ExtTreeSet AccountId

/-- A store that is not connected yet. -/
def Handle.new (settings : Settings) : Except StoreError Handle :=
  if settings.addresses = [] ∧ !settings.simulate then
    .error (.invalidConfiguration "ledger: at least one address is required")
  else .ok ⟨settings, false, ∅⟩

/-- The account as a store reports it, if its balance is in range. -/
def reportOf (id : AccountId) : Option Balance → Except StoreError Account
  | some balance => .ok ⟨id, balance⟩
  | none => .error (.medium "failed to read balance" s!"account {id} balance out of range")

/-- An account of the ledger as a store reports it. -/
def accountOf (id : AccountId) (account : LedgerAccount) : Except StoreError Account :=
  reportOf id (Balance.ofInt? account.net)

/-- The accounts of an answer; identifiers are the lower 64 bits of numbers. -/
def accountsOf : List LedgerAccount → Except StoreError (List Account)
  | [] => .ok []
  | account :: rest => do
    let first ← accountOf (UInt64.ofNat account.number) account
    return first :: (← accountsOf rest)

section

variable {L : Type} (service : Service L)

/-- The state of the medium: the connection, and the ledger. -/
abbrev State (L : Type) := Handle × L

/-- Runs a request on the ledger, with its failure as that of the store in a
context. -/
def run {α : Type} (context : String) (request : Request L α) : Step (State L) α :=
  Step.onPart Prod.snd (fun ledger state => (state.1, ledger))
    (request.adapt fun failure => .medium context failure.message)

/-- Fails unless the store is connected. -/
def ensureConnected : Step (State L) Unit := do
  unless (← get).1.isConnected do
    throw .notInitialized

/-- Adds an account to those the store lists. -/
def remember (id : AccountId) : Step (State L) Unit :=
  modify fun (handle, ledger) => ({ handle with known := handle.known.insert id }, ledger)

/-- Connects and makes sure that the system account exists. -/
def connect : Step (State L) Unit := do
  let settings := (← get).1.settings
  run s!"failed to connect to ledger cluster {settings.cluster.text}" service.connect
  let rejected ← run "failed to create system account"
    (service.createAccounts [LedgerAccount.new systemAccount])
  match rejected.find? fun (_, reason) => reason ≠ .exists with
  | some (_, reason) => throw (.medium "failed to create system account" reason.message)
  | none => modify fun (handle, ledger) => ({ handle with isConnected := true }, ledger)

/-- Creates an account on the ledger. -/
def createAccount (id : AccountId) : Step (State L) Unit := do
  ensureConnected
  match ← run "failed to create account" (service.createAccounts [LedgerAccount.new id.toNat]) with
  | (_, reason) :: _ => throw (.medium s!"account {id} rejected" reason.message)
  | [] => return

/-- The transfer that moves an account by `delta`. -/
def transferOf (number : TransferNumber) (id : AccountId) (delta : Int) : Transfer :=
  if 0 < delta then ⟨number, systemAccount, id.toNat, delta.natAbs, mainLedger⟩
  else ⟨number, id.toNat, systemAccount, delta.natAbs, mainLedger⟩

/-- Moves an account by `delta`. -/
def transfer (id : AccountId) (delta : Int) : Step (State L) Unit := do
  ensureConnected
  let number := service.freshNumber (← get).2
  match ← run "failed to create transfer" (service.createTransfers [transferOf number id delta]) with
  | (_, reason) :: _ => throw (.medium s!"transfer for account {id} rejected" reason.message)
  | [] => return

/-- How far the booking of a change got. -/
inductive Progress
  /-- The change is booked; the flag tells whether the ledger was asked for
  anything. -/
  | done (wrote : Bool)
  /-- The booking failed; the flag tells whether the ledger had changed. -/
  | failed (wrote : Bool) (error : StoreError)

/-- Books one change: the account first, if it is new, and then the movement, if
there is one. -/
def book (change : Change) : StateM (State L) Progress := do
  let created ← (if change.isCreation then do
      createAccount service change.id
      remember change.id
    else return : Step (State L) Unit).run
  match created with
  | .error e => return .failed false e
  | .ok () =>
    if change.delta = 0 then
      return .done change.isCreation
    else
      match ← (transfer service change.id change.delta).run with
      | .error e => return .failed change.isCreation e
      | .ok () => return .done true

/-- Books changes in order. `applied` of the `total` changes are booked, and
`wrote` tells whether the ledger has changed since the first one. A failure after
that is a partial commit. -/
def bookAll (total applied : Nat) (wrote : Bool) : List Change → Step (State L) Unit
  | [] => return
  | change :: rest => do
    match ← ExceptT.lift (book service change) with
    | .done now => bookAll total (applied + 1) (wrote || now) rest
    | .failed now e =>
      if wrote || now then
        throw (.partialCommit "ledger" (some applied) total e.message)
      else
        throw e

/-- The medium of accounts on a ledger. -/
def backend : Backend (State L) where
  name := "ledger"
  guarantee := .bestEffort
  connect := connect service
  disconnect := modify fun (handle, ledger) => (⟨handle.settings, false, ∅⟩, ledger)
  load id := do
    ensureConnected
    match ← run "failed to look up account" (service.lookup [id.toNat]) with
    | [] => return none
    | account :: _ =>
      remember id
      return some (← ExceptT.mk (pure (accountOf id account)))
  loadAll := do
    let known := (← get).1.known.toList
    if known.isEmpty then
      return []
    ensureConnected
    let found ← run "failed to look up accounts" (service.lookup (known.map (·.toNat)))
    let accounts ← ExceptT.mk (pure (accountsOf found))
    return accounts.mergeSort fun a b => a.id ≤ b.id
  flush changes := bookAll service changes.length 0 false changes

end

end Clearinghouse.Ledger
