/-
# A ledger in the same process

A ledger service kept as two maps, with the acceptance rules of a real one. It
can be told to become unavailable after a number of further transfers, once. The
transfers of a request before that point stay booked.
-/

import Clearinghouse.Ledger.Service
import Std.Data.ExtTreeMap
import Std.Data.ExtTreeSet

namespace Clearinghouse.Ledger

/-- The state of a ledger in this process. -/
structure Book where
  accounts : Std.ExtTreeMap AccountNumber LedgerAccount
  transfers : Std.ExtTreeSet TransferNumber
  /-- How many more transfers are looked at before a request fails. -/
  failAfter : Option Nat

namespace Book

/-- A ledger without accounts. -/
def empty : Book := ⟨∅, ∅, none⟩

/-- Why an account would not be created. -/
def accountRejection? (book : Book) (account : LedgerAccount) : Option AccountRejection :=
  if account.number = 0 then some .zeroNumber
  else if account.ledger = 0 then some .zeroLedger
  else if book.accounts.contains account.number then some .exists
  else none

/-- The ledger with a new account, whose counters start at zero. -/
def addAccount (book : Book) (account : LedgerAccount) : Book :=
  { book with
    accounts := book.accounts.insert account.number { account with debits := 0, credits := 0 } }

/-- Creates accounts in order; `index` is the position of the first one. -/
def createAccountsFrom (index : Nat) :
    List LedgerAccount → Book → List (Nat × AccountRejection) × Book
  | [], book => ([], book)
  | account :: rest, book =>
    match book.accountRejection? account with
    | some reason =>
      let (rejected, book) := createAccountsFrom (index + 1) rest book
      ((index, reason) :: rejected, book)
    | none => createAccountsFrom (index + 1) rest (book.addAccount account)

/-- Why a transfer would not be booked. -/
def transferRejection? (book : Book) (transfer : Transfer) : Option TransferRejection :=
  if transfer.number = 0 then some .zeroNumber
  else if book.transfers.contains transfer.number then some .exists
  else if transfer.debit = transfer.credit then some .sameAccounts
  else if transfer.amount = 0 then some .zeroAmount
  else match book.accounts[transfer.debit]?, book.accounts[transfer.credit]? with
    | none, _ => some .noDebitAccount
    | _, none => some .noCreditAccount
    | some debit, some credit =>
      if debit.ledger = transfer.ledger ∧ credit.ledger = transfer.ledger then none
      else some .ledgerMismatch

/-- The ledger with a transfer booked on both sides. -/
def post (book : Book) (transfer : Transfer) : Book :=
  { book with
    accounts := (book.accounts.modify transfer.debit fun account =>
        { account with debits := account.debits + transfer.amount }).modify transfer.credit
      fun account => { account with credits := account.credits + transfer.amount }
    transfers := book.transfers.insert transfer.number }

/-- Books transfers in order; `index` is the position of the first one. -/
def createTransfersFrom (index : Nat) :
    List Transfer → Request Book (List (Nat × TransferRejection))
  | [] => return []
  | transfer :: rest => do
    let book ← get
    match book.failAfter with
    | some 0 =>
      set { book with failAfter := none }
      throw (.unavailable "injected failure")
    | some (n + 1) => set { book with failAfter := some n }
    | none => pure ()
    match book.transferRejection? transfer with
    | some reason => return (index, reason) :: (← createTransfersFrom (index + 1) rest)
    | none =>
      modify (·.post transfer)
      createTransfersFrom (index + 1) rest

/-- The largest number of at most 128 bits below which `count` numbers are free of
use. -/
def freeNumber (used : Std.ExtTreeSet TransferNumber) (candidate : TransferNumber) :
    Nat → TransferNumber
  | 0 => candidate
  | count + 1 =>
    if used.contains candidate then freeNumber used (candidate - 1) count else candidate

/-- A number that no transfer of the ledger has. -/
def freshNumber (book : Book) : TransferNumber :=
  freeNumber book.transfers (Nat.pow 2 128 - 1) book.transfers.size

/-- The service of a ledger in this process. -/
def service : Service Book where
  connect := return
  lookup numbers := return numbers.filterMap ((← get).accounts[·]?)
  createAccounts accounts := ExceptT.lift (createAccountsFrom 0 accounts)
  createTransfers transfers := createTransfersFrom 0 transfers
  freshNumber := freshNumber

end Book

end Clearinghouse.Ledger
