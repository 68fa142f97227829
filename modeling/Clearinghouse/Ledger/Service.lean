/-
# A double-entry ledger service

What a ledger service offers: accounts with two counters that only grow, and
transfers that add one amount to the debits of an account and the credits of
another. Requests carry several items, each of which is accepted or rejected on
its own; the answer lists the rejected ones. A service is a record of steps on a
state of its own type.
-/

namespace Clearinghouse.Ledger

/-- The number of a ledger account. -/
abbrev AccountNumber := Nat

/-- The number of a transfer. -/
abbrev TransferNumber := Nat

/-- The ledger that every account and transfer is booked on. -/
def mainLedger : Nat := 1

/-- The code of every account. -/
def accountCode : Nat := 1

/-- The opposite side of every movement, beyond the numbers of accounts that
belong to someone. -/
def systemAccount : AccountNumber := UInt64.size

/-- An account of the ledger. -/
structure LedgerAccount where
  number : AccountNumber
  ledger : Nat
  code : Nat
  debits : Nat
  credits : Nat
  deriving DecidableEq, Repr, Inhabited

/-- An account of the main ledger on which nothing is booked. -/
def LedgerAccount.new (number : AccountNumber) : LedgerAccount :=
  ⟨number, mainLedger, accountCode, 0, 0⟩

/-- The credits of an account less its debits. Either counter is taken as a
number of 128 bits with a sign. -/
def LedgerAccount.net (account : LedgerAccount) : Int :=
  (account.credits : Int).bmod (Nat.pow 2 128) - (account.debits : Int).bmod (Nat.pow 2 128)

/-- A movement between two accounts. -/
structure Transfer where
  number : TransferNumber
  debit : AccountNumber
  credit : AccountNumber
  amount : Nat
  ledger : Nat
  deriving DecidableEq, Repr, Inhabited

/-- Why an account is not created. -/
inductive AccountRejection
  | exists
  | zeroNumber
  | zeroLedger
  /-- Any other reason of the service. -/
  | other (reason : String)
  deriving DecidableEq, Repr, Inhabited

/-- The text shown to people. -/
def AccountRejection.message : AccountRejection → String
  | .exists => "account already exists"
  | zeroNumber => "account id must not be zero"
  | zeroLedger => "ledger must not be zero"
  | other reason => s!"account rejected: {reason}"

/-- Why a transfer is not booked. -/
inductive TransferRejection
  | exists
  | zeroNumber
  | noDebitAccount
  | noCreditAccount
  | sameAccounts
  | zeroAmount
  | ledgerMismatch
  /-- Any other reason of the service. -/
  | other (reason : String)
  deriving DecidableEq, Repr, Inhabited

/-- The text shown to people. -/
def TransferRejection.message : TransferRejection → String
  | .exists => "transfer already exists"
  | zeroNumber => "transfer id must not be zero"
  | noDebitAccount => "debit account not found"
  | noCreditAccount => "credit account not found"
  | sameAccounts => "accounts must be different"
  | zeroAmount => "amount must not be zero"
  | ledgerMismatch => "transfer ledger does not match account ledger"
  | other reason => s!"transfer rejected: {reason}"

/-- Why a request failed as a whole. -/
inductive RequestFailure
  | unavailable (reason : String)
  | request (reason : String)
  deriving DecidableEq, Repr, Inhabited

/-- The text shown to people. -/
def RequestFailure.message : RequestFailure → String
  | unavailable reason => s!"ledger service unavailable: {reason}"
  | request reason => s!"request failed: {reason}"

/-- A request on the ledger state `L`, which may fail and leaves a state behind in
either case. -/
abbrev Request (L α : Type) := ExceptT RequestFailure (StateM L) α

/-- A ledger service over states `L`. -/
structure Service (L : Type) where
  connect : Request L Unit
  /-- The accounts of a list of numbers, without those that do not exist. -/
  lookup : List AccountNumber → Request L (List LedgerAccount)
  /-- Creates accounts; answers the rejected items by position. -/
  createAccounts : List LedgerAccount → Request L (List (Nat × AccountRejection))
  /-- Books transfers; answers the rejected items by position. -/
  createTransfers : List Transfer → Request L (List (Nat × TransferRejection))
  /-- A number for a new transfer, which no other transfer has. -/
  freshNumber : L → TransferNumber

end Clearinghouse.Ledger
