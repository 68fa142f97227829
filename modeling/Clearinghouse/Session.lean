/-
# From the first account to the last balance

A session opens the store of an application, seeds its first accounts, delivers
the transactions of an input and shows what came of them, reads all balances and
closes the store. A fault ends it early; what has been shown by then stays shown.
-/

import Clearinghouse.Application
import Clearinghouse.Text.Blank
import Clearinghouse.Text.Grid
import Clearinghouse.Text.Utf8

namespace Clearinghouse.Session

/-- The transactions of a session, one a line. -/
inductive Input
  | absent
  | unreadable
  | lines (lines : List (List UInt8))

/-- Why a session ended early. -/
inductive Interruption
  | refusal (reason : Refusal)
  | input
  deriving DecidableEq, Repr, Inhabited

/-- The text shown to people. -/
def Interruption.message : Interruption → String
  | refusal reason => reason.message
  | input => "failed to read the input"

/-- What a session has shown, and why it ended early if it did. -/
structure Transcript where
  shown : List Text.Grid
  interruption : Option Interruption

/-- The answer to the transaction of a line. -/
structure Delivery where
  line : Nat
  result : TxResult
  deriving DecidableEq, Repr, Inhabited

variable {S : Type} (b : Backend S)

/-- Delivers the lines of an input, the first of which has the given number.
Blank lines are passed over. Nothing is answered if a line is no text, but the
lines before it have been delivered. -/
def deliver (number : Nat) : List (List UInt8) → StateM (Application S) (Option (List Delivery))
  | [] => return some []
  | line :: rest => do
    match Text.Utf8.decode? line with
    | none => return none
    | some characters =>
      if characters.all Text.isBlank then
        deliver (number + 1) rest
      else
        let result ← Application.deliverTx b line
        return (← deliver (number + 1) rest).map (⟨number, result⟩ :: ·)

/-- Delivers an input. -/
def deliverInput : Input → StateM (Application S) (Option (List Delivery))
  | .absent => return some []
  | .unreadable => return none
  | .lines lines => deliver b 1 lines

/-- The table of what came of the transactions. -/
def resultGrid (deliveries : List Delivery) : Text.Grid :=
  ⟨["#", "Code", "Result"] ::
    deliveries.map fun d => [s!"{d.line}", s!"{d.result.code.number}", d.result.log]⟩

/-- The table of all balances. -/
def balanceGrid (accounts : List Account) : Text.Grid :=
  ⟨["Account", "Balance"] :: accounts.map fun a => [s!"{a.id.toNat}", s!"{a.balance.toInt}"]⟩

/-- What is shown of an input that was delivered. -/
def shownResults (input : Input) (deliveries : List Delivery) : List Text.Grid :=
  match input with
  | .absent => []
  | _ => [resultGrid deliveries]

/-- Opens the store and seeds the first accounts. -/
def start (genesis : List GenesisAccount) : Check (Application S) Unit := do
  Application.onStep (Store.start b)
  Application.initChain b genesis

/-- Reads all balances and closes the store. -/
def finish (shown : List Text.Grid) : StateM (Application S) Transcript := do
  match ← Application.queryState b with
  | .error e => return ⟨shown, some (.refusal (.storage e))⟩
  | .ok accounts =>
    let shown := shown ++ [balanceGrid accounts]
    match ← (Application.onStep (Store.close b)).run with
    | .error reason => return ⟨shown, some (.refusal reason)⟩
    | .ok () => return ⟨shown, none⟩

/-- Runs a session. -/
def run (genesis : List GenesisAccount) (input : Input) : StateM (Application S) Transcript := do
  match ← (start b genesis).run with
  | .error reason => return ⟨[], some (.refusal reason)⟩
  | .ok () =>
    match ← deliverInput b input with
    | none => return ⟨[], some .input⟩
    | some deliveries => finish b (shownResults input deliveries)

end Clearinghouse.Session
