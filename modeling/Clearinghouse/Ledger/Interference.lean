/-
# A ledger service that fails on demand

Any service can be placed behind a wrapper that answers one request of a chosen
kind itself: the request fails, or its first item is rejected.
-/

import Clearinghouse.Fault
import Clearinghouse.Ledger.Service

namespace Clearinghouse.Ledger

/-- The requests that a service receives. -/
inductive RequestKind
  | connect
  | lookup
  | createAccounts
  | createTransfers
  deriving DecidableEq, Repr, Inhabited

/-- What an interference answers in place of the service. -/
inductive Interference
  | fail (failure : RequestFailure)
  /-- The first item is rejected for a reason. -/
  | reject (reason : String)
  deriving DecidableEq, Repr, Inhabited

/-- A ledger behind an interference that may be armed. -/
structure Guarded (L : Type) where
  ledger : L
  fault : Option (Fault RequestKind Interference)

namespace Guarded

variable {L : Type}

/-- Runs a request on the ledger behind the wrapper. -/
def inner {α : Type} (request : Request L α) : Request (Guarded L) α := fun state =>
  let (answer, ledger) := request state.ledger
  (answer, { state with ledger })

/-- Runs a request unless the armed interference answers it. A rejection of items
stands for the answer `rejection` gives, if the request has items. -/
def request {α : Type} (kind : RequestKind) (rejection : String → Option α)
    (act : Request L α) : Request (Guarded L) α := do
  let state ← get
  let (effect, fault) := Fault.meet kind state.fault
  set { state with fault }
  match effect with
  | none => inner act
  | some (.fail failure) => throw failure
  | some (.reject reason) =>
    match rejection reason with
    | some answer => return answer
    | none => inner act

/-- The service behind the wrapper. -/
def service (s : Service L) : Service (Guarded L) where
  connect := request .connect (fun _ => none) s.connect
  lookup numbers := request .lookup (fun _ => none) (s.lookup numbers)
  createAccounts accounts :=
    request .createAccounts (fun reason => some [(0, .other reason)]) (s.createAccounts accounts)
  createTransfers transfers :=
    request .createTransfers (fun reason => some [(0, .other reason)])
      (s.createTransfers transfers)
  freshNumber state := s.freshNumber state.ledger

end Guarded

end Clearinghouse.Ledger
