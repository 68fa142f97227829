/-
# A medium for rehearsals

A table that outlives its stores, keeps a log of the changes it was handed, and
can be told to fail one call of any kind. A call that fails changes nothing.
-/

import Clearinghouse.Fault
import Clearinghouse.Medium.Table

namespace Clearinghouse.Recording

/-- The calls that a medium receives. -/
inductive Call
  | connect
  | disconnect
  | load
  | loadAll
  | flush
  deriving DecidableEq, Repr, Inhabited

/-- The name of a call. -/
def Call.name : Call → String
  | connect => "open"
  | disconnect => "close"
  | load => "load"
  | loadAll => "load_all"
  | flush => "flush"

/-- The state of the medium. -/
structure State where
  table : Table
  /-- The changes of every successful flush, oldest first. -/
  log : List (List Change)
  fault : Option (Fault Call Unit)

/-- An empty medium. -/
def State.empty : State := ⟨∅, [], none⟩

/-- Fails if the armed failure says so. -/
def meet (call : Call) : Step State Unit := do
  let state ← get
  let (effect, fault) := Fault.meet call state.fault
  set { state with fault }
  if effect.isSome then
    throw (.medium call.name "injected failure")

/-- The medium of a rehearsal. -/
def backend : Backend State where
  name := "recording"
  guarantee := .atomic
  connect := meet .connect
  disconnect := meet .disconnect
  load id := do
    meet .load
    return (← get).table.account? id
  loadAll := do
    meet .loadAll
    return (← get).table.accounts
  flush changes := do
    meet .flush
    modify fun state => { state with
      table := state.table.recordAll changes
      log := state.log ++ [changes] }

end Clearinghouse.Recording
