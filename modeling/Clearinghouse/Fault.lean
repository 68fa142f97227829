/-
# Failures on demand

A fault is armed for one kind of call. It lets a number of such calls through,
makes the next one fail, and is spent. Calls of other kinds pass it by.
-/

namespace Clearinghouse

/-- An armed failure: the kind of call it waits for, how many of them it lets
through, and what it makes of the next one. -/
structure Fault (Call Effect : Type) where
  call : Call
  after : Nat
  effect : Effect
  deriving DecidableEq, Repr

/-- What an armed failure makes of a call: its effect if the call is the one to
fail, and what remains armed. -/
def Fault.meet {Call Effect : Type} [DecidableEq Call] (call : Call) :
    Option (Fault Call Effect) → Option Effect × Option (Fault Call Effect)
  | none => (none, none)
  | some fault =>
    if fault.call = call then
      match fault.after with
      | 0 => (some fault.effect, none)
      | after + 1 => (none, some { fault with after })
    else (none, some fault)

end Clearinghouse
