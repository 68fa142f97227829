/-
# What a storage medium has to offer

A medium knows how to read committed accounts and how to make a list of changes
durable. It knows nothing of transactions, life cycles or balance rules: those
are the store's (`Clearinghouse.Store.Basic`), and are the same for every
medium. A medium is a record of steps on a state of its own type, so a medium
shared by several stores, or one that fails on demand, is an ordinary value.
-/

import Clearinghouse.Store.Error

namespace Clearinghouse

/-- One account write handed to a medium. -/
structure Change where
  id : AccountId
  /-- The committed balance when the change was staged; `none` when the change
  creates the account. -/
  observed : Option Balance
  balance : Balance
  deriving DecidableEq, Repr, Inhabited

/-- The balance the change starts from, where a new account starts from zero. -/
def Change.base (c : Change) : Int :=
  match c.observed with
  | some balance => balance.toInt
  | none => 0

/-- The exact movement against what was observed. A negative seed followed by
large credits moves further than a balance can hold, so this is an integer. -/
def Change.delta (c : Change) : Int := c.balance.toInt - c.base

/-- The change brings a new account into being. -/
def Change.isCreation (c : Change) : Bool := c.observed.isNone

/-- What a commit promises about the medium. -/
inductive Guarantee
  /-- Every staged change lands or none does. -/
  | atomic
  /-- Changes land one after the other, and a failure part way leaves those
  that landed. -/
  | bestEffort
  deriving DecidableEq, Repr, Inhabited

/-- A storage medium over states of type `S`. -/
structure Backend (S : Type) where
  name : String
  guarantee : Guarantee
  /-- Takes hold of the medium before the first read. -/
  connect : Step S Unit
  /-- Lets go of the medium. -/
  disconnect : Step S Unit
  /-- The committed account under an identifier. -/
  load : AccountId → Step S (Option Account)
  /-- Every committed account that the medium can list. -/
  loadAll : Step S (List Account)
  /-- Makes changes durable; they come in ascending order of identifier. -/
  flush : List Change → Step S Unit

/-- A medium whose state is a part of a larger one. -/
def Backend.onPart {S T : Type} (get : S → T) (set : T → S → S) (b : Backend T) : Backend S where
  name := b.name
  guarantee := b.guarantee
  connect := Step.onPart get set b.connect
  disconnect := Step.onPart get set b.disconnect
  load id := Step.onPart get set (b.load id)
  loadAll := Step.onPart get set b.loadAll
  flush changes := Step.onPart get set (b.flush changes)

end Clearinghouse
