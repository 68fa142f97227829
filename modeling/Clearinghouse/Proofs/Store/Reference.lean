/-
# The store that a store should be

The reference is a table of committed accounts and, inside a transaction, a full
working copy of it. The copy is made when the transaction begins, takes the place
of the table when it commits, and is dropped otherwise. The rules for balances
are stated on tables, with exact sums. Nothing here is staged, observed or
loaded; a store over a medium is compared with the reference operation by
operation.
-/

import Clearinghouse.Proofs.Store.Media

namespace Clearinghouse

/-- An operation of the account contract. -/
inductive Store.Op
  | start
  | close
  | create (id : AccountId) (balance : Balance)
  | contains (id : AccountId)
  | getAccount (id : AccountId)
  | getBalance (id : AccountId)
  | update (id : AccountId) (delta : Balance)
  | accounts
  | begin
  | commit
  | rollback
  deriving DecidableEq, Repr

/-- What an operation that succeeds answers. -/
inductive Store.Answer
  | done
  | flag (holds : Bool)
  | account (account : Account)
  | balance (balance : Balance)
  | accounts (accounts : List Account)
  deriving DecidableEq, Repr

/-- Runs an operation of a store. -/
def Store.perform {S : Type} (b : Backend S) : Store.Op → Step (Store S) Store.Answer
  | .start => (fun _ => .done) <$> Store.start b
  | .close => (fun _ => .done) <$> Store.close b
  | .create id balance => (fun _ => .done) <$> Store.create b id balance
  | .contains id => .flag <$> Store.contains b id
  | .getAccount id => .account <$> Store.getAccount b id
  | .getBalance id => .balance <$> Store.getBalance b id
  | .update id delta => (fun _ => .done) <$> Store.update b id delta
  | .accounts => .accounts <$> Store.accounts b
  | .begin => (fun _ => .done) <$> Store.begin
  | .commit => (fun _ => .done) <$> Store.commit b
  | .rollback => (fun _ => .done) <$> Store.rollback

namespace Table

/-! ## Operations on a table -/

/-- A new account may have any balance. -/
def create (id : AccountId) (balance : Balance) : Step Table Unit := fun table =>
  if table[id]?.isSome then (.error (.accountAlreadyExists id), table)
  else (.ok (), table.insert id balance)

/-- The account under an identifier, which must exist. -/
def find (id : AccountId) : Step Table Account := fun table =>
  match table[id]? with
  | some balance => (.ok ⟨id, balance⟩, table)
  | none => (.error (.accountNotFound id), table)

/-- Moves a balance by `delta`. The exact sum must be a balance, and must not be
negative. A positive movement creates an account that does not exist. -/
def move (id : AccountId) (delta : Balance) : Step Table Unit := fun table =>
  match table[id]? with
  | none =>
    if 0 < delta then (.ok (), table.insert id delta)
    else (.error (.accountNotFound id), table)
  | some balance =>
    let sum := balance.toInt + delta.toInt
    if ¬ Balance.InRange sum then (.error (.balanceOverflow id), table)
    else if sum < 0 then (.error (.insufficientBalance id balance delta), table)
    else (.ok (), table.insert id (Int64.ofInt sum))

end Table

/-- The state of the reference. -/
inductive Reference
  | closed
  /-- The committed accounts, and the working copy of an open transaction. -/
  | opened (committed : Table) (working : Option Table)

namespace Reference

open Store

/-- The reference after what it shows has become `seen`: the working copy, or
else the committed table. -/
def put (seen : Table) : Reference → Reference
  | closed => closed
  | opened _ none => opened seen none
  | opened committed (some _) => opened committed (some seen)

/-- Runs an operation on the working copy, or else on the committed table. -/
def onSeen {α : Type} (act : Step Table α) : Step Reference α
  | closed => (.error .notInitialized, closed)
  | opened committed working =>
    let (answer, seen) := act (working.getD committed)
    (answer, put seen (opened committed working))

/-- What the reference answers to an operation, and what becomes of it. Opening
finds the table that is given. -/
def perform (found : Table) : Op → Step Reference Answer
  | .start => fun
    | closed => (.ok .done, opened found none)
    | r => (.error .alreadyInitialized, r)
  | .close => fun
    | closed => (.error .notInitialized, closed)
    | opened _ _ => (.ok .done, closed)
  | .create id balance => (fun _ => .done) <$> onSeen (Table.create id balance)
  | .contains id => .flag <$> onSeen fun table => (.ok table[id]?.isSome, table)
  | .getAccount id => .account <$> onSeen (Table.find id)
  | .getBalance id => (.balance ·.balance) <$> onSeen (Table.find id)
  | .update id delta => (fun _ => .done) <$> onSeen (Table.move id delta)
  | .accounts => .accounts <$> onSeen fun table => (.ok table.accounts, table)
  | .begin => fun
    | closed => (.error .notInitialized, closed)
    | opened committed none => (.ok .done, opened committed (some committed))
    | r => (.error .transactionAlreadyOpen, r)
  | .commit => fun
    | closed => (.error .notInitialized, closed)
    | opened committed working => (.ok .done, opened (working.getD committed) none)
  | .rollback => fun
    | closed => (.error .notInitialized, closed)
    | opened committed _ => (.ok .done, opened committed none)

/-- What becomes of the reference when a call of the medium fails. Closing and
committing end what they end; anything else has no effect. -/
def interrupt : Op → Reference → Reference
  | .close, _ => closed
  | .commit, opened committed _ => opened committed none
  | _, r => r

end Reference

namespace Store

variable {S : Type}

/-- Reading an account and then writing it fails: the load does, or the flush of
one change after it. -/
def WriteFails (b : Backend S) (id : AccountId) (m : S) (e : StoreError) : Prop :=
  (b.load id m).1 = .error e ∨
    ∃ change : Change, change.id = id ∧ (b.flush [change] (b.load id m).2).1 = .error e

/-- A call that an operation makes of the medium fails for this reason. Beginning
and rolling back ask the medium for nothing. -/
def Interrupts (b : Backend S) (m : S) (e : StoreError) : Op → Prop
  | .start => (b.connect m).1 = .error e
  | .close => (b.disconnect m).1 = .error e
  | .contains id | .getAccount id | .getBalance id => (b.load id m).1 = .error e
  | .create id _ | .update id _ => WriteFails b id m e
  | .accounts => (b.loadAll m).1 = .error e
  | .commit => ∃ changes, changes ≠ [] ∧ (b.flush changes m).1 = .error e
  | .begin | .rollback => False

/-- The reference that a store stands for, given the table of its medium. -/
def reference (table : S → Table) (s : Store S) : Reference :=
  if s.initialized then
    .opened (table s.medium) (s.staging.map (·.onto (table s.medium)))
  else .closed

/-- A store runs beside the reference over operations. Before each of them it
stands for the state that the reference is in. Then either it answers as the
reference does, or it reports the failure of a call that the operation made of
the medium, and the reference is interrupted. A list of accounts ascends. -/
def RunsBeside (b : Backend S) (table : S → Table) : List Op → Store S → Reference → Prop
  | [], s, r => s.reference table = r
  | op :: ops, s, r =>
    let answer := (perform b op s).1
    let s' := (perform b op s).2
    let expected := Reference.perform (table s'.medium) op r
    s.reference table = r ∧
    (∀ accounts, answer = .ok (.accounts accounts) →
      accounts.Pairwise fun first later => first.id < later.id) ∧
    (answer = expected.1 ∧ RunsBeside b table ops s' expected.2 ∨
      ∃ e, Interrupts b s.medium e op ∧ answer = .error e ∧
        RunsBeside b table ops s' (r.interrupt op))

end Store

end Clearinghouse
