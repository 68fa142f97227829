/-
# What the media hold, account by account

The committed accounts of a medium, with what each of them holds. An account whose record
cannot be read counts as absent. Arming a failure, switching a cache on or off, or a disk that
begins to fail, is no business of the accounts.
-/

import Clearinghouse.Proofs.Batch.Adapters
import Clearinghouse.Proofs.Batch.Holdings

namespace Clearinghouse

/-- What the accounts of a tree hold. -/
def KeyStore.holdings (tree : KeyTree) : Holdings := fun id =>
  tree[key id]?.bind fun bytes => match decode bytes with
    | .ok account => some account.balance.toInt
    | .error _ => none

/-- What the accounts of a cache hold. -/
def Cache.InProcess.holdings (settings : Settings) (entries : Std.ExtTreeMap String String) :
    Holdings := fun id =>
  entries[settings.key id]?.bind fun text => match decode (settings.key id) text with
    | .ok account => some account.balance.toInt
    | .error _ => none

/-- What the accounts of a ledger hold: their credits less their debits. -/
def Ledger.Book.holdings (book : Book) : Holdings := fun id =>
  book.accounts[id.toNat]?.map (·.posted)

theorem Ledger.Book.holdings_congr {book other : Book} (same : book.content = other.content) :
    book.holdings = other.holdings := by
  funext id
  rw [holdings, (Prod.mk.inj same).1, holdings]

namespace Adapter

/-- What the accounts of a medium hold. -/
def holdings : (adapter : Adapter) → adapter.State → Holdings
  | recording => fun m => m.table.holdings
  | memory => Table.holdings
  | keyStore _ => fun m => KeyStore.holdings (KeyStore.treeOf m.1)
  | rowStore => fun m => (RowStore.table m).holdings
  | cache => fun m => Cache.InProcess.holdings m.1.settings m.2.entries
  | ledger => fun m => m.2.ledger.holdings
  | simulation => fun m => m.2.holdings
  | withOutages inner => fun m => inner.holdings m.1

/-- The medium is as it was, but other failures may be armed. -/
def Rearmed : (adapter : Adapter) → adapter.State → adapter.State → Prop
  | recording => fun m m' => m'.table = m.table ∧ m'.log = m.log
  | memory | rowStore => fun m m' => m' = m
  | keyStore _ => fun m m' => m'.1 = m.1
  | cache => fun m m' => m'.1 = m.1 ∧ m'.2.entries = m.2.entries
  | ledger => fun m m' => m'.1 = m.1 ∧ m'.2.ledger.content = m.2.ledger.content
  | simulation => fun m m' => m'.1 = m.1 ∧ m'.2.content = m.2.content
  | withOutages inner => fun m m' => inner.Rearmed m.1 m'.1

theorem Rearmed.holdings_eq {adapter : Adapter} {m m' : adapter.State}
    (rearmed : adapter.Rearmed m m') : adapter.holdings m' = adapter.holdings m := by
  induction adapter with
  | recording => exact congrArg Table.holdings rearmed.1
  | memory | rowStore => exact congrArg _ rearmed
  | keyStore disk => exact congrArg (fun state => KeyStore.holdings (KeyStore.treeOf state)) rearmed
  | cache =>
      obtain ⟨hhandle, hentries⟩ := rearmed
      change Cache.InProcess.holdings m'.1.settings m'.2.entries = _
      rw [hhandle, hentries]
      rfl
  | ledger => exact Ledger.Book.holdings_congr rearmed.2
  | simulation => exact Ledger.Book.holdings_congr rearmed.2
  | withOutages inner ih => exact ih rearmed

end Adapter

end Clearinghouse
