/-
# A failed batch leaves nothing behind

The media that stores are used with all tell the truth about what they hold, as long as batches
are atomic on the disks of those that have one. So over each of them, and with calls failing at
any moment, a batch that is rejected has changed nothing, unless it says that a commit landed in
part. On a disk that takes in a batch and then fails to make it durable the rejected batch has
changed everything it meant to.
-/

import Clearinghouse.Proofs.Batch.Failure
import Clearinghouse.Proofs.Cache.Backend
import Clearinghouse.Proofs.Ledger.Settling
import Clearinghouse.Proofs.Medium.KeyStore
import Clearinghouse.Proofs.Medium.Memory
import Clearinghouse.Proofs.Medium.Recording
import Clearinghouse.Proofs.Medium.RowStore
import Clearinghouse.Proofs.Store.Wrapping

namespace Clearinghouse

/-! ## Calls that fail on a schedule -/

/-- Failures on a schedule: for each call to come, the failure it meets, if any. -/
abbrev Outages := List (Option StoreError)

/-- Runs a call of a medium unless it meets a failure first. -/
def Outages.guard {S α : Type} (act : Step S α) : Step (S × Outages) α := fun (m, outages) =>
  match outages with
  | some e :: later => (.error e, (m, later))
  | none :: later => ((act m).1, ((act m).2, later))
  | [] => ((act m).1, ((act m).2, []))

/-- Runs a call of a medium, and reports the failure that it meets afterwards, if any. -/
def Outages.overrule {S α : Type} (act : Step S α) : Step (S × Outages) α := fun (m, outages) =>
  match outages with
  | some e :: later => (.error e, ((act m).2, later))
  | none :: later => ((act m).1, ((act m).2, later))
  | [] => ((act m).1, ((act m).2, []))

/-- A medium whose calls fail on a schedule. It is let go of in any case. -/
def Backend.withOutages {S : Type} (b : Backend S) : Backend (S × Outages) where
  name := b.name
  guarantee := b.guarantee
  connect := Outages.guard b.connect
  disconnect := Outages.overrule b.disconnect
  load id := Outages.guard (b.load id)
  loadAll := Outages.guard b.loadAll
  flush changes := Outages.guard (b.flush changes)

theorem Outages.guard_handedOn {S α : Type} (act : Step S α) (m : S × Outages) :
    Backend.HandedOn Prod.fst m (Outages.guard act m) (act m.1) := by
  obtain ⟨m, outages⟩ := m
  cases outages with
  | nil => exact .inl ⟨rfl, rfl⟩
  | cons outage later =>
      cases outage with
      | none => exact .inl ⟨rfl, rfl⟩
      | some e => exact .inr ⟨⟨e, rfl⟩, rfl⟩

theorem Outages.overrule_state {S α : Type} (act : Step S α) (m : S × Outages) :
    (Outages.overrule act m).2.1 = (act m.1).2 := by
  obtain ⟨m, outages⟩ := m
  cases outages with
  | nil => rfl
  | cons outage later => cases outage <;> rfl

theorem Backend.withOutages_wraps {S : Type} (b : Backend S) : b.withOutages.Wraps b Prod.fst where
  connect m := (Outages.guard_handedOn b.connect m).state
  disconnect m := .inl (Outages.overrule_state b.disconnect m)
  load id m := Outages.guard_handedOn (b.load id) m
  loadAll m := Outages.guard_handedOn b.loadAll m
  flush changes m := .inl (Outages.guard_handedOn (b.flush changes) m)

/-! ## Disks that fail -/

namespace KeyStore

variable {D : Type} {disk : Disk D}

/-- A tree on a disk that may fail is a tree on a disk that does not, behind failures. -/
theorem backendOn_wraps (disk : Disk D) : (backendOn disk).Wraps backend Prod.fst where
  connect _ := .inl rfl
  disconnect m := by rw [backendOn_disconnect_state, backend_disconnect]; exact .inl rfl
  load _ _ := .inl ⟨rfl, rfl⟩
  loadAll _ := .inl ⟨rfl, rfl⟩
  flush changes m := by
    rw [backend_flush]
    obtain ⟨e, hrun⟩ | hrun := tree_cases m.1
    · rw [backendOn_flush_of_error hrun, Run.bind_of_error hrun]
      exact .inl (.inl ⟨rfl, rfl⟩)
    · rw [backendOn_flush_of_ok hrun, Run.bind_of_ok hrun]
      rcases disk.write m.2 with ⟨taken, later⟩
      cases taken with
      | error text => exact .inl (.inr ⟨⟨_, rfl⟩, rfl⟩)
      | ok =>
          dsimp only
          cases (disk.sync later).1 with
          | error text => exact .inr ⟨⟨_, rfl⟩, rfl, rfl⟩
          | ok => exact .inl (.inl ⟨rfl, rfl⟩)

/-- A flush that fails has changed no file, or it has put the whole batch into the tree. -/
theorem backendOn_flush_failed {changes : List Change} {m m' : State × D} {e : StoreError}
    (failed : (backendOn disk).flush changes m = (.error e, m')) :
    m'.1 = m.1 ∨ m'.1 = (put (changes.foldl record (treeOf m.1)) m.1).2 := by
  have hstate := (backendOn_wraps disk).flush_state changes m
  rw [failed] at hstate
  obtain hwritten | hkept := hstate
  · obtain ⟨e, hrun⟩ | hrun := flush_cases changes m.1
    · exact .inl (hwritten.trans (congrArg Prod.snd hrun))
    · exact .inr (hwritten.trans (congrArg Prod.snd hrun))
  · exact .inl hkept

end KeyStore

/-- The media that stores are used with. -/
inductive Adapter : Type 1
  | recording
  | memory
  /-- A tree of keys on a disk that may fail in any way. -/
  | keyStore {D : Type} (disk : KeyStore.Disk D)
  | rowStore
  /-- A cache in the same process. -/
  | cache
  /-- A ledger in the same process, behind a wrapper that interferes. -/
  | ledger
  /-- A ledger of the store's own. -/
  | simulation
  /-- Any of them, with calls that fail on a schedule. -/
  | withOutages (inner : Adapter)

namespace Adapter

/-- The states of a medium. -/
def State : Adapter → Type
  | recording => Recording.State
  | memory => Table
  | @keyStore D _ => KeyStore.State × D
  | rowStore => RowStore.State
  | cache => Cache.State Unit Cache.InProcess
  | ledger => Ledger.State (Ledger.Guarded Ledger.Book)
  | simulation => Ledger.State Ledger.Book
  | withOutages inner => inner.State × Outages

/-- What a medium holds of accounts. -/
def Content : Adapter → Type
  | recording => Table × List (List Change)
  | memory => Table
  | keyStore _ => Files
  | rowStore => Table × Files
  | cache => Std.ExtTreeMap String String
  | ledger | simulation =>
    Std.ExtTreeMap Ledger.AccountNumber Ledger.LedgerAccount ×
      Std.ExtTreeSet Ledger.TransferNumber
  | withOutages inner => inner.Content

def backend : (adapter : Adapter) → Backend adapter.State
  | recording => Recording.backend
  | memory => Memory.backend
  | keyStore disk => KeyStore.backendOn disk
  | rowStore => RowStore.backend
  | cache => Cache.backend Cache.InProcess.client
  | ledger => Ledger.backend (Ledger.Guarded.service Ledger.Book.service)
  | simulation => Ledger.backend Ledger.Book.service
  | withOutages inner => inner.backend.withOutages

/-- The accounts of a table with the log of its changes, the files, the rows in
memory with the files, the entries of a cache, or the accounts and transfers of a
ledger. -/
def content : (adapter : Adapter) → adapter.State → adapter.Content
  | recording => fun m => (m.table, m.log)
  | memory => id
  | keyStore _ => fun m => m.1.2
  | rowStore => fun m => (m.1.rows, m.2)
  | cache => fun m => m.2.entries
  | ledger => fun m => m.2.ledger.content
  | simulation => fun m => m.2.content
  | withOutages inner => fun m => inner.content m.1

/-- Batches are atomic, where there is a disk below the medium. -/
def BatchesAtomic : Adapter → Prop
  | keyStore disk => disk.Atomic
  | withOutages inner => inner.BatchesAtomic
  | recording | memory | rowStore | cache | ledger | simulation => True

/-- The medium is left as a whole batch leaves it, though its flush was reported as failed. -/
def Landed : (adapter : Adapter) → List Change → adapter.State → adapter.State → Prop
  | keyStore _ => fun changes m m' =>
    m'.1 = (KeyStore.put (changes.foldl KeyStore.record (KeyStore.treeOf m.1)) m.1).2
  | withOutages inner => fun changes m m' => inner.Landed changes m.1 m'.1
  | recording | memory | rowStore | cache | ledger | simulation => fun _ _ _ => False

theorem candid (adapter : Adapter) (atomic : adapter.BatchesAtomic) :
    adapter.backend.Candid adapter.content := by
  induction adapter with
  | recording => exact Recording.backend_candid
  | memory => exact Memory.backend_candid
  | keyStore disk => exact (KeyStore.backendOn_candid atomic).map Prod.snd
  | rowStore => exact RowStore.backend_candid
  | cache =>
      exact Cache.backend_candid (content cache) fun connection key state => by
        rw [Cache.InProcess.client_get_same]
  | ledger =>
      exact Ledger.backend_candid (Ledger.Guarded.service_candid Ledger.Book.service_candid)
  | simulation => exact Ledger.backend_candid Ledger.Book.service_candid
  | withOutages inner ih =>
      exact inner.backend.withOutages_wraps.candid (ih atomic) fun changes m =>
        Outages.guard_handedOn (inner.backend.flush changes) m

theorem load_content (adapter : Adapter) (id : AccountId) (m : adapter.State) :
    adapter.content (adapter.backend.load id m).2 = adapter.content m := by
  have hcandid : adapter.BatchesAtomic →
      adapter.content (adapter.backend.load id m).2 = adapter.content m :=
    fun atomic => (adapter.candid atomic).load_content id m
  induction adapter with
  | keyStore disk => exact congrArg Prod.snd (KeyStore.backendOn_load_kept disk id m)
  | withOutages inner ih =>
      have hinner := ih m.1 fun atomic => (inner.candid atomic).load_content id m.1
      exact (inner.backend.withOutages_wraps.load id m).kept hinner
  | recording | memory | rowStore | cache | ledger | simulation => exact hcandid trivial

/-- A flush that fails without word of a partial commit has changed nothing, or the whole batch
has landed. -/
theorem flush_failed (adapter : Adapter) {changes : List Change} {m m' : adapter.State}
    {e : StoreError} (failed : adapter.backend.flush changes m = (.error e, m'))
    (whole : ¬ e.IsPartialCommit) :
    adapter.content m' = adapter.content m ∨ adapter.Landed changes m m' := by
  have hcandid : adapter.BatchesAtomic → adapter.content m' = adapter.content m := by
    intro atomic
    have hkept := (adapter.candid atomic).flush_content (congrArg Prod.fst failed) whole
    rwa [failed] at hkept
  induction adapter with
  | keyStore disk => exact (KeyStore.backendOn_flush_failed failed).imp_left (congrArg Prod.snd)
  | withOutages inner ih =>
      have hhanded := Outages.guard_handedOn (inner.backend.flush changes) m
      rw [show Outages.guard (inner.backend.flush changes) m = (.error e, m') from failed] at hhanded
      obtain ⟨hanswer, hstate⟩ | ⟨-, hstate⟩ := hhanded
      · exact ih (Prod.ext hanswer.symm hstate.symm) hcandid
      · exact .inl (congrArg inner.content hstate)
  | recording | memory | rowStore | cache | ledger | simulation => exact .inl (hcandid trivial)

/-- Reading beforehand makes no difference to what lands. -/
theorem Landed.of_onlyRead {adapter : Adapter} {changes : List Change} {m m' m'' : adapter.State}
    (read : adapter.backend.OnlyRead m m') (landed : adapter.Landed changes m' m'') :
    adapter.Landed changes m m'' := by
  induction adapter with
  | keyStore disk =>
      have hread : (KeyStore.backendOn disk).OnlyRead m m' := read
      have hsame : m'.1 = m.1 := hread.eq_of_load (KeyStore.backendOn_load_kept disk)
      rw [Landed] at landed ⊢
      rwa [hsame] at landed
  | withOutages inner ih => exact ih (inner.backend.withOutages_wraps.onlyRead read) landed
  | recording | memory | rowStore | cache | ledger | simulation => exact landed.elim

/-- What an account of a medium holds; nothing if it does not exist or cannot be read. On
a ledger these are its credits less its debits. -/
def total : (adapter : Adapter) → adapter.State → AccountId → Int
  | recording => fun m => m.table.total
  | memory => Table.total
  | keyStore _ => fun m => KeyStore.total (KeyStore.treeOf m.1)
  | rowStore => fun m => (RowStore.table m).total
  | cache => fun m => Cache.InProcess.total m.1.settings m.2.entries
  | ledger => fun m => m.2.ledger.total
  | simulation => fun m => m.2.total
  | withOutages inner => fun m => inner.total m.1

theorem settles (adapter : Adapter) : adapter.backend.Settles adapter.total := by
  induction adapter with
  | recording => exact Recording.backend_settles
  | memory => exact Memory.backend_settles
  | keyStore disk => exact (KeyStore.backendOn_wraps disk).settles KeyStore.backend_settles
  | rowStore => exact RowStore.backend_settles
  | cache => exact Cache.InProcess.backend_settles
  | ledger => exact Ledger.backend_settles Ledger.Guarded.ledger_keeps
  | simulation => exact Ledger.backend_settles Ledger.Book.service_keeps
  | withOutages inner ih => exact inner.backend.withOutages_wraps.settles ih

end Adapter

namespace Batch

-- A disk that takes in a batch and cannot make it durable: a rejected transfer has happened.
example :
    let op : Operation := ⟨1, 2, 3, (1 :: List.replicate 31 0) ++ List.replicate 32 0⟩
    let keys : KeyRegistry := (∅ : KeyRegistry).insert 1
      ⟨1 :: List.replicate 31 0, Signature.Point.zero⟩
    let disk : KeyStore.Disk Unit := ⟨pure (), throw "disk full"⟩
    let tree : KeyTree := KeyStore.record ∅ ⟨1, none, 10⟩
    let state : KeyStore.State :=
      (⟨"accounts", true⟩, (∅ : Files).insert (Path.parse "accounts") (.keys tree true))
    let run := process (Adapter.keyStore disk).backend keys .allOrNothing ⟨[op]⟩
      ⟨(state, ()), true, none⟩
    run.1 = .rejected ⟨none, .storage (.medium "failed to flush accounts tree" "disk full")⟩ ∧
      KeyStore.total (KeyStore.treeOf run.2.medium.1) 1 = 7 ∧
      KeyStore.total (KeyStore.treeOf run.2.medium.1) 2 = 3 := by
  decide +kernel

end Batch

end Clearinghouse
