/-
# A batch, and its operations one by one

A batch of which every part counts is checked against what accounts held before it, while
operations that are processed one by one are each checked against what those before them left. So
a batch could pass where a single operation would be refused. It cannot commit there: to be
applied is to find the amount with the sender at that point, which is all that the later check
asks for. Processed one by one, the operations of a batch that commits all commit, and the accounts
come to the same.
-/

import Clearinghouse.Proofs.Batch.Along
import Clearinghouse.Proofs.Batch.SkipFailed

namespace Clearinghouse

namespace Store

variable {S α : Type} {b : Backend S} {sound : S → Prop} {table : S → Table}

/-- The store is open over a sound medium, and its transaction, if there is one, is faithful to
the medium. -/
def InService (sound : S → Prop) (table : S → Table) (s : Store S) : Prop :=
  s.initialized = true ∧ s.Coherent sound table

theorem Reaches.inService {s s' : Store S} {seen : Table} (reached : Reaches sound table s seen s')
    (opened : s.initialized = true) : s'.InService sound table :=
  ⟨reached.initialized.trans opened, reached.coherent⟩

/-- However an operation ends, it came to show something. -/
theorem Ends.inService {s : Store S} {rule : Except StoreError α × Table}
    {failure : StoreError → Prop} {run : Except StoreError α × Store S}
    (ends : Ends sound table s rule failure run) (opened : s.initialized = true) :
    run.2.InService sound table := by
  cases ends with
  | done reached => exact reached.inService opened
  | failed why reached => exact reached.inService opened

/-- Nothing that a batch does to a store takes it out of service. -/
theorem working_inService (shows : b.Shows sound table) (books : b.Books sound table) :
    Batch.Working b (Run.Preserved (InService sound table)) where
  ready := ensureInitialized_along
  load id s := fun ⟨opened, coherent⟩ => (coherent.reaches_loaded shows id).inService opened
  loadAll s := fun ⟨opened, coherent⟩ =>
    (coherent.reaches_medium (shows.loadAll_sound coherent.medium)
      (shows.loadAll_table coherent.medium)).inService opened
  peek id s := fun ⟨opened, coherent⟩ => (peek_ends shows coherent id).inService opened
  observe id s := fun ⟨opened, coherent⟩ => (observe_ends shows coherent id).inService opened
  update id delta s := fun ⟨opened, coherent⟩ =>
    (update_ends shows books coherent opened id delta).inService opened
  begin s := by
    rintro ⟨opened, coherent⟩
    cases hstaging : s.staging with
    | none =>
        rw [begin_of_idle opened hstaging]
        exact ⟨opened, coherent.begun⟩
    | some staging =>
        have htransaction : s.inTransaction = true := by simp [inTransaction, hstaging]
        rw [begin_of_transaction opened htransaction]
        exact ⟨opened, coherent⟩
  commit s := fun ⟨opened, coherent⟩ => (commit_ends books coherent opened).inService opened
  rollback s := by
    rintro ⟨opened, coherent⟩
    rw [rollback_apply opened]
    exact ⟨opened, coherent.dropped⟩

end Store

/-- An operation that may pass on some holdings and is carried out on others passes on these as
well: what carries it out is that the sender has the amount. -/
theorem Eligible.of_carries {keys : KeyRegistry} {h now : Holdings} {op : Operation}
    (eligible : Eligible keys h op) (carries : now.Carries op) : Eligible keys now op where
  sender := eligible.sender
  receiver := eligible.receiver
  amount := eligible.amount
  signature := eligible.signature
  signed := eligible.signed
  covered := Int.le_of_sub_nonneg carries.debit.1

namespace Batch

variable {S : Type} {b : Backend S} {sound : S → Prop} {table : S → Table} {keys : KeyRegistry}
  {policy : Policy} {s : Store S} {tx : Transaction}

/-- Processes batches one after the other. -/
def processEach (b : Backend S) (keys : KeyRegistry) (policy : Policy) :
    List Transaction → StateM (Store S) (List Outcome)
  | [] => return []
  | tx :: rest => do
    let outcome ← process b keys policy tx
    return outcome :: (← processEach b keys policy rest)

/-- The operations of a batch as batches of their own. -/
def singles (ops : List Operation) : List Transaction := ops.map fun op => ⟨[op]⟩

theorem processEach_cons (tx : Transaction) (rest : List Transaction) (s : Store S) :
    processEach b keys policy (tx :: rest) s =
      ((process b keys policy tx s).1 ::
          (processEach b keys policy rest (process b keys policy tx s).2).1,
        (processEach b keys policy rest (process b keys policy tx s).2).2) := rfl

/-- A batch that commits has operations, and its store was open. -/
theorem opened_of_committed (idle : s.staging = none)
    (committed : (process b keys policy tx s).1.isCommitted = true) :
    s.initialized = true ∧ tx.operations ≠ [] := by
  rw [process_apply] at committed
  obtain ⟨rejection, s', hrun, -⟩ | ⟨found, s₁, result, mid, -, hreads, hopened, -⟩ :=
    run_cases b keys policy idle tx
  · rw [hrun] at committed
    cases committed
  · refine ⟨hreads.initialized.symm.trans hopened, fun hempty => ?_⟩
    rw [run_of_empty idle hempty] at committed
    cases committed

/-- Operations that could pass on some holdings, and are carried out in order on what a store has,
all commit as batches of their own. -/
theorem processEach_of_carriesAll (serves : b.Serves sound table) (policy : Policy)
    {ops : List Operation} {h : Holdings} (inService : s.InService sound table)
    (idle : s.staging = none) (eligible : ∀ op ∈ ops, Eligible keys h op)
    (carries : (table s.medium).holdings.CarriesAll ops) :
    ∃ s', processEach b keys policy (singles ops) s =
        (ops.map fun _ => .committed 1 [], s') ∧ s'.staging = none ∧
      (table s'.medium).holdings = (table s.medium).holdings.transferAll ops := by
  induction ops generalizing s with
  | nil => exact ⟨s, rfl, idle, rfl⟩
  | cons op rest ih =>
      obtain ⟨hop, hrest⟩ := carries
      have hfits : Eligible keys (table s.medium).holdings op :=
        (eligible op List.mem_cons_self).of_carries hop
      have hadmits : (table s.medium).holdings.AdmitsAll keys [op] :=
        ⟨List.forall_mem_singleton.mpr hfits, hop, trivial⟩
      let single : Transaction := ⟨[op]⟩
      obtain ⟨mid, hprocess, hended, hnet⟩ : ∃ mid, process b keys policy single s =
          (.committed 1 [], mid) ∧ mid.staging = none ∧
            (table mid.medium).holdings = (table s.medium).holdings.net [op] :=
        process_of_admits serves inService.1 idle inService.2.medium (List.cons_ne_nil op []) hadmits
      have hmid : mid.InService sound table := by
        have hkept : (process b keys policy single s).2.InService sound table :=
          process_along (Store.working_inService serves.toShows serves.toBooks) single s inService
        rwa [hprocess] at hkept
      have hmoved : (table mid.medium).holdings = (table s.medium).holdings.transfer op := by
        rw [hnet, ← Holdings.transferAll_eq_net]
        rfl
      obtain ⟨s', heach, hlast, hafter⟩ := ih hmid hended
        (fun later hmem => eligible later (List.mem_cons_of_mem op hmem)) (hmoved ▸ hrest)
      refine ⟨s', ?_, hlast, ?_⟩
      · rw [singles, List.map_cons, processEach_cons, hprocess, ← singles, heach]
        rfl
      · rw [hafter, hmoved]
        rfl

/-- A batch of which every part counts accepts nothing that its operations would not be accepted
for one by one. If it commits, then processed one after the other, under either policy, every
operation commits, and the committed accounts come to be the same. -/
theorem process_one_by_one (serves : b.Serves sound table) (keys : KeyRegistry) (policy : Policy)
    (idle : s.staging = none) (ready : sound s.medium)
    (committed : (process b keys .allOrNothing tx s).1.isCommitted = true) :
    let whole := process b keys .allOrNothing tx s
    let each := processEach b keys policy (singles tx.operations) s
    each.1 = (tx.operations.map fun _ => .committed 1 []) ∧
      table each.2.medium = table whole.2.medium ∧ each.2.staging = none := by
  intro whole each
  obtain ⟨hopened, hnonempty⟩ := opened_of_committed idle committed
  by_cases hadmits : (table s.medium).holdings.AdmitsAll keys tx.operations
  · obtain ⟨last, hwhole, -, hnet⟩ :=
      process_of_admits serves hopened idle ready hnonempty hadmits
    obtain ⟨last', heach, hended, hmoved⟩ := processEach_of_carriesAll serves policy
      ⟨hopened, .of_idle ready idle⟩ idle hadmits.eligible hadmits.carries
    have hwhole : whole = (.committed tx.operations.length [], last) := hwhole
    have heach : each = (tx.operations.map fun _ => .committed 1 [], last') := heach
    rw [hwhole, heach]
    refine ⟨rfl, Table.holdings_injective ?_, hended⟩
    rw [hmoved, hnet, Holdings.transferAll_eq_net]
  · obtain ⟨index, reason, last, hrejected, -⟩ :=
      process_of_not_admits serves hopened idle ready hnonempty hadmits
    rw [hrejected] at committed
    cases committed

/-- The second account spends all it has, is paid, and spends again. The neutral point signs
everything. -/
theorem memory_one_by_one :
    let key : Signature.PublicKey := ⟨1 :: List.replicate 31 0, Signature.Point.zero⟩
    let signature : List UInt8 := (1 :: List.replicate 31 0) ++ List.replicate 32 0
    let keys : KeyRegistry := ((∅ : KeyRegistry).insert 1 key).insert 2 key
    let tx : Transaction :=
      ⟨[⟨2, 3, 4, signature⟩, ⟨1, 2, 10, signature⟩, ⟨2, 1, 4, signature⟩]⟩
    let s : Store Table := ⟨((∅ : Table).insert 1 10).insert 2 4, true, none⟩
    (processEach Memory.backend keys .allOrNothing (singles tx.operations) s).1 =
        [.committed 1 [], .committed 1 [], .committed 1 []] ∧
      (processEach Memory.backend keys .allOrNothing (singles tx.operations) s).2.medium =
        (process Memory.backend keys .allOrNothing tx s).2.medium := by
  intro key signature keys tx s
  have hcommitted : (process Memory.backend keys .allOrNothing tx s).1.isCommitted = true := by
    decide +kernel
  obtain ⟨houtcomes, hmedium, -⟩ :=
    process_one_by_one Memory.backend_serves keys .allOrNothing rfl trivial hcommitted
  exact ⟨houtcomes, hmedium⟩

end Batch

end Clearinghouse
