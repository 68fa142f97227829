/-
# What the operations of a store respect, a batch respects

A batch reads balances, moves them, and opens and ends one transaction. It does nothing else
to a store, so a relation that these operations respect is respected by the batch as a whole,
and by a check that only reads.
-/

import Clearinghouse.Proofs.Batch.Phases
import Clearinghouse.Proofs.Store.Calls

namespace Clearinghouse.Batch

/-- What a batch does to a store goes along a relation between stores. -/
structure Working {S : Type} (b : Backend S) (R : Store S → Store S → Prop) : Prop
    extends Store.Reading b R where
  update : ∀ id delta, Run.Along R (Store.update b id delta)
  begin : Run.Along R (Store.begin : Step (Store S) Unit)
  commit : Run.Along R (Store.commit b)
  rollback : Run.Along R (Store.rollback : Step (Store S) Unit)

variable {S : Type} {b : Backend S} {keys : KeyRegistry} {policy : Policy}
  {R : Store S → Store S → Prop} [IsPreorder (Store S) R]

theorem ensureNoTransaction_along : Run.Along R (ensureNoTransaction : Phase (Store S) Unit) := by
  intro s
  rw [ensureNoTransaction, Run.get_bind_apply]
  split <;> exact Std.Refl.refl s

theorem decided_along {ε α : Type} (decision : Except ε α) :
    Run.Along R (decided decision : ExceptT ε (StateM (Store S)) α) := fun s => Std.Refl.refl s

/-! ## Checking -/

omit [IsPreorder (Store S) R] in
theorem spendable_along {id : AccountId} (reads : Run.Along R (Store.getBalance b id)) :
    Run.Along R (spendable b id) := by
  intro s
  have hread := reads s
  unfold spendable
  split <;> next hrun => rwa [hrun] at hread

theorem checkOperation_along {op : Operation}
    (reads : Run.Along R (Store.getBalance b op.sender)) :
    Run.Along R (checkOperation b keys op) := by
  refine (decided_along _).bind fun _ => ?_
  cases keys[op.sender]? with
  | none => exact Run.Along.throw _
  | some key =>
      have hmeasured : Run.Along R (spendable b op.sender >>= fun balance =>
          if balance < op.amount then throw (.insufficientBalance balance op.amount)
          else pure ()) := by
        refine (spendable_along reads).bind fun balance => ?_
        split
        · exact Run.Along.throw _
        · exact Run.Along.pure _
      dsimp only
      split
      · exact hmeasured
      · exact (Run.Along.throw _).bind fun _ => hmeasured

theorem checkFrom_along {ops : List Operation}
    (reads : ∀ op ∈ ops, Run.Along R (Store.getBalance b op.sender)) (index : Nat) :
    Run.Along R (checkFrom b keys index ops) := by
  induction ops generalizing index with
  | nil => exact Run.Along.pure _
  | cons op ops ih =>
      have hfirst : Run.Along R
          (ExceptT.adapt (Rejection.ofOperation index) (checkOperation b keys op)) :=
        checkOperation_along (reads op List.mem_cons_self)
      exact hfirst.bind fun _ => ih (fun later hmem => reads later (List.mem_cons_of_mem op hmem)) _

/-- A check only reads the balances of the senders. -/
theorem check_along {tx : Transaction}
    (reads : ∀ op ∈ tx.operations, Run.Along R (Store.getBalance b op.sender)) :
    Run.Along R (check b keys tx) :=
  ensureNoTransaction_along.bind fun _ => (decided_along _).bind fun _ => checkFrom_along reads 0

theorem screen_along {ops : List Operation}
    (reads : ∀ op ∈ ops, Run.Along R (Store.getBalance b op.sender)) (index : Nat) :
    Run.Along R (screen b keys policy index ops) := by
  induction ops generalizing index with
  | nil => exact Run.Along.pure _
  | cons op ops ih =>
      have hrest := ih fun later hmem => reads later (List.mem_cons_of_mem op hmem)
      have hfirst : Run.Along R (attempt (checkOperation b keys op)) :=
        (checkOperation_along (reads op List.mem_cons_self)).lift
      refine hfirst.bind fun answer => ?_
      cases answer with
      | ok => exact (hrest (index + 1)).bind fun _ => Run.Along.pure _
      | error reason =>
          dsimp only
          split
          · exact (hrest (index + 1)).bind fun _ => Run.Along.pure _
          · exact Run.Along.throw _

/-! ## Processing -/

section

variable (working : Working b R)
include working

theorem apply_along (op : Operation) : Run.Along R (apply b op) := by
  refine (working.update _ _).bind fun _ => (working.update _ _).lift.bind fun answer => ?_
  cases answer with
  | ok => exact Run.Along.pure _
  | error e => exact (working.update _ _).bind fun _ => Run.Along.throw _

theorem applyAll_along (ops : List (Nat × Operation)) : Run.Along R (applyAll b policy ops) := by
  induction ops with
  | nil => exact Run.Along.pure _
  | cons entry ops ih =>
      have hfirst : Run.Along R (attempt (Check.ofStep (apply b entry.2))) :=
        apply_along working entry.2
      have hends : Run.Along R (attempt (Check.ofStep (Store.rollback : Step (Store S) Unit))) :=
        working.rollback
      refine hfirst.bind fun answer => ?_
      cases answer with
      | ok => exact ih.bind fun _ => Run.Along.pure _
      | error reason =>
          dsimp only
          split
          · exact ih.bind fun _ => Run.Along.pure _
          · exact hends.bind fun _ => Run.Along.throw _

theorem run_along (tx : Transaction) : Run.Along R (run b keys policy tx) := by
  have hbegins : Run.Along R (wholly (Check.ofStep (Store.begin : Step (Store S) Unit))) :=
    working.begin
  have hcommits : Run.Along R (wholly (Check.ofStep (Store.commit b))) := working.commit
  refine ensureNoTransaction_along.bind fun _ => ?_
  have hworks : Run.Along R (screen b keys policy 0 tx.operations >>= fun found =>
      wholly (Check.ofStep Store.begin) >>= fun _ => applyAll b policy found.1 >>= fun result =>
        wholly (Check.ofStep (Store.commit b)) >>= fun _ =>
          pure (result.1, found.2 ++ result.2)) :=
    (screen_along (fun op _ => working.getBalance_along op.sender) 0).bind fun found => hbegins.bind fun _ =>
      (applyAll_along working found.1).bind fun _ => hcommits.bind fun _ => Run.Along.pure _
  dsimp only
  split
  · exact (Run.Along.throw _).bind fun _ => hworks
  · exact hworks

/-- A batch goes along whatever reading, moving balances and transactions go along. -/
theorem process_along (tx : Transaction) (s : Store S) :
    R s (process b keys policy tx s).2 := by
  rw [process_apply]
  exact run_along working tx s

end

end Clearinghouse.Batch
