/-
# Batches side by side

A batch asks its store for balances, opens one transaction and moves amounts in it. So over
two stores that answer alike a batch is checked alike, is applied alike and has the same
outcome, whatever its operations are worth. A medium that keeps track of a table gives such a
pair of stores, and so do two media that answer every call alike.
-/

import Clearinghouse.Proofs.Batch.Phases
import Clearinghouse.Proofs.Store.Calls

namespace Clearinghouse

/-- Every medium can keep the accounts that an operation moves an amount between. -/
structure Operation.Portable (op : Operation) : Prop where
  sender : Clearinghouse.Portable op.sender
  receiver : Clearinghouse.Portable op.receiver

instance : DecidablePred Operation.Portable := fun op =>
  decidable_of_iff (Clearinghouse.Portable op.sender ∧ Clearinghouse.Portable op.receiver)
    ⟨fun ⟨hsender, hreceiver⟩ => ⟨hsender, hreceiver⟩,
      fun ⟨hsender, hreceiver⟩ => ⟨hsender, hreceiver⟩⟩

/-- A transaction moves amounts between accounts that are meant, and no others. -/
def Transaction.Names (keeps : AccountId → Prop) (tx : Transaction) : Prop :=
  ∀ op ∈ tx.operations, keeps op.sender ∧ keeps op.receiver

namespace Store

variable {S T : Type}

/-- Two stores are in step: on the accounts that are meant they answer every operation that a
batch or an application makes use of alike, but for the list of all accounts. -/
structure InStep (b : Backend S) (c : Backend T) (keeps : AccountId → Prop)
    (within : Store S → Prop) (related : Store S → Store T → Prop) : Prop where
  inTransaction : ∀ {s t}, related s t → s.inTransaction = t.inTransaction
  contains : ∀ {id}, keeps id → Run.Alike within related (contains b id) (contains c id)
  getAccount : ∀ {id}, keeps id → Run.Alike within related (getAccount b id) (getAccount c id)
  create : ∀ {id}, keeps id → ∀ balance,
    Run.Alike within related (create b id balance) (create c id balance)
  update : ∀ {id}, keeps id → ∀ delta,
    Run.Alike within related (update b id delta) (update c id delta)
  begin : Run.Alike within related (begin : Step (Store S) Unit) (begin : Step (Store T) Unit)
  commit : Run.Alike within related (commit b) (commit c)
  rollback : Run.Alike within related (rollback : Step (Store S) Unit)
    (rollback : Step (Store T) Unit)

/-- A store whose medium keeps track of a table, and one over the table. -/
theorem inStep_of_tracks {b : Backend S} {keeps : AccountId → Prop} {within : S → Prop}
    {shows : S → Table → Prop} (tracks : b.Tracks keeps within shows) :
    InStep b Memory.backend keeps (fun s => within s.medium) (Twins keeps shows) where
  inTransaction twins := twins.inTransaction
  contains named := contains_matches tracks named
  getAccount named := getAccount_matches tracks named
  create named := create_matches tracks named
  update named := update_matches tracks named
  begin := begin_matches
  commit := commit_matches tracks
  rollback := rollback_matches

/-- Stores over two media that answer every call alike. -/
theorem inStep_of_parallels {b : Backend S} {c : Backend T} {related : S → T → Prop}
    (parallels : b.Parallels c related) :
    InStep b c (fun _ => True) (fun _ => True) (Paired related) where
  inTransaction paired := paired.inTransaction
  contains _ := contains_parallel parallels _
  getAccount _ := getAccount_parallel parallels _
  create _ := create_parallel parallels _
  update _ := update_parallel parallels _
  begin := begin_parallel
  commit := commit_parallel parallels
  rollback := rollback_parallel

end Store

namespace Batch

open Store

variable {S T : Type} {b : Backend S} {c : Backend T} {keeps : AccountId → Prop}
  {within : Store S → Prop} {related : Store S → Store T → Prop} {keys : KeyRegistry}
  {policy : Policy}

theorem decided_alike {ε α : Type} (decision : Except ε α) :
    Run.Alike within related (decided decision : ExceptT ε (StateM (Store S)) α)
      (decided decision : ExceptT ε (StateM (Store T)) α) :=
  .of_read (fun _ => rfl) (fun _ => rfl) fun _ => rfl

theorem ensureNoTransaction_alike (inStep : InStep b c keeps within related) :
    Run.Alike within related (ensureNoTransaction : Phase (Store S) Unit) ensureNoTransaction :=
  .branch inStep.inTransaction (.throw _) (.pure _)

/-- What a sender can spend, by the answer to a question for the balance. -/
def spendableOf : Except StoreError Balance → Except Refusal Balance
  | .ok balance => .ok balance
  | .error (.accountNotFound _) => .ok 0
  | .error e => .error (.storage e)

theorem spendable_apply (id : AccountId) (s : Store S) :
    spendable b id s = (spendableOf (getBalance b id s).1, (getBalance b id s).2) := by
  rw [spendable]
  rcases getBalance b id s with ⟨answer, s'⟩
  cases answer with
  | ok balance => rfl
  | error e => cases e <;> rfl

/-- An operation that passes the screening is one of those that were screened. -/
theorem mem_of_mem_screen {s : Store S} {index : Nat} {ops : List Operation}
    {found : List (Nat × Operation) × List Rejection}
    (screened : (screen b keys policy index ops s).1 = .ok found) {entry : Nat × Operation}
    (passed : entry ∈ found.1) : entry.2 ∈ ops := by
  induction ops generalizing index s found with
  | nil =>
      cases screened
      cases passed
  | cons op ops ih =>
      obtain ⟨mid, later, -, hlater, rfl⟩ | ⟨reason, mid, later, -, -, hlater, rfl⟩ :=
        screen_cons_cases (Prod.ext screened rfl)
      · rcases List.mem_cons.mp passed with rfl | hmem
        · exact List.mem_cons_self
        · exact List.mem_cons_of_mem op (ih (congrArg Prod.fst hlater) hmem)
      · exact List.mem_cons_of_mem op (ih (congrArg Prod.fst hlater) passed)

section

variable (inStep : InStep b c keeps within related)
include inStep

/-! ## Checking -/

theorem spendable_alike {id : AccountId} (named : keeps id) :
    Run.Alike within related (spendable b id) (spendable c id) := by
  have hform := ((inStep.getAccount named).bind fun _ => .pure _ :
    Run.Alike within related (getBalance b id) (getBalance c id)).form spendableOf
  refine ⟨fun {s} => ?_, fun {s t} => ?_⟩
  · rw [spendable_apply]
    exact hform.earlier
  · rw [spendable_apply, spendable_apply]
    exact hform.agrees

theorem checkOperation_alike {op : Operation} (named : keeps op.sender) :
    Run.Alike within related (checkOperation b keys op) (checkOperation c keys op) := by
  refine (decided_alike op.checkShape).bind fun _ => ?_
  cases keys[op.sender]? with
  | none => exact .throw _
  | some key =>
      have hcovered : ∀ balance : Balance, Run.Alike within related
          (if balance < op.amount then throw (.insufficientBalance balance op.amount) else pure () :
            Check (Store S) Unit)
          (if balance < op.amount then throw (.insufficientBalance balance op.amount) else pure () :
            Check (Store T) Unit) := by
        intro balance
        split
        · exact .throw _
        · exact .pure _
      have hspends := (spendable_alike inStep named).bind hcovered
      dsimp only
      split
      · exact hspends
      · exact (Run.Alike.throw _).bind fun _ => hspends

theorem checkFrom_alike {ops : List Operation} (named : ∀ op ∈ ops, keeps op.sender ∧ keeps op.receiver)
    (index : Nat) :
    Run.Alike within related (checkFrom b keys index ops) (checkFrom c keys index ops) := by
  induction ops generalizing index with
  | nil => exact .pure _
  | cons op ops ih =>
      have hop := named op List.mem_cons_self
      refine ((checkOperation_alike inStep hop.1).adapt _).bind fun _ => ?_
      exact ih (fun later hmem => named later (List.mem_cons_of_mem op hmem)) _

theorem check_alike (keys : KeyRegistry) {tx : Transaction}
    (named : tx.Names keeps) :
    Run.Alike within related (check b keys tx) (check c keys tx) :=
  (ensureNoTransaction_alike inStep).bind fun _ =>
    (decided_alike tx.checkShape).bind fun _ => checkFrom_alike inStep named 0

theorem screen_alike {ops : List Operation} (named : ∀ op ∈ ops, keeps op.sender ∧ keeps op.receiver)
    (index : Nat) :
    Run.Alike within related (screen b keys policy index ops)
      (screen c keys policy index ops) := by
  induction ops generalizing index with
  | nil => exact .pure _
  | cons op ops ih =>
      have hop := named op List.mem_cons_self
      have hrest := ih (fun later hmem => named later (List.mem_cons_of_mem op hmem)) (index + 1)
      refine (checkOperation_alike inStep hop.1).lift.bind fun answer => ?_
      cases answer with
      | ok => exact hrest.bind fun _ => .pure _
      | error reason =>
          dsimp only
          split
          · exact hrest.bind fun _ => .pure _
          · exact .throw _

/-! ## Applying -/

theorem apply_alike {op : Operation} (named : keeps op.sender ∧ keeps op.receiver) :
    Run.Alike within related (apply b op) (apply c op) := by
  have hsender := fun amount => inStep.update named.1 amount
  refine (hsender _).bind fun _ => ?_
  refine (inStep.update named.2 _).lift.bind fun answer => ?_
  cases answer with
  | ok => exact .pure _
  | error e => exact (hsender _).bind fun _ => .throw _

theorem applyAll_alike {entries : List (Nat × Operation)}
    (named : ∀ entry ∈ entries, keeps entry.2.sender ∧ keeps entry.2.receiver) :
    Run.Alike within related (applyAll b policy entries) (applyAll c policy entries) := by
  induction entries with
  | nil => exact .pure _
  | cons entry entries ih =>
      have hrest := ih fun later hmem => named later (List.mem_cons_of_mem entry hmem)
      have hentry := apply_alike inStep (named entry List.mem_cons_self)
      refine (hentry.adapt Refusal.storage).lift.bind fun answer => ?_
      cases answer with
      | ok => exact hrest.bind fun _ => .pure _
      | error reason =>
          dsimp only
          split
          · exact hrest.bind fun _ => .pure _
          · exact (inStep.rollback.adapt Refusal.storage).lift.bind fun _ => .throw _

theorem run_alike (keys : KeyRegistry) (policy : Policy) {tx : Transaction}
    (named : tx.Names keeps) :
    Run.Alike within related (run b keys policy tx) (run c keys policy tx) := by
  have hwholly : ∀ {α : Type} {act : Step (Store S) α} {act' : Step (Store T) α},
      Run.Alike within related act act' →
      Run.Alike within related (wholly (Check.ofStep act)) (wholly (Check.ofStep act')) :=
    fun matched => (matched.adapt Refusal.storage).adapt Rejection.ofBatch
  refine (ensureNoTransaction_alike inStep).bind fun _ => ?_
  refine Run.Alike.refuse _ ?_
  refine Run.Agrees.bind (screen_alike inStep named 0) (fun {s found} hfound => ?_)
    fun hrelated => hrelated
  have heligible : ∀ entry ∈ found.1, keeps entry.2.sender ∧ keeps entry.2.receiver :=
    fun entry hmem => named _ (mem_of_mem_screen hfound hmem)
  refine (hwholly inStep.begin).bind fun _ => ?_
  refine (applyAll_alike inStep heligible).bind fun _ => ?_
  exact (hwholly inStep.commit).bind fun _ => .pure _

/-- Over stores that are in step a batch ends alike. -/
theorem process_alike (keys : KeyRegistry) (policy : Policy) {tx : Transaction}
    (named : tx.Names keeps) :
    Run.Alike within related (process b keys policy tx) (process c keys policy tx) := by
  have hrun := (run_alike inStep keys policy named).form report
  refine ⟨fun {s} => ?_, fun {s t} => ?_⟩
  · rw [process_apply]
    exact hrun.earlier
  · rw [process_apply, process_apply]
    exact hrun.agrees

end

end Batch

end Clearinghouse
