/-
# What a batch may take from an account

An operation takes money from its sender only if it passed its check, so only if the
sender's key has signed it. A credit never takes anything, and an operation that is left
out has its debit taken back. So whatever becomes of a batch, no account loses more than
the amounts that its own key has signed for, whether all of the changes landed, some of
them or none.
-/

import Clearinghouse.Proofs.Batch.Failure
import Clearinghouse.Proofs.Batch.Holdings
import Clearinghouse.Proofs.Store.Settling

namespace Clearinghouse

/-- The operation takes an amount from an account, signed with a key. -/
def Operation.takes (op : Operation) (id : AccountId) (key : Signature.PublicKey) : Bool :=
  op.sender == id && decide (0 < op.amount) && key.verify op.message op.signature

/-- What the operations of a list take from an account, as far as a key has signed them. -/
def Holdings.taken (id : AccountId) (key : Signature.PublicKey) (ops : List Operation) : Int :=
  ((ops.filter (·.takes id key)).map (·.amount.toInt)).sum

/-- What the operations of a list may take from an account: nothing unless it has a key. -/
def Holdings.allowance (keys : KeyRegistry) (id : AccountId) (ops : List Operation) : Int :=
  match keys[id]? with
  | some key => taken id key ops
  | none => 0

namespace Holdings

variable {keys : KeyRegistry} {id : AccountId} {op : Operation} {ops : List Operation}

theorem taken_cons (id : AccountId) (key : Signature.PublicKey) (op : Operation)
    (ops : List Operation) :
    taken id key (op :: ops) = (if op.takes id key then op.amount.toInt else 0) + taken id key ops := by
  rw [taken, taken, List.filter_cons]
  split
  · rw [List.map_cons, List.sum_cons]
  · rw [Int.zero_add]

/-- Of a longer list no less may be taken. -/
theorem allowance_le_cons (keys : KeyRegistry) (id : AccountId) (op : Operation)
    (ops : List Operation) : allowance keys id ops ≤ allowance keys id (op :: ops) := by
  unfold allowance
  cases keys[id]? with
  | none => exact Int.le_refl 0
  | some key =>
      dsimp only
      rw [taken_cons]
      split
      · next htakes =>
          simp only [Operation.takes, Bool.and_eq_true, decide_eq_true_eq] at htakes
          have hamount : 0 < op.amount.toInt := Int64.lt_iff_toInt_lt.mp htakes.1.2
          omega
      · omega

/-- A signed operation may take its amount from its sender. -/
theorem sent_add_allowance_le (positive : 0 < op.amount) {key : Signature.PublicKey}
    (registered : keys[op.sender]? = some key)
    (signed : key.verify op.message op.signature = true) (id : AccountId) (ops : List Operation) :
    (if op.sender = id then op.amount.toInt else 0) + allowance keys id ops ≤
      allowance keys id (op :: ops) := by
  by_cases hsender : op.sender = id
  · subst hsender
    have htakes : op.takes op.sender key = true := by
      simp [Operation.takes, positive, signed]
    have htaken := taken_cons op.sender key op ops
    rw [if_pos htakes] at htaken
    rw [if_pos rfl, allowance, registered, allowance, registered]
    exact Int.le_of_eq htaken.symm
  · rw [if_neg hsender, Int.zero_add]
    exact allowance_le_cons keys id op ops

end Holdings

namespace Batch

open Holdings

variable {S : Type} {b : Backend S} {keys : KeyRegistry} {policy : Policy} {s s' : Store S}

/-- Within its transaction a store came to take at most so much more from each account. -/
structure Spends (b : Backend S) (s : Store S) (spent : AccountId → Int) (s' : Store S) : Prop
    extends Store.Within b s s' where
  recalled : s'.Recalled b
  pending : ∀ id, s.pending id ≤ s'.pending id + spent id

theorem spends_of_drifts {moved spent : AccountId → Int} (drifts : Store.Drifts b s moved s')
    (covered : ∀ id, 0 ≤ moved id + spent id) : Spends b s spent s' where
  toWithin := drifts.toWithin
  recalled := drifts.recalled
  pending id := by
    have hmoved := drifts.pending id
    have hcovered := covered id
    omega

/-- An operation that passes its check is signed by its sender. -/
theorem signed_of_passed {op : Operation} (passed : checkOperation b keys op s = (.ok (), s')) :
    0 < op.amount ∧ ∃ key, keys[op.sender]? = some key ∧
      key.verify op.message op.signature = true := by
  cases hshape : op.checkShape with
  | error reason =>
      rw [checkOperation_of_misshapen hshape] at passed
      cases passed
  | ok =>
      refine ⟨(checkShape_eq_ok_iff.mp hshape).2.2.1, ?_⟩
      cases hkey : keys[op.sender]? with
      | none =>
          rw [checkOperation_of_unknown hshape hkey] at passed
          cases passed
      | some key =>
          refine ⟨key, rfl, ?_⟩
          cases hverify : key.verify op.message op.signature with
          | true => rfl
          | false =>
              rw [checkOperation_of_forged hshape hkey hverify] at passed
              cases passed

/-- What passes the screening takes no more than may be taken. -/
theorem sent_le_allowance_of_screen {index : Nat} {ops : List Operation}
    {found : List (Nat × Operation) × List Rejection}
    (screened : screen b keys policy index ops s = (.ok found, s')) (id : AccountId) :
    sent id (found.1.map Prod.snd) ≤ allowance keys id ops := by
  induction ops generalizing index s found with
  | nil =>
      cases screened
      unfold allowance
      cases keys[id]? <;> exact Int.le_refl 0
  | cons op ops ih =>
      obtain ⟨mid, later, hpassed, hlater, rfl⟩ | ⟨reason, mid, later, -, -, hlater, rfl⟩ :=
        screen_cons_cases screened
      · obtain ⟨hpositive, key, hkey, hsigned⟩ := signed_of_passed hpassed
        have hrest := ih hlater
        have hone := sent_add_allowance_le hpositive hkey hsigned id ops
        rw [List.map_cons, sent_cons]
        exact Int.le_trans (Int.add_le_add_left hrest _) hone
      · have hrest := ih hlater
        exact Int.le_trans hrest (allowance_le_cons keys id op ops)

/-- An operation that is applied moves its two sides; one that fails moves nothing. -/
theorem apply_drifts (opened : s.initialized = true) (transaction : s.inTransaction = true)
    (recalled : s.Recalled b) {op : Operation} (positive : 0 < op.amount) :
    (∃ e s', apply b op s = (.error e, s') ∧ Store.Drifts b s (fun _ => 0) s') ∨
      ∃ s', apply b op s = (.ok (), s') ∧
        Store.Drifts b s (fun id => received id [op] - sent id [op]) s' := by
  obtain ⟨e, s', hdebit, hstill⟩ | ⟨s', hdebit, hdebited⟩ :=
    Store.update_drifts opened transaction recalled op.sender (-op.amount)
  · exact .inl ⟨e, s', apply_of_debit_failed hdebit, hstill⟩
  have hopened := hdebited.initialized.trans opened
  have htransaction := hdebited.inTransaction.trans transaction
  rw [Balance.toInt_neg_of_pos positive] at hdebited
  obtain ⟨e, s'', hcredit, hstill⟩ | ⟨s'', hcredit, hcredited⟩ :=
    Store.update_drifts hopened htransaction hdebited.recalled op.receiver op.amount
  · obtain ⟨final, hrefund, happly⟩ :=
      apply_of_credit_failed opened transaction positive hdebit hcredit
    obtain ⟨_, _, hfailed, -⟩ | ⟨_, hdone, hrefunded⟩ := Store.update_drifts
      (hstill.initialized.trans hopened) (hstill.inTransaction.trans htransaction)
      hstill.recalled op.sender op.amount
    · cases hrefund.symm.trans hfailed
    · cases hrefund.symm.trans hdone
      have hnothing : (fun id => Store.movedOne op.sender (-op.amount.toInt) id +
          Store.movedOne op.sender op.amount.toInt id) = fun _ => 0 := by
        funext id
        rw [Store.movedOne, Store.movedOne]
        split <;> omega
      exact .inl ⟨e, final, happly, hnothing ▸ hdebited.trans (hstill.of_still hrefunded)⟩
  · have htransfer : (fun id => Store.movedOne op.sender (-op.amount.toInt) id +
        Store.movedOne op.receiver op.amount.toInt id) =
        fun id => received id [op] - sent id [op] := by
      funext id
      simp only [Store.movedOne, received_cons, sent_cons, received_nil, sent_nil]
      split <;> split <;> omega
    exact .inr ⟨s'', apply_of_done hdebit hcredit, htransfer ▸ hdebited.trans hcredited⟩

/-- Operations that are worked off move accounts by what was applied. -/
theorem WorkedOff.drifts {done : List (Nat × Operation)}
    {left : List ((Nat × Operation) × StoreError)} (worked : WorkedOff b done left s s')
    (opened : s.initialized = true)
    (transaction : s.inTransaction = true) (recalled : s.Recalled b)
    (positive : ∀ entry ∈ done ++ left.map (·.1), 0 < entry.2.amount) :
    Store.Drifts b s
      (fun id => received id (done.map (·.2)) - sent id (done.map (·.2))) s' := by
  induction worked with
  | nil => exact .refl recalled
  | @done entry done left s mid s' applied rest ih =>
      have hpositive := List.forall_mem_cons.mp positive
      obtain ⟨_, _, hrun, -⟩ | ⟨_, hrun, hmoved⟩ :=
        apply_drifts opened transaction recalled hpositive.1
      · cases applied.symm.trans hrun
      cases applied.symm.trans hrun
      have hrest := ih (hmoved.initialized.trans opened) (hmoved.inTransaction.trans transaction)
        hmoved.recalled hpositive.2
      have hsum : (fun id => received id [entry.2] - sent id [entry.2] +
          (received id (done.map (·.2)) - sent id (done.map (·.2)))) =
          fun id => received id ((entry :: done).map (·.2)) - sent id ((entry :: done).map (·.2)) := by
        funext id
        simp only [List.map_cons, received_cons, sent_cons, received_nil, sent_nil]
        omega
      exact hsum ▸ hmoved.trans hrest
  | @left entry e done left s mid s' failed rest ih =>
      have hpositive := forall_mem_of_failed positive
      obtain ⟨_, _, hrun, hstill⟩ | ⟨_, hrun, -⟩ :=
        apply_drifts opened transaction recalled hpositive.1
      · cases failed.symm.trans hrun
        exact hstill.of_still (ih (hstill.initialized.trans opened)
          (hstill.inTransaction.trans transaction) hstill.recalled hpositive.2)
      · cases failed.symm.trans hrun

/-- Operations that are applied take at most their amounts from their senders. -/
theorem applyAll_spends (opened : s.initialized = true) (transaction : s.inTransaction = true)
    (recalled : s.Recalled b) {ops : List (Nat × Operation)}
    (positive : ∀ entry ∈ ops, 0 < entry.2.amount) {result : Nat × List Rejection}
    (applied : applyAll b policy ops s = (.ok result, s')) :
    Spends b s (fun id => sent id (ops.map Prod.snd)) s' := by
  obtain ⟨left, hworked, hparts, hkept, -⟩ := applyAll_worksOff applied
  generalize appliedOf b policy ops s = done at hworked hparts hkept
  have hdrifts := hworked.drifts opened transaction recalled fun entry hmem =>
    positive entry (hparts.mem_iff.mp hmem)
  have hpositive : ∀ op ∈ ops.map Prod.snd, 0 < op.amount := List.forall_mem_map.mpr positive
  have hsublist := hkept.map Prod.snd
  refine spends_of_drifts hdrifts fun id => ?_
  have hreceived : 0 ≤ received id (done.map (·.2)) :=
    received_nonneg fun op hmem => hpositive op (hsublist.subset hmem)
  have hsent : sent id (done.map (·.2)) ≤ sent id (ops.map Prod.snd) :=
    sent_le_of_sublist hsublist hpositive
  omega

/-- However a batch ends, no account loses more than its own key has signed for. -/
theorem process_total {total : S → AccountId → Int} (settles : b.Settles total)
    (keys : KeyRegistry) (policy : Policy) (tx : Transaction) (s : Store S) (id : AccountId) :
    total s.medium id ≤
      total (process b keys policy tx s).2.medium id + allowance keys id tx.operations := by
  have hallowed : 0 ≤ allowance keys id tx.operations := by
    induction tx.operations with
    | nil =>
        unfold allowance
        cases keys[id]? <;> exact Int.le_refl 0
    | cons op ops ih => exact Int.le_trans ih (allowance_le_cons keys id op ops)
  by_cases htransaction : s.inTransaction = true
  · rw [process_of_transaction htransaction]
    exact Int.le_add_of_nonneg_right hallowed
  have hidle : s.staging = none := by simpa [Store.inTransaction] using htransaction
  rw [process_apply]
  obtain ⟨_, s', hrun, -, hread⟩ | ⟨found, s₁, result, mid, hscreen, hreads, hopened, happly, hwithin,
      hrun⟩ := run_cases b keys policy hidle tx
  · rw [hrun, hread.eq_of_load settles.load_total]
    omega
  · have hbegun : (Store.begun s₁).initialized = true := hopened
    have hpositive : ∀ entry ∈ found.1, 0 < entry.2.amount := fun entry hmem =>
      (checkShape_eq_ok_iff.mp (checkShape_of_mem_screen hscreen hmem)).2.2.1
    have hspends := applyAll_spends hbegun rfl (Store.begun_recalled s₁) hpositive happly
    have hpending := hspends.pending id
    have hsent := sent_le_allowance_of_screen hscreen id
    have hread : b.OnlyRead s.medium mid.medium := hreads.read.trans hwithin.read
    rw [Store.pending_begun] at hpending
    rw [hrun, ← hread.eq_of_load settles.load_total]
    dsimp only
    obtain hkept | hmoved := Store.commit_total settles (hwithin.initialized.trans hbegun)
      hspends.recalled id
    · omega
    · omega

end Batch

end Clearinghouse
