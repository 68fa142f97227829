/-
# A batch moves money and makes none

Over a medium that carries out what it is handed, a batch that is committed does to the
accounts what the transfers do that it reports as carried out, one after the other and over
exact integers, whatever the accounts held before and whatever failed on the way. A batch that
is rejected has changed nothing, or it has done all that it applied and was rejected although
its commit landed. Transfers leave the sum of all accounts as it is and make no account
disappear, and each of them has a sender that is there, so that an account that is new
afterwards has received something.
-/

import Clearinghouse.Proofs.Batch.Failure
import Clearinghouse.Proofs.Store.Drafting
import Mathlib.Algebra.BigOperators.Group.Finset.Piecewise
import Mathlib.Data.FinEnum
import Mathlib.Data.Fintype.BigOperators

namespace Clearinghouse

namespace Holdings

/-- What all accounts hold together. -/
def sum (h : Holdings) : Int := ∑ id : AccountId, h.total id

/-- Every transfer of a list has a sender that is there when its turn comes. -/
def SendersThere : Holdings → List Operation → Prop
  | _, [] => True
  | h, op :: ops => (h op.sender).isSome ∧ (h.transfer op).SendersThere ops

variable {h h' : Holdings} {op : Operation} {ops : List Operation} {id : AccountId}

/-- What the receiver gains the sender loses, also if they are one account. -/
theorem sum_transfer (h : Holdings) (op : Operation) : (h.transfer op).sum = h.sum := by
  simp only [sum, total_transfer, Finset.sum_sub_distrib, Finset.sum_add_distrib,
    Finset.sum_ite_eq, Finset.mem_univ, if_true]
  omega

theorem sum_transferAll (h : Holdings) (ops : List Operation) : (h.transferAll ops).sum = h.sum := by
  induction ops generalizing h with
  | nil => rfl
  | cons op ops ih => exact (ih (h.transfer op)).trans (sum_transfer h op)

theorem isSome_transferAll (there : (h id).isSome) (ops : List Operation) :
    (h.transferAll ops id).isSome := by
  induction ops generalizing h with
  | nil => exact there
  | cons op ops ih =>
      refine ih ?_
      rw [transfer_apply]
      split
      · rfl
      · exact there

/-- Transfers that have their senders lead from some holdings to others. -/
structure Transferred (h : Holdings) (ops : List Operation) (h' : Holdings) : Prop where
  senders : h.SendersThere ops
  result : h' = h.transferAll ops

theorem Transferred.sum_eq (transferred : h.Transferred ops h') : h'.sum = h.sum := by
  rw [transferred.result, sum_transferAll]

/-- No account disappears. -/
theorem Transferred.isSome (transferred : h.Transferred ops h') (there : (h id).isSome) :
    (h' id).isSome := by
  rw [transferred.result]
  exact isSome_transferAll there ops

/-- An account that is new has received something. -/
theorem Transferred.exists_receiver (transferred : h.Transferred ops h') (absent : h id = none)
    (there : (h' id).isSome) : ∃ op ∈ ops, op.receiver = id := by
  obtain ⟨senders, rfl⟩ := transferred
  induction ops generalizing h with
  | nil =>
      have hthere : (h id).isSome := there
      simp [absent] at hthere
  | cons op ops ih =>
      obtain ⟨hsender, hrest⟩ := senders
      by_cases hreceiver : op.receiver = id
      · exact ⟨op, List.mem_cons_self, hreceiver⟩
      · have hother : op.sender ≠ id := by
          rintro rfl
          simp [absent] at hsender
        have hstill : h.transfer op id = none := by
          rw [transfer_apply, if_neg (not_or.mpr ⟨hother, hreceiver⟩), absent]
        obtain ⟨received, hmem, hid⟩ := ih hstill hrest there
        exact ⟨received, List.mem_cons_of_mem op hmem, hid⟩

/-- All of some transfers have led from some holdings to others, or nothing has happened. -/
inductive AllOrNothing (h : Holdings) (ops : List Operation) : Holdings → Prop
  | all {h' : Holdings} (transferred : h.Transferred ops h') : AllOrNothing h ops h'
  | nothing : AllOrNothing h ops h

theorem AllOrNothing.sum_eq (moved : h.AllOrNothing ops h') : h'.sum = h.sum := by
  cases moved with
  | all transferred => exact transferred.sum_eq
  | nothing => rfl

theorem AllOrNothing.isSome (moved : h.AllOrNothing ops h') (there : (h id).isSome) :
    (h' id).isSome := by
  cases moved with
  | all transferred => exact transferred.isSome there
  | nothing => exact there

theorem AllOrNothing.exists_receiver (moved : h.AllOrNothing ops h') (absent : h id = none)
    (there : (h' id).isSome) : ∃ op ∈ ops, op.receiver = id := by
  cases moved with
  | all transferred => exact transferred.exists_receiver absent there
  | nothing => simp [absent] at there

/-- A debit that is taken back leaves an account that is there as it was. -/
theorem move_move_neg (there : (h id).isSome) (amount : Int) :
    (h.move id (-amount)).move id amount = h := by
  obtain ⟨n, hn⟩ := Option.isSome_iff_exists.mp there
  funext other
  rw [move, total_move, if_pos rfl, move]
  by_cases hid : id = other
  · rw [if_pos hid, ← hid, hn, total, hn]
    simp
  · rw [if_neg hid, if_neg hid]

/-- A part of some numbered transfers is told by the numbers of the others. -/
theorem eq_filter_of_parts {done left entries : List (Nat × Operation)}
    (parts : (done ++ left).Perm entries) (sublist : done.Sublist entries)
    (distinct : (entries.map (·.1)).Nodup) :
    done = entries.filter fun entry => some entry.1 ∉ left.map (some ·.1) := by
  have hapart : ∀ entry ∈ done, some entry.1 ∉ left.map (some ·.1) := by
    intro entry hmem hleft
    have hnumbers := (parts.map (·.1)).nodup_iff.mpr distinct
    rw [List.map_append, List.nodup_append] at hnumbers
    obtain ⟨other, hother, hsame⟩ := List.mem_map.mp hleft
    exact hnumbers.2.2 entry.1 (List.mem_map_of_mem hmem) other.1 (List.mem_map_of_mem hother)
      (Option.some.inj hsame).symm
  have hdone : done.filter (fun entry => some entry.1 ∉ left.map (some ·.1)) = done :=
    List.filter_eq_self.mpr fun entry hmem => decide_eq_true (hapart entry hmem)
  have hleft : left.filter (fun entry => some entry.1 ∉ left.map (some ·.1)) = [] := by
    apply List.filter_eq_nil_iff.mpr
    intro entry hmem hnot
    exact of_decide_eq_true hnot (List.mem_map_of_mem (f := fun entry => some entry.1) hmem)
  have hparts := parts.filter fun entry => some entry.1 ∉ left.map (some ·.1)
  have hsublist := sublist.filter fun entry => some entry.1 ∉ left.map (some ·.1)
  rw [List.filter_append, hdone, hleft, List.append_nil] at hparts
  rw [hdone] at hsublist
  exact hsublist.eq_of_length hparts.length_eq

end Holdings

/-- The operations of a batch that were carried out, as its outcome tells. -/
def Outcome.carriedOut (outcome : Outcome) (ops : List Operation) : List Operation :=
  match outcome with
  | .committed _ skipped =>
    ((Holdings.numbered 0 ops).filter fun entry => some entry.1 ∉ skipped.map (·.index)).map (·.2)
  | .rejected _ => []

/-- The operations are told from the report that passed the screening and were applied. -/
theorem Outcome.carriedOut_committed {ops : List Operation}
    {found unfit done failed : List (Nat × Operation)} {skipped : List Rejection}
    (screened : (found ++ unfit).Perm (Holdings.numbered 0 ops))
    (passed : found.Sublist (Holdings.numbered 0 ops)) (worked : (done ++ failed).Perm found)
    (kept : done.Sublist found) (listed : skipped.map (·.index) = (unfit ++ failed).map (some ·.1))
    (applied : Nat) : (committed applied skipped).carriedOut ops = done.map (·.2) := by
  have hall : (done ++ (unfit ++ failed)).Perm (Holdings.numbered 0 ops) :=
    (List.perm_append_comm.append_left done).trans
      ((List.append_assoc .. ▸ worked.append_right unfit).trans screened)
  have hdistinct : ((Holdings.numbered 0 ops).map (·.1)).Nodup := by
    rw [Holdings.map_fst_numbered]
    exact List.nodup_range' 1
  rw [carriedOut, listed, ← Holdings.eq_filter_of_parts hall (kept.trans passed) hdistinct]

namespace Batch

open Holdings

variable {S : Type} {b : Backend S} {holdings : S → Holdings} {keys : KeyRegistry}
  {policy : Policy} {s s' : Store S} {h : Holdings}

/-- The screening lets a part of the operations pass and reports the others. -/
theorem screen_parts {index : Nat} {ops : List Operation}
    {found : List (Nat × Operation) × List Rejection}
    (screened : screen b keys policy index ops s = (.ok found, s')) :
    ∃ left, (found.1 ++ left).Perm (numbered index ops) ∧
      found.1.Sublist (numbered index ops) ∧ found.2.map (·.index) = left.map (some ·.1) := by
  induction ops generalizing index s found with
  | nil =>
      cases screened
      exact ⟨[], .nil, .slnil, rfl⟩
  | cons op ops ih =>
      obtain ⟨mid, later, -, hlater, rfl⟩ | ⟨reason, mid, later, -, -, hlater, rfl⟩ :=
        screen_cons_cases screened
      · obtain ⟨left, hparts, hsublist, hreported⟩ := ih hlater
        exact ⟨left, hparts.cons _, hsublist.cons_cons _, hreported⟩
      · obtain ⟨left, hparts, hsublist, hreported⟩ := ih hlater
        refine ⟨(index, op) :: left, List.perm_middle.trans (hparts.cons _),
          hsublist.cons _, ?_⟩
        rw [List.map_cons, List.map_cons, hreported]
        rfl

/-- What is reported of a batch lists the operations that did not pass, and then those that
failed. -/
theorem indices_of_reports {unfit : List (Nat × Operation)} {reported : List Rejection}
    (listed : reported.map (·.index) = unfit.map (some ·.1))
    (failed : List ((Nat × Operation) × StoreError)) :
    (reported ++ failed.map fun failure =>
      Rejection.ofOperation failure.1.1 (.storage failure.2)).map (·.index) =
      (unfit ++ failed.map (·.1)).map (some ·.1) := by
  rw [List.map_append, List.map_append, listed, List.map_map, List.map_map]
  rfl

/-- What a batch has applied when it comes to its commit is what it will report as carried out,
as many operations as it counts. -/
theorem carriedOut_of_applyAll {tx : Transaction} {s₁ s₂ : Store S}
    {found : List (Nat × Operation) × List Rejection} {result : Nat × List Rejection}
    (screened : screen b keys policy 0 tx.operations s = (.ok found, s'))
    (worked : applyAll b policy found.1 s₁ = (.ok result, s₂)) :
    (Outcome.committed result.1 (found.2 ++ result.2)).carriedOut tx.operations =
        (appliedOf b policy found.1 s₁).map (·.2) ∧
      result.1 = (appliedOf b policy found.1 s₁).length := by
  obtain ⟨unfit, hfit, hpassed, hunfit⟩ := screen_parts screened
  obtain ⟨failed, -, hparts, hsublist, rfl⟩ := applyAll_worksOff worked
  exact ⟨Outcome.carriedOut_committed hfit hpassed hparts hsublist
    (indices_of_reports hunfit failed) _, rfl⟩

variable (b keys policy) in
/-- The operations of a batch that are applied inside its transaction. -/
def applied (tx : Transaction) (s : Store S) : List Operation :=
  match screen b keys policy 0 tx.operations s with
  | (.error _, _) => []
  | (.ok found, s') =>
    match Store.begin s' with
    | (.error _, _) => []
    | (.ok (), s') => (appliedOf b policy found.1 s').map (·.2)

theorem applied_of_screened {tx : Transaction} {found : List (Nat × Operation) × List Rejection}
    (screened : screen b keys policy 0 tx.operations s = (.ok found, s'))
    (opened : s'.initialized = true) (idle : s'.staging = none) :
    applied b keys policy tx s = (appliedOf b policy found.1 (Store.begun s')).map (·.2) := by
  rw [applied, screened]
  dsimp only
  rw [Store.begin_of_idle opened idle]

section

variable (fulfils : b.Fulfils holdings)
include fulfils

/-- An operation that is applied is a transfer in the draft; one that fails redrafts nothing. -/
theorem apply_drafts (opened : s.initialized = true) (transaction : s.inTransaction = true)
    (sincere : s.Sincere b) (base : holdings s.medium = h) {op : Operation}
    (positive : 0 < op.amount) :
    (∃ e s', apply b op s = (.error e, s') ∧ Store.Drafts b h s (s.draft h) s') ∨
      ∃ s', apply b op s = (.ok (), s') ∧
        Store.Drafts b h s ((s.draft h).transfer op) s' ∧ (s.draft h op.sender).isSome := by
  obtain ⟨e, s', hdebit, hstill⟩ | ⟨s', hdebit, hdebited, hthere⟩ :=
    Store.update_drafts fulfils sincere base opened transaction op.sender (-op.amount)
  · exact .inl ⟨e, s', apply_of_debit_failed hdebit, hstill⟩
  have hsender : (s.draft h op.sender).isSome :=
    hthere.resolve_left (Balance.not_pos_neg_of_pos positive)
  have hopened := hdebited.initialized.trans opened
  have htransaction := hdebited.inTransaction.trans transaction
  have hbase := hdebited.base fulfils base
  rw [Balance.toInt_neg_of_pos positive] at hdebited
  obtain ⟨e, s'', hcredit, hstill⟩ | ⟨s'', hcredit, hcredited, -⟩ :=
    Store.update_drafts fulfils hdebited.sincere hbase hopened htransaction op.receiver op.amount
  · obtain ⟨final, hrefund, happly⟩ :=
      apply_of_credit_failed opened transaction positive hdebit hcredit
    obtain ⟨_, _, hfailed, -⟩ | ⟨_, hdone, hrefunded, -⟩ := Store.update_drafts fulfils
      hstill.sincere (hstill.base fulfils hbase) (hstill.initialized.trans hopened)
      (hstill.inTransaction.trans htransaction) op.sender op.amount
    · cases hrefund.symm.trans hfailed
    · cases hrefund.symm.trans hdone
      rw [hstill.draft, hdebited.draft, move_move_neg hsender] at hrefunded
      exact .inl ⟨e, final, happly, hdebited.trans (hstill.trans hrefunded)⟩
  · rw [hdebited.draft] at hcredited
    exact .inr ⟨s'', apply_of_done hdebit hcredit, hdebited.trans hcredited, hsender⟩

/-- Operations that are worked off draft the transfers that were applied, each of which had its
sender there. -/
theorem WorkedOff.drafts {done : List (Nat × Operation)}
    {left : List ((Nat × Operation) × StoreError)} (worked : WorkedOff b done left s s')
    (opened : s.initialized = true) (transaction : s.inTransaction = true)
    (sincere : s.Sincere b) (base : holdings s.medium = h)
    (positive : ∀ entry ∈ done ++ left.map (·.1), 0 < entry.2.amount) :
    (s.draft h).SendersThere (done.map (·.2)) ∧
      Store.Drafts b h s ((s.draft h).transferAll (done.map (·.2))) s' := by
  induction worked with
  | nil => exact ⟨trivial, .refl sincere⟩
  | @done entry done left s mid s' applied rest ih =>
      have hpositive := List.forall_mem_cons.mp positive
      obtain ⟨_, _, hrun, -⟩ | ⟨_, hrun, hdone, hsender⟩ :=
        apply_drafts fulfils opened transaction sincere base hpositive.1
      · cases applied.symm.trans hrun
      cases applied.symm.trans hrun
      obtain ⟨hsenders, hdrafts⟩ := ih (hdone.initialized.trans opened)
        (hdone.inTransaction.trans transaction) hdone.sincere (hdone.base fulfils base)
        hpositive.2
      rw [hdone.draft] at hsenders hdrafts
      exact ⟨⟨hsender, hsenders⟩, hdone.trans hdrafts⟩
  | @left entry e done left s mid s' failed rest ih =>
      have hpositive := forall_mem_of_failed positive
      obtain ⟨_, _, hrun, hstill⟩ | ⟨_, hrun, -⟩ :=
        apply_drafts fulfils opened transaction sincere base hpositive.1
      · cases failed.symm.trans hrun
        obtain ⟨hsenders, hdrafts⟩ := ih (hstill.initialized.trans opened)
          (hstill.inTransaction.trans transaction) hstill.sincere
          (hstill.base fulfils base) hpositive.2
        rw [hstill.draft] at hsenders hdrafts
        exact ⟨hsenders, hstill.trans hdrafts⟩
      · cases failed.symm.trans hrun

/-- When it comes to its commit a batch has drafted the transfers that it applied. -/
theorem applyAll_drafts {tx : Transaction} {found : List (Nat × Operation) × List Rejection}
    {s₁ mid : Store S} {result : Nat × List Rejection}
    (screened : screen b keys policy 0 tx.operations s = (.ok found, s₁))
    (opened : s₁.initialized = true) (base : holdings s₁.medium = h)
    (worked : applyAll b policy found.1 (Store.begun s₁) = (.ok result, mid)) :
    h.SendersThere ((appliedOf b policy found.1 (Store.begun s₁)).map (·.2)) ∧
      Store.Drafts b h (Store.begun s₁)
        (h.transferAll ((appliedOf b policy found.1 (Store.begun s₁)).map (·.2))) mid := by
  have hbegun : (Store.begun s₁).initialized = true := opened
  obtain ⟨left, hworked, hparts, -⟩ := applyAll_worksOff worked
  have hdrafts := hworked.drafts fulfils hbegun rfl (Store.begun_sincere s₁) base
    fun entry hmem => (checkShape_eq_ok_iff.mp
      (checkShape_of_mem_screen screened (hparts.mem_iff.mp hmem))).2.2.1
  rwa [Store.draft_begun] at hdrafts

/-- Unless its commit lands in part, a batch does to the accounts all that it applied, or
nothing. A batch that is committed has done it; that is what it reports as carried out, and as
many operations as it says. -/
theorem process_transfers (keys : KeyRegistry) (policy : Policy) (tx : Transaction) (s : Store S)
    (whole : ∀ rejection e, (process b keys policy tx s).1 = .rejected rejection →
      rejection.reason = .storage e → ¬ e.IsPartialCommit) :
    let run := process b keys policy tx s
    let ops := applied b keys policy tx s
    (holdings s.medium).AllOrNothing ops (holdings run.2.medium) ∧
      ∀ count skipped, run.1 = .committed count skipped →
        (holdings s.medium).Transferred ops (holdings run.2.medium) ∧
          ops = run.1.carriedOut tx.operations ∧ ops.length = count := by
  intro run ops
  by_cases htransaction : s.inTransaction = true
  · have hrun : run = _ := process_of_transaction htransaction tx
    rw [hrun]
    exact ⟨.nothing, fun count skipped hdone => by cases hdone⟩
  have hidle : s.staging = none := by simpa [Store.inTransaction] using htransaction
  have hprocess : run = _ := process_apply tx s
  obtain ⟨rejection, s', hrun, -, hread⟩ | ⟨found, s₁, result, mid, hscreen, hreads, hopened,
    happly, hwithin, hrun⟩ := run_cases b keys policy hidle tx
  · rw [hprocess, hrun, hread.eq_of_load fulfils.load_content]
    exact ⟨.nothing, fun count skipped hdone => by cases hdone⟩
  have hops : ops = (appliedOf b policy found.1 (Store.begun s₁)).map (·.2) :=
    applied_of_screened hscreen hopened
      (by simpa [Store.inTransaction, hidle] using hreads.inTransaction)
  obtain ⟨hsenders, hdrafts⟩ := applyAll_drafts fulfils hscreen hopened
    (hreads.read.eq_of_load fulfils.load_content) happly
  rw [← hops] at hsenders hdrafts
  have hcommit := Store.commit_fulfils fulfils hdrafts.sincere
    (hdrafts.base fulfils (hreads.read.eq_of_load fulfils.load_content))
    (hwithin.initialized.trans hopened)
  rw [hdrafts.draft] at hcommit
  cases hanswer : (Store.commit b mid).1 with
  | error e =>
      rw [hanswer] at hcommit
      have houtcome : run.1 = .rejected (.ofBatch (.storage e)) := by
        rw [hprocess, hrun, hanswer]
        rfl
      refine ⟨?_, fun count skipped hdone => by cases houtcome.symm.trans hdone⟩
      rw [hprocess, hrun]
      obtain hsame | hlanded := hcommit (whole _ e houtcome rfl)
      · rw [show holdings _ = _ from hsame]
        exact .nothing
      · exact .all ⟨hsenders, hlanded⟩
  | ok =>
      rw [hanswer] at hcommit
      obtain ⟨hcarried, hcount⟩ := carriedOut_of_applyAll hscreen happly
      have houtcome : run.1 = .committed result.1 (found.2 ++ result.2) := by
        rw [hprocess, hrun, hanswer]
        rfl
      have htransferred : (holdings s.medium).Transferred ops (holdings run.2.medium) := by
        refine ⟨hsenders, ?_⟩
        rw [hprocess, hrun]
        exact hcommit
      refine ⟨.all htransferred, fun count skipped hdone => ⟨htransferred, ?_, ?_⟩⟩
      · rw [houtcome, hops, hcarried]
      · cases houtcome.symm.trans hdone
        rw [hops, List.length_map, hcount]

end

end Batch

end Clearinghouse
