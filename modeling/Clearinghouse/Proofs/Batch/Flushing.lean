/-
# What a batch hands to its medium

A batch writes to its medium once, at its commit, and hands over the changes of its transaction.
They move every account by what the applied operations come to. An operation that was left out
moves nothing, but it can leave a change behind: where its debit went through and its credit was
refused, the debit is taken back by another movement, and the entry of the sender counts as
written from then on. So the sender is flushed with the balance that it was found with. No
account is flushed for any other cause.
-/

import Clearinghouse.Medium.Memory
import Clearinghouse.Proofs.Batch.Conservation
import Clearinghouse.Proofs.Batch.Debits
import Clearinghouse.Proofs.Batch.Mirroring
import Clearinghouse.Proofs.Store.Entries
import Clearinghouse.Proofs.Store.Journal

namespace Clearinghouse.Batch

open Holdings

variable {S : Type} {b : Backend S} {keys : KeyRegistry} {policy : Policy} {s s' : Store S}
  {op : Operation} {e : StoreError} {kind : Staged → Prop} {id : AccountId}
  {done : List (Nat × Operation)} {left : List ((Nat × Operation) × StoreError)}

/-! ## The operations of a transaction -/

section

variable (copies : ∀ balance, kind ⟨some balance, balance, false⟩)
include copies

/-- An operation that is applied leaves the accounts as they are that it does not name. -/
theorem stagedAs_of_done (opened : s.initialized = true) (transaction : s.inTransaction = true)
    (positive : 0 < op.amount) (applied : apply b op s = (.ok (), s'))
    (unnamed : ¬ (op.sender = id ∨ op.receiver = id)) (staged : s.StagedAs kind id) :
    s'.StagedAs kind id := by
  rcases apply_cases (b := b) opened transaction positive with ⟨e, final, -, hfailed⟩ |
    ⟨e, debited, refused, final, -, -, -, hfailed⟩ | ⟨debited, final, hdebit, hcredit, hdone⟩
  · cases applied.symm.trans hfailed
  · cases applied.symm.trans hfailed
  · cases applied.symm.trans hdone
    have hwithin := Store.within_of_update transaction hdebit
    have hdebited := Store.stagedAs_update copies opened transaction hdebit
      (fun hid => absurd (.inl hid) unnamed) staged
    exact Store.stagedAs_update copies (hwithin.initialized.trans opened)
      (hwithin.inTransaction.trans transaction) hcredit (fun hid => absurd (.inr hid) unnamed)
      hdebited

/-- An operation that fails leaves every account as it is but its sender, and rewrites that one
at most. -/
theorem stagedAs_of_left (opened : s.initialized = true) (transaction : s.inTransaction = true)
    (positive : 0 < op.amount) (failed : apply b op s = (.error e, s'))
    (rewrites : op.sender = id → ∀ entry balance, kind entry →
      kind ⟨entry.observed, balance, true⟩)
    (staged : s.StagedAs kind id) : s'.StagedAs kind id := by
  rcases apply_cases (b := b) opened transaction positive with ⟨e, final, hdebit, hfailed⟩ |
    ⟨e, debited, refused, final, hdebit, hcredit, hrefund, hfailed⟩ |
    ⟨debited, final, -, -, hdone⟩
  · cases failed.symm.trans hfailed
    exact Store.stagedAs_update copies opened transaction hdebit (fun _ => .inl ⟨e, rfl⟩) staged
  · cases failed.symm.trans hfailed
    have hwithin := Store.within_of_update transaction hdebit
    have hopened := hwithin.initialized.trans opened
    have htransaction := hwithin.inTransaction.trans transaction
    have hrefused := Store.within_of_update htransaction hcredit
    have hthere := Store.exists_staged_of_debited opened transaction hdebit hcredit
    -- Neither the debit nor its return creates the sender.
    have hdebited := Store.stagedAs_update copies opened transaction hdebit
      (fun hid => .inr ⟨.inl (Balance.not_pos_neg_of_pos positive), rewrites hid⟩) staged
    have hcredited := Store.stagedAs_update copies hopened htransaction hcredit
      (fun _ => .inl ⟨e, rfl⟩) hdebited
    exact Store.stagedAs_update copies (hrefused.initialized.trans hopened)
      (hrefused.inTransaction.trans htransaction) hrefund
      (fun hid => .inr ⟨.inr hthere, rewrites hid⟩) hcredited
  · cases failed.symm.trans hdone

/-- Operations that are worked off leave an account as it is, unless one that was applied names
it; where one was left out that names it as sender, its entry may be rewritten. -/
theorem WorkedOff.stagedAs (worked : WorkedOff b done left s s') (opened : s.initialized = true)
    (transaction : s.inTransaction = true)
    (positive : ∀ entry ∈ done ++ left.map (·.1), 0 < entry.2.amount)
    (unnamed : ∀ entry ∈ done, ¬ (entry.2.sender = id ∨ entry.2.receiver = id))
    (rewrites : ∀ failure ∈ left, failure.1.2.sender = id → ∀ entry balance, kind entry →
      kind ⟨entry.observed, balance, true⟩)
    (staged : s.StagedAs kind id) : s'.StagedAs kind id := by
  induction worked with
  | nil => exact staged
  | @done entry done left s mid s' applied rest ih =>
      have hpositive := List.forall_mem_cons.mp positive
      have hunnamed := List.forall_mem_cons.mp unnamed
      have hwithin := apply_during (b := b) entry.2 s transaction
      rw [applied] at hwithin
      have hmid := stagedAs_of_done copies opened transaction hpositive.1 applied hunnamed.1 staged
      exact ih (hwithin.initialized.trans opened) (hwithin.inTransaction.trans transaction)
        hpositive.2 hunnamed.2 rewrites hmid
  | @left entry e done left s mid s' failed rest ih =>
      have hrewrites := List.forall_mem_cons.mp rewrites
      have hwithin := apply_during (b := b) entry.2 s transaction
      rw [failed] at hwithin
      have hpositive := forall_mem_of_failed positive
      have hmid := stagedAs_of_left copies opened transaction hpositive.1 failed hrewrites.1 staged
      exact ih (hwithin.initialized.trans opened) (hwithin.inTransaction.trans transaction)
        hpositive.2 unnamed hrewrites.2 hmid

end

/-! ## The commit -/

variable {tx : Transaction} {applied : Nat} {skipped : List Rejection}

/-- What was worked off when a batch comes to its commit. -/
theorem ComesToCommit.worksOff (comes : ComesToCommit b keys policy tx s (applied, skipped) s') :
    ∃ s₁ done left, s₁.initialized = true ∧ WorkedOff b done left (Store.begun s₁) s' ∧
      (∀ entry ∈ done ++ left.map (·.1),
        entry ∈ numbered 0 tx.operations ∧ 0 < entry.2.amount) ∧
      (Outcome.committed applied skipped).carriedOut tx.operations = done.map (·.2) ∧
      applied = done.length ∧
      ∀ failure ∈ left, .ofOperation failure.1.1 (.storage failure.2) ∈ skipped := by
  cases comes with
  | @intro found s₁ s₂ _ result screened begun applied =>
      obtain ⟨hopened, -, rfl⟩ := Store.begin_eq_ok begun
      obtain ⟨-, -, hpassed, -⟩ := screen_parts screened
      obtain ⟨hcarried, hcount⟩ := carriedOut_of_applyAll screened applied
      obtain ⟨left, hworked, hparts, -, rfl⟩ := applyAll_worksOff applied
      refine ⟨s₁, _, left, hopened, hworked, ?_, hcarried, hcount, ?_⟩
      · intro entry hmem
        have hfound : entry ∈ found.1 := hparts.mem_iff.mp hmem
        exact ⟨hpassed.subset hfound,
          (checkShape_eq_ok_iff.mp (checkShape_of_mem_screen screened hfound)).2.2.1⟩
      · intro failure hmem
        exact List.mem_append_right _ (List.mem_map_of_mem hmem)

/-- A batch that comes to its commit moves every account by what was applied. An account that no
applied operation names, but that was written all the same, is written back as it was found. It is
the sender of an operation that was left out with a failure of the store. -/
theorem ComesToCommit.change_cases
    (comes : ComesToCommit b keys policy tx s (applied, skipped) s') {staging : Staging}
    (staged : s'.staging = some staging) {change : Change} (flushed : change ∈ staging.changes) :
    let done := (Outcome.committed applied skipped).carriedOut tx.operations
    change.delta = received change.id done - sent change.id done ∧
      ((∃ op ∈ done, op.sender = change.id ∨ op.receiver = change.id) ∨
        change.observed = some change.balance ∧ ∃ entry ∈ numbered 0 tx.operations, ∃ e,
          .ofOperation entry.1 (.storage e) ∈ skipped ∧ entry.2.sender = change.id) := by
  obtain ⟨s₁, done, left, hopened, hworked, hentries, hdone, -, hleft⟩ := comes.worksOff
  rw [hdone]
  intro applied
  have hbegun : (Store.begun s₁).initialized = true := hopened
  have hpositive := fun entry hmem => (hentries entry hmem).2
  obtain ⟨entry, hentry, hwritten, hchange⟩ := Staging.mem_changes.mp flushed
  have hstaged : s'.staged? change.id = some entry :=
    (Store.staged?_of_staging staged change.id).trans hentry
  have hdelta : change.delta = received change.id applied - sent change.id applied := by
    have hpending := (hworked.drifts hbegun rfl (Store.begun_recalled s₁) hpositive).pending
      change.id
    rw [Store.pending_begun, Int.zero_add, Store.pending, hstaged] at hpending
    rw [hchange]
    exact hpending
  refine ⟨hdelta, ?_⟩
  by_cases hnamed : ∃ op ∈ applied, op.sender = change.id ∨ op.receiver = change.id
  · exact .inl hnamed
  right
  have hunnamed : ∀ other ∈ done, ¬ (other.2.sender = change.id ∨ other.2.receiver = change.id) :=
    fun other hmem hsides => hnamed ⟨other.2, List.mem_map_of_mem hmem, hsides⟩
  constructor
  · -- It was found on the medium, and what was found has not moved.
    have hfound : s'.StagedAs (fun entry => entry.observed.isSome = true) change.id :=
      hworked.stagedAs (fun _ => rfl) hbegun rfl hpositive hunnamed
        (fun _ _ _ _ _ hobserved => hobserved) (Store.stagedAs_begun _ s₁ change.id)
    obtain ⟨balance, hbalance⟩ := Option.isSome_iff_exists.mp (hfound entry hstaged)
    rw [received_eq_zero fun op hmem hside => hnamed ⟨op, hmem, .inr hside⟩,
      sent_eq_zero fun op hmem hside => hnamed ⟨op, hmem, .inl hside⟩] at hdelta
    rw [hchange] at hdelta ⊢
    simp only [hbalance, Change.delta, Change.base] at hdelta ⊢
    have hsame : balance = entry.balance := by
      apply Int64.toInt_inj.mp
      omega
    rw [hsame]
  · by_contra hnone
    have hunsent : ∀ failure ∈ left, failure.1.2.sender ≠ change.id := by
      intro failure hmem hsender
      have hmember : failure.1 ∈ done ++ left.map (·.1) :=
        List.mem_append_right done (List.mem_map_of_mem hmem)
      exact hnone ⟨failure.1, (hentries _ hmember).1, failure.2, hleft failure hmem, hsender⟩
    have hunwritten : s'.StagedAs (fun entry => entry.written = false) change.id :=
      hworked.stagedAs (fun _ => rfl) hbegun rfl hpositive hunnamed
        (fun failure hmem hsender => absurd hsender (hunsent failure hmem))
        (Store.stagedAs_begun _ s₁ change.id)
    cases hwritten.symm.trans (hunwritten entry hstaged)

/-- A batch does not see the journal of its medium. -/
theorem process_journaled (b : Backend S) (keys : KeyRegistry) (policy : Policy)
    (tx : Transaction) (s : Store S) :
    (process b.journaled keys policy tx s.withJournal).1 = (process b keys policy tx s).1 := by
  have hinStep := Store.inStep_of_parallels b.journaled_parallels
  have hpaired : Store.Paired (fun m n => m.1 = n) s.withJournal s := ⟨rfl, rfl, rfl⟩
  have hnamed : tx.Names fun _ => True := fun op hmem => ⟨trivial, trivial⟩
  exact ((process_alike hinStep keys policy hnamed).agrees hpaired trivial).1

/-- A batch asks for no flush, or it comes to its commit and asks for one, of the changes of its
transaction. How that ends decides what is reported. -/
theorem journal_of_process (b : Backend S) (keys : KeyRegistry) (policy : Policy)
    (tx : Transaction) (s : Store S) :
    let run := process b.journaled keys policy tx s.withJournal
    run.2.medium.2 = [] ∨ ∃ flush applied skipped last staging,
      ComesToCommit b.journaled keys policy tx s.withJournal (applied, skipped) last ∧
      last.staging = some staging ∧ flush.changes = staging.changes ∧
      run.2.medium.2 = [flush] ∧
      run.1 = report ((flush.answer.mapError fun e => .ofBatch (.storage e)).map fun _ =>
        (applied, skipped)) := by
  intro run
  by_cases htransaction : s.inTransaction = true
  · have hprocess : run = _ := process_of_transaction (b := b.journaled) (s := s.withJournal)
      htransaction tx
    rw [hprocess]
    exact .inl rfl
  have hidle : s.withJournal.staging = none := by
    simpa [Store.inTransaction, Store.withJournal] using htransaction
  have hunflushed : ∀ {m : S × List Flush}, b.journaled.OnlyRead s.withJournal.medium m → m.2 = [] :=
    fun hread => hread.eq_of_load fun _ _ => rfl
  have hprocess : run = _ := process_apply tx s.withJournal
  obtain ⟨rejection, final, hrun, -, hread⟩ | ⟨found, s₁, result, mid, hscreen, hreads, hopened,
    happly, hwithin, hrun⟩ := run_cases b.journaled keys policy hidle tx
  · rw [hprocess, hrun]
    exact .inl (hunflushed hread)
  have hidle₁ : s₁.staging = none := by
    simpa [Store.inTransaction, hidle] using hreads.inTransaction
  have hbegun : (Store.begun s₁).initialized = true := hopened
  obtain ⟨staging, hstaging⟩ := Option.isSome_iff_exists.mp hwithin.inTransaction
  have hmid : mid.medium.2 = [] := hunflushed (hreads.read.trans hwithin.read)
  rw [hprocess, hrun, Store.commit_of_staging (hwithin.initialized.trans hbegun) hstaging]
  split
  · exact .inl hmid
  · refine .inr ⟨⟨staging.changes, (b.flush staging.changes mid.medium.1).1⟩, result.1,
      found.2 ++ result.2, mid, staging,
      .intro hscreen (Store.begin_of_idle hopened hidle₁) happly, hstaging, rfl, ?_, rfl⟩
    change mid.medium.2 ++ _ = _
    rw [hmid]
    rfl

/-- A batch asks its medium for one flush at most, and the flush moves every account by what the
applied operations come to. An account that none of these names occurs in it only with the balance
that it was found with, and only if it is the sender of an operation that was left out with a
failure of the store. -/
theorem process_flushes (b : Backend S) (keys : KeyRegistry) (policy : Policy) (tx : Transaction)
    (s : Store S) :
    let run := process b.journaled keys policy tx s.withJournal
    run.1 = (process b keys policy tx s).1 ∧
    (run.2.medium.2 = [] ∨ ∃ flush applied skipped last,
      run.2.medium.2 = [flush] ∧
      ComesToCommit b.journaled keys policy tx s.withJournal (applied, skipped) last ∧
      run.1 = report ((flush.answer.mapError fun e => .ofBatch (.storage e)).map fun _ =>
        (applied, skipped)) ∧
      let done := (Outcome.committed applied skipped).carriedOut tx.operations
      done.length = applied ∧ ∀ change ∈ flush.changes,
        change.delta = received change.id done - sent change.id done ∧
        ((∃ op ∈ done, op.sender = change.id ∨ op.receiver = change.id) ∨
          change.observed = some change.balance ∧ ∃ entry ∈ numbered 0 tx.operations, ∃ e,
            .ofOperation entry.1 (.storage e) ∈ skipped ∧ entry.2.sender = change.id)) := by
  intro run
  refine ⟨process_journaled b keys policy tx s, ?_⟩
  obtain hnone | ⟨flush, applied, skipped, last, staging, hcomes, hstaging, hchanges, hjournal,
    hreport⟩ := journal_of_process b keys policy tx s
  · exact .inl hnone
  · refine .inr ⟨flush, applied, skipped, last, hjournal, hcomes, hreport, ?_, ?_⟩
    · obtain ⟨_, done, _, -, -, -, hdone, happlied, -⟩ := hcomes.worksOff
      rw [hdone, happlied, List.length_map]
    · intro change hmem
      rw [hchanges] at hmem
      exact hcomes.change_cases hstaging hmem

/-- The receiver can hold no more, so the only operation of the batch fails after its debit and is
left out. Nothing was applied, and still the sender is flushed. The key is the neutral point, which
signs everything. -/
theorem memory_flushes_what_was_left_out :
    let key : Signature.PublicKey := ⟨1 :: List.replicate 31 0, Signature.Point.zero⟩
    let signature : List UInt8 := (1 :: List.replicate 31 0) ++ List.replicate 32 0
    let keys : KeyRegistry := (∅ : KeyRegistry).insert 1 key
    let tx : Transaction := ⟨[⟨1, 2, 10, signature⟩]⟩
    let s : Store Table := ⟨((∅ : Table).insert 1 100).insert 2 Int64.maxValue, true, none⟩
    let run := process Memory.backend.journaled keys .skipFailed tx s.withJournal
    run.1 = .committed 0 [⟨some 0, .storage (.balanceOverflow 2)⟩] ∧
      run.2.medium.2.map (·.changes) = [[⟨1, some 100, 100⟩]] := by
  decide +kernel

end Clearinghouse.Batch
