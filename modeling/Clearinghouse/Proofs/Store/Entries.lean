/-
# What becomes of the entries of a transaction

An entry comes into a transaction as a copy of what the medium has, or as a new account. From
then on an update that fails leaves it alone, and one that succeeds rewrites it and keeps what it
says was observed. This is said here of one account and one kind of entry at a time, so that it
can be followed through updates of any accounts.
-/

import Clearinghouse.Proofs.Store.Mirroring
import Clearinghouse.Proofs.Store.Transactions

namespace Clearinghouse.Store

variable {S : Type} {b : Backend S} {s s' : Store S} {kind : Staged → Prop}
  {id other : AccountId} {delta : Balance}

/-- If the open transaction has an entry for an account, the entry is of a certain kind. -/
def StagedAs (kind : Staged → Prop) (s : Store S) (id : AccountId) : Prop :=
  ∀ entry, s.staged? id = some entry → kind entry

theorem stagedAs_begun (kind : Staged → Prop) (s : Store S) (id : AccountId) :
    (begun s).StagedAs kind id := by
  intro entry hentry
  simp [begun, staged?] at hentry

/-- An account that was observed to be there has an entry with the balance observed. -/
theorem exists_staged_of_observed (transaction : s.inTransaction = true) {balance : Balance}
    (observed : (observe b id s).1 = .ok (some balance)) :
    ∃ entry, (observe b id s).2.staged? id = some entry ∧ entry.balance = balance := by
  rw [observe_apply] at observed ⊢
  cases hstaged : s.staged? id with
  | some entry =>
      rw [hstaged] at observed
      cases observed
      exact ⟨entry, hstaged, rfl⟩
  | none =>
      rw [hstaged] at observed
      dsimp only at observed ⊢
      cases hanswer : (b.load id s.medium).1 with
      | error e =>
          rw [hanswer] at observed
          cases observed
      | ok found =>
          rw [hanswer] at observed
          cases found with
          | none => cases observed
          | some account =>
              cases observed
              obtain ⟨staging, hstaging⟩ := Option.isSome_iff_exists.mp transaction
              have hcopied : (copied id account.balance (loaded b id s)).staged? id =
                  some ⟨some account.balance, account.balance, false⟩ := by
                simp [copied, loaded, staged?, hstaging]
              exact ⟨_, hcopied, rfl⟩

/-- Inside a transaction an update fails once it has observed its account, or it enters the new
balance for it and keeps what the entry says was observed. -/
theorem update_enters (opened : s.initialized = true) (transaction : s.inTransaction = true)
    (id : AccountId) (delta : Balance) :
    (∃ e, update b id delta s = (.error e, (observe b id s).2)) ∨
      ∃ found balance s', (observe b id s).1 = .ok found ∧ (found = none → 0 < delta) ∧
        update b id delta s = (.ok (), s') ∧ ∀ other, s'.staged? other =
          if id = other then
            some ⟨(((observe b id s).2.staged? id).map (·.observed)).getD found, balance, true⟩
          else (observe b id s).2.staged? other := by
  obtain ⟨e, hrun⟩ | ⟨found, balance, hfound, hrun, -, -, hcredit⟩ :=
    update_cases (b := b) opened id delta
  · exact .inl ⟨e, hrun⟩
  · have htransaction : (observe b id s).2.inTransaction = true :=
      (observe_reads id s).inTransaction.trans transaction
    obtain ⟨staging, hstaging⟩ := Option.isSome_iff_exists.mp htransaction
    have hentry := staged?_of_staging hstaging
    rw [write_apply, hstaging] at hrun
    simp only [Staging.write_eq_insert] at hrun
    refine .inr ⟨found, balance, _, hfound, hcredit, hrun, fun other => ?_⟩
    rw [staged?_insert, hentry, hentry]

theorem within_of_update (transaction : s.inTransaction = true) {delta : Balance}
    {answer : Except StoreError Unit} (run : update b id delta s = (answer, s')) :
    Within b s s' := by
  have hwithin := update_during (b := b) id delta s transaction
  rwa [run] at hwithin

/-- An account that was debited has an entry, and a credit that fails does not remove it. -/
theorem exists_staged_of_debited (opened : s.initialized = true)
    (transaction : s.inTransaction = true) {debited : Store S} {receiver : AccountId}
    {debit credit : Balance} (debits : update b id debit s = (.ok (), debited))
    (refused : update b receiver credit debited = (.error e, s')) :
    ∃ entry, s'.staged? id = some entry := by
  have hwithin := within_of_update transaction debits
  obtain ⟨_, _, hrun, -⟩ | ⟨_, entry, hrun, -, hstaged, -⟩ :=
    update_stages (b := b) opened transaction id debit
  · cases debits.symm.trans hrun
  cases debits.symm.trans hrun
  obtain ⟨_, _, hrun, hreads⟩ | ⟨_, _, hrun, -⟩ :=
    update_stages (b := b) (hwithin.initialized.trans opened)
      (hwithin.inTransaction.trans transaction) receiver credit
  · cases refused.symm.trans hrun
    exact ⟨entry, hreads.kept hstaged⟩
  · cases refused.symm.trans hrun

/-! Whatever is true of an entry that was copied from the medium stays true of an account that
is only observed. -/

section

variable (copies : ∀ balance, kind ⟨some balance, balance, false⟩)
include copies

theorem stagedAs_observe (staged : s.StagedAs kind other) (id : AccountId) :
    (observe b id s).2.StagedAs kind other := by
  rw [observe_apply]
  cases hstaged : s.staged? id with
  | some entry => exact staged
  | none =>
      dsimp only
      have hloaded : (loaded b id s).StagedAs kind other := staged
      cases (b.load id s.medium).1 with
      | error e => exact hloaded
      | ok found =>
          cases found with
          | none => exact hloaded
          | some account =>
              intro entry hentry
              cases hstaging : s.staging with
              | none => simp [copied, loaded, staged?, hstaging] at hentry
              | some staging =>
                  simp only [copied, loaded, hstaging, Option.map_some, staged?_insert] at hentry
                  split at hentry
                  · cases hentry
                    exact copies account.balance
                  · exact staged entry ((staged?_of_staging hstaging other).trans hentry)

/-- An update leaves other accounts as they are, and its own if it fails. Otherwise it rewrites
the entry of its own account, unless it creates the account. -/
theorem stagedAs_update {answer : Except StoreError Unit} (opened : s.initialized = true)
    (transaction : s.inTransaction = true) (run : update b id delta s = (answer, s'))
    (spared : id = other → (∃ e, answer = .error e) ∨
      (¬ 0 < delta ∨ ∃ entry, s.staged? id = some entry) ∧
        ∀ entry balance, kind entry → kind ⟨entry.observed, balance, true⟩)
    (staged : s.StagedAs kind other) : s'.StagedAs kind other := by
  have hobserved := stagedAs_observe copies (b := b) staged id
  obtain ⟨e, hrun⟩ | ⟨found, balance, final, hfound, hcredit, hrun, hentries⟩ :=
    update_enters (b := b) opened transaction id delta
  · cases run.symm.trans hrun
    exact hobserved
  cases run.symm.trans hrun
  intro entry hentry
  rw [hentries] at hentry
  split at hentry
  · next hid =>
      subst hid
      obtain ⟨e, hfailed⟩ | ⟨hthere, hrewrites⟩ := spared rfl
      · cases hfailed
      have hpresent : ∃ held, (observe b id s).2.staged? id = some held := by
        rcases hthere with hdebit | ⟨held, hheld⟩
        · cases found with
          | none => exact absurd (hcredit rfl) hdebit
          | some held =>
              obtain ⟨entry, hentry, -⟩ := exists_staged_of_observed transaction hfound
              exact ⟨entry, hentry⟩
        · exact ⟨held, (observe_reads id s).kept hheld⟩
      obtain ⟨held, hheld⟩ := hpresent
      rw [hheld] at hentry
      cases hentry
      exact hrewrites held balance (hobserved held hheld)
  · exact hobserved entry hentry

end

end Clearinghouse.Store
