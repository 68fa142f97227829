/-
# One transfer inside an open transaction

A transfer is a debit, a credit and, if the credit fails, a refund. Each of them may have to
load an account, and any load may fail. What accounts hold as the open transaction sees them
then moves by the whole transfer or stays exactly as it was, and the transaction stays open.
The refund itself never fails: it moves an account that has an entry, so nothing is loaded,
and it leads back to a balance that was there before.
-/

import Clearinghouse.Proofs.Batch.Conservation
import Clearinghouse.Proofs.Batch.Fulfilling
import Clearinghouse.Proofs.Store.Entries

namespace Clearinghouse

/-! ## What an open transaction sees -/

namespace Store

variable {S : Type} {b : Backend S} {holdings : S → Holdings} {s : Store S} {id : AccountId}

/-- What accounts hold as a store sees them: as the open transaction has them, and else as
they are on the medium. -/
def seen (holdings : S → Holdings) (s : Store S) : Holdings := fun id =>
  ((s.staged? id).map (·.balance.toInt)).or (holdings s.medium id)

theorem seen_of_staged {entry : Staged} (staged : s.staged? id = some entry) :
    s.seen holdings id = some entry.balance.toInt := by
  rw [seen, staged]
  rfl

theorem seen_of_unstaged (unstaged : s.staged? id = none) :
    s.seen holdings id = holdings s.medium id := by
  rw [seen, unstaged]
  rfl

/-- An entry of the transaction hides what it had of its account, and of no other. -/
theorem seen_insert {staging : Staging} (staged : s.staging = some staging) (id : AccountId)
    (entry : Staged) :
    ({ s with staging := some (staging.insert id entry) } : Store S).seen holdings =
      fun other => if id = other then some entry.balance.toInt else s.seen holdings other := by
  funext other
  rw [seen, staged?_insert, ← staged?_of_staging staged]
  split
  · rfl
  · rw [seen]

section

variable (tells : b.Tells holdings)
include tells

theorem seen_loaded (id : AccountId) (s : Store S) :
    (loaded b id s).seen holdings = s.seen holdings := by
  funext other
  change ((s.staged? other).map _).or (holdings (b.load id s.medium).2 other) = _
  rw [tells.load_holdings, seen]

omit tells in
/-- A copy of what the medium has looks like what it is a copy of. -/
theorem seen_copied (unstaged : s.staged? id = none) {balance : Balance}
    (held : holdings s.medium id = some balance.toInt) :
    (copied id balance s).seen holdings = s.seen holdings := by
  cases hstaging : s.staging with
  | none =>
      have hself : copied id balance s = s := by
        rw [copied, hstaging, Option.map_none, ← hstaging]
      rw [hself]
  | some staging =>
      have hcopied : copied id balance s =
          { s with staging := some (staging.insert id ⟨some balance, balance, false⟩) } := by
        rw [copied, hstaging, Option.map_some]
      rw [hcopied, seen_insert hstaging]
      funext other
      split
      · next hid => rw [← hid, seen_of_unstaged unstaged, held]
      · rfl

/-- Observing an account tells what is seen of it, or fails. It changes nothing that is
seen. -/
theorem observe_seen (id : AccountId) (s : Store S) :
    (observe b id s).2.seen holdings = s.seen holdings ∧
      ∀ found, (observe b id s).1 = .ok found → s.seen holdings id = found.map (·.toInt) := by
  rw [observe_apply]
  cases hstaged : s.staged? id with
  | some entry =>
      refine ⟨rfl, fun found answered => ?_⟩
      cases answered
      exact seen_of_staged hstaged
  | none =>
      have hloaded := seen_loaded tells id s
      dsimp only
      cases hanswer : (b.load id s.medium).1 with
      | error e => exact ⟨hloaded, nofun⟩
      | ok answer =>
          have hheld := tells.load_answer hanswer
          have hseen : s.seen holdings id = answer.map (·.balance.toInt) :=
            (seen_of_unstaged hstaged).trans hheld
          cases answer with
          | none =>
              refine ⟨hloaded, fun found answered => ?_⟩
              cases answered
              exact hseen
          | some account =>
              refine ⟨?_, fun found answered => ?_⟩
              · have hstill : holdings (loaded b id s).medium id = some account.balance.toInt :=
                  (congrFun (tells.load_holdings id s.medium) id).trans hheld
                have hunstaged : (loaded b id s).staged? id = none := hstaged
                exact (seen_copied hunstaged hstill).trans hloaded
              · cases answered
                exact hseen

omit tells in
/-- Inside a transaction a balance that is written is the one that is seen. -/
theorem write_seen (transaction : s.inTransaction = true) (id : AccountId)
    (observed : Option Balance) (balance : Balance) :
    ∃ s', write b id observed balance s = (.ok (), s') ∧
      s'.seen holdings = fun other =>
        if id = other then some balance.toInt else s.seen holdings other := by
  obtain ⟨staging, hstaging⟩ := Option.isSome_iff_exists.mp transaction
  rw [write_apply, hstaging]
  simp only [Staging.write_eq_insert]
  exact ⟨_, rfl, seen_insert hstaging id _⟩

/-- Inside a transaction an update moves what is seen of its account, or fails and changes
nothing that is seen. Only a positive movement brings an account into being. -/
theorem update_seen (opened : s.initialized = true) (transaction : s.inTransaction = true)
    (id : AccountId) (delta : Balance) :
    (∃ e s', update b id delta s = (.error e, s') ∧ s'.seen holdings = s.seen holdings) ∨
      ∃ s', update b id delta s = (.ok (), s') ∧
        s'.seen holdings = (s.seen holdings).move id delta.toInt ∧
        (0 < delta ∨ (s.seen holdings id).isSome) := by
  obtain ⟨hstill, htold⟩ := observe_seen tells id s
  obtain ⟨e, hrun⟩ | ⟨found, balance, hanswer, hrun, -, hexact, hcredit⟩ :=
    update_cases (b := b) opened id delta
  · exact .inl ⟨e, _, hrun, hstill⟩
  have htransaction := (observe_reads (b := b) id s).inTransaction.trans transaction
  obtain ⟨s', hwrite, hseen⟩ : ∃ s', write b id found balance (observe b id s).2 = (.ok (), s') ∧
      s'.seen holdings = fun other =>
        if id = other then some balance.toInt else (observe b id s).2.seen holdings other :=
    write_seen htransaction id found balance
  have hfound := htold found hanswer
  refine .inr ⟨s', hrun.trans hwrite, ?_, ?_⟩
  · rw [hseen, hstill]
    funext other
    rw [Holdings.move, Holdings.total, hfound, hexact]
  · rw [hfound]
    cases found with
    | none => exact .inl (hcredit rfl)
    | some held => exact .inr rfl

end

/-- An update of an account that has an entry leaves the medium alone. -/
theorem medium_of_update_staged {entry : Staged} {delta : Balance} {s' : Store S}
    (opened : s.initialized = true) (transaction : s.inTransaction = true)
    (staged : s.staged? id = some entry) (updated : update b id delta s = (.ok (), s')) :
    s'.medium = s.medium := by
  have hobserved := observe_of_staged (b := b) staged
  obtain ⟨e, hrun⟩ | ⟨found, balance, -, hrun, -⟩ := update_cases (b := b) opened id delta
  · cases updated.symm.trans hrun
  obtain ⟨staging, hstaging⟩ := Option.isSome_iff_exists.mp transaction
  rw [hobserved, write_apply, hstaging] at hrun
  cases updated.symm.trans hrun
  rfl

end Store

/-! ## Transfers -/

/-- From some holdings to others exactly one transfer was made. Its sender was there, an
account that it is made to is there afterwards, and if both are one account nothing moved. -/
structure Holdings.Pays (before : Holdings) (op : Operation) (after : Holdings) : Prop where
  sender_there : (before op.sender).isSome
  debited : op.sender ≠ op.receiver →
    after op.sender = some (before.total op.sender - op.amount.toInt)
  credited : op.sender ≠ op.receiver →
    after op.receiver = some (before.total op.receiver + op.amount.toInt)
  unmoved : op.sender = op.receiver → after = before
  others : ∀ id, id ≠ op.sender → id ≠ op.receiver → after id = before id

/-- A transfer from an account that is there is paid. -/
theorem Holdings.pays_transfer {before : Holdings} {op : Operation}
    (there : (before op.sender).isSome) : before.Pays op (before.transfer op) where
  sender_there := there
  debited apart := by
    rw [transfer_apply, if_pos (.inl rfl), total_transfer, if_neg (Ne.symm apart), if_pos rfl,
      Int.add_zero]
  credited apart := by
    rw [transfer_apply, if_pos (.inr rfl), total_transfer, if_pos rfl, if_neg apart, Int.sub_zero]
  unmoved same := by
    rw [transfer, debit, ← same, move_move_neg there]
  others id hsender hreceiver := by
    rw [transfer_apply, if_neg (not_or.mpr ⟨Ne.symm hsender, Ne.symm hreceiver⟩)]

namespace Batch

variable {S : Type} {b : Backend S} {holdings : S → Holdings} {s : Store S} {op : Operation}

theorem apply_of_closed (closed : s.initialized = false) :
    apply b op s = (.error .notInitialized, s) := by
  apply apply_of_debit_failed
  rw [Store.update, Store.ensureInitialized_bind_of_closed closed]

/-- A debit whose credit failed is refunded, over any medium whatever its loads answer. The
refund does not ask the medium, and the operation reports the failure of the credit. -/
theorem refund_of_credit_failed (transaction : s.inTransaction = true) (positive : 0 < op.amount)
    {debited refused : Store S} {e : StoreError}
    (debits : Store.update b op.sender (-op.amount) s = (.ok (), debited))
    (refuses : Store.update b op.receiver op.amount debited = (.error e, refused)) :
    ∃ refunded, Store.update b op.sender op.amount refused = (.ok (), refunded) ∧
      refunded.medium = refused.medium ∧ apply b op s = (.error e, refunded) := by
  cases hopened : s.initialized with
  | false =>
      rw [Store.update, Store.ensureInitialized_bind_of_closed hopened] at debits
      cases debits
  | true =>
      have hdebited := Store.within_of_update transaction debits
      have hrefused := Store.within_of_update (hdebited.inTransaction.trans transaction) refuses
      have hwithin : Store.Within b s refused := IsTrans.trans _ _ _ hdebited hrefused
      obtain ⟨entry, hstaged⟩ :=
        Store.exists_staged_of_debited hopened transaction debits refuses
      obtain ⟨refunded, hrefund, happly⟩ :=
        apply_of_credit_failed hopened transaction positive debits refuses
      exact ⟨refunded, hrefund,
        Store.medium_of_update_staged (hwithin.initialized.trans hopened)
          (hwithin.inTransaction.trans transaction) hstaged hrefund, happly⟩

/-- An operation that is applied is a transfer of what is seen, by a sender that is there. One
that fails changes nothing that is seen. -/
theorem apply_seen (tells : b.Tells holdings) (opened : s.initialized = true)
    (transaction : s.inTransaction = true) (positive : 0 < op.amount) :
    (∃ e s', apply b op s = (.error e, s') ∧ s'.seen holdings = s.seen holdings) ∨
      ∃ s', apply b op s = (.ok (), s') ∧ (s.seen holdings op.sender).isSome ∧
        s'.seen holdings = (s.seen holdings).transfer op := by
  obtain ⟨e, s', hdebit, hstill⟩ | ⟨debited, hdebit, hmoved, hthere⟩ :=
    Store.update_seen tells opened transaction op.sender (-op.amount)
  · exact .inl ⟨e, s', apply_of_debit_failed hdebit, hstill⟩
  have hsender : (s.seen holdings op.sender).isSome :=
    hthere.resolve_left (Balance.not_pos_neg_of_pos positive)
  have hdebited := Store.within_of_update transaction hdebit
  have hopened := hdebited.initialized.trans opened
  have htransaction := hdebited.inTransaction.trans transaction
  rw [Balance.toInt_neg_of_pos positive] at hmoved
  obtain ⟨e, refused, hcredit, hstill⟩ | ⟨credited, hcredit, hcredited, -⟩ :=
    Store.update_seen tells hopened htransaction op.receiver op.amount
  · -- The refund is an update like the others, so it moves what is seen back.
    obtain ⟨refunded, hrefund, -, happly⟩ :=
      refund_of_credit_failed transaction positive hdebit hcredit
    have hrefused := Store.within_of_update htransaction hcredit
    obtain ⟨_, _, hfailed, -⟩ | ⟨_, hdone, hback, -⟩ := Store.update_seen tells
      (hrefused.initialized.trans hopened) (hrefused.inTransaction.trans htransaction)
      op.sender op.amount
    · cases hrefund.symm.trans hfailed
    cases hrefund.symm.trans hdone
    refine .inl ⟨e, _, happly, ?_⟩
    rw [hback, hstill, hmoved, Holdings.move_move_neg hsender]
  · refine .inr ⟨credited, apply_of_done hdebit hcredit, hsender, ?_⟩
    rw [hcredited, hmoved, Holdings.transfer, Holdings.debit]

/-- A transfer is made as a whole or not at all. Over any medium, whatever its loads answer,
the transaction stays open, and a debit whose credit failed is refunded without asking the
medium and without fail. If loads that succeed tell what accounts hold, then either exactly
the amount has gone from the sender to the receiver, as the transaction sees it, or the
operation reports a failure and every account is there or not, with the balance that it had. -/
theorem apply_is_indivisible (transaction : s.inTransaction = true) (positive : 0 < op.amount) :
    (apply b op s).2.inTransaction = true ∧
      (∀ debited e refused, Store.update b op.sender (-op.amount) s = (.ok (), debited) →
        Store.update b op.receiver op.amount debited = (.error e, refused) →
        ∃ refunded, Store.update b op.sender op.amount refused = (.ok (), refunded) ∧
          refunded.medium = refused.medium ∧ apply b op s = (.error e, refunded)) ∧
      ∀ holdings : S → Holdings, b.Tells holdings →
        ((apply b op s).1 = .ok () ∧
            (s.seen holdings).Pays op ((apply b op s).2.seen holdings)) ∨
          ∃ e, (apply b op s).1 = .error e ∧
            (apply b op s).2.seen holdings = s.seen holdings := by
  refine ⟨(apply_during op s transaction).inTransaction.trans transaction,
    fun debited e refused => refund_of_credit_failed transaction positive, ?_⟩
  intro holdings tells
  cases hopened : s.initialized with
  | false =>
      rw [apply_of_closed hopened]
      exact .inr ⟨_, rfl, rfl⟩
  | true =>
      obtain ⟨e, s', happly, hstill⟩ | ⟨s', happly, hthere, hpaid⟩ :=
        apply_seen tells hopened transaction positive
      · rw [happly]
        exact .inr ⟨e, rfl, hstill⟩
      · rw [happly]
        refine .inl ⟨rfl, ?_⟩
        rw [hpaid]
        exact Holdings.pays_transfer hthere

/-- The load for the debit goes through and the one for the credit fails. The account that was
debited down from the largest balance has it again. -/
theorem recording_refunds_the_largest_balance :
    let m : Recording.State :=
      ⟨((∅ : Table).insert 1 Int64.maxValue).insert 2 3, [], some ⟨.load, 1, ()⟩⟩
    let s : Store Recording.State := ⟨m, true, some ∅⟩
    let op : Operation := ⟨1, 2, Int64.maxValue, []⟩
    0 < op.amount ∧ (apply Recording.backend op s).1 = .error (.medium "load" "injected failure") ∧
      (apply Recording.backend op s).2.seen (fun m => m.table.holdings) =
        s.seen fun m => m.table.holdings := by
  intro m s op
  have hfailed : (apply Recording.backend op s).1 =
      .error (.medium "load" "injected failure") := by
    decide +kernel
  have hpositive : 0 < op.amount := by decide
  obtain ⟨-, -, hwhole⟩ := @apply_is_indivisible _ Recording.backend s op rfl hpositive
  obtain ⟨hdone, -⟩ | ⟨e, -, hstill⟩ := hwhole _ Recording.backend_tells
  · cases hfailed.symm.trans hdone
  · exact ⟨hpositive, hfailed, hstill⟩

end Batch

end Clearinghouse
