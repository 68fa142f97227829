/-
# Applying one transfer

Inside a transaction a transfer is a debit and a credit, and a debit that is taken
back if the credit fails. On the table that the transaction shows this comes to
both halves or to nothing, whether a rule refuses one of them or the medium
fails. Which of the two it is, the exact sums decide.
-/

import Clearinghouse.Proofs.Batch.Holdings
import Clearinghouse.Proofs.Batch.Phases

namespace Clearinghouse

namespace Table

/-- Both halves of a transfer, or nothing. -/
def transfer (op : Operation) : Step Table Unit := fun table =>
  match move op.sender (-op.amount) table with
  | (.error e, _) => (.error e, table)
  | (.ok (), debited) =>
    match move op.receiver op.amount debited with
    | (.error e, _) => (.error e, table)
    | (.ok (), credited) => (.ok (), credited)

section

variable {table : Table} {id : AccountId} {delta amount : Balance}

theorem holdings_insert (table : Table) (id : AccountId) (balance : Balance) (other : AccountId) :
    holdings (table.insert id balance) other =
      if id = other then some balance.toInt else table.holdings other := by
  rw [holdings, holdings, Std.ExtTreeMap.getElem?_insert]
  by_cases hid : id = other <;> simp [hid]

/-- A movement to a number that may be written is written. -/
theorem move_of_isBalance (moves : delta ≠ 0)
    (fits : Holdings.IsBalance (table.holdings.total id + delta.toInt)) :
    ∃ moved, move id delta table = (.ok (), moved) ∧
      moved.holdings = table.holdings.move id delta.toInt := by
  have hinserted : ∀ balance : Balance, balance.toInt = table.holdings.total id + delta.toInt →
      holdings (table.insert id balance) = table.holdings.move id delta.toInt := by
    intro balance hbalance
    funext other
    rw [holdings_insert, hbalance, Holdings.move]
  cases hfound : table[id]? with
  | none =>
      have htotal : table.holdings.total id = 0 := by simp [Holdings.total, holdings, hfound]
      have hpositive : 0 < delta := by
        have hzero : delta.toInt ≠ 0 := fun hzero =>
          moves (Int64.toInt_inj.mp (hzero.trans Int64.toInt_zero.symm))
        have hlower := fits.1
        rw [Int64.lt_iff_toInt_lt, Int64.toInt_zero]
        omega
      refine ⟨table.insert id delta, ?_, hinserted delta (by rw [htotal, Int.zero_add])⟩
      simp only [move, hfound, if_pos hpositive]
  | some balance =>
      have htotal : table.holdings.total id = balance.toInt := by
        simp [Holdings.total, holdings, hfound]
      rw [htotal] at fits
      have hrange : Balance.InRange (balance.toInt + delta.toInt) :=
        ⟨Int.le_trans (by decide) fits.1, fits.2⟩
      have hsum : (Int64.ofInt (balance.toInt + delta.toInt)).toInt =
          balance.toInt + delta.toInt :=
        Balance.ofInt?_eq_some_iff.mp (if_pos hrange)
      refine ⟨table.insert id (Int64.ofInt (balance.toInt + delta.toInt)), ?_,
        hinserted _ (by rw [hsum, htotal])⟩
      simp only [move, hfound]
      rw [if_neg (not_not_intro hrange), if_neg (Int.not_lt.mpr fits.1)]

/-- A movement to any other number is refused by a rule. -/
theorem move_of_not_isBalance
    (stuck : ¬ Holdings.IsBalance (table.holdings.total id + delta.toInt)) :
    ∃ e, move id delta table = (.error e, table) ∧ e.isDomain = true := by
  cases hfound : table[id]? with
  | none =>
      have htotal : table.holdings.total id = 0 := by simp [Holdings.total, holdings, hfound]
      have hnegative : ¬ 0 < delta := by
        intro hpositive
        have hlower : 0 < delta.toInt := Int64.lt_iff_toInt_lt.mp hpositive
        rw [htotal, Int.zero_add] at stuck
        exact stuck ⟨Int.le_of_lt hlower, delta.toInt_le⟩
      refine ⟨.accountNotFound id, ?_, rfl⟩
      simp only [move, hfound, if_neg hnegative]
  | some balance =>
      have htotal : table.holdings.total id = balance.toInt := by
        simp [Holdings.total, holdings, hfound]
      rw [htotal] at stuck
      by_cases hrange : Balance.InRange (balance.toInt + delta.toInt)
      · have hnegative : balance.toInt + delta.toInt < 0 := by
          by_cases hsum : balance.toInt + delta.toInt < 0
          · exact hsum
          · exact absurd ⟨Int.not_lt.mp hsum, hrange.2⟩ stuck
        refine ⟨.insufficientBalance id balance delta, ?_, rfl⟩
        simp only [move, hfound]
        rw [if_neg (not_not_intro hrange), if_pos hnegative]
      · refine ⟨.balanceOverflow id, ?_, rfl⟩
        simp only [move, hfound]
        rw [if_pos hrange]

/-- What was debited can be put back. -/
theorem move_of_debited {debited : Table} (positive : 0 < amount)
    (moved : move id (-amount) table = (.ok (), debited)) :
    move id amount debited = (.ok (), table) := by
  have hamount : 0 < amount.toInt := Int64.lt_iff_toInt_lt.mp positive
  cases hfound : table[id]? with
  | none =>
      simp only [move, hfound, if_neg (Balance.not_pos_neg_of_pos positive)] at moved
      cases moved
  | some balance =>
      rw [Store.move_of_some hfound] at moved
      cases hsum : balance.add? (-amount) with
      | none =>
          rw [hsum] at moved
          cases moved
      | some sum =>
          rw [hsum] at moved
          dsimp only at moved
          by_cases hnegative : sum < 0
          · rw [if_pos hnegative] at moved
            cases moved
          rw [if_neg hnegative] at moved
          cases moved
          have hback : sum.add? amount = some balance := Balance.add?_of_debited positive hsum
          have hnonnegative : ¬ balance < 0 := by
            have hvalue := Balance.add?_eq_some_iff.mp hback
            rw [Int64.lt_iff_toInt_lt, Int64.toInt_zero] at hnegative ⊢
            omega
          have hinserted : (table.insert id sum)[id]? = some sum := by simp
          have hrestored : (table.insert id sum).insert id balance = table := by
            apply Std.ExtTreeMap.ext_getElem?
            intro other
            by_cases hid : id = other
            · subst other
              simp [hfound]
            · simp [Std.ExtTreeMap.getElem?_insert, hid]
          rw [Store.move_of_some hinserted, hback]
          dsimp only
          rw [if_neg hnonnegative, hrestored]

theorem eq_of_move_error {moved : Table} {e : StoreError}
    (failed : move id delta table = (.error e, moved)) : moved = table := by
  unfold move at failed
  split at failed
  · split at failed <;> cases failed
    rfl
  · dsimp only at failed
    split at failed
    · cases failed
      rfl
    · split at failed <;> cases failed
      rfl

/-- A debit and a credit move what a table holds as the two halves of a transfer. -/
theorem holdings_debited {op : Operation} {debited : Table} (positive : 0 < op.amount)
    (moved : debited.holdings = table.holdings.move op.sender (-op.amount).toInt) :
    debited.holdings = table.holdings.debit op := by
  rw [moved, Balance.toInt_neg_of_pos positive, Holdings.debit]

theorem ne_zero_of_pos (positive : 0 < amount) : amount ≠ 0 ∧ -amount ≠ 0 := by
  have hamount : 0 < amount.toInt := Int64.lt_iff_toInt_lt.mp positive
  constructor
  · rintro rfl
    rw [Int64.toInt_zero] at hamount
    omega
  · intro hzero
    have hopposite := Balance.toInt_neg_of_pos positive
    rw [hzero, Int64.toInt_zero] at hopposite
    omega

theorem transfer_of_carries {op : Operation} (positive : 0 < op.amount)
    (carries : table.holdings.Carries op) :
    ∃ after, transfer op table = (.ok (), after) ∧
      after.holdings = table.holdings.transfer op := by
  obtain ⟨hcredits, hdebits⟩ := ne_zero_of_pos positive
  have hsum := Balance.add_toInt_neg_of_pos positive (table.holdings.total op.sender)
  obtain ⟨debited, hdebit, hmoved⟩ := move_of_isBalance hdebits (hsum ▸ carries.debit)
  have hdebited := holdings_debited positive hmoved
  obtain ⟨credited, hcredit, hcredited⟩ := move_of_isBalance hcredits
    (hdebited ▸ carries.credit)
  refine ⟨credited, ?_, ?_⟩
  · simp only [transfer, hdebit, hcredit]
  · rw [hcredited, hdebited, Holdings.transfer]

theorem transfer_of_not_carries {op : Operation} (positive : 0 < op.amount)
    (stuck : ¬ table.holdings.Carries op) :
    ∃ e, transfer op table = (.error e, table) ∧ e.isDomain = true := by
  obtain ⟨-, hdebits⟩ := ne_zero_of_pos positive
  have hsum := Balance.add_toInt_neg_of_pos positive (table.holdings.total op.sender)
  by_cases hdebit : Holdings.IsBalance (table.holdings.total op.sender - op.amount.toInt)
  · obtain ⟨debited, hrun, hmoved⟩ := move_of_isBalance hdebits (hsum ▸ hdebit)
    have hdebited := holdings_debited positive hmoved
    have hcredit : ¬ Holdings.IsBalance
        (debited.holdings.total op.receiver + op.amount.toInt) := by
      rw [hdebited]
      exact fun hcredit => stuck ⟨hdebit, hcredit⟩
    obtain ⟨e, hfailed, hdomain⟩ := move_of_not_isBalance hcredit
    refine ⟨e, ?_, hdomain⟩
    simp only [transfer, hrun, hfailed]
  · obtain ⟨e, hfailed, hdomain⟩ := move_of_not_isBalance (hsum ▸ hdebit)
    refine ⟨e, ?_, hdomain⟩
    simp only [transfer, hfailed]

end

end Table

namespace Batch

variable {S : Type} {b : Backend S} {sound : S → Prop} {table : S → Table} {s : Store S}
  {op : Operation}

/-- Taking a debit back restores what the transaction showed before it. -/
theorem reaches_of_taken_back (shows : b.Shows sound table) {debited : Table} {mid final : Store S}
    (opened : s.initialized = true) (transaction : s.inTransaction = true)
    (positive : 0 < op.amount)
    (moved : Table.move op.sender (-op.amount) (s.visible table) = (.ok (), debited))
    (reached : Store.Reaches sound table s debited mid)
    (taken : Store.update b op.sender op.amount mid = (.ok (), final)) :
    Store.Reaches sound table s (s.visible table) final := by
  have hends := Store.update_ends_of_transaction shows reached.coherent
    (reached.initialized.trans opened) (reached.inTransaction.trans transaction) op.sender op.amount
  rw [taken] at hends
  obtain ⟨-, hfinal⟩ := hends.of_ok
  rw [reached.visible, Table.move_of_debited positive moved] at hfinal
  exact reached.trans hfinal

/-- The second half of a transfer decides about the whole. -/
theorem apply_ends_of_debited (shows : b.Shows sound table) {debited : Table} {mid : Store S}
    (opened : s.initialized = true) (transaction : s.inTransaction = true)
    (positive : 0 < op.amount)
    (moved : Table.move op.sender (-op.amount) (s.visible table) = (.ok (), debited))
    (run : Store.update b op.sender (-op.amount) s = (.ok (), mid))
    (reached : Store.Reaches sound table s debited mid) :
    Store.Ends sound table s (Table.transfer op (s.visible table))
      (fun e => ∃ id m, sound m ∧ (b.load id m).1 = .error e) (apply b op s) := by
  have hcredit := Store.update_ends_of_transaction shows reached.coherent
    (reached.initialized.trans opened) (reached.inTransaction.trans transaction)
    op.receiver op.amount
  cases hmoved : Table.move op.receiver op.amount debited with
  | mk answer credited =>
  cases hrun : Store.update b op.receiver op.amount mid with
  | mk answer' last =>
  rw [hrun, reached.visible, hmoved] at hcredit
  cases answer' with
  | error e =>
      obtain ⟨final, hfinal, happly⟩ := apply_of_credit_failed opened transaction positive run hrun
      have hback : Store.Reaches sound table mid debited last →
          Store.Reaches sound table s (s.visible table) final := fun hlast =>
        reaches_of_taken_back shows opened transaction positive moved (reached.trans hlast) hfinal
      rw [happly]
      obtain ⟨hrule, hlast⟩ | ⟨⟨-, hload⟩, hlast⟩ := hcredit.of_error
      · obtain rfl : answer = .error e := hrule
        have htransfer : Table.transfer op (s.visible table) = (.error e, s.visible table) := by
          simp only [Table.transfer, moved, hmoved]
        rw [htransfer]
        exact .done (hback (Table.eq_of_move_error hmoved ▸ hlast))
      · exact .failed ⟨_, _, reached.coherent.medium, hload⟩ (hback (reached.visible ▸ hlast))
  | ok =>
      obtain ⟨hrule, hlast⟩ := hcredit.of_ok
      obtain rfl : answer = .ok () := hrule
      have htransfer : Table.transfer op (s.visible table) = (.ok (), credited) := by
        simp only [Table.transfer, moved, hmoved]
      rw [apply_of_done run hrun, htransfer]
      exact .done (reached.trans hlast)

/-- Inside a transaction a transfer ends as the rule for tables says, or with a load
that failed. In either case it has happened as a whole or not at all. -/
theorem apply_ends (shows : b.Shows sound table) (coherent : s.Coherent sound table)
    (opened : s.initialized = true) (transaction : s.inTransaction = true)
    (positive : 0 < op.amount) :
    Store.Ends sound table s (Table.transfer op (s.visible table))
      (fun e => ∃ id m, sound m ∧ (b.load id m).1 = .error e) (apply b op s) := by
  have hdebit := Store.update_ends_of_transaction shows coherent opened transaction
    op.sender (-op.amount)
  cases hmoved : Table.move op.sender (-op.amount) (s.visible table) with
  | mk answer debited =>
  cases hrun : Store.update b op.sender (-op.amount) s with
  | mk answer' mid =>
  rw [hrun, hmoved] at hdebit
  cases answer' with
  | error e =>
      rw [apply_of_debit_failed hrun]
      obtain ⟨hrule, hreached⟩ | ⟨⟨-, hload⟩, hreached⟩ := hdebit.of_error
      · obtain rfl : answer = .error e := hrule
        have htransfer : Table.transfer op (s.visible table) = (.error e, s.visible table) := by
          simp only [Table.transfer, hmoved]
        rw [htransfer]
        exact .done (Table.eq_of_move_error hmoved ▸ hreached)
      · exact .failed ⟨_, _, coherent.medium, hload⟩ hreached
  | ok =>
      obtain ⟨hrule, hreached⟩ := hdebit.of_ok
      obtain rfl : answer = .ok () := hrule
      exact apply_ends_of_debited shows opened transaction positive hmoved hrun hreached

end Batch

end Clearinghouse
