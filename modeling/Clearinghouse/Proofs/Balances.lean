/-
# Sums of balances

Balances are words and their rules are about integers. The few facts that pass
between the two are collected here.
-/

import Clearinghouse.Account

namespace Clearinghouse.Balance

variable {balance delta sum amount : Balance}

theorem add?_eq_some_iff :
    balance.add? delta = some sum ↔ sum.toInt = balance.toInt + delta.toInt :=
  ofInt?_eq_some_iff

/-- The movement of a debit is the exact opposite of that of a credit. -/
theorem toInt_neg_of_pos (positive : 0 < amount) : (-amount).toInt = -amount.toInt := by
  have hlower : 0 < amount.toInt := Int64.lt_iff_toInt_lt.mp positive
  have hupper := amount.toInt_lt
  rw [Int64.toInt_neg]
  apply Int.bmod_eq_of_le <;> omega

/-- A debit is no credit. -/
theorem not_pos_neg_of_pos (positive : 0 < amount) : ¬ 0 < -amount := by
  have hamount : 0 < amount.toInt := Int64.lt_iff_toInt_lt.mp positive
  rw [Int64.lt_iff_toInt_lt, toInt_neg_of_pos positive, Int64.toInt_zero]
  omega

theorem add_toInt_neg_of_pos (positive : 0 < amount) (n : Int) :
    n + (-amount).toInt = n - amount.toInt := by
  rw [toInt_neg_of_pos positive, Int.sub_eq_add_neg]

/-- What was taken can be put back. -/
theorem add?_of_debited (positive : 0 < amount) (debited : balance.add? (-amount) = some sum) :
    sum.add? amount = some balance := by
  rw [add?_eq_some_iff, toInt_neg_of_pos positive] at debited
  rw [add?_eq_some_iff]
  omega

end Clearinghouse.Balance
