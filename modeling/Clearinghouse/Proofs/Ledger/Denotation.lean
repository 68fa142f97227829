/-
# What the accounts of a ledger come to

A ledger denotes a table by what is posted on its accounts: every account of the table has
one, and its credits less its debits are the balance. A change that was staged against the
table can be booked, and then the ledger denotes the table after the change. Every transfer
leaves something on the system account. So while the counters of that account are small there
have been few transfers, and 128 bits have a number for the next one.
-/

import Clearinghouse.Proofs.Ledger.Commit
import Mathlib.Data.Finset.Card

namespace Clearinghouse.Ledger

/-! ## Numbers for transfers -/

/-- Numbers for transfers are drawn so that none is zero or in use, as long as 128 bits have
one left to give. -/
def Fresh (draw : Book → TransferNumber) : Prop :=
  ∀ book : Book, book.transfers.size < Nat.pow 2 128 - 1 →
    draw book ≠ 0 ∧ draw book ∉ book.transfers

namespace Book

theorem le_freeNumber (used : Std.ExtTreeSet TransferNumber) (candidate count : Nat) :
    candidate - count ≤ freeNumber used candidate count := by
  induction count generalizing candidate with
  | zero => exact Nat.le_refl _
  | succ count ih =>
      rw [freeNumber]
      split
      · have hlater := ih (candidate - 1)
        omega
      · omega

/-- A search that ends with a number in use has found all numbers on its way in use. -/
theorem mem_of_freeNumber_mem {used : Std.ExtTreeSet TransferNumber} {candidate count : Nat}
    (found : freeNumber used candidate count ∈ used) :
    ∀ passed ≤ count, candidate - passed ∈ used := by
  induction count generalizing candidate with
  | zero =>
      intro passed hpassed
      rw [Nat.le_zero.mp hpassed]
      exact found
  | succ count ih =>
      rw [freeNumber] at found
      split at found
      · next hcandidate =>
          intro passed hpassed
          cases passed with
          | zero => exact Std.ExtTreeSet.contains_iff_mem.mp hcandidate
          | succ earlier =>
              have hlater := ih found earlier (Nat.le_of_succ_le_succ hpassed)
              rwa [Nat.sub_sub, Nat.add_comm] at hlater
      · next hfree => exact absurd (Std.ExtTreeSet.contains_iff_mem.mpr found) hfree

/-- A search among one number more than are in use finds one that is not. -/
theorem freeNumber_notMem {used : Std.ExtTreeSet TransferNumber} {candidate : Nat}
    (room : used.size < candidate) : freeNumber used candidate used.size ∉ used := by
  intro found
  have hall := mem_of_freeNumber_mem found
  have hincluded : (Finset.range (used.size + 1)).image (candidate - ·) ⊆ used.toList.toFinset := by
    intro n hmem
    obtain ⟨passed, hpassed, rfl⟩ := Finset.mem_image.mp hmem
    rw [List.mem_toFinset, Std.ExtTreeSet.mem_toList]
    exact hall passed (Nat.le_of_lt_succ (Finset.mem_range.mp hpassed))
  have hapart : Set.InjOn (candidate - ·) (Finset.range (used.size + 1) : Set Nat) := by
    intro first hfirst second hsecond same
    rw [Finset.mem_coe, Finset.mem_range] at hfirst hsecond
    dsimp only at same
    omega
  have hcount := Finset.card_le_card hincluded
  rw [Finset.card_image_of_injOn hapart, Finset.card_range] at hcount
  have hsize := used.toList.toFinset_card_le
  rw [Std.ExtTreeSet.length_toList] at hsize
  omega

/-- So the numbers that a ledger in this process draws are fresh. -/
theorem fresh_freshNumber : Fresh freshNumber := by
  intro book room
  have hlarge := le_freeNumber book.transfers (Nat.pow 2 128 - 1) book.transfers.size
  exact ⟨Nat.ne_of_gt (Nat.lt_of_lt_of_le (Nat.sub_pos_of_lt room) hlarge),
    freeNumber_notMem room⟩

end Book

/-- What has gone over an account in either direction. -/
def LedgerAccount.turnover (account : LedgerAccount) : Nat := account.credits + account.debits

theorem LedgerAccount.turnover_moved (account : LedgerAccount) (delta : Int) :
    (account.moved delta).turnover = account.turnover + delta.natAbs := by
  unfold moved turnover
  split
  · exact Nat.add_right_comm ..
  · exact (Nat.add_assoc ..).symm

namespace Book

variable {book before after : Book} {number : TransferNumber} {change : Change}

/-! ## Bounds -/

theorem withinBounds_congr (same : after.content = before.content) (bounded : after.WithinBounds) :
    before.WithinBounds := by
  intro n account hfound
  refine bounded n account ?_
  rw [(Prod.mk.inj same).1, hfound]

theorem Recorded.withinBounds {changes : List Change} (recorded : Recorded before changes after)
    (bounded : after.WithinBounds) : before.WithinBounds := by
  intro n account hfound
  have hmoves := recorded.moves n
  have hthere : after.accounts[n]?.isSome := (recorded.present n).mpr (.inl (by simp [hfound]))
  obtain ⟨later, hlater⟩ := Option.isSome_iff_exists.mp hthere
  rw [account_of_some hfound, account_of_some hlater] at hmoves
  exact hmoves.bounded (bounded n later hlater)

/-- An account that is added takes no other's place. -/
theorem withinBounds_of_addAccount {account : LedgerAccount}
    (accepted : book.accountRejection? account = none)
    (bounded : (book.addAccount account).WithinBounds) : book.WithinBounds := by
  have habsent := (accountRejection?_eq_none_iff.mp accepted).2.2
  intro n found hfound
  refine bounded n found ?_
  have hother : account.number ≠ n := by
    rintro rfl
    cases habsent.symm.trans hfound
  rw [addAccount, Std.ExtTreeMap.getElem?_insert, if_neg (by simpa using hother), hfound]

/-! ## One change -/

/-- A booked change moves its account and the system account. -/
theorem getElem?_accounts_record (n : AccountNumber) :
    (book.record number change).accounts[n]? =
      if n = change.id.toNat then
        (book.prepare change).accounts[n]?.map (·.moved change.delta)
      else if n = systemAccount then
        (book.prepare change).accounts[n]?.map (·.moved (-change.delta))
      else (book.prepare change).accounts[n]? := by
  unfold record
  split
  · next hstill =>
      simp [hstill, LedgerAccount.moved]
  · exact getElem?_accounts_post _ _ n

theorem failAfter_prepare : (book.prepare change).failAfter = book.failAfter := by
  unfold prepare
  split <;> rfl

theorem failAfter_record : (book.record number change).failAfter = book.failAfter := by
  have hprepare : (book.prepare change).failAfter = book.failAfter := failAfter_prepare
  unfold record
  split <;> exact hprepare

/-- The accounts of a ledger come to a table, beside the system account. -/
structure Denotes (book : Book) (table : Table) : Prop where
  system : book.accounts[systemAccount]?.isSome
  /-- Every transfer has gone over the system account. -/
  counted : book.transfers.size ≤ (book.account systemAccount).turnover
  main : ∀ {n : AccountNumber} {account : LedgerAccount}, book.accounts[n]? = some account →
    account.number = n ∧ account.ledger = mainLedger
  held : ∀ id : AccountId,
    book.accounts[id.toNat]?.map (·.posted) = table[id]?.map (·.toInt)

/-- A ledger whose only account is the system account denotes the empty table. -/
theorem denotes_empty : (empty.addAccount (.new systemAccount)).Denotes ∅ := by
  have hother : ∀ n : AccountNumber, n ≠ systemAccount →
      (empty.addAccount (.new systemAccount)).accounts[n]? = none := by
    intro n hn
    simp [addAccount, LedgerAccount.new, Ne.symm hn, empty]
  constructor
  · simp [addAccount, LedgerAccount.new]
  · exact Nat.zero_le _
  · intro n account hfound
    by_cases hn : n = systemAccount
    · subst hn
      rw [addAccount, Std.ExtTreeMap.getElem?_insert,
        if_pos (by simp [LedgerAccount.new])] at hfound
      cases hfound
      exact ⟨rfl, rfl⟩
    · rw [hother n hn] at hfound
      cases hfound
  · intro id
    rw [hother _ (toNat_ne_systemAccount id)]
    simp

variable {table : Table}

/-- A change that was staged against the table finds its account, or none if it is a
creation. -/
theorem Denotes.account_of_observed (denotes : book.Denotes table)
    (observed : change.observed = table[change.id]?) :
    (change.isCreation = true ∧ book.accounts[change.id.toNat]? = none ∧
        change.delta = change.balance.toInt) ∨
      ∃ account, change.isCreation = false ∧ book.accounts[change.id.toNat]? = some account ∧
        account.posted + change.delta = change.balance.toInt := by
  have hheld := denotes.held change.id
  rw [← observed] at hheld
  cases hobserved : change.observed with
  | none =>
      rw [hobserved] at hheld
      refine .inl ⟨by simp [Change.isCreation, hobserved], Option.map_eq_none_iff.mp hheld, ?_⟩
      rw [Change.delta, Change.base, hobserved, Int.sub_zero]
  | some balance =>
      rw [hobserved] at hheld
      obtain ⟨account, haccount, hposted⟩ := Option.map_eq_some_iff.mp hheld
      refine .inr ⟨account, by simp [Change.isCreation, hobserved], haccount, ?_⟩
      rw [Change.delta, Change.base, hobserved, hposted]
      dsimp only
      omega

/-- Once a change is prepared its account is there, short of what the change moves. -/
theorem Denotes.account_of_prepared (denotes : book.Denotes table)
    (observed : change.observed = table[change.id]?) :
    ∃ account, (book.prepare change).accounts[change.id.toNat]? = some account ∧
      account.number = change.id.toNat ∧ account.ledger = mainLedger ∧
      account.posted + change.delta = change.balance.toInt := by
  rw [getElem?_accounts_prepare]
  obtain ⟨hcreation, -, hdelta⟩ | ⟨account, hcreation, haccount, hposted⟩ :=
    denotes.account_of_observed observed
  · rw [if_pos ⟨hcreation, rfl⟩]
    refine ⟨_, rfl, rfl, rfl, ?_⟩
    rw [LedgerAccount.posted_new, hdelta, Int.zero_add]
  · rw [if_neg (by simp [hcreation]), haccount]
    exact ⟨account, rfl, (denotes.main haccount).1, (denotes.main haccount).2, hposted⟩

/-- Every account is one of the main ledger, also after a change. -/
theorem Denotes.main_record (denotes : book.Denotes table) {n : AccountNumber}
    {account : LedgerAccount} (found : (book.record number change).accounts[n]? = some account) :
    account.number = n ∧ account.ledger = mainLedger := by
  have hprepared : ∀ {earlier}, (book.prepare change).accounts[n]? = some earlier →
      earlier.number = n ∧ earlier.ledger = mainLedger := by
    intro earlier hearlier
    rw [getElem?_accounts_prepare] at hearlier
    split at hearlier
    · cases hearlier
      exact ⟨rfl, rfl⟩
    · exact denotes.main hearlier
  have hmoved : ∀ {delta}, (book.prepare change).accounts[n]?.map (·.moved delta) = some account →
      account.number = n ∧ account.ledger = mainLedger := by
    intro delta hfound
    obtain ⟨earlier, hearlier, rfl⟩ := Option.map_eq_some_iff.mp hfound
    have hmoves := earlier.moves_moved delta
    rw [hmoves.number, hmoves.ledger]
    exact hprepared hearlier
  rw [getElem?_accounts_record] at found
  split at found
  · exact hmoved found
  split at found
  · exact hmoved found
  · exact hprepared found

/-- A transfer over the system account adds to what has gone over it. -/
theorem Denotes.counted_record (denotes : book.Denotes table) :
    (book.record number change).transfers.size ≤
      ((book.record number change).account systemAccount).turnover := by
  have hapart := toNat_ne_systemAccount change.id
  obtain ⟨system, hsystem⟩ := Option.isSome_iff_exists.mp denotes.system
  have hcounted := denotes.counted
  have hmoved : (book.record number change).accounts[systemAccount]? =
      some (system.moved (-change.delta)) := by
    rw [getElem?_accounts_record, if_neg (Ne.symm hapart), if_pos rfl, getElem?_accounts_prepare,
      if_neg fun hopened => hapart hopened.2, hsystem, Option.map_some]
  have hsize : (book.record number change).transfers.size ≤
      book.transfers.size + change.delta.natAbs := by
    unfold record
    split
    · rw [transfers_prepare]
      exact Nat.le_add_right _ _
    · next hmoves =>
        have hinsert : ((book.prepare change).post
            (transferOf number change.id change.delta)).transfers.size ≤
            (book.prepare change).transfers.size + 1 := Std.ExtTreeSet.size_insert_le
        rw [transfers_prepare] at hinsert
        omega
  rw [account_of_some hsystem] at hcounted
  rw [account_of_some hmoved, LedgerAccount.turnover_moved, Int.natAbs_neg]
  omega

/-- While the counters are small there is a number for another transfer. -/
theorem Denotes.room (denotes : book.Denotes table) (bounded : book.WithinBounds) :
    book.transfers.size < Nat.pow 2 128 - 1 := by
  obtain ⟨system, hsystem⟩ := Option.isSome_iff_exists.mp denotes.system
  have hcounted := denotes.counted
  obtain ⟨hcredits, hdebits⟩ := bounded systemAccount system hsystem
  rw [account_of_some hsystem, LedgerAccount.turnover] at hcounted
  rw [show Nat.pow 2 128 = Nat.pow 2 127 * 2 from Nat.pow_succ ..]
  generalize Nat.pow 2 127 = half at hcredits hdebits
  omega

/-- A booked change is recorded in the table. -/
theorem Denotes.record (denotes : book.Denotes table)
    (observed : change.observed = table[change.id]?) (number : TransferNumber) :
    (book.record number change).Denotes (table.record change) := by
  obtain ⟨account, hprepared, hnumber, hledger, hposted⟩ := denotes.account_of_prepared observed
  have hown : (book.record number change).accounts[change.id.toNat]? =
      some (account.moved change.delta) := by
    rw [getElem?_accounts_record, if_pos rfl, hprepared, Option.map_some]
  constructor
  · rw [isSome_accounts_record]
    exact .inl denotes.system
  · exact denotes.counted_record
  · exact denotes.main_record
  · intro id
    rw [Table.getElem?_record]
    by_cases hid : change.id = id
    · subst hid
      rw [if_pos rfl, hown, Option.map_some, Option.map_some,
        (LedgerAccount.moves_moved account change.delta).posted, hposted]
    · have hother : change.id.toNat ≠ id.toNat := fun same => hid (UInt64.toNat_inj.mp same)
      rw [if_neg hid, getElem?_accounts_record_of_ne (toNat_ne_systemAccount id) hother,
        denotes.held]

/-- A change that was staged against the table can be posted under a fresh number. -/
theorem Denotes.postable (denotes : book.Denotes table)
    (observed : change.observed = table[change.id]?) (moves : change.delta ≠ 0)
    (nonzero : number ≠ 0) (unused : number ∉ book.transfers) :
    (book.prepare change).transferRejection? (transferOf number change.id change.delta) = none := by
  obtain ⟨own, hown, -, hledger, -⟩ := denotes.account_of_prepared observed
  obtain ⟨system, hsystem⟩ := Option.isSome_iff_exists.mp denotes.system
  have hapart := toNat_ne_systemAccount change.id
  have hkept : (book.prepare change).accounts[systemAccount]? = some system := by
    rw [getElem?_accounts_prepare, if_neg fun hopened => hapart hopened.2, hsystem]
  have hmain := (denotes.main hsystem).2
  have hamount : change.delta.natAbs ≠ 0 := Int.natAbs_ne_zero.mpr moves
  rw [transferRejection?_eq_none_iff, transfers_prepare]
  unfold transferOf
  split
  · exact ⟨nonzero, unused, hapart.symm, hamount, system, own, hkept, hown, hmain, hledger⟩
  · exact ⟨nonzero, unused, hapart, hamount, own, system, hown, hkept, hledger, hmain⟩

end Book

end Clearinghouse.Ledger
