/-
# What changes come to on a ledger

The counters of an account only grow, so what has been booked on it is the exact
difference of the two. A change creates the account it needs and posts at most one
transfer, which moves the account by what the change says and the system account by
the opposite. Over a list of changes the movements add up; every other account is
the same record as before, and no transfer is lost.
-/

import Clearinghouse.Proofs.Ledger.Backend
import Mathlib.Algebra.Ring.Int.Defs

namespace Clearinghouse.Ledger

/-! ## Accounts -/

namespace LedgerAccount

/-- The credits of an account less its debits, as an exact number. -/
def posted (account : LedgerAccount) : Int := account.credits - account.debits

/-- Neither counter reaches the sign of a number of 128 bits. -/
structure Bounded (account : LedgerAccount) : Prop where
  credits : account.credits < Nat.pow 2 127
  debits : account.debits < Nat.pow 2 127

instance (account : LedgerAccount) : Decidable account.Bounded :=
  decidable_of_iff (account.credits < Nat.pow 2 127 ∧ account.debits < Nat.pow 2 127)
    ⟨fun ⟨hcredits, hdebits⟩ => ⟨hcredits, hdebits⟩,
      fun ⟨hcredits, hdebits⟩ => ⟨hcredits, hdebits⟩⟩

/-- One account later, after movements that come to `delta`. -/
structure Moves (account : LedgerAccount) (delta : Int) (later : LedgerAccount) : Prop where
  number : later.number = account.number
  ledger : later.ledger = account.ledger
  code : later.code = account.code
  posted : later.posted = account.posted + delta
  credits : account.credits ≤ later.credits
  debits : account.debits ≤ later.debits

/-- An account after one movement, which one of its counters takes on. -/
def moved (account : LedgerAccount) (delta : Int) : LedgerAccount :=
  if 0 < delta then { account with credits := account.credits + delta.natAbs }
  else { account with debits := account.debits + delta.natAbs }

variable {account later last : LedgerAccount} {delta further : Int}

/-- Below the sign of 128 bits a counter is its own value. -/
theorem bmod_of_bounded {counter : Nat} (bounded : counter < Nat.pow 2 127) :
    (counter : Int).bmod (Nat.pow 2 128) = counter := by
  have hlimit : Nat.pow 2 128 = Nat.pow 2 127 * 2 := Nat.pow_succ ..
  rw [hlimit]
  generalize Nat.pow 2 127 = half at bounded
  apply Int.bmod_eq_of_le <;> omega

theorem Bounded.net (bounded : account.Bounded) : account.net = account.posted := by
  unfold LedgerAccount.net LedgerAccount.posted
  rw [bmod_of_bounded bounded.credits, bmod_of_bounded bounded.debits]

@[simp]
theorem posted_new (number : AccountNumber) : (new number).posted = 0 := rfl

theorem Moves.refl (account : LedgerAccount) : account.Moves 0 account :=
  ⟨rfl, rfl, rfl, (Int.add_zero _).symm, Nat.le_refl _, Nat.le_refl _⟩

theorem Moves.trans (first : account.Moves delta later) (second : later.Moves further last) :
    account.Moves (delta + further) last where
  number := second.number.trans first.number
  ledger := second.ledger.trans first.ledger
  code := second.code.trans first.code
  posted := by rw [second.posted, first.posted, Int.add_assoc]
  credits := Nat.le_trans first.credits second.credits
  debits := Nat.le_trans first.debits second.debits

theorem moves_moved (account : LedgerAccount) (delta : Int) :
    account.Moves delta (account.moved delta) := by
  unfold moved
  split
  · refine ⟨rfl, rfl, rfl, ?_, Nat.le_add_right _ _, Nat.le_refl _⟩
    simp only [LedgerAccount.posted]
    omega
  · refine ⟨rfl, rfl, rfl, ?_, Nat.le_refl _, Nat.le_add_right _ _⟩
    simp only [LedgerAccount.posted]
    omega

/-- An account that ends within bounds was within them before. -/
theorem Moves.bounded (moves : account.Moves delta later) (bounded : later.Bounded) :
    account.Bounded :=
  ⟨Nat.lt_of_le_of_lt moves.credits bounded.credits,
    Nat.lt_of_le_of_lt moves.debits bounded.debits⟩

end LedgerAccount

/-- The system account has no identifier of an account that belongs to someone. -/
theorem toNat_ne_systemAccount (id : AccountId) : id.toNat ≠ systemAccount :=
  Nat.ne_of_lt id.toNat_lt

/-! ## One change -/

namespace Book

/-- The account of a number; one that does not exist counts as one on which nothing
is booked. -/
def account (book : Book) (number : AccountNumber) : LedgerAccount :=
  book.accounts[number]?.getD (.new number)

/-- The ledger with the account that a change needs. -/
def prepare (book : Book) (change : Change) : Book :=
  if change.isCreation then book.addAccount (.new change.id.toNat) else book

/-- The ledger with a change booked, under a number for its transfer. -/
def record (book : Book) (number : TransferNumber) (change : Change) : Book :=
  if change.delta = 0 then book.prepare change
  else (book.prepare change).post (transferOf number change.id change.delta)

/-- A change can be booked under a number for its transfer. -/
structure Accepts (book : Book) (number : TransferNumber) (change : Change) : Prop where
  absent : change.isCreation = true → book.accounts[change.id.toNat]? = none
  postable : change.delta ≠ 0 →
    (book.prepare change).transferRejection? (transferOf number change.id change.delta) = none

section

variable {book : Book} {number : TransferNumber} {change : Change}

theorem transferRejection?_eq_none_iff {transfer : Transfer} :
    book.transferRejection? transfer = none ↔
      transfer.number ≠ 0 ∧ transfer.number ∉ book.transfers ∧ transfer.debit ≠ transfer.credit ∧
      transfer.amount ≠ 0 ∧
      ∃ debit credit, book.accounts[transfer.debit]? = some debit ∧
        book.accounts[transfer.credit]? = some credit ∧
        debit.ledger = transfer.ledger ∧ credit.ledger = transfer.ledger := by
  unfold transferRejection?
  split
  · next hzero => simp [hzero]
  split
  · next hused => simp [← Std.ExtTreeSet.contains_iff_mem, hused]
  split
  · next hsame => simp [hsame]
  split
  · next hnothing => simp [hnothing]
  · next hzero hused hsame hnothing =>
      cases book.accounts[transfer.debit]? with
      | none => simp
      | some debit =>
          cases book.accounts[transfer.credit]? with
          | none => simp
          | some credit =>
              simp [hzero, hsame, hnothing, ← Std.ExtTreeSet.contains_iff_mem, hused]

theorem getElem?_accounts_prepare (n : AccountNumber) :
    (book.prepare change).accounts[n]? =
      if change.isCreation = true ∧ change.id.toNat = n then some (.new n)
      else book.accounts[n]? := by
  unfold prepare
  by_cases hcreation : change.isCreation = true
  · by_cases hid : change.id.toNat = n
    · simp [hcreation, addAccount, hid, LedgerAccount.new]
    · simp [hcreation, addAccount, Std.ExtTreeMap.getElem?_insert, LedgerAccount.new, hid]
  · simp [hcreation]

theorem transfers_prepare : (book.prepare change).transfers = book.transfers := by
  unfold prepare
  split <;> rfl

/-- A transfer between an account and the system account moves the two in opposite
directions. -/
theorem getElem?_accounts_post (id : AccountId) (delta : Int) (n : AccountNumber) :
    (book.post (transferOf number id delta)).accounts[n]? =
      if n = id.toNat then book.accounts[n]?.map (·.moved delta)
      else if n = systemAccount then book.accounts[n]?.map (·.moved (-delta))
      else book.accounts[n]? := by
  have hapart := toNat_ne_systemAccount id
  have hsides : ∀ debit credit : AccountNumber, ∀ amount : Nat, debit ≠ credit →
      (book.post ⟨number, debit, credit, amount, mainLedger⟩).accounts[n]? =
        if n = debit then
          book.accounts[n]?.map fun account => { account with debits := account.debits + amount }
        else if n = credit then
          book.accounts[n]?.map fun account => { account with credits := account.credits + amount }
        else book.accounts[n]? := by
    intro debit credit amount hsides
    simp only [post, Std.ExtTreeMap.getElem?_modify, Std.compare_eq_iff_eq]
    by_cases hdebit : n = debit
    · subst hdebit
      simp [hsides.symm]
    · by_cases hcredit : n = credit
      · subst hcredit
        simp [hdebit, Ne.symm hdebit]
      · simp [hdebit, hcredit, Ne.symm hdebit, Ne.symm hcredit]
  unfold transferOf LedgerAccount.moved
  by_cases hpositive : 0 < delta
  · have hback : ¬ 0 < -delta := by omega
    simp only [if_pos hpositive, if_neg hback, hsides _ _ _ hapart.symm, Int.natAbs_neg]
    by_cases hid : n = id.toNat
    · subst hid
      simp only [if_neg hapart, if_true]
    · simp only [if_neg hid]
  · rw [if_neg hpositive, hsides _ _ _ hapart]
    simp only [if_neg hpositive, Int.natAbs_neg]
    by_cases hback : 0 < -delta
    · simp only [if_pos hback]
    · -- A transfer of nothing leaves both counters as they are.
      have hnothing : delta.natAbs = 0 := by omega
      simp only [if_neg hback, hnothing, Nat.add_zero]

/-- What some changes move an account by. The system account takes the opposite side
of all of them. -/
def movement (changes : List Change) (n : AccountNumber) : Int :=
  if n = systemAccount then -(changes.map Change.delta).sum
  else ((changes.filter (·.id.toNat = n)).map Change.delta).sum

theorem movement_nil (n : AccountNumber) : movement [] n = 0 := by
  unfold movement
  split <;> rfl

theorem movement_append (first later : List Change) (n : AccountNumber) :
    movement (first ++ later) n = movement first n + movement later n := by
  unfold movement
  split
  · rw [List.map_append, List.sum_append, Int.neg_add]
  · rw [List.filter_append, List.map_append, List.sum_append]

theorem movement_singleton (n : AccountNumber) :
    movement [change] n =
      if n = change.id.toNat then change.delta
      else if n = systemAccount then -change.delta else 0 := by
  have hapart := toNat_ne_systemAccount change.id
  unfold movement
  by_cases hid : n = change.id.toNat
  · subst hid
    simp [hapart]
  · by_cases hsystem : n = systemAccount
    · simp [hsystem, hapart.symm]
    · simp [hid, hsystem, Ne.symm hid]

/-! ## From one ledger to another -/

/-- From one ledger to another some changes were booked, and nothing else happened.
Creations brought their accounts into being; every account moved by what the changes
come to, and an account that no change is about is the same record; every change that
moves anything left one more transfer. -/
structure Recorded (before : Book) (changes : List Change) (after : Book) : Prop where
  created : ∀ change ∈ changes, change.isCreation = true →
    before.accounts[change.id.toNat]? = none
  present : ∀ n, after.accounts[n]?.isSome ↔ before.accounts[n]?.isSome ∨
    ∃ change ∈ changes, change.isCreation = true ∧ change.id.toNat = n
  moves : ∀ n, (before.account n).Moves (movement changes n) (after.account n)
  others : ∀ n, n ≠ systemAccount → (∀ change ∈ changes, change.id.toNat ≠ n) →
    after.accounts[n]? = before.accounts[n]?
  transfers : ∀ used ∈ before.transfers, used ∈ after.transfers
  count : after.transfers.size =
    before.transfers.size + (changes.filter (·.delta ≠ 0)).length

/-- Without changes nothing happened. -/
theorem Recorded.nil {before after : Book} (same : after.content = before.content) :
    Recorded before [] after := by
  obtain ⟨haccounts, htransfers⟩ := Prod.mk.inj same
  refine ⟨nofun, fun n => ?_, fun n => ?_, fun n _ _ => ?_, ?_, ?_⟩
  · simp [haccounts]
  · rw [movement_nil, account, account, haccounts]
    exact .refl _
  · rw [haccounts]
  · rw [htransfers]
    exact fun used hused => hused
  · rw [htransfers]
    rfl

/-- An account that is not there counts as new, so preparing it shows nothing. -/
theorem account_prepare (absent : change.isCreation = true →
    book.accounts[change.id.toNat]? = none) (n : AccountNumber) :
    (book.prepare change).account n = book.account n := by
  rw [account, account, getElem?_accounts_prepare]
  split
  · next hopened =>
      obtain ⟨hcreation, rfl⟩ := hopened
      rw [absent hcreation]
      rfl
  · rfl

/-- A change that is accepted moves its account and the system account. -/
theorem Accepts.moves (accepts : book.Accepts number change) (n : AccountNumber) :
    (book.account n).Moves (movement [change] n) ((book.record number change).account n) := by
  rw [movement_singleton, ← account_prepare accepts.absent n]
  unfold record
  by_cases hstill : change.delta = 0
  · rw [if_pos hstill]
    simp only [hstill, Int.neg_zero, ite_self]
    exact .refl _
  · obtain ⟨-, -, -, -, debit, credit, hdebit, hcredit, -⟩ :=
      transferRejection?_eq_none_iff.mp (accepts.postable hstill)
    have hsides : (∃ side, (book.prepare change).accounts[change.id.toNat]? = some side) ∧
        ∃ side, (book.prepare change).accounts[systemAccount]? = some side := by
      unfold transferOf at hdebit hcredit
      split at hdebit
      · next hpositive =>
          rw [if_pos hpositive] at hcredit
          exact ⟨⟨credit, hcredit⟩, debit, hdebit⟩
      · next hnegative =>
          rw [if_neg hnegative] at hcredit
          exact ⟨⟨debit, hdebit⟩, credit, hcredit⟩
    obtain ⟨⟨own, hown⟩, system, hsystem⟩ := hsides
    rw [if_neg hstill, account, account, getElem?_accounts_post]
    by_cases hid : n = change.id.toNat
    · subst hid
      rw [if_pos rfl, if_pos rfl, hown]
      exact LedgerAccount.moves_moved _ _
    · rw [if_neg hid, if_neg hid]
      by_cases hsys : n = systemAccount
      · subst hsys
        rw [if_pos rfl, if_pos rfl, hsystem]
        exact LedgerAccount.moves_moved _ _
      · rw [if_neg hsys, if_neg hsys]
        exact .refl _

theorem isSome_accounts_record (n : AccountNumber) :
    (book.record number change).accounts[n]?.isSome ↔
      book.accounts[n]?.isSome ∨ change.isCreation = true ∧ change.id.toNat = n := by
  have hprepare : (book.prepare change).accounts[n]?.isSome ↔
      book.accounts[n]?.isSome ∨ change.isCreation = true ∧ change.id.toNat = n := by
    rw [getElem?_accounts_prepare]
    split
    · next hopened => simp [hopened]
    · next hopened => simp [hopened]
  unfold record
  split
  · exact hprepare
  · rw [← hprepare, getElem?_accounts_post]
    split
    · rw [Option.isSome_map]
    · split
      · rw [Option.isSome_map]
      · rfl

theorem getElem?_accounts_record_of_ne {n : AccountNumber} (system : n ≠ systemAccount)
    (other : change.id.toNat ≠ n) :
    (book.record number change).accounts[n]? = book.accounts[n]? := by
  have hprepare : (book.prepare change).accounts[n]? = book.accounts[n]? := by
    rw [getElem?_accounts_prepare, if_neg fun hopened => other hopened.2]
  unfold record
  split
  · exact hprepare
  · rw [getElem?_accounts_post, if_neg (Ne.symm other), if_neg system, hprepare]

/-- A change that is accepted uses one new number if it moves anything. -/
theorem Accepts.transfers_record (accepts : book.Accepts number change) :
    (∀ used ∈ book.transfers, used ∈ (book.record number change).transfers) ∧
      (book.record number change).transfers.size =
        book.transfers.size + if change.delta = 0 then 0 else 1 := by
  unfold record
  by_cases hstill : change.delta = 0
  · rw [if_pos hstill, if_pos hstill, transfers_prepare]
    exact ⟨fun used hused => hused, rfl⟩
  · obtain ⟨-, hfresh, -⟩ := transferRejection?_eq_none_iff.mp (accepts.postable hstill)
    have hpost : ((book.prepare change).post (transferOf number change.id change.delta)).transfers =
        book.transfers.insert (transferOf number change.id change.delta).number := by
      rw [post, transfers_prepare]
    rw [transfers_prepare] at hfresh
    rw [if_neg hstill, if_neg hstill, hpost]
    refine ⟨fun used hused => Std.ExtTreeSet.mem_insert.mpr (.inr hused), ?_⟩
    rw [Std.ExtTreeSet.size_insert, if_neg (by simpa using hfresh)]

/-- One more change is booked after those before it. -/
theorem Recorded.snoc {before mid after : Book} {changes : List Change}
    (recorded : Recorded before changes mid) (accepts : mid.Accepts number change)
    (same : after.content = (mid.record number change).content) :
    Recorded before (changes ++ [change]) after := by
  obtain ⟨haccounts, htransfers⟩ := Prod.mk.inj same
  obtain ⟨hkept, hcount⟩ := accepts.transfers_record
  have habsent : change.isCreation = true → before.accounts[change.id.toNat]? = none := by
    intro hcreation
    have hmid := accepts.absent hcreation
    cases hbefore : before.accounts[change.id.toNat]? with
    | none => rfl
    | some found =>
        have hthere := (recorded.present change.id.toNat).mpr (.inl (by simp [hbefore]))
        simp [hmid] at hthere
  refine ⟨?_, fun n => ?_, fun n => ?_, fun n hsystem hothers => ?_, ?_, ?_⟩
  · intro any hmem hcreation
    rcases List.mem_append.mp hmem with hmem | hmem
    · exact recorded.created any hmem hcreation
    · rw [List.mem_singleton] at hmem
      subst hmem
      exact habsent hcreation
  · rw [haccounts, isSome_accounts_record, recorded.present]
    simp only [List.mem_append, List.mem_singleton]
    constructor
    · rintro ((hbefore | ⟨any, hmem, hopened⟩) | hopened)
      · exact .inl hbefore
      · exact .inr ⟨any, .inl hmem, hopened⟩
      · exact .inr ⟨change, .inr rfl, hopened⟩
    · rintro (hbefore | ⟨any, hmem | rfl, hopened⟩)
      · exact .inl (.inl hbefore)
      · exact .inl (.inr ⟨any, hmem, hopened⟩)
      · exact .inr hopened
  · have hafter : after.account n = (mid.record number change).account n := by
      rw [account, account, haccounts]
    rw [movement_append, hafter]
    exact (recorded.moves n).trans (accepts.moves n)
  · have hlast : change.id.toNat ≠ n := hothers change (by simp)
    rw [haccounts, getElem?_accounts_record_of_ne hsystem hlast]
    exact recorded.others n hsystem fun any hmem => hothers any (List.mem_append_left _ hmem)
  · intro used hused
    rw [htransfers]
    exact hkept used (recorded.transfers used hused)
  · rw [htransfers, hcount, recorded.count, List.filter_append, List.length_append]
    by_cases hstill : change.delta = 0 <;> simp [hstill, Nat.add_assoc]

end

end Book

end Clearinghouse.Ledger
