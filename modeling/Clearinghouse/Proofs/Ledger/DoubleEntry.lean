/-
# Double entry

A ledger in this process looks at the items of a request one after the other. Each is judged by
what the items before it have left, and is taken on or changes nothing; the answer lists the
rejected ones by position. A failure that strikes a request cuts its list off where it strikes.
So whatever is requested, every transfer that was accepted stands on the debit side of one
account and on the credit side of another, once on each, and the two sides agree in total.
-/

import Clearinghouse.Ledger.Book
import Clearinghouse.Proofs.Ledger.Booking
import Mathlib.Algebra.BigOperators.Group.List.Lemmas
import Mathlib.Algebra.GroupWithZero.Nat
import Mathlib.Data.List.Nodup

namespace Clearinghouse.Ledger

/-! ## Items one after the other -/

/-- How a ledger takes on items of one kind. -/
structure Intake (α ρ : Type) where
  /-- Why the ledger would reject an item. -/
  rejection? : Book → α → Option ρ
  /-- The ledger with an item that it accepts. -/
  accept : Book → α → Book

namespace Intake

variable {α ρ : Type} (intake : Intake α ρ)

/-- The ledger after an item, which changes nothing if it is rejected. -/
def take (book : Book) (item : α) : Book :=
  match intake.rejection? book item with
  | some _ => book
  | none => intake.accept book item

/-- The ledger after some items. -/
def takeAll (book : Book) (items : List α) : Book := items.foldl intake.take book

/-- Those of some items that are accepted, each as the items before it have left the ledger. -/
def accepted (book : Book) : List α → List α
  | [] => []
  | item :: rest =>
    match intake.rejection? book item with
    | some _ => accepted book rest
    | none => item :: accepted (intake.accept book item) rest

/-- Those of some items that are rejected; `index` is the position of the first item. -/
def rejectedFrom (index : Nat) (book : Book) : List α → List (Nat × ρ)
  | [] => []
  | item :: rest =>
    match intake.rejection? book item with
    | some reason => (index, reason) :: rejectedFrom (index + 1) book rest
    | none => rejectedFrom (index + 1) (intake.accept book item) rest

/-- A list names the rejected ones of some items: in order, exactly those that the ledger
rejects as the items before them have left it, each of which leaves it as it is. -/
structure Rejects (book : Book) (items : List α) (rejected : List (Nat × ρ)) : Prop where
  ascending : rejected.Pairwise (·.1 < ·.1)
  mem_iff : ∀ position reason, (position, reason) ∈ rejected ↔ ∃ item,
    items[position]? = some item ∧
      intake.rejection? (intake.takeAll book (items.take position)) item = some reason
  unchanged : ∀ position reason, (position, reason) ∈ rejected →
    intake.takeAll book (items.take (position + 1)) = intake.takeAll book (items.take position)

variable {intake} {book : Book} {item : α} {reason : ρ}

variable (intake) in
theorem take_of_some (rejects : intake.rejection? book item = some reason) :
    intake.take book item = book := by
  rw [take, rejects]

variable (intake) in
theorem take_of_none (accepts : intake.rejection? book item = none) :
    intake.take book item = intake.accept book item := by
  rw [take, accepts]

theorem takeAll_cons (book : Book) (item : α) (rest : List α) :
    intake.takeAll book (item :: rest) = intake.takeAll (intake.take book item) rest := rfl

theorem rejectedFrom_cons (index : Nat) (book : Book) (item : α) (rest : List α) :
    intake.rejectedFrom index book (item :: rest) =
      ((intake.rejection? book item).map ((index, ·))).toList ++
        intake.rejectedFrom (index + 1) (intake.take book item) rest := by
  unfold take
  rw [rejectedFrom]
  cases intake.rejection? book item <;> rfl

theorem accepted_cons (book : Book) (item : α) (rest : List α) :
    intake.accepted book (item :: rest) =
      (if (intake.rejection? book item).isNone then [item] else []) ++
        intake.accepted (intake.take book item) rest := by
  unfold take
  rw [accepted]
  cases intake.rejection? book item <;> rfl

theorem mem_rejectedFrom_iff (items : List α) (index : Nat) (book : Book) (entry : Nat × ρ) :
    entry ∈ intake.rejectedFrom index book items ↔ ∃ position item,
      entry.1 = index + position ∧ items[position]? = some item ∧
        intake.rejection? (intake.takeAll book (items.take position)) item = some entry.2 := by
  induction items generalizing index book with
  | nil => simp [rejectedFrom]
  | cons first rest ih =>
      rw [rejectedFrom_cons, List.mem_append, ih]
      have hfirst : entry ∈ ((intake.rejection? book first).map ((index, ·))).toList ↔
          entry.1 = index ∧ intake.rejection? book first = some entry.2 := by
        obtain ⟨position, reason⟩ := entry
        cases intake.rejection? book first with
        | none => simp
        | some found => simp [eq_comm]
      rw [hfirst]
      constructor
      · rintro (⟨hindex, hrejects⟩ | ⟨position, item, hindex, hitem, hrejects⟩)
        · exact ⟨0, first, hindex, rfl, hrejects⟩
        · exact ⟨position + 1, item, by omega, hitem, hrejects⟩
      · rintro ⟨position, item, hindex, hitem, hrejects⟩
        cases position with
        | zero =>
            obtain rfl : first = item := Option.some.inj hitem
            exact .inl ⟨hindex, hrejects⟩
        | succ position => exact .inr ⟨position, item, by omega, hitem, hrejects⟩

theorem pairwise_rejectedFrom (items : List α) (index : Nat) (book : Book) :
    (intake.rejectedFrom index book items).Pairwise (·.1 < ·.1) := by
  induction items generalizing index book with
  | nil => exact .nil
  | cons first rest ih =>
      rw [rejectedFrom_cons]
      refine List.pairwise_append.mpr ⟨?_, ih .., ?_⟩
      · cases intake.rejection? book first <;> simp
      · intro early hearly late hlate
        obtain ⟨reason, -, rfl⟩ : ∃ reason, intake.rejection? book first = some reason ∧
            (index, reason) = early := by simpa using hearly
        obtain ⟨position, -, hposition, -⟩ := (mem_rejectedFrom_iff ..).mp hlate
        omega

/-- The rejected items are found one after the other. -/
theorem rejects_rejectedFrom (book : Book) (items : List α) :
    intake.Rejects book items (intake.rejectedFrom 0 book items) := by
  have hmem : ∀ position reason, (position, reason) ∈ intake.rejectedFrom 0 book items ↔
      ∃ item, items[position]? = some item ∧
        intake.rejection? (intake.takeAll book (items.take position)) item = some reason := by
    intro position reason
    rw [mem_rejectedFrom_iff]
    simp
  refine ⟨pairwise_rejectedFrom items 0 book, hmem, fun position reason hrejected => ?_⟩
  obtain ⟨item, hitem, hrejects⟩ := (hmem position reason).mp hrejected
  rw [List.take_add_one, hitem, Option.toList_some, takeAll, List.foldl_append]
  exact intake.take_of_some hrejects

variable (intake) in
/-- What every accepted item preserves together with the list of those accepted before, some
items preserve. -/
theorem takeAll_induction (holds : Book → List α → Prop)
    (step : ∀ book earlier item, holds book earlier → intake.rejection? book item = none →
      holds (intake.accept book item) (earlier ++ [item]))
    (items : List α) {book : Book} (earlier : List α) (initial : holds book earlier) :
    holds (intake.takeAll book items) (earlier ++ intake.accepted book items) := by
  induction items generalizing book earlier with
  | nil => rwa [accepted, List.append_nil]
  | cons item rest ih =>
      rw [takeAll_cons, accepted_cons, ← List.append_assoc]
      apply ih
      cases hrejection : intake.rejection? book item with
      | some reason =>
          rw [intake.take_of_some hrejection]
          simpa using initial
      | none =>
          rw [intake.take_of_none hrejection]
          exact step book earlier item initial hrejection

end Intake

namespace Book

/-- Accounts are created. -/
def creating : Intake LedgerAccount AccountRejection := ⟨accountRejection?, addAccount⟩

/-- Transfers are posted. -/
def posting : Intake Transfer TransferRejection := ⟨transferRejection?, post⟩

/-- Accounts are created one after the other. -/
theorem createAccountsFrom_eq (index : Nat) (accounts : List LedgerAccount) (book : Book) :
    createAccountsFrom index accounts book =
      (creating.rejectedFrom index book accounts, creating.takeAll book accounts) := by
  induction accounts generalizing index book with
  | nil => rfl
  | cons account rest ih =>
      rw [createAccountsFrom, Intake.rejectedFrom_cons, Intake.takeAll_cons]
      cases hrejection : book.accountRejection? account with
      | some reason =>
          rw [creating.take_of_some hrejection]
          simp [ih, creating, hrejection]
      | none =>
          rw [creating.take_of_none hrejection]
          simp [ih, creating, hrejection]

/-! ## A failure that is armed -/

/-- A ledger with the number of transfers after which it fails. -/
def arm (book : Book) (failAfter : Option Nat) : Book := { book with failAfter }

theorem take_arm (book : Book) (failAfter : Option Nat) (transfer : Transfer) :
    posting.take (book.arm failAfter) transfer = (posting.take book transfer).arm failAfter := by
  have hsame : (book.arm failAfter).transferRejection? transfer =
      book.transferRejection? transfer := rfl
  cases hrejection : book.transferRejection? transfer with
  | some reason =>
      rw [posting.take_of_some hrejection,
        posting.take_of_some (hsame.trans hrejection)]
  | none =>
      rw [posting.take_of_none hrejection,
        posting.take_of_none (hsame.trans hrejection)]
      rfl

/-- When it fails has no influence on how a ledger takes transfers on. -/
theorem takeAll_arm (book : Book) (failAfter : Option Nat) (transfers : List Transfer) :
    posting.takeAll (book.arm failAfter) transfers =
      (posting.takeAll book transfers).arm failAfter := by
  induction transfers generalizing book with
  | nil => rfl
  | cons transfer rest ih => rw [Intake.takeAll_cons, Intake.takeAll_cons, take_arm, ih]

theorem rejectedFrom_arm (index : Nat) (book : Book) (failAfter : Option Nat)
    (transfers : List Transfer) :
    posting.rejectedFrom index (book.arm failAfter) transfers =
      posting.rejectedFrom index book transfers := by
  induction transfers generalizing index book with
  | nil => rfl
  | cons transfer rest ih =>
      rw [Intake.rejectedFrom_cons, Intake.rejectedFrom_cons, take_arm, ih]
      rfl

/-- A ledger that does not fail at once looks at a transfer and goes on with the rest. -/
theorem createTransfersFrom_cons {book : Book} (spared : book.failAfter ≠ some 0) (index : Nat)
    (transfer : Transfer) (rest : List Transfer) :
    createTransfersFrom index (transfer :: rest) book =
      ((((book.transferRejection? transfer).map ((index, ·))).toList ++ ·) <$>
        createTransfersFrom (index + 1) rest : Request Book (List (Nat × TransferRejection)))
          ((posting.take book transfer).arm (book.failAfter.map (· - 1))) := by
  cases hrejection : book.transferRejection? transfer with
  | some reason =>
      rw [posting.take_of_some hrejection, createTransfersFrom, Run.get_bind_apply, hrejection]
      obtain ⟨accounts, transfers, failAfter⟩ := book
      cases failAfter with
      | none => rfl
      | some count =>
          cases count with
          | zero => exact absurd rfl spared
          | succ count => rfl
  | none =>
      have hall : (fun rejected : List (Nat × TransferRejection) =>
          (none.map ((index, ·))).toList ++ rejected) = id := rfl
      rw [posting.take_of_none hrejection, hall, id_map, createTransfersFrom, Run.get_bind_apply,
        hrejection]
      obtain ⟨accounts, transfers, failAfter⟩ := book
      cases failAfter with
      | none => rfl
      | some count =>
          cases count with
          | zero => exact absurd rfl spared
          | succ count => rfl

/-- A request that no failure strikes is answered with what was rejected. -/
theorem createTransfersFrom_of_spared {book : Book} {transfers : List Transfer}
    (spared : ∀ count, book.failAfter = some count → transfers.length ≤ count) (index : Nat) :
    createTransfersFrom index transfers book =
      (.ok (posting.rejectedFrom index book transfers),
        (posting.takeAll book transfers).arm (book.failAfter.map (· - transfers.length))) := by
  induction transfers generalizing index book with
  | nil =>
      have hcount : book.failAfter.map (· - 0) = book.failAfter := Option.map_id'
      exact congrArg (Prod.mk _ ∘ book.arm) hcount.symm
  | cons transfer rest ih =>
      have hhead : book.failAfter ≠ some 0 := fun hfail => Nat.not_succ_le_zero _ (spared 0 hfail)
      have hrest : ∀ count, book.failAfter.map (· - 1) = some count → rest.length ≤ count := by
        intro count hcount
        obtain ⟨armed, harmed, rfl⟩ := Option.map_eq_some_iff.mp hcount
        have := spared armed harmed
        rw [List.length_cons] at this
        omega
      have hcount : (book.failAfter.map (· - 1)).map (· - rest.length) =
          book.failAfter.map (· - (transfer :: rest).length) := by
        rw [Option.map_map]
        exact Option.map_congr fun armed _ => by simp; omega
      rw [createTransfersFrom_cons hhead, Run.map_apply, ih hrest, rejectedFrom_arm, takeAll_arm,
        Intake.rejectedFrom_cons, Intake.takeAll_cons, ← hcount]
      rfl

/-- A request that a failure strikes has looked at the transfers before. -/
theorem createTransfersFrom_of_struck {book : Book} {transfers : List Transfer} {count : Nat}
    (armed : book.failAfter = some count) (struck : count < transfers.length) (index : Nat) :
    createTransfersFrom index transfers book =
      (.error (.unavailable "injected failure"),
        (posting.takeAll book (transfers.take count)).arm none) := by
  induction transfers generalizing index book count with
  | nil => cases struck
  | cons transfer rest ih =>
      cases count with
      | zero =>
          rw [createTransfersFrom, Run.get_bind_apply, armed]
          rfl
      | succ count =>
          have hhead : book.failAfter ≠ some 0 := by simp [armed]
          have hrest : ((posting.take book transfer).arm (book.failAfter.map (· - 1))).failAfter =
              some count := by simp [armed, arm]
          rw [createTransfersFrom_cons hhead, Run.map_apply, ih hrest (Nat.lt_of_succ_lt_succ struck),
            takeAll_arm]
          rfl

/-- Those of some transfers that a ledger looks at before it fails. -/
def reached (book : Book) (transfers : List Transfer) : List Transfer :=
  transfers.take (book.failAfter.getD transfers.length)

/-- Whether a failure strikes it or not, a request takes the transfers on that are looked at. -/
theorem exists_createTransfers_eq (transfers : List Transfer) (book : Book) :
    ∃ failAfter, (service.createTransfers transfers book).2 =
      (posting.takeAll book (book.reached transfers)).arm failAfter := by
  have hrequest : service.createTransfers transfers book =
      createTransfersFrom 0 transfers book := rfl
  rw [hrequest, reached]
  by_cases hstruck : ∃ count, book.failAfter = some count ∧ count < transfers.length
  · obtain ⟨count, harmed, hshort⟩ := hstruck
    rw [createTransfersFrom_of_struck harmed hshort, harmed]
    exact ⟨_, rfl⟩
  · have hspared : ∀ count, book.failAfter = some count → transfers.length ≤ count :=
      fun count harmed => Nat.le_of_not_lt fun hshort => hstruck ⟨count, harmed, hshort⟩
    have hall : transfers.take (book.failAfter.getD transfers.length) = transfers := by
      apply List.take_of_length_le
      cases hfail : book.failAfter with
      | none => exact Nat.le_refl _
      | some count => exact hspared count hfail
    rw [createTransfersFrom_of_spared hspared, hall]
    exact ⟨_, rfl⟩

/-! ## Both sides of every transfer -/

/-- The amounts of those of some transfers that name an account on one side. -/
def sumOn (side : Transfer → AccountNumber) (transfers : List Transfer) (n : AccountNumber) : Nat :=
  ((transfers.filter (side · = n)).map (·.amount)).sum

/-- What some transfers move between accounts. -/
def sumOf (transfers : List Transfer) : Nat := (transfers.map (·.amount)).sum

/-- The debits of all accounts. -/
def totalDebits (book : Book) : Nat := (book.accounts.toList.map (·.2.debits)).sum

/-- The credits of all accounts. -/
def totalCredits (book : Book) : Nat := (book.accounts.toList.map (·.2.credits)).sum

/-- The transfers of a list are what is posted in a ledger: each under a number of its own,
between accounts that exist, and every counter is what they add up to. -/
structure Posted (book : Book) (transfers : List Transfer) : Prop where
  numbers : ∀ number, number ∈ book.transfers ↔ number ∈ transfers.map (·.number)
  once : (transfers.map (·.number)).Nodup
  sides : ∀ transfer ∈ transfers, transfer.debit ∈ book.accounts ∧ transfer.credit ∈ book.accounts
  counters : ∀ n account, book.accounts[n]? = some account →
    account.debits = sumOn (·.debit) transfers n ∧ account.credits = sumOn (·.credit) transfers n

section

variable {book : Book} {transfers : List Transfer} {transfer : Transfer}
  {side : Transfer → AccountNumber} {n : AccountNumber}

theorem sumOn_append (side : Transfer → AccountNumber) (first later : List Transfer)
    (n : AccountNumber) :
    sumOn side (first ++ later) n = sumOn side first n + sumOn side later n := by
  rw [sumOn, List.filter_append, List.map_append, List.sum_append]
  rfl

theorem sumOn_singleton (side : Transfer → AccountNumber) (transfer : Transfer) (n : AccountNumber) :
    sumOn side [transfer] n = if side transfer = n then transfer.amount else 0 := by
  unfold sumOn
  split <;> simp [*]

/-- An account that no transfer names has nothing on that side. -/
theorem sumOn_of_absent (absent : ∀ transfer ∈ transfers, side transfer ≠ n) :
    sumOn side transfers n = 0 := by
  have hnone : transfers.filter (side · = n) = [] := by simpa using absent
  rw [sumOn, hnone]
  rfl

/-- Over accounts among which every transfer finds its side, the amounts add up to all. -/
theorem sum_map_sumOn {numbers : List AccountNumber} (distinct : numbers.Nodup)
    (named : ∀ transfer ∈ transfers, side transfer ∈ numbers) :
    (numbers.map (sumOn side transfers)).sum = sumOf transfers := by
  induction transfers with
  | nil =>
      have hzero : sumOn side [] = fun _ => 0 := rfl
      simp [hzero, sumOf]
  | cons transfer rest ih =>
      have hsplit : sumOn side (transfer :: rest) = fun n =>
          (if side transfer = n then transfer.amount else 0) + sumOn side rest n := by
        funext n
        rw [← sumOn_singleton, ← sumOn_append]
        rfl
      have hone : (numbers.map fun n => if side transfer = n then transfer.amount else 0).sum =
          transfer.amount := by
        rw [List.sum_map_eq_nsmul_single (side transfer) _
            (fun n hother _ => if_neg (Ne.symm hother)), if_pos rfl,
          List.count_eq_one_of_mem distinct (named transfer List.mem_cons_self), one_nsmul]
      rw [hsplit, List.sum_map_add, hone,
        ih fun other hmem => named other (List.mem_cons_of_mem _ hmem)]
      rfl

/-- A counter that every account has from the transfers that name it on one side adds up to the
amounts of all. -/
theorem sum_of_posted {counter : LedgerAccount → Nat}
    (counted : ∀ n account, book.accounts[n]? = some account →
      counter account = sumOn side transfers n)
    (named : ∀ transfer ∈ transfers, side transfer ∈ book.accounts) :
    (book.accounts.toList.map fun entry => counter entry.2).sum = sumOf transfers := by
  have hcounted : (book.accounts.toList.map fun entry => counter entry.2) =
      (book.accounts.toList.map Prod.fst).map (sumOn side transfers) := by
    rw [List.map_map]
    refine List.map_congr_left fun entry hmem => ?_
    exact counted _ _ (Std.ExtTreeMap.mem_toList_iff_getElem?_eq_some.mp hmem)
  have hkeys : book.accounts.toList.map Prod.fst = book.accounts.keys :=
    Std.ExtTreeMap.map_fst_toList_eq_keys
  rw [hcounted, hkeys]
  refine sum_map_sumOn ?_ fun transfer hmem => ?_
  · exact Std.ExtTreeMap.nodup_keys
  · exact Std.ExtTreeMap.mem_keys.mpr (named transfer hmem)

/-- The two sides of a ledger agree in total. -/
theorem Posted.totals (posted : book.Posted transfers) :
    book.totalDebits = sumOf transfers ∧ book.totalCredits = sumOf transfers :=
  ⟨sum_of_posted (fun n account hfound => (posted.counters n account hfound).1)
      fun transfer hmem => (posted.sides transfer hmem).1,
    sum_of_posted (fun n account hfound => (posted.counters n account hfound).2)
      fun transfer hmem => (posted.sides transfer hmem).2⟩

theorem posted_empty : empty.Posted [] := by
  constructor <;> simp [empty]

theorem Posted.arm (posted : book.Posted transfers) (failAfter : Option Nat) :
    (book.arm failAfter).Posted transfers :=
  ⟨posted.numbers, posted.once, posted.sides, posted.counters⟩

/-- On an account that is created nothing is posted yet. -/
theorem Posted.addAccount (posted : book.Posted transfers) {account : LedgerAccount}
    (accepted : book.accountRejection? account = none) :
    (book.addAccount account).Posted transfers := by
  have habsent : account.number ∉ book.accounts := by
    rw [Std.ExtTreeMap.mem_iff_isSome_getElem?, (accountRejection?_eq_none_iff.mp accepted).2.2]
    exact Bool.false_ne_true
  have hbefore : ∀ transfer ∈ transfers, transfer.debit ≠ account.number ∧
      transfer.credit ≠ account.number := fun transfer hmem =>
    ⟨fun hsame => habsent (hsame ▸ (posted.sides transfer hmem).1),
      fun hsame => habsent (hsame ▸ (posted.sides transfer hmem).2)⟩
  refine ⟨posted.numbers, posted.once, fun transfer hmem => ?_, fun n found hfound => ?_⟩
  · obtain ⟨hdebit, hcredit⟩ := posted.sides transfer hmem
    exact ⟨Std.ExtTreeMap.mem_insert.mpr (.inr hdebit),
      Std.ExtTreeMap.mem_insert.mpr (.inr hcredit)⟩
  · rw [Book.addAccount, Std.ExtTreeMap.getElem?_insert] at hfound
    split at hfound
    · next hnumber =>
        obtain rfl := Std.LawfulEqCmp.eq_of_compare hnumber
        obtain rfl := Option.some.inj hfound
        exact ⟨(sumOn_of_absent fun transfer hmem => (hbefore transfer hmem).1).symm,
          (sumOn_of_absent fun transfer hmem => (hbefore transfer hmem).2).symm⟩
    · exact posted.counters n found hfound

/-- A transfer that is posted is added to the account on either side. -/
theorem getElem?_post (book : Book) (transfer : Transfer) (n : AccountNumber) :
    (book.post transfer).accounts[n]? = book.accounts[n]?.map fun account => { account with
      debits := account.debits + sumOn (·.debit) [transfer] n
      credits := account.credits + sumOn (·.credit) [transfer] n } := by
  simp only [post, Std.ExtTreeMap.getElem?_modify, Std.compare_eq_iff_eq, sumOn_singleton]
  by_cases hdebit : transfer.debit = n <;> by_cases hcredit : transfer.credit = n <;>
    simp [hdebit, hcredit, Option.map_map, Function.comp_def]

theorem mem_accounts_post (book : Book) (transfer : Transfer) (n : AccountNumber) :
    n ∈ (book.post transfer).accounts ↔ n ∈ book.accounts := by
  rw [Std.ExtTreeMap.mem_iff_isSome_getElem?, Std.ExtTreeMap.mem_iff_isSome_getElem?,
    getElem?_post, Option.isSome_map]

/-- A transfer that is posted has a new number, and its accounts exist. -/
theorem Posted.post (posted : book.Posted transfers)
    (accepted : book.transferRejection? transfer = none) :
    (book.post transfer).Posted (transfers ++ [transfer]) := by
  obtain ⟨-, hfresh, -, -, debit, credit, hdebit, hcredit, -⟩ :=
    transferRejection?_eq_none_iff.mp accepted
  refine ⟨fun number => ?_, ?_, fun other hmem => ?_, fun n account hfound => ?_⟩
  · rw [Book.post, Std.ExtTreeSet.mem_insert, posted.numbers, List.map_append, List.mem_append,
      Std.compare_eq_iff_eq, List.map_singleton, List.mem_singleton, or_comm, eq_comm]
  · rw [posted.numbers] at hfresh
    rw [List.map_append, List.map_singleton, ← List.concat_eq_append]
    exact posted.once.concat hfresh
  · rw [mem_accounts_post, mem_accounts_post]
    rcases List.mem_append.mp hmem with hmem | hmem
    · exact posted.sides other hmem
    · obtain rfl := List.mem_singleton.mp hmem
      exact ⟨Std.ExtTreeMap.mem_iff_isSome_getElem?.mpr (by rw [hdebit]; rfl),
        Std.ExtTreeMap.mem_iff_isSome_getElem?.mpr (by rw [hcredit]; rfl)⟩
  · rw [getElem?_post] at hfound
    obtain ⟨earlier, hearlier, rfl⟩ := Option.map_eq_some_iff.mp hfound
    obtain ⟨hdebits, hcredits⟩ := posted.counters n earlier hearlier
    rw [sumOn_append, sumOn_append, hdebits, hcredits]
    exact ⟨rfl, rfl⟩

/-! ## Accounts stay -/

/-- Every account of a ledger is still there in another: the same account, whose counters have
at most grown. -/
def Retains (book later : Book) : Prop := ∀ (n : AccountNumber) (account : LedgerAccount),
  book.accounts[n]? = some account →
    ∃ delta found, later.accounts[n]? = some found ∧ account.Moves delta found

instance : IsPreorder Book Retains where
  refl _ _ account hfound := ⟨0, account, hfound, .refl account⟩
  trans _ _ _ first second n account hfound := by
    obtain ⟨delta, mid, hmid, hmoves⟩ := first n account hfound
    obtain ⟨further, last, hlast, hfurther⟩ := second n mid hmid
    exact ⟨delta + further, last, hlast, hmoves.trans hfurther⟩

theorem retains_addAccount {account : LedgerAccount}
    (accepted : book.accountRejection? account = none) :
    book.Retains (book.addAccount account) := by
  intro n earlier hearlier
  have hother : ¬ account.number = n := by
    rintro rfl
    cases (accountRejection?_eq_none_iff.mp accepted).2.2.symm.trans hearlier
  refine ⟨0, earlier, ?_, .refl earlier⟩
  rw [addAccount, Std.ExtTreeMap.getElem?_insert, if_neg (by simpa using hother), hearlier]

theorem retains_post (book : Book) (transfer : Transfer) : book.Retains (book.post transfer) := by
  intro n account hfound
  have hafter := getElem?_post book transfer n
  rw [hfound, Option.map_some] at hafter
  refine ⟨sumOn (·.credit) [transfer] n - sumOn (·.debit) [transfer] n, _, hafter,
    rfl, rfl, rfl, ?_, Nat.le_add_right _ _, Nat.le_add_right _ _⟩
  simp only [LedgerAccount.posted]
  omega

end

end Book

/-! ## Requests in any order -/

/-- What is asked of a ledger in this process. -/
inductive Demand
  | accounts (items : List LedgerAccount)
  | transfers (items : List Transfer)
  /-- It is told to fail, after some more transfers. -/
  | failure (after : Nat)

namespace Demand

/-- The ledger after a demand. -/
def perform (book : Book) : Demand → Book
  | accounts items => (Book.service.createAccounts items book).2
  | transfers items => (Book.service.createTransfers items book).2
  | failure count => book.arm (some count)

/-- The transfers that a demand has booked: those accepted among the ones looked at. -/
def booked (book : Book) : Demand → List Transfer
  | transfers items => Book.posting.accepted book (book.reached items)
  | _ => []

/-- The ledger after some demands. -/
def final (history : List Demand) (book : Book) : Book := history.foldl perform book

/-- The transfers that some demands have booked. -/
def bookedBy (book : Book) : List Demand → List Transfer
  | [] => []
  | demand :: rest => demand.booked book ++ bookedBy (demand.perform book) rest

variable {book : Book} {transfers : List Transfer}

theorem perform_accounts (book : Book) (items : List LedgerAccount) :
    (accounts items).perform book = Book.creating.takeAll book items :=
  congrArg Prod.snd (Book.createAccountsFrom_eq 0 items book)

/-- A demand keeps both sides of a ledger in step with what is booked. -/
theorem posted_perform (posted : book.Posted transfers) (demand : Demand) :
    (demand.perform book).Posted (transfers ++ demand.booked book) := by
  cases demand with
  | accounts items =>
      have hbooked : (accounts items).booked book = [] := rfl
      rw [hbooked, List.append_nil, perform_accounts]
      exact Book.creating.takeAll_induction (fun book _ => book.Posted transfers)
        (fun book _ account hposted haccepted => hposted.addAccount haccepted) items [] posted
  | transfers items =>
      obtain ⟨failAfter, hperform⟩ := Book.exists_createTransfers_eq items book
      rw [booked, perform, hperform]
      refine Book.Posted.arm ?_ failAfter
      exact Book.posting.takeAll_induction Book.Posted
        (fun book earlier transfer hposted haccepted => hposted.post haccepted) _ _ posted
  | failure count =>
      have hbooked : (failure count).booked book = [] := rfl
      rw [hbooked, List.append_nil]
      exact posted.arm (some count)

/-- No demand loses an account. -/
theorem retains_perform (book : Book) (demand : Demand) : book.Retains (demand.perform book) := by
  cases demand with
  | accounts items =>
      rw [perform_accounts]
      exact Book.creating.takeAll_induction (fun later _ => book.Retains later)
        (fun later _ account hretains haccepted =>
          IsTrans.trans _ _ _ hretains (Book.retains_addAccount haccepted))
        items [] (Std.Refl.refl book)
  | transfers items =>
      obtain ⟨failAfter, hperform⟩ := Book.exists_createTransfers_eq items book
      rw [perform, hperform]
      have hretains : book.Retains (Book.posting.takeAll book (book.reached items)) :=
        Book.posting.takeAll_induction (fun later _ => book.Retains later)
          (fun later _ transfer hretains _ =>
            IsTrans.trans _ _ _ hretains (Book.retains_post later transfer))
          _ [] (Std.Refl.refl book)
      exact hretains
  | failure count =>
      have hretains : book.Retains book := Std.Refl.refl book
      exact hretains

theorem posted_final (posted : book.Posted transfers) (history : List Demand) :
    (final history book).Posted (transfers ++ bookedBy book history) := by
  induction history generalizing book transfers with
  | nil => rwa [bookedBy, List.append_nil]
  | cons demand rest ih =>
      rw [bookedBy, ← List.append_assoc]
      exact ih (posted_perform posted demand)

theorem retains_final (book : Book) (history : List Demand) :
    book.Retains (final history book) := by
  induction history generalizing book with
  | nil => exact Std.Refl.refl book
  | cons demand rest ih => exact IsTrans.trans _ _ _ (retains_perform book demand) (ih _)

end Demand

/-- The books of a ledger that was empty at first balance, whatever has been asked of it. The
debits of all accounts and the credits of all accounts are both the sum of what was transferred;
the counters of each account are the sums over the transfers that name it; no number is booked
twice; and no account is lost or reset by what is asked later. The items of a request are taken
on one after the other, and the rejected ones, which change nothing, are what the answer lists.
A request that fails has taken on the transfers before the failure. -/
theorem double_entry (history : List Demand) :
    let book := Demand.final history Book.empty
    let booked := Demand.bookedBy Book.empty history
    (book.totalDebits = book.totalCredits ∧ book.totalCredits = Book.sumOf booked) ∧
    (∀ n account, book.accounts[n]? = some account →
      account.debits = Book.sumOn (·.debit) booked n ∧
      account.credits = Book.sumOn (·.credit) booked n) ∧
    (booked.map (·.number)).Nodup ∧
    (∀ later, book.Retains (Demand.final later book)) ∧
    (∀ accounts, ∃ rejected, Book.creating.Rejects book accounts rejected ∧
      Book.service.createAccounts accounts book =
        (.ok rejected, Book.creating.takeAll book accounts)) ∧
    (∀ transfers, (∀ count, book.failAfter = some count → transfers.length ≤ count) →
      ∃ rejected, Book.posting.Rejects book transfers rejected ∧
        Book.service.createTransfers transfers book =
          (.ok rejected, (Book.posting.takeAll book transfers).arm
            (book.failAfter.map (· - transfers.length)))) ∧
    ∀ transfers count, book.failAfter = some count → count < transfers.length →
      Book.service.createTransfers transfers book =
        (.error (.unavailable "injected failure"),
          (Book.posting.takeAll book (transfers.take count)).arm none) := by
  intro book booked
  have hposted : book.Posted booked := Demand.posted_final Book.posted_empty history
  obtain ⟨hdebits, hcredits⟩ := hposted.totals
  refine ⟨⟨hdebits.trans hcredits.symm, hcredits⟩, hposted.counters, hposted.once,
    Demand.retains_final book, fun accounts => ⟨_, Intake.rejects_rejectedFrom .., ?_⟩,
    fun transfers hspared => ⟨_, Intake.rejects_rejectedFrom .., ?_⟩,
    fun transfers count harmed hstruck => ?_⟩
  · exact congrArg (fun result => (Except.ok result.1, result.2))
      (Book.createAccountsFrom_eq 0 accounts book)
  · exact Book.createTransfersFrom_of_spared hspared 0
  · exact Book.createTransfersFrom_of_struck harmed hstruck 0

/-- A ledger is asked for accounts, one of them twice, for transfers that it accepts and rejects,
and is struck by a failure in the middle of a request. -/
theorem double_entry_struck :
    let account : AccountNumber → LedgerAccount := .new
    let transfer : TransferNumber → AccountNumber → AccountNumber → Nat → Transfer :=
      fun number debit credit amount => ⟨number, debit, credit, amount, mainLedger⟩
    let history : List Demand :=
      [.accounts [account 1, account 2, account 1, account 0], .accounts [⟨3, 2, 1, 7, 7⟩],
        .transfers [transfer 10 1 2 25, transfer 10 1 2 5, transfer 11 1 9 5, transfer 12 1 3 1],
        .failure 2, .transfers [transfer 13 2 1 4],
        .transfers [transfer 14 2 1 6, transfer 15 2 1 8], .failure 1]
    let book := Demand.final history Book.empty
    book.totalDebits = 35 ∧ book.totalCredits = 35 ∧
      Book.service.createTransfers [transfer 14 1 2 3, transfer 16 1 2 3] book =
        (.error (.unavailable "injected failure"), book.arm none) := by
  intro account transfer history book
  have hbooked : Book.sumOf (Demand.bookedBy Book.empty history) = 35 := by decide +kernel
  have harmed : book.failAfter = some 1 := by decide +kernel
  have hrejected : book.transferRejection? (transfer 14 1 2 3) = some .exists := by decide +kernel
  obtain ⟨⟨hsides, htotal⟩, -, -, -, -, -, hstruck⟩ := double_entry history
  have hanswer := hstruck [transfer 14 1 2 3, transfer 16 1 2 3] 1 harmed (by decide)
  have hlooked : ∀ {book : Book},
      book.transferRejection? (transfer 14 1 2 3) = some .exists →
      Book.posting.takeAll book [transfer 14 1 2 3] = book :=
    fun hrejection => Book.posting.take_of_some hrejection
  rw [List.take_succ_cons, List.take_zero, hlooked hrejected] at hanswer
  exact ⟨(hsides.trans htotal).trans hbooked, htotal.trans hbooked, hanswer⟩

end Clearinghouse.Ledger
