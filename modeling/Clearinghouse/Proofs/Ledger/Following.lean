/-
# A ledger follows a table

What is posted on the accounts of a ledger comes to a table, however many transfers have gone
over them: a balance is reported only if it is in range, and then it is what is posted, since
the two differ by a multiple of 128 bits. A commit that breaks off has booked its first changes
in full, and of the next one at most the account.
-/

import Clearinghouse.Proofs.Ledger.Company
import Clearinghouse.Proofs.Store.Following

namespace Clearinghouse.Ledger

/-- What is reported of an account differs from what is posted by a multiple of 128 bits. -/
theorem LedgerAccount.exists_net_eq (account : LedgerAccount) :
    ∃ count : Int, account.net = account.posted + (Nat.pow 2 128 : Nat) * count := by
  unfold LedgerAccount.net LedgerAccount.posted
  generalize Nat.pow 2 128 = width
  refine ⟨(account.debits : Int).bdiv width - (account.credits : Int).bdiv width, ?_⟩
  rw [Int.bmod_eq_self_sub_mul_bdiv, Int.bmod_eq_self_sub_mul_bdiv, Int.mul_sub]
  omega

/-- A balance that is reported of an account is what is posted on it, if that is a balance. -/
theorem LedgerAccount.eq_posted_of_reported {account : LedgerAccount} {balance held : Balance}
    (reported : Balance.ofInt? account.net = some balance)
    (posted : account.posted = held.toInt) : balance = held := by
  have hnet : balance.toInt = account.net := Balance.ofInt?_eq_some_iff.mp reported
  obtain ⟨count, hcount⟩ := account.exists_net_eq
  rw [posted, ← hnet] at hcount
  have hwide : Nat.pow 2 128 = 2 ^ 64 * 2 ^ 64 := by decide +kernel
  have hmin : Int64.minValue.toInt = -2 ^ 63 := rfl
  have hmax : Int64.maxValue.toInt = 2 ^ 63 - 1 := rfl
  obtain ⟨hlower, hupper⟩ := balance.inRange_toInt
  obtain ⟨hlower', hupper'⟩ := held.inRange_toInt
  rw [← Int64.toInt_inj]
  generalize Nat.pow 2 128 = width at hcount hwide
  subst hwide
  omega

namespace Book

/-- The accounts of a ledger that belong to someone come to a table. -/
structure Holds (book : Book) (table : Table) : Prop where
  numbered : ∀ {n : AccountNumber} {account : LedgerAccount},
    book.accounts[n]? = some account → account.number = n
  held : ∀ id : AccountId, book.accounts[id.toNat]?.map (·.posted) = table[id]?.map (·.toInt)

variable {book after : Book} {table : Table} {changes : List Change} {change : Change}

theorem holds_congr (same : after.content = book.content) (holds : book.Holds table) :
    after.Holds table := by
  have haccounts : after.accounts = book.accounts := (Prod.mk.inj same).1
  exact ⟨fun hfound => holds.numbered (haccounts ▸ hfound), fun id => haccounts ▸ holds.held id⟩

/-- A new account with another number leaves the others as they are. -/
theorem numbered_addAccount (holds : book.Holds table) {number n : AccountNumber}
    {account : LedgerAccount}
    (found : (book.addAccount (.new number)).accounts[n]? = some account) :
    account.number = n := by
  rw [addAccount, Std.ExtTreeMap.getElem?_insert] at found
  split at found
  · next hnumber =>
      cases found
      exact Std.LawfulEqCmp.eq_of_compare hnumber
  · exact holds.numbered found

/-- The system account belongs to nobody. -/
theorem Holds.addSystemAccount (holds : book.Holds table) :
    (book.addAccount (.new systemAccount)).Holds table where
  numbered := numbered_addAccount holds
  held id := by
    have hother : ¬ systemAccount = id.toNat := (toNat_ne_systemAccount id).symm
    rw [addAccount, Std.ExtTreeMap.getElem?_insert,
      if_neg (by simpa [LedgerAccount.new] using hother), holds.held]

/-- An account that was opened holds nothing. -/
theorem Holds.addAccount (holds : book.Holds table) (id : AccountId) :
    (book.addAccount (.new id.toNat)).Holds (table.insert id 0) where
  numbered := numbered_addAccount holds
  held other := by
    rw [Book.addAccount, Std.ExtTreeMap.getElem?_insert, Std.ExtTreeMap.getElem?_insert]
    by_cases hid : id = other
    · simp [hid, LedgerAccount.new, LedgerAccount.posted]
    · have hnumber : ¬ id.toNat = other.toNat := fun same => hid (UInt64.toNat_inj.mp same)
      simp [hid, LedgerAccount.new, hnumber, holds.held]

/-- An account of the table is one of the ledger. -/
theorem Holds.account_posted (holds : book.Holds table) (id : AccountId) :
    (book.account id.toNat).posted = table.total id := by
  have hheld := holds.held id
  rw [account, Table.total, ← hheld]
  cases book.accounts[id.toNat]? <;> rfl

/-- Admissible changes that were booked are recorded in the table. -/
theorem Holds.recorded (holds : book.Holds table) (recorded : book.Recorded changes after)
    (admits : table.Admits changes) : after.Holds (table.recordAll changes) where
  numbered {n account} found := by
    have hmoves := recorded.moves n
    rw [account_of_some found] at hmoves
    rw [hmoves.number, Book.account]
    cases hbefore : book.accounts[n]? with
    | none => rfl
    | some earlier => exact holds.numbered hbefore
  held id := by
    by_cases hnamed : ∃ change ∈ changes, change.id = id
    · obtain ⟨change, hmem, rfl⟩ := hnamed
      have hobserved := admits.observed change hmem
      have hbase : table.total change.id = change.base := by
        rw [Table.total, ← hobserved, Change.base]
        cases change.observed <;> rfl
      have hthere : after.accounts[change.id.toNat]?.isSome := by
        rw [recorded.present]
        cases hcreation : change.isCreation with
        | true => exact .inr ⟨change, hmem, hcreation, rfl⟩
        | false =>
            have hheld := congrArg Option.isSome (holds.held change.id)
            rw [Option.isSome_map, Option.isSome_map, ← hobserved] at hheld
            rw [hheld]
            have hobserved : change.observed.isSome := by simpa [Change.isCreation] using hcreation
            exact .inl hobserved
      obtain ⟨later, hlater⟩ := Option.isSome_iff_exists.mp hthere
      have hmoved := (recorded.moves change.id.toNat).posted
      rw [movement_of_mem admits.ascending hmem, account_of_some hlater, holds.account_posted,
        hbase, Change.delta] at hmoved
      have hagree : ∀ other ∈ changes, other.id = change.id → other.balance = change.balance := by
        intro other hother hid
        have hapart : (changes.map (·.id)).Nodup :=
          List.pairwise_map.mpr (admits.ascending.imp UInt64.ne_of_lt)
        rw [List.inj_on_of_nodup_map hapart hother hmem hid]
      rw [hlater, Table.getElem?_recordAll_of_agree change hmem hagree, Option.map_some,
        Option.map_some, Option.some_inj, hmoved]
      omega
    · have habsent : ∀ change ∈ changes, change.id ≠ id := fun change hmem hid =>
        hnamed ⟨change, hmem, hid⟩
      rw [recorded.others _ (toNat_ne_systemAccount id) fun change hmem hid =>
          habsent change hmem (UInt64.toNat_inj.mp hid),
        Table.getElem?_recordAll_of_forall_ne habsent, holds.held]

end Book

section

variable {L : Type} {service : Service L} {book : L → Book} {table : Table}

/-- A balance is reported of an account only if it is that of the table. -/
theorem accountOf_of_holds {ledger : Book} (holds : ledger.Holds table) {id : AccountId}
    {account : LedgerAccount} (found : ledger.accounts[id.toNat]? = some account)
    {reported : Account} (answered : accountOf id account = .ok reported) :
    table.account? id = some reported := by
  have hheld := holds.held id
  rw [found, Option.map_some] at hheld
  obtain ⟨held, hbalance, hposted⟩ := Option.map_eq_some_iff.mp hheld.symm
  rw [accountOf] at answered
  cases hnet : Balance.ofInt? account.net with
  | none =>
      rw [hnet] at answered
      cases answered
  | some balance =>
      rw [hnet] at answered
      cases answered
      rw [account.eq_posted_of_reported hnet hposted.symm, Table.account?, hbalance, Option.map_some]

/-- What is reported of some accounts is what the table has of them. -/
theorem mem_of_accountsOf {ledger : Book} (holds : ledger.Holds table) {found : List LedgerAccount}
    (listed : ∀ account ∈ found, ∃ id : AccountId, ledger.accounts[id.toNat]? = some account)
    {reported : List Account} (answered : accountsOf found = .ok reported) :
    ∀ account ∈ reported, table[account.id]? = some account.balance := by
  induction found generalizing reported with
  | nil =>
      cases answered
      nofun
  | cons first rest ih =>
      obtain ⟨id, hid⟩ := listed first List.mem_cons_self
      have hnumber : UInt64.ofNat first.number = id := by
        rw [holds.numbered hid, UInt64.ofNat_toNat]
      rw [accountsOf, hnumber] at answered
      cases hfirst : accountOf id first with
      | error e =>
          rw [hfirst] at answered
          cases answered
      | ok account =>
          cases hrest : accountsOf rest with
          | error e =>
              rw [hfirst, hrest] at answered
              cases answered
          | ok accounts =>
              rw [hfirst, hrest] at answered
              cases answered
              intro other hmem
              rcases List.mem_cons.mp hmem with rfl | hmem
              · obtain ⟨balance, hbalance, hother⟩ :=
                  Option.map_eq_some_iff.mp (accountOf_of_holds holds hid hfirst)
                rw [← hother]
                exact hbalance
              · exact ih (fun account hlater => listed account (List.mem_cons_of_mem first hlater))
                  hrest other hmem

/-- A lookup that answers finds the accounts of the ledger. -/
theorem eq_of_lookup (keeps : service.Keeps book) {context : String}
    {numbers : List AccountNumber} {state later : State L} {found : List LedgerAccount}
    (answered : run context (service.lookup numbers) state = (.ok found, later)) :
    found = numbers.filterMap ((book state.2).accounts[·]?) := by
  rw [run, Run.onPart_apply, Run.adapt_apply] at answered
  cases hlookup : (service.lookup numbers state.2).1 with
  | error failure =>
      rw [hlookup] at answered
      cases answered
  | ok listed =>
      rw [hlookup] at answered
      obtain rfl : listed = found := Except.ok.inj (congrArg Prod.fst answered)
      exact keeps.lookup_answer hlookup

theorem load_of_holds (keeps : service.Keeps book) {state : State L}
    (holds : (book state.2).Holds table) {id : AccountId} {answer : Option Account}
    (answered : ((backend service).load id state).1 = .ok answer) :
    answer = table.account? id := by
  obtain ⟨_, -, answered⟩ := ensureConnected_kept.exists_of_bind_ok answered
  obtain ⟨found, later, hlookup, answered⟩ := Run.exists_of_bind_ok answered
  have hfound := eq_of_lookup keeps hlookup
  rw [List.filterMap_cons, List.filterMap_nil] at hfound
  cases haccount : (book state.2).accounts[id.toNat]? with
  | none =>
      rw [haccount] at hfound
      subst hfound
      have hheld := holds.held id
      rw [haccount, Option.map_none, eq_comm, Option.map_eq_none_iff] at hheld
      rw [Table.account?, hheld]
      exact (Except.ok.inj answered).symm
  | some account =>
      rw [haccount] at hfound
      subst hfound
      dsimp only at answered
      rw [remember, Run.modify_bind_apply] at answered
      generalize hread : accountOf id account = read at answered
      obtain ⟨reported, last, hreported, answered⟩ := Run.exists_of_bind_ok answered
      obtain rfl : read = .ok reported := congrArg Prod.fst hreported
      rw [accountOf_of_holds holds haccount hread]
      exact (Except.ok.inj answered).symm

theorem loadAll_of_holds (keeps : service.Keeps book) {state : State L}
    (holds : (book state.2).Holds table) {listed : List Account}
    (answered : ((backend service).loadAll state).1 = .ok listed) :
    ∀ account ∈ listed, table[account.id]? = some account.balance := by
  have hloadAll : (backend service).loadAll state = _ := Run.get_bind_apply _ state
  rw [hloadAll] at answered
  split at answered
  · cases answered
    nofun
  obtain ⟨_, -, answered⟩ := ensureConnected_kept.exists_of_bind_ok answered
  obtain ⟨found, later, hlookup, answered⟩ := Run.exists_of_bind_ok answered
  obtain ⟨accounts, last, haccounts, hlisted⟩ := Run.exists_of_bind_ok answered
  have hread : accountsOf found = .ok accounts := congrArg Prod.fst haccounts
  have hthere : ∀ account ∈ found,
      ∃ id : AccountId, (book state.2).accounts[id.toNat]? = some account := by
    intro account hmem
    rw [eq_of_lookup keeps hlookup] at hmem
    obtain ⟨number, hnumber, hfound⟩ := List.mem_filterMap.mp hmem
    obtain ⟨id, -, rfl⟩ := List.mem_map.mp hnumber
    exact ⟨id, hfound⟩
  rw [← Except.ok.inj hlisted]
  intro account hmem
  exact mem_of_accountsOf holds hthere hread account (List.mem_mergeSort.mp hmem)

/-- A ledger follows a table. -/
theorem backend_follows (keeps : service.Keeps book)
    (connects : Run.Along (Run.Kept fun ledger => (book ledger).content) service.connect) :
    (backend service).Follows fun state table => (book state.2).Holds table where
  connect {state table} holds := by
    have halong : Run.Along (Run.Preserved fun state : State L => (book state.2).Holds table)
        (connect service) :=
      connect_along keeps connects Book.holds_congr fun same holds =>
        Book.holds_congr same holds.addSystemAccount
    exact .inl (halong state holds)
  disconnect holds := .inl holds
  load id holds := Book.holds_congr ((backend_candid keeps.candid).load_content id _) holds
  load_answer holds answered := load_of_holds keeps holds answered
  loadAll holds := Book.holds_congr (loadAll_content keeps _) holds
  loadAll_answer holds answered := loadAll_of_holds keeps holds answered
  flush_done {state table changes} holds admits answered := by
    have hbooking := flush_booking keeps changes state
    generalize (backend service).flush changes state = result at hbooking answered
    cases hbooking with
    | done recorded => exact holds.recorded recorded admits
    | failed => cases answered
  flush_failed {state table changes e} holds admits answered := by
    have hbooking := flush_booking keeps changes state
    generalize (backend service).flush changes state = result at hbooking answered
    cases hbooking with
    | done => cases answered
    | @failed first last change mid wrote e later after split recorded stopped whole =>
        rw [List.nil_append] at recorded
        have hrecorded := holds.recorded recorded (split ▸ admits).of_append
        cases wrote with
        | true =>
            obtain ⟨-, -, hsame⟩ := stopped
            exact ⟨_, .opened split, Book.holds_congr hsame (hrecorded.addAccount change.id)⟩
        | false => exact ⟨_, .recorded split, Book.holds_congr stopped hrecorded⟩

end

end Clearinghouse.Ledger
