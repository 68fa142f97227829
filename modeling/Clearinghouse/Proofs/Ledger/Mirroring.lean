/-
# A ledger that mirrors a table

A store that is connected to a ledger in the same process shows the table that the ledger
denotes, if it knows the accounts of the table. Admissible changes are booked as movements
and so lead to what the changes say. As counters only grow, a ledger that is within its
bounds after a call was within them before.
-/

import Clearinghouse.Proofs.Ledger.Denotation
import Clearinghouse.Proofs.Store.Mirroring

namespace Clearinghouse.Ledger

/-! ## Booking -/

section

variable {draw : Book → TransferNumber} {handle : Handle} {book : Book} {table : Table}
  {change : Change}

/-- A request that rejects nothing is done. -/
theorem run_bind_of_accepted {α : Type} {context : String} {request : Request Book (List α)}
    {next : List α → Step (State Book) Unit} {later : Book}
    (accepted : request book = (.ok [], later)) :
    (run context request >>= next) (handle, book) = next [] (handle, later) := by
  have hrun : run context request (handle, book) = (.ok [], (handle, later)) := by
    rw [run, Run.onPart_apply, Run.adapt_apply, accepted]
    rfl
  exact Run.bind_of_ok hrun

theorem prepare_of_denotes (connected : handle.isConnected = true) (denotes : book.Denotes table)
    (observed : change.observed = table[change.id]?) (positive : 0 < change.id.toNat) :
    prepare (Book.serviceWith draw) change (handle, book) =
      (.ok (), (handle.opened change, book.prepare change)) := by
  rw [prepare, Handle.opened, Book.prepare]
  obtain ⟨hcreation, habsent, -⟩ | ⟨account, hcreation, -, -⟩ :=
    denotes.account_of_observed observed
  · have haccepted : book.accountRejection? (.new change.id.toNat) = none :=
      Book.accountRejection?_eq_none_iff.mpr ⟨Nat.ne_of_gt positive, Nat.one_ne_zero, habsent⟩
    have hcreated : (Book.serviceWith draw).createAccounts [.new change.id.toNat] book =
        (.ok [], book.addAccount (.new change.id.toNat)) := by
      have hrequest : (Book.serviceWith draw).createAccounts [.new change.id.toNat] book =
          (.ok (Book.createAccountsFrom 0 [.new change.id.toNat] book).1,
            (Book.createAccountsFrom 0 [.new change.id.toNat] book).2) := rfl
      rw [hrequest]
      simp only [Book.createAccountsFrom, haccepted]
    have hcreate : createAccount (Book.serviceWith draw) change.id (handle, book) =
        (.ok (), (handle, book.addAccount (.new change.id.toNat))) := by
      rw [createAccount, ensureConnected_bind connected, run_bind_of_accepted hcreated]
      rfl
    rw [if_pos hcreation, if_pos hcreation, if_pos hcreation, Run.bind_of_ok hcreate]
    rfl
  · simp only [hcreation]
    rfl

theorem transfer_of_accepted (connected : handle.isConnected = true)
    (unarmed : book.failAfter = none) {id : AccountId} {delta : Int}
    (accepted : book.transferRejection? (transferOf (draw book) id delta) = none) :
    transfer (Book.serviceWith draw) id delta (handle, book) =
      (.ok (), (handle, book.post (transferOf (draw book) id delta))) := by
  have hposted : (Book.serviceWith draw).createTransfers [transferOf (draw book) id delta] book =
      (.ok [], book.post (transferOf (draw book) id delta)) := by
    change Book.createTransfersFrom 0 _ book = _
    rw [Book.createTransfersFrom, Run.get_bind_apply, unarmed]
    simp only [accepted]
    rfl
  rw [transfer, ensureConnected_bind connected, Run.get_bind_apply]
  exact run_bind_of_accepted hposted

/-- A change that was staged against the table is booked. -/
theorem book_of_denotes (fresh : Fresh draw) (connected : handle.isConnected = true)
    (unarmed : book.failAfter = none) (denotes : book.Denotes table)
    (bounded : book.WithinBounds) (observed : change.observed = table[change.id]?)
    (positive : 0 < change.id.toNat) :
    ∃ now, Ledger.book (Book.serviceWith draw) change (handle, book) =
      (.done now, (handle.opened change, book.record (draw (book.prepare change)) change)) := by
  rw [book_of_prepared (prepare_of_denotes connected denotes observed positive), Book.record]
  split
  · exact ⟨_, rfl⟩
  · next hmoves =>
    have hconnected : (handle.opened change).isConnected = true := by
      rwa [handle.isConnected_opened]
    have hunarmed : (book.prepare change).failAfter = none :=
      Book.failAfter_prepare.trans unarmed
    have hfresh := fresh (book.prepare change)
    rw [Book.transfers_prepare] at hfresh
    obtain ⟨hnonzero, hunused⟩ := hfresh (denotes.room bounded)
    have haccepted := denotes.postable observed hmoves hnonzero hunused
    rw [transfer_of_accepted hconnected hunarmed haccepted]
    exact ⟨_, rfl⟩

/-! ## Reading -/

/-- Within bounds an account is reported with what is posted on it. -/
theorem accountOf_of_posted {id : AccountId} {account : LedgerAccount} {balance : Balance}
    (bounded : account.Bounded) (posted : account.posted = balance.toInt) :
    accountOf id account = .ok ⟨id, balance⟩ := by
  have hbalance : Balance.ofInt? account.net = some balance := by
    apply Balance.ofInt?_eq_some_iff.mpr
    rw [bounded.net]
    exact posted.symm
  rw [accountOf, hbalance]
  rfl

/-- The accounts of a table are reported by their numbers. -/
theorem accountsOf_of_denotes (denotes : book.Denotes table) (bounded : book.WithinBounds)
    (ids : List AccountId) :
    accountsOf ((ids.map (·.toNat)).filterMap (book.accounts[·]?)) =
      .ok (ids.filterMap table.account?) := by
  induction ids with
  | nil => rfl
  | cons id rest ih =>
      have hheld := denotes.held id
      rw [List.map_cons, List.filterMap_cons, List.filterMap_cons, Table.account?]
      cases hbalance : table[id]? with
      | none =>
          rw [hbalance, Option.map_none, Option.map_eq_none_iff] at hheld
          rw [hheld]
          exact ih
      | some balance =>
          rw [hbalance, Option.map_some] at hheld
          obtain ⟨account, haccount, hposted⟩ := Option.map_eq_some_iff.mp hheld
          have hid : UInt64.ofNat account.number = id := by
            rw [(denotes.main haccount).1, UInt64.ofNat_toNat]
          have hreported : accountOf id account = .ok ⟨id, balance⟩ :=
            accountOf_of_posted (bounded id.toNat account haccount) hposted
          rw [haccount]
          dsimp only
          rw [accountsOf, hid, hreported, ih]
          rfl

/-- The store is connected to a ledger that comes to the table, and knows its accounts. -/
structure Shows (state : State Book) (table : Table) : Prop where
  connected : state.1.isConnected = true
  unarmed : state.2.failAfter = none
  denotes : state.2.Denotes table
  known : ∀ id, id ∈ state.1.known ↔ table[id]?.isSome

variable {state : State Book}

/-- To remember an account that is known changes nothing. -/
theorem Shows.remember (shows : Shows state table) {id : AccountId}
    (there : table[id]?.isSome) : Shows (state.1.remember id, state.2) table where
  connected := shows.connected
  unarmed := shows.unarmed
  denotes := shows.denotes
  known other := by
    rw [Handle.remember, Std.ExtTreeSet.mem_insert, Std.compare_eq_iff_eq, shows.known]
    constructor
    · rintro (rfl | hknown)
      · exact there
      · exact hknown
    · exact .inr

variable (draw) in
/-- A store that is connected finds the accounts of the ledger, and knows from then on those
that are there. -/
theorem load_of_connected (connected : state.1.isConnected = true) (id : AccountId) :
    (backend (Book.serviceWith draw)).load id state =
      match state.2.accounts[id.toNat]? with
      | none => (.ok none, state)
      | some account => ((accountOf id account).map some, (state.1.remember id, state.2)) := by
  have hlookup : run "failed to look up account" ((Book.serviceWith draw).lookup [id.toNat])
      state = (.ok ([id.toNat].filterMap (state.2.accounts[·]?)), state) := rfl
  have hload : (backend (Book.serviceWith draw)).load id state = _ :=
    (ensureConnected_bind connected _).trans (Run.bind_of_ok hlookup)
  rw [hload, List.filterMap_cons, List.filterMap_nil]
  cases state.2.accounts[id.toNat]? with
  | none => rfl
  | some account =>
      dsimp only
      rw [remember, Run.modify_bind_apply]
      cases accountOf id account <;> rfl

variable (draw) in
/-- A store that is connected lists the accounts that it knows. -/
theorem loadAll_of_connected (connected : state.1.isConnected = true) :
    (backend (Book.serviceWith draw)).loadAll state =
      ((accountsOf ((state.1.known.toList.map (·.toNat)).filterMap (state.2.accounts[·]?))).map
        (·.mergeSort fun a b => a.id ≤ b.id), state) := by
  have hloadAll : (backend (Book.serviceWith draw)).loadAll state = _ :=
    Run.get_bind_apply _ state
  rw [hloadAll]
  split
  · next hnone =>
      rw [List.isEmpty_iff.mp hnone, List.map_nil, List.filterMap_nil, accountsOf, Except.map,
        List.mergeSort_nil]
      rfl
  · have hlookup : run "failed to look up accounts"
        ((Book.serviceWith draw).lookup (state.1.known.toList.map (·.toNat))) state =
        (.ok ((state.1.known.toList.map (·.toNat)).filterMap (state.2.accounts[·]?)), state) :=
      rfl
    refine ((ensureConnected_bind connected _).trans (Run.bind_of_ok hlookup)).trans ?_
    cases accountsOf ((state.1.known.toList.map (·.toNat)).filterMap (state.2.accounts[·]?)) <;> rfl

variable (draw) in
theorem load_of_shows (shows : Shows state table) (bounded : state.2.WithinBounds)
    (id : AccountId) :
    ∃ state', (backend (Book.serviceWith draw)).load id state =
      (.ok (table.account? id), state') ∧ Shows state' table := by
  have hheld := shows.denotes.held id
  rw [load_of_connected draw shows.connected, Table.account?]
  cases hbalance : table[id]? with
  | none =>
      rw [hbalance, Option.map_none, Option.map_eq_none_iff] at hheld
      rw [hheld]
      exact ⟨state, rfl, shows⟩
  | some balance =>
      rw [hbalance, Option.map_some] at hheld
      obtain ⟨account, haccount, hposted⟩ := Option.map_eq_some_iff.mp hheld
      have hreported : accountOf id account = .ok ⟨id, balance⟩ :=
        accountOf_of_posted (bounded id.toNat account haccount) hposted
      rw [haccount]
      dsimp only
      rw [hreported]
      exact ⟨(state.1.remember id, state.2), rfl, shows.remember (by simp [hbalance])⟩

variable (draw) in
/-- All accounts are known, and so all of them are listed. -/
theorem loadAll_of_shows (shows : Shows state table) (bounded : state.2.WithinBounds) :
    ∃ listed, (backend (Book.serviceWith draw)).loadAll state = (.ok listed, state) ∧
      ∀ account : Account, account ∈ listed ↔ table[account.id]? = some account.balance := by
  refine ⟨(state.1.known.toList.filterMap table.account?).mergeSort fun a b => a.id ≤ b.id, ?_,
    fun account => ?_⟩
  · rw [loadAll_of_connected draw shows.connected, accountsOf_of_denotes shows.denotes bounded]
    rfl
  · rw [List.mem_mergeSort, List.mem_filterMap]
    constructor
    · rintro ⟨id, -, hfound⟩
      obtain ⟨balance, hbalance, rfl⟩ := Option.map_eq_some_iff.mp hfound
      exact hbalance
    · intro hbalance
      refine ⟨account.id, ?_, ?_⟩
      · rw [Std.ExtTreeSet.mem_toList, shows.known, hbalance]
        rfl
      · rw [Table.account?, hbalance]
        rfl

/-! ## A commit -/

/-- A booked change is recorded, and its account is known. -/
theorem Shows.record (shows : Shows state table) (observed : change.observed = table[change.id]?)
    (number : TransferNumber) :
    Shows (state.1.opened change, state.2.record number change) (table.record change) where
  connected := by
    rw [Handle.isConnected_opened, shows.connected]
  unarmed := Book.failAfter_record.trans shows.unarmed
  denotes := shows.denotes.record observed number
  known id := by
    have hopened : id ∈ (state.1.opened change).known ↔
        change.isCreation = true ∧ change.id = id ∨ id ∈ state.1.known := by
      unfold Handle.opened
      cases change.isCreation with
      | true => simp [Handle.remember]
      | false => simp
    rw [hopened, shows.known, Table.getElem?_record, Change.isCreation, observed]
    by_cases hid : change.id = id
    · subst hid
      cases table[change.id]? <;> simp
    · simp [hid]

variable (draw) in
/-- However the booking of a change ends, counters have only grown. -/
theorem book_withinBounds (change : Change) {state : State Book}
    (bounded : (Ledger.book (Book.serviceWith draw) change state).2.2.WithinBounds) :
    state.2.WithinBounds := by
  have hbooking := book_booking state.1 state.2 (Book.serviceWith_keeps draw) change
  have hbook : Ledger.book (Book.serviceWith draw) change state =
      Ledger.book (Book.serviceWith draw) change (state.1, state.2) := rfl
  rw [hbook] at bounded
  generalize Ledger.book (Book.serviceWith draw) change (state.1, state.2) =
    result at hbooking bounded
  cases hbooking with
  | done accepts same => exact ((Book.Recorded.nil rfl).snoc accepts same).withinBounds bounded
  | failed whole stopped => exact stopped.withinBounds bounded

theorem bookAll_withinBounds {total applied : Nat} {wrote : Bool} {changes : List Change}
    {state : State Book} (bounded :
      (bookAll (Book.serviceWith draw) total applied wrote changes state).2.2.WithinBounds) :
    state.2.WithinBounds := by
  induction changes generalizing state applied wrote with
  | nil => exact bounded
  | cons change rest ih =>
      apply book_withinBounds draw change
      rw [bookAll, Run.lift_bind_apply] at bounded
      cases hrun : Ledger.book (Book.serviceWith draw) change state with
      | mk progress mid =>
          rw [hrun] at bounded
          cases progress with
          | done now => exact ih bounded
          | failed now reason =>
              dsimp only at bounded
              split at bounded <;> exact bounded

/-- Admissible changes are booked one after the other. -/
theorem bookAll_of_shows (fresh : Fresh draw) {total applied : Nat} {wrote : Bool}
    {changes : List Change} (shows : Shows state table) (admits : table.Admits changes)
    (positive : ∀ change ∈ changes, 0 < change.id.toNat) (bounded :
      (bookAll (Book.serviceWith draw) total applied wrote changes state).2.2.WithinBounds) :
    ∃ state', bookAll (Book.serviceWith draw) total applied wrote changes state =
      (.ok (), state') ∧ Shows state' (table.recordAll changes) := by
  induction changes generalizing state table applied wrote with
  | nil => exact ⟨state, rfl, shows⟩
  | cons change rest ih =>
      have hobserved := admits.observed change List.mem_cons_self
      obtain ⟨now, hbook⟩ := book_of_denotes fresh shows.connected shows.unarmed shows.denotes
        (bookAll_withinBounds bounded) hobserved (positive change List.mem_cons_self)
      have hbookAll : bookAll (Book.serviceWith draw) total applied wrote (change :: rest) state =
          bookAll (Book.serviceWith draw) total (applied + 1) (wrote || now) rest
            (state.1.opened change, state.2.record (draw (state.2.prepare change)) change) := by
        have hbooked : Ledger.book (Book.serviceWith draw) change state = _ := hbook
        rw [bookAll, Run.lift_bind_apply, hbooked]
      rw [hbookAll] at bounded ⊢
      exact ih (shows.record hobserved _) admits.rest
        (fun later hmem => positive later (List.mem_cons_of_mem change hmem)) bounded

/-! ## The medium -/

variable (draw) in
/-- To connect opens the system account, unless it is there. -/
theorem connect_apply (state : State Book) :
    connect (Book.serviceWith draw) state =
      match state.2.accountRejection? (.new systemAccount) with
      | none => (.ok (), ({ state.1 with isConnected := true },
          state.2.addAccount (.new systemAccount)))
      | some .exists => (.ok (), ({ state.1 with isConnected := true }, state.2))
      | some reason =>
          (.error (.medium "failed to create system account" reason.message), state) := by
  have hconnected : run s!"failed to connect to ledger cluster {state.1.settings.cluster.text}"
      (Book.serviceWith draw).connect state = (.ok (), state) := rfl
  have hrejected : run "failed to create system account"
      ((Book.serviceWith draw).createAccounts [.new systemAccount]) state =
      (.ok (Book.createAccountsFrom 0 [.new systemAccount] state.2).1,
        (state.1, (Book.createAccountsFrom 0 [.new systemAccount] state.2).2)) := rfl
  rw [connect, Run.get_bind_apply, Run.bind_of_ok hconnected, Run.bind_of_ok hrejected]
  simp only [Book.createAccountsFrom]
  cases state.2.accountRejection? (.new systemAccount) with
  | none => rfl
  | some reason => cases reason <;> rfl

/-- A ledger in the same process mirrors a table as long as its counters are small. -/
theorem backend_mirrors (fresh : Fresh draw) :
    (backend (Book.serviceWith draw)).Mirrors (0 < ·.toNat) (fun state => state.2.WithinBounds)
      Shows where
  connect {state} bounded := by
    have hconnect : (backend (Book.serviceWith draw)).connect state = _ := connect_apply draw state
    rw [hconnect] at bounded
    cases hrejection : state.2.accountRejection? (.new systemAccount) with
    | none =>
        rw [hrejection] at bounded
        exact Book.withinBounds_of_addAccount hrejection bounded
    | some reason =>
        rw [hrejection] at bounded
        cases reason <;> exact bounded
  load id := by
    have hcontent : ∀ state, ((backend (Book.serviceWith draw)).load id state).2.2.content =
        state.2.content :=
      (backend_candid (Book.serviceWith_keeps draw).candid).load_content id
    refine ⟨fun {state} => Book.withinBounds_congr (hcontent state),
      fun {state table} hbefore bounded => ?_⟩
    obtain ⟨state', hload, hshows⟩ := load_of_shows draw hbefore.1
      (Book.withinBounds_congr (hcontent state) bounded) id
    rw [hload]
    exact ⟨rfl, hshows⟩
  loadAll := by
    refine ⟨fun {state} bounded => ?_, fun {state table} shows bounded => ?_⟩
    · rw [Run.map_apply] at bounded
      exact Book.withinBounds_congr (loadAll_content (Book.serviceWith_keeps draw) state) bounded
    · rw [Run.map_apply] at bounded
      obtain ⟨listed, hloadAll, hlisted⟩ := loadAll_of_shows draw shows
        (Book.withinBounds_congr (loadAll_content (Book.serviceWith_keeps draw) state) bounded)
      rw [Run.map_apply, hloadAll]
      exact ⟨congrArg Except.ok (Table.tabulate_eq_of_mem_iff hlisted), shows⟩
  flush changes := by
    have hflush : (backend (Book.serviceWith draw)).flush changes =
        bookAll (Book.serviceWith draw) changes.length 0 false changes := rfl
    rw [hflush]
    refine ⟨fun {state} => bookAll_withinBounds, fun {state table} hbefore bounded => ?_⟩
    obtain ⟨shows, admits, positive⟩ := hbefore
    obtain ⟨state', hbooked, hshows⟩ := bookAll_of_shows fresh shows admits positive
      bounded
    rw [hbooked]
    exact ⟨rfl, hshows⟩

end

end Clearinghouse.Ledger
