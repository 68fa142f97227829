/-
# The media carry out what they are handed

Each of the media that stores are used with moves its accounts by the changes of a flush that
succeeds, whatever it held before and whoever wrote it. Where a medium keeps balances, the
balances of the changes take the place of those the changes were made against; on a ledger the
movements are booked. A flush that fails changes no account, unless it says that it broke off
or a disk failed after taking in the batch.
-/

import Clearinghouse.Proofs.Batch.Committed
import Clearinghouse.Proofs.Cache.Following
import Clearinghouse.Proofs.Ledger.Following
import Clearinghouse.Proofs.Medium.Following
import Clearinghouse.Proofs.Store.Drafting

namespace Clearinghouse

/-- To record changes in a table is to write their balances. -/
theorem Table.holdings_recordAll (table : Table) {changes : List Change}
    (ascending : changes.Pairwise fun first later => first.id < later.id) (id : AccountId) :
    (∀ change ∈ changes, change.id = id →
      (table.recordAll changes).holdings id = some change.balance.toInt) ∧
    ((∀ change ∈ changes, change.id ≠ id) →
      (table.recordAll changes).holdings id = table.holdings id) := by
  refine Change.foldl_writes Table.holdings (fun table change id => ?_) table ascending id
  rw [holdings, getElem?_record, holdings]
  split <;> rfl

theorem Memory.backend_tells : backend.Tells Table.holdings where
  load_holdings _ _ := rfl
  load_answer answered := by
    rw [← Except.ok.inj answered, Table.account?, Option.map_map]
    rfl

theorem Memory.backend_fulfils : backend.Fulfils Table.holdings :=
  .of_writes backend_tells (backend_candid.map Table.holdings) (fun _ => rfl)
    fun {m _} ascending _ => m.holdings_recordAll ascending

theorem Recording.candid_holdings : backend.Candid fun m => m.table.holdings :=
  backend_candid.map (·.1.holdings)

theorem Recording.backend_tells : backend.Tells fun m => m.table.holdings where
  load_holdings := candid_holdings.load_content
  load_answer {id m answer} answered := by
    obtain ⟨fault, hrun | hrun⟩ := load_cases id m
    · rw [hrun] at answered
      rw [← Except.ok.inj answered, Table.account?, Option.map_map]
      rfl
    · rw [hrun] at answered
      cases answered

theorem Recording.backend_fulfils : backend.Fulfils fun m => m.table.holdings := by
  refine .of_writes backend_tells candid_holdings (fun m => ?_)
    fun {m changes} ascending done => ?_
  · obtain ⟨fault, hrun | hrun⟩ := loadAll_cases m <;> rw [Run.Kept, hrun]
  · obtain ⟨fault, hrun | hrun⟩ := flush_cases changes m
    · rw [hrun]
      exact m.table.holdings_recordAll ascending
    · rw [hrun] at done
      cases done

theorem RowStore.candid_holdings : backend.Candid fun state => (table state).holdings where
  load_content id state := congrArg (fun state => (table state).holdings) (load_kept id state)
  flush_content {state changes e} failed _ := by
    obtain ⟨e, hrun⟩ | ⟨found, -, hrun⟩ := flush_cases changes state
    · rw [hrun]
    · rw [hrun] at failed
      cases failed

theorem RowStore.backend_tells : backend.Tells fun state => (table state).holdings where
  load_holdings := candid_holdings.load_content
  load_answer answered := by
    rw [backend_follows.load_answer rfl answered, Table.account?, Option.map_map]
    rfl

theorem RowStore.backend_fulfils : backend.Fulfils fun state => (table state).holdings := by
  refine .of_writes backend_tells candid_holdings (fun state => ?_)
    fun {state changes} ascending done => ?_
  · rw [Run.Kept]
    obtain ⟨e, hrun⟩ | hrun := rows_cases state
    · rw [show backend.loadAll state = _ from Run.bind_of_error hrun]
    · rw [show backend.loadAll state = _ from Run.bind_of_ok hrun]
      rfl
  · obtain ⟨e, hrun⟩ | ⟨found, hrows, hrun⟩ := flush_cases changes state
    · rw [hrun] at done
      cases done
    · rw [hrun, table_setRows, eq_table_of_rows (congrArg Prod.fst hrows)]
      exact (table state).holdings_recordAll ascending

namespace KeyStore

theorem holdings_record (tree : KeyTree) (change : Change) (id : AccountId) :
    holdings (record tree change) id =
      if change.id = id then some change.balance.toInt else holdings tree id := by
  rw [holdings, record, Std.ExtTreeMap.getElem?_insert, holdings]
  by_cases hid : change.id = id
  · simp [hid, decode_encode]
  · have hkey : key change.id ≠ key id := fun same => hid (key_injective same)
    simp [hid, hkey]

theorem candid_holdings : backend.Candid fun state => holdings (treeOf state) where
  load_content id state := congrArg (fun state => holdings (treeOf state)) (load_kept id state)
  flush_content {state changes e} failed _ := by
    obtain ⟨e, hrun⟩ | hrun := flush_cases changes state
    · rw [hrun]
    · rw [hrun] at failed
      cases failed

theorem backend_tells : backend.Tells fun state => holdings (treeOf state) where
  load_holdings := candid_holdings.load_content
  load_answer {id state answer} answered := by
    have hread := eq_of_load answered
    rw [holdings]
    cases hvalue : (treeOf state)[key id]? with
    | none =>
        rw [hvalue, Option.map_none, eq_comm, Option.map_eq_none_iff] at hread
        rw [hread]
        rfl
    | some bytes =>
        rw [hvalue, Option.map_some, eq_comm, Option.map_eq_some_iff] at hread
        obtain ⟨account, rfl, hdecode⟩ := hread
        simp only [← hdecode, Option.map_some, Option.bind_some]

theorem backend_fulfils : backend.Fulfils fun state => holdings (treeOf state) := by
  refine .of_writes backend_tells candid_holdings (fun state => ?_)
    fun {state changes} ascending done => ?_
  · rw [Run.Kept]
    obtain ⟨e, hrun⟩ | hrun := loadAll_cases state <;> rw [hrun]
  · obtain ⟨e, hrun⟩ | hrun := flush_cases changes state
    · rw [hrun] at done
      cases done
    · rw [hrun, treeOf_put]
      exact Change.foldl_writes holdings holdings_record (treeOf state) ascending

end KeyStore

namespace Cache.InProcess

theorem holdings_record (settings : Settings) (entries : Std.ExtTreeMap String String)
    (change : Change) (id : AccountId) :
    holdings settings (record settings entries change) id =
      if change.id = id then some change.balance.toInt else holdings settings entries id := by
  rw [holdings, record, Std.ExtTreeMap.getElem?_insert, holdings]
  by_cases hid : change.id = id
  · simp [hid, decode_encode]
  · have hkey : settings.key change.id ≠ settings.key id :=
      fun same => hid (settings.key_injective same)
    simp [hid, hkey]

theorem candid_holdings :
    (backend client).Candid fun state => holdings state.1.settings state.2.entries :=
  backend_candid _ fun connection key state => by rw [client_get_same]

theorem backend_tells :
    (backend client).Tells fun state => holdings state.1.settings state.2.entries where
  load_holdings := candid_holdings.load_content
  load_answer {id state answer} answered := by
    have hread := eq_of_load answered
    rw [holdings]
    cases hvalue : state.2.entries[state.1.settings.key id]? with
    | none =>
        rw [hvalue, Option.map_none, eq_comm, Option.map_eq_none_iff] at hread
        rw [hread]
        rfl
    | some text =>
        rw [hvalue, Option.map_some, eq_comm, Option.map_eq_some_iff] at hread
        obtain ⟨account, rfl, hdecode⟩ := hread
        simp only [← hdecode, Option.map_some, Option.bind_some]

theorem backend_fulfils :
    (backend client).Fulfils fun state => holdings state.1.settings state.2.entries := by
  refine .of_writes backend_tells candid_holdings (fun state => ?_)
    fun {state changes} ascending done => ?_
  · have hkept : ((backend client).loadAll state).2 = state := loadAll_kept state
    rw [Run.Kept, hkept]
  · obtain ⟨e, hrun⟩ | ⟨connection, hrun⟩ := flush_cases client changes state
    · rw [hrun] at done
      cases done
    · rw [hrun, client_setAll] at done ⊢
      obtain ⟨-, hwritten⟩ | ⟨failure, hfailed, -⟩ :=
        setAll_cases (writesOf state.1.settings changes) state.2
      · dsimp only
        rw [hwritten, writeAll_writesOf]
        exact Change.foldl_writes (holdings state.1.settings) (holdings_record state.1.settings)
          state.2.entries ascending
      · rw [hfailed] at done
        cases done

end Cache.InProcess

namespace Ledger

/-- What a ledger reports of its accounts, in range or not. -/
def Book.reported (book : Book) : Holdings := fun id => book.accounts[id.toNat]?.map (·.net)

theorem Book.reported_congr {book other : Book} (same : book.content = other.content) :
    book.reported = other.reported := by
  funext id
  rw [reported, (Prod.mk.inj same).1, reported]

theorem Book.total_holdings (book : Book) (id : AccountId) :
    book.holdings.total id = (book.account id.toNat).posted := by
  rw [Holdings.total, holdings, account]
  cases book.accounts[id.toNat]? <;> rfl

variable {L : Type} {service : Service L} {book : L → Book}

/-- A load tells the balance that is reported of an account, which need not be in range for the
account to be there. -/
theorem backend_tells (keeps : service.Keeps book) :
    (backend service).Tells fun state => (book state.2).reported where
  load_holdings id state :=
    Book.reported_congr ((backend_candid keeps.candid).load_content id state)
  load_answer {id state answer} answered := by
    obtain ⟨_, -, answered⟩ := ensureConnected_kept.exists_of_bind_ok answered
    obtain ⟨found, later, hlookup, answered⟩ := Run.exists_of_bind_ok answered
    have hfound := eq_of_lookup keeps hlookup
    rw [List.filterMap_cons, List.filterMap_nil] at hfound
    rw [Book.reported]
    cases haccount : (book state.2).accounts[id.toNat]? with
    | none =>
        rw [haccount] at hfound
        subst hfound
        cases answered
        rfl
    | some account =>
        rw [haccount] at hfound
        subst hfound
        dsimp only at answered
        rw [remember, Run.modify_bind_apply] at answered
        generalize hreport : accountOf id account = report at answered
        obtain ⟨told, last, htold, answered⟩ := Run.exists_of_bind_ok answered
        obtain rfl : report = .ok told := congrArg Prod.fst htold
        cases answered
        rw [accountOf] at hreport
        cases hnet : Balance.ofInt? account.net with
        | none =>
            rw [hnet] at hreport
            cases hreport
        | some balance =>
            rw [hnet] at hreport
            cases hreport
            exact congrArg some (Balance.ofInt?_eq_some_iff.mp hnet).symm

/-- An account that was reported is one of the ledger. -/
theorem isSome_of_load (keeps : service.Keeps book) {state : State L} {id : AccountId}
    {account : Account} (answered : ((backend service).load id state).1 = .ok (some account)) :
    ((book state.2).holdings id).isSome := by
  have htold : (book state.2).reported id = some account.balance.toInt :=
    (backend_tells keeps).load_answer answered
  rw [Book.reported, Option.map_eq_some_iff] at htold
  obtain ⟨held, hheld, -⟩ := htold
  rw [Book.holdings, hheld]
  rfl

theorem candid_holdings (keeps : service.Keeps book) :
    (backend service).Candid fun state => (book state.2).holdings where
  load_content id state :=
    Book.holdings_congr ((backend_candid keeps.candid).load_content id state)
  flush_content failed whole :=
    Book.holdings_congr ((backend_candid keeps.candid).flush_content failed whole)

theorem backend_fulfils (keeps : service.Keeps book) :
    (backend service).Fulfils fun state => (book state.2).holdings where
  load_content := (candid_holdings keeps).load_content
  flush_failed _ _ failed whole := .inl ((candid_holdings keeps).flush_content failed whole)
  loadAll_holdings state := Book.holdings_congr (loadAll_content keeps state)
  load_found answered := isSome_of_load keeps answered
  flush_done {state changes} ascending recalls done id := by
    have hfound : ∀ change ∈ changes, change.isCreation = false →
        (book state.2).accounts[change.id.toNat]?.isSome := by
      intro change hmem hcreation
      obtain ⟨earlier, answer, hread, hload, hobserved⟩ := recalls change hmem
      cases answer with
      | none => simp [Change.isCreation, hobserved] at hcreation
      | some account =>
          have hthere := isSome_of_load keeps hload
          have hsame : (book state.2).content = (book earlier.2).content :=
            @Backend.OnlyRead.eq_of_load _ _ _ (fun state => (book state.2).content)
              (backend_candid keeps.candid).load_content _ _ hread
          rw [← Book.holdings_congr hsame, Book.holdings, Option.isSome_map] at hthere
          exact hthere
    have hbooking := flush_booking keeps changes state
    generalize (backend service).flush changes state = result at hbooking done
    cases hbooking with
    | failed => cases done
    | @done handle ledger recorded =>
        rw [List.nil_append] at recorded
        refine ⟨fun change hmem hid => ?_, fun habsent => ?_⟩
        · subst hid
          have hthere : (book ledger).accounts[change.id.toNat]?.isSome := by
            rw [recorded.present]
            cases hcreation : change.isCreation with
            | true => exact .inr ⟨change, hmem, hcreation, rfl⟩
            | false => exact .inl (hfound change hmem hcreation)
          obtain ⟨account, haccount⟩ := Option.isSome_iff_exists.mp hthere
          have hmoved := (recorded.moves change.id.toNat).posted
          rw [Book.movement_of_mem ascending hmem, Book.account_of_some haccount] at hmoved
          rw [Book.holdings, haccount, Option.map_some, hmoved, Book.total_holdings]
        · exact congrArg (Option.map (·.posted)) (recorded.others _ (toNat_ne_systemAccount id)
            fun change hmem hid => habsent change hmem (UInt64.toNat_inj.mp hid))

end Ledger

/-- Every medium tells what its accounts hold. -/
theorem Adapter.exists_tells (adapter : Adapter) :
    ∃ holdings, adapter.backend.Tells holdings := by
  induction adapter with
  | recording => exact ⟨_, Recording.backend_tells⟩
  | memory => exact ⟨_, Memory.backend_tells⟩
  | keyStore disk => exact ⟨_, (KeyStore.backendOn_wraps disk).tells KeyStore.backend_tells⟩
  | rowStore => exact ⟨_, RowStore.backend_tells⟩
  | cache => exact ⟨_, Cache.InProcess.backend_tells⟩
  | ledger => exact ⟨_, Ledger.backend_tells Ledger.Guarded.ledger_keeps⟩
  | simulation => exact ⟨_, Ledger.backend_tells Ledger.Book.service_keeps⟩
  | withOutages inner ih =>
      obtain ⟨holdings, htells⟩ := ih
      exact ⟨_, inner.backend.withOutages_wraps.tells htells⟩

theorem Adapter.fulfils (adapter : Adapter) : adapter.backend.Fulfils adapter.holdings := by
  induction adapter with
  | recording => exact Recording.backend_fulfils
  | memory => exact Memory.backend_fulfils
  | keyStore disk => exact (KeyStore.backendOn_wraps disk).fulfils KeyStore.backend_fulfils
  | rowStore => exact RowStore.backend_fulfils
  | cache => exact Cache.InProcess.backend_fulfils
  | ledger => exact Ledger.backend_fulfils Ledger.Guarded.ledger_keeps
  | simulation => exact Ledger.backend_fulfils Ledger.Book.service_keeps
  | withOutages inner ih => exact inner.backend.withOutages_wraps.fulfils ih

/-- Where batches are atomic, a flush that fails without word of a partial commit has changed
no account. -/
theorem Adapter.candid_holdings (adapter : Adapter) (atomic : adapter.BatchesAtomic) :
    adapter.backend.Candid adapter.holdings := by
  induction adapter with
  | recording => exact Recording.candid_holdings
  | memory => exact Memory.backend_candid.map Table.holdings
  | keyStore disk =>
      exact (KeyStore.backendOn_candid atomic).map fun state =>
        KeyStore.holdings (KeyStore.treeOf state)
  | rowStore => exact RowStore.candid_holdings
  | cache => exact Cache.InProcess.candid_holdings
  | ledger => exact Ledger.candid_holdings Ledger.Guarded.ledger_keeps
  | simulation => exact Ledger.candid_holdings Ledger.Book.service_keeps
  | withOutages inner ih =>
      exact inner.backend.withOutages_wraps.candid (ih atomic) fun changes m =>
        Outages.guard_handedOn (inner.backend.flush changes) m

end Clearinghouse
