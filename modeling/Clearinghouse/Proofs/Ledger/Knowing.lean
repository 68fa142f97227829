/-
# What a store knows of a ledger

A ledger cannot list its accounts, so a store lists those that it has come to know. Of two
stores that do the same on one ledger, one may look at some accounts besides. From then on it
knows more accounts than the other, and lists them, too. Everything else the ledger answers
them alike.
-/

import Clearinghouse.Proofs.Application.Probing
import Clearinghouse.Proofs.Ledger.Coupling
import Clearinghouse.Proofs.Ledger.DoubleEntry
import Clearinghouse.Proofs.Ledger.Mirroring
import Clearinghouse.Proofs.Medium.Sharing
import Clearinghouse.Proofs.Store.Listing

namespace Clearinghouse.Ledger

/-! ## Accounts under their numbers -/

namespace Book

variable {book : Book}

/-- Every account of the ledger is found under its own number. -/
def Filed (book : Book) : Prop :=
  ∀ (n : AccountNumber) (account : LedgerAccount), book.accounts[n]? = some account →
    account.number = n

theorem filed_empty : empty.Filed := fun n account found => by simp [empty] at found

theorem Filed.addAccount (filed : book.Filed) (account : LedgerAccount) :
    (book.addAccount account).Filed := by
  intro n found hfound
  rw [Book.addAccount, Std.ExtTreeMap.getElem?_insert] at hfound
  split at hfound
  · next hnumber =>
      cases hfound
      exact Std.compare_eq_iff_eq.mp hnumber
  · exact filed n found hfound

theorem Filed.post (filed : book.Filed) (transfer : Transfer) : (book.post transfer).Filed := by
  have hmodify : ∀ {accounts : Std.ExtTreeMap AccountNumber LedgerAccount} {key : AccountNumber}
      {change : LedgerAccount → LedgerAccount},
      (∀ account : LedgerAccount, (change account).number = account.number) →
      (∀ n (account : LedgerAccount), accounts[n]? = some account → account.number = n) →
      ∀ n (account : LedgerAccount), (accounts.modify key change)[n]? = some account →
        account.number = n := by
    intro accounts key change hsame hfiled n account hfound
    rw [Std.ExtTreeMap.getElem?_modify] at hfound
    split at hfound
    · next hkey =>
        obtain ⟨earlier, hearlier, rfl⟩ := Option.map_eq_some_iff.mp hfound
        rw [hsame, hfiled _ _ hearlier]
        exact Std.compare_eq_iff_eq.mp hkey
    · exact hfiled n account hfound
  exact hmodify (fun _ => rfl) (hmodify (fun _ => rfl) filed)

/-- No request puts an account under another number. -/
theorem Filed.request {draw : Book → TransferNumber} (filed : book.Filed) {α : Type}
    {request : Request Book α} (offers : (serviceWith draw).Offers request) :
    (request book).2.Filed := by
  cases offers with
  | connect | lookup => exact filed
  | createAccounts accounts =>
      have hrequest : ((serviceWith draw).createAccounts accounts book).2 =
          (createAccountsFrom 0 accounts book).2 := rfl
      rw [hrequest, createAccountsFrom_eq]
      exact creating.takeAll_induction (fun book _ => book.Filed)
        (fun _ _ account filed _ => filed.addAccount account) accounts [] filed
  | createTransfers transfers =>
      obtain ⟨failAfter, hbook⟩ := exists_createTransfers_eq transfers book
      have hrequest : ((serviceWith draw).createTransfers transfers book).2 =
          (service.createTransfers transfers book).2 := rfl
      have hfiled : (posting.takeAll book (book.reached transfers)).Filed :=
        posting.takeAll_induction (fun book _ => book.Filed)
          (fun _ _ transfer filed _ => filed.post transfer) _ [] filed
      rw [hrequest, hbook]
      exact fun n account hfound => hfiled n account hfound

end Book

/-! ## Knowing more -/

/-- Two connections to one ledger, of which the second knows the accounts that the first one
knows, and of those that were looked at besides some more. It has looked at them while both
were connected. -/
structure Ahead (probed : AccountId → Prop) (state state' : State Book) : Prop where
  view : SameView state state'
  known : ∀ id, id ∈ state.1.known → id ∈ state'.1.known
  gained : ∀ id, id ∈ state'.1.known → id ∈ state.1.known ∨ probed id ∧ state.1.isConnected = true
  filed : state.2.Filed

variable {probed : AccountId → Prop} {draw : Book → TransferNumber}

theorem Ahead.refl {state : State Book} (filed : state.2.Filed) : Ahead probed state state :=
  ⟨rfl, fun _ => id, fun _ => .inl, filed⟩

theorem mem_remember {handle : Handle} {id other : AccountId} :
    other ∈ (handle.remember id).known ↔ id = other ∨ other ∈ handle.known := by
  rw [Handle.remember, Std.ExtTreeSet.mem_insert, Std.compare_eq_iff_eq]

/-- Whatever both stores do, the second one knows more. -/
theorem coupled_ahead : Coupled (Book.serviceWith draw) (Ahead probed) where
  view ahead := ahead.view
  request {_ _} offers {state state'} ahead :=
    { view := (coupled_sameView _).request offers ahead.view
      known := ahead.known
      gained := ahead.gained
      filed := ahead.filed.request offers }
  remember id {state state'} ahead :=
    { view := (coupled_sameView (Book.serviceWith draw)).remember id ahead.view
      known := fun other hother => mem_remember.mpr ((mem_remember.mp hother).imp_right
        (ahead.known other))
      gained := fun other hother => by
        obtain rfl | hknown := mem_remember.mp hother
        · exact .inl (mem_remember.mpr (.inl rfl))
        · exact (ahead.gained other hknown).imp_left fun hknown => mem_remember.mpr (.inr hknown)
      filed := ahead.filed }
  connect {state state'} ahead :=
    { view := (coupled_sameView (Book.serviceWith draw)).connect ahead.view
      known := ahead.known
      gained := fun other hother => (ahead.gained other hother).imp_right fun hgained =>
        ⟨hgained.1, rfl⟩
      filed := ahead.filed }
  disconnect {state state'} ahead :=
    { view := (coupled_sameView (Book.serviceWith draw)).disconnect ahead.view
      known := fun other hother => hother
      gained := fun other hother => .inl hother
      filed := ahead.filed }

/-- Listing accounts changes nothing. -/
theorem loadAll_kept (draw : Book → TransferNumber) :
    Run.Along (Run.Kept id) (backend (Book.serviceWith draw)).loadAll := by
  refine Run.Along.bind (fun state => Std.Refl.refl (id state)) fun state => ?_
  dsimp only
  split
  · exact Run.Along.pure _
  · refine (ensureConnected_kept.kept_of_id _).bind fun _ => ?_
    refine Run.Along.bind (fun later => ?_) fun found => ?_
    · exact congrArg (later.1, ·)
        (Book.lookup_kept draw (state.1.known.toList.map (·.toNat)) later.2)
    · exact Run.Along.bind (fun later => Std.Refl.refl (id later)) fun _ => Run.Along.pure _

theorem parallels_ahead :
    (backend (Book.serviceWith draw)).Parallels (backend (Book.serviceWith draw)) (Ahead probed) :=
  coupled_ahead.parallels fun {state state'} ahead => by
    have hkept : ∀ state, ((backend (Book.serviceWith draw)).loadAll state).2 = state :=
      loadAll_kept draw
    rwa [hkept, hkept]

/-! ## Looking at accounts -/

/-- What a connected store finds of an account. -/
def Book.look (book : Book) (id : AccountId) : Except StoreError (Option Account) :=
  match book.accounts[id.toNat]? with
  | none => .ok none
  | some account => (accountOf id account).map some

/-- An account is reported under its own identifier. -/
theorem Book.look_own {book : Book} {id : AccountId} {account : Account}
    (found : book.look id = .ok (some account)) : account.id = id := by
  rw [look] at found
  cases haccount : book.accounts[id.toNat]? with
  | none =>
      rw [haccount] at found
      cases found
  | some account =>
      rw [haccount] at found
      dsimp only at found
      rw [accountOf] at found
      cases hbalance : Balance.ofInt? account.net with
      | none =>
          rw [hbalance] at found
          cases found
      | some balance =>
          rw [hbalance] at found
          cases found
          rfl

/-- A store that is connected answers what it finds. -/
theorem load_eq_look (draw : Book → TransferNumber) {state : State Book}
    (connected : state.1.isConnected = true) (id : AccountId) :
    ((backend (Book.serviceWith draw)).load id state).1 = state.2.look id := by
  rw [load_of_connected draw connected, Book.look]
  cases state.2.accounts[id.toNat]? with
  | none => dsimp only
  | some account => dsimp only

theorem load_of_closed (draw : Book → TransferNumber) {state : State Book}
    (closed : state.1.isConnected = false) (id : AccountId) :
    (backend (Book.serviceWith draw)).load id state = (.error .notInitialized, state) :=
  ensureConnected_bind_of_closed closed _

/-- A store that looks at an account besides goes on ahead. -/
theorem Ahead.looked {state state' : State Book} (ahead : Ahead probed state state')
    {id : AccountId} (looked : probed id) :
    Ahead probed state ((backend (Book.serviceWith draw)).load id state').2 := by
  cases hconnected : state'.1.isConnected with
  | false => rwa [load_of_closed draw hconnected id]
  | true =>
      rw [load_of_connected draw hconnected]
      cases state'.2.accounts[id.toNat]? with
      | none => exact ahead
      | some account =>
        exact
          { view := ahead.view
            known := fun other hother => mem_remember.mpr (.inr (ahead.known other hother))
            gained := fun other hother => by
              obtain rfl | hknown := mem_remember.mp hother
              · exact .inr ⟨looked, ahead.view.isConnected.trans hconnected⟩
              · exact ahead.gained other hknown
            filed := ahead.filed }

/-! ## Listing accounts -/

/-- Accounts that a ledger answers in a row are those that one finds one by one. -/
theorem Book.Filed.accountsOf_lookup {book : Book} (filed : book.Filed) (ids : List AccountId) :
    accountsOf ((ids.map (·.toNat)).filterMap (book.accounts[·]?)) = lookAll book.look ids := by
  induction ids with
  | nil => rfl
  | cons id rest ih =>
      cases haccount : book.accounts[id.toNat]? with
      | none =>
          have hlook : book.look id = .ok none := by rw [look, haccount]
          rw [List.map_cons, List.filterMap_cons_none haccount, ih, lookAll_cons, hlook]
      | some account =>
          have hid : UInt64.ofNat account.number = id :=
            (congrArg UInt64.ofNat (filed _ account haccount)).trans UInt64.ofNat_toNat
          have hlook : book.look id = (accountOf id account).map some := by rw [look, haccount]
          rw [List.map_cons, List.filterMap_cons_some haccount, accountsOf, ih, hid, lookAll_cons,
            hlook]
          cases accountOf id account with
          | error e => rfl
          | ok first => cases lookAll book.look rest <;> rfl

/-- The accounts that a store knows come in order. -/
theorem known_ascending (handle : Handle) : handle.known.toList.Pairwise (· < ·) :=
  handle.known.ordered_toList.imp fun hless => Std.compare_eq_lt.mp hless

/-- So sorting them changes nothing. -/
theorem loadAll_eq_lookAll (draw : Book → TransferNumber) {state : State Book}
    (connected : state.1.isConnected = true) (filed : state.2.Filed) :
    ((backend (Book.serviceWith draw)).loadAll state).1 =
      lookAll state.2.look state.1.known.toList := by
  rw [loadAll_of_connected draw connected, filed.accountsOf_lookup]
  cases hlisted : lookAll state.2.look state.1.known.toList with
  | error e => rfl
  | ok listed =>
      have hids := (lookAll_found (fun _ _ => Book.look_own) hlisted).1
      have hascending := List.pairwise_map.mp ((known_ascending state.1).sublist hids)
      exact congrArg Except.ok (List.mergeSort_of_pairwise (hascending.imp fun hless =>
        decide_eq_true (UInt64.le_of_lt hless)))

namespace Ahead

variable {state state' : State Book}

theorem known_sublist (ahead : Ahead probed state state') :
    state.1.known.toList.Sublist state'.1.known.toList := by
  have hsubset : state.1.known.toList ⊆ state'.1.known.toList := fun id hmem =>
    Std.ExtTreeSet.mem_toList.mpr (ahead.known id (Std.ExtTreeSet.mem_toList.mp hmem))
  have hdistinct : state.1.known.toList.Nodup := (known_ascending state.1).imp UInt64.ne_of_lt
  have hantisymm : Std.Antisymm fun first later : AccountId => first < later :=
    ⟨fun first later hless hmore => absurd hmore (UInt64.lt_asymm hless)⟩
  exact List.sublist_of_subperm_of_pairwise (List.subperm_of_subset hdistinct hsubset)
    (known_ascending state.1) (known_ascending state'.1)

/-- Without a connection there was nothing to look at. -/
theorem eq_of_closed (ahead : Ahead probed state state') (closed : state.1.isConnected = false) :
    state = state' := by
  have hknown : state.1.known = state'.1.known := by
    refine Std.ExtTreeSet.ext_mem fun id => ⟨ahead.known id, fun hmem => ?_⟩
    refine (ahead.gained id hmem).resolve_right fun hgained => ?_
    exact Bool.false_ne_true (closed.symm.trans hgained.2)
  have hhandle : state.1 = state'.1 := by
    rw [Handle.mk.injEq]
    exact ⟨ahead.view.settings, ahead.view.isConnected, hknown⟩
  exact Prod.ext hhandle ahead.view.ledger

/-- A connection that is ahead lists some accounts more. -/
theorem loadAll_gains (ahead : Ahead probed state state') (connected : state.1.isConnected = true) :
    Gains state.2.look probed ((backend (Book.serviceWith draw)).loadAll state).1
      ((backend (Book.serviceWith draw)).loadAll state').1 := by
  have hconnected := ahead.view.isConnected.symm.trans connected
  rw [loadAll_eq_lookAll draw connected ahead.filed,
    loadAll_eq_lookAll draw hconnected (ahead.view.ledger ▸ ahead.filed), ← ahead.view.ledger]
  refine .of_sublist ahead.known_sublist (fun _ _ => Book.look_own)
    ((known_ascending state'.1).imp UInt64.ne_of_lt) fun id hmem => ?_
  exact (ahead.gained id (Std.ExtTreeSet.mem_toList.mp hmem)).imp
    Std.ExtTreeSet.mem_toList.mpr And.left

/-- Whatever it lists can be found. -/
theorem look_of_loadAll (ahead : Ahead probed state state') (connected : state.1.isConnected = true)
    {listed : List Account}
    (answered : ((backend (Book.serviceWith draw)).loadAll state').1 = .ok listed)
    {account : Account} (named : account ∈ listed) :
    state.2.look account.id = .ok (some account) := by
  have hconnected := ahead.view.isConnected.symm.trans connected
  rw [loadAll_eq_lookAll draw hconnected (ahead.view.ledger ▸ ahead.filed),
    ← ahead.view.ledger] at answered
  exact (lookAll_found (fun _ _ => Book.look_own) answered).2 account named

/-- So does a store over it. -/
theorem accounts_gains {s s' : Store (State Book)}
    (paired : Store.Paired (Ahead probed) s s') :
    Gains (fun id => ((backend (Book.serviceWith draw)).load id s.medium).1) probed
      (Store.accounts (backend (Book.serviceWith draw)) s).1
      (Store.accounts (backend (Book.serviceWith draw)) s').1 := by
  cases hconnected : s.medium.1.isConnected with
  | false =>
      obtain rfl : s = s' := by
        rw [Store.mk.injEq]
        exact ⟨paired.medium.eq_of_closed hconnected, paired.initialized, paired.staging⟩
      exact .same _
  | true =>
      rw [funext (load_eq_look draw hconnected)]
      exact Store.accounts_gains paired.initialized paired.staging
        (paired.medium.loadAll_gains hconnected) fun listed hlisted account hmem =>
          paired.medium.look_of_loadAll hconnected hlisted hmem

end Ahead

end Clearinghouse.Ledger
