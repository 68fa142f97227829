/-
# The accounts that a store has come across

A ledger does not list its accounts, so a store lists those that it has come across: an account
that it found when it looked for it, or that came into the ledger through one of its flushes.
Whether the flush went through, whether the account could be read and who moves it later makes no
difference. What a store has come across is told here by someone who watches what it asks of the
ledger, and who does not know what the store itself remembers.
-/

import Clearinghouse.Proofs.Batch.Watching
import Clearinghouse.Proofs.Ledger.Company
import Clearinghouse.Proofs.Ledger.Knowing
import Mathlib.Data.Set.Basic

namespace Clearinghouse.Ledger

/-! ## Ledgers that grow -/

namespace Book

variable {book later : Book}

/-- From one ledger to the other no account went away. None came under a number that is not its
own, nor under the number zero. -/
structure Extends (book later : Book) : Prop where
  kept : ∀ n, n ∈ book.accounts → n ∈ later.accounts
  filed : book.Filed → later.Filed
  zero : 0 ∉ book.accounts → 0 ∉ later.accounts

instance : IsPreorder Book Extends where
  refl _ := ⟨fun _ => id, id, id⟩
  trans _ _ _ first second := ⟨fun n => second.kept n ∘ first.kept n, second.filed ∘ first.filed,
    second.zero ∘ first.zero⟩

theorem extends_of_content (same : later.content = book.content) : book.Extends later := by
  obtain ⟨haccounts, -⟩ := Prod.mk.inj same
  refine ⟨fun n => ?_, fun filed n account => ?_, ?_⟩
  · rw [haccounts]
    exact id
  · rw [haccounts]
    exact filed n account
  · rw [haccounts]
    exact id

theorem mem_accounts_addAccount {account : LedgerAccount} {n : AccountNumber} :
    n ∈ (book.addAccount account).accounts ↔ account.number = n ∨ n ∈ book.accounts := by
  rw [addAccount, Std.ExtTreeMap.mem_insert, Std.compare_eq_iff_eq]

theorem extends_addAccount {account : LedgerAccount} (nonzero : account.number ≠ 0) :
    book.Extends (book.addAccount account) where
  kept _ held := mem_accounts_addAccount.mpr (.inr held)
  filed filed := filed.addAccount account
  zero absent held := (mem_accounts_addAccount.mp held).elim nonzero absent

theorem extends_post (book : Book) (transfer : Transfer) : book.Extends (book.post transfer) where
  kept n := (mem_accounts_post book transfer n).mpr
  filed filed := filed.post transfer
  zero absent held := absent ((mem_accounts_post book transfer 0).mp held)

/-- The account of an identifier came into the ledger in between. -/
def Gained (book later : Book) (id : AccountId) : Prop :=
  id.toNat ∉ book.accounts ∧ id.toNat ∈ later.accounts

theorem not_gained_of_content (same : later.content = book.content) (id : AccountId) :
    ¬ book.Gained later id := by
  rw [Gained, (Prod.mk.inj same).1]
  exact fun gained => gained.1 gained.2

end Book

/-! ## What a flush brings into the ledger -/

variable {L : Type} {service : Service L} {book : L → Book}

/-- From one state to the other accounts were added to the ledger at most, and the store has
come to know exactly those. -/
structure Discovers (book : L → Book) (state later : State L) : Prop where
  connection : later.1.isConnected = state.1.isConnected
  grown : (book state.2).Extends (book later.2)
  known : ∀ id, id ∈ later.1.known ↔ id ∈ state.1.known ∨ (book state.2).Gained (book later.2) id
  gained : ∀ id, (book state.2).Gained (book later.2) id → state.1.isConnected = true

instance (book : L → Book) : IsPreorder (State L) (Discovers book) where
  refl state := ⟨rfl, Std.Refl.refl _, fun id => (or_iff_left fun gained => gained.1 gained.2).symm,
    fun id gained => absurd gained.2 gained.1⟩
  trans state mid later first second := by
    have hgained : ∀ id, (book state.2).Gained (book later.2) id ↔
        (book state.2).Gained (book mid.2) id ∨ (book mid.2).Gained (book later.2) id := by
      intro id
      constructor
      · rintro ⟨habsent, hthere⟩
        by_cases hmid : id.toNat ∈ (book mid.2).accounts
        · exact .inl ⟨habsent, hmid⟩
        · exact .inr ⟨hmid, hthere⟩
      · rintro (⟨habsent, hthere⟩ | ⟨habsent, hthere⟩)
        · exact ⟨habsent, second.grown.kept _ hthere⟩
        · exact ⟨fun hheld => habsent (first.grown.kept _ hheld), hthere⟩
    refine ⟨second.connection.trans first.connection, IsTrans.trans _ _ _ first.grown second.grown,
      fun id => ?_, fun id gained => ?_⟩
    · rw [second.known, first.known, hgained, or_assoc]
    · obtain hfirst | hsecond := (hgained id).mp gained
      · exact first.gained id hfirst
      · exact first.connection.symm.trans (second.gained id hsecond)

/-- A change of the ledger that brings no account with it. -/
theorem discovers_of_still {handle : Handle} {ledger later : L}
    (grown : (book ledger).Extends (book later))
    (still : ∀ id, ¬ (book ledger).Gained (book later) id) :
    Discovers book (handle, ledger) (handle, later) where
  connection := rfl
  grown := grown
  known id := (or_iff_left (still id)).symm
  gained id gained := absurd gained (still id)

theorem discovers_of_content {handle : Handle} {ledger later : L}
    (same : (book later).content = (book ledger).content) :
    Discovers book (handle, ledger) (handle, later) :=
  discovers_of_still (Book.extends_of_content same) (Book.not_gained_of_content same)

/-- A store remembers the account that it creates. -/
theorem discovers_of_created {handle : Handle} {ledger later : L} {id : AccountId}
    (connected : handle.isConnected = true)
    (accepted : (book ledger).accountRejection? (.new id.toNat) = none)
    (created : (book later).content = ((book ledger).addAccount (.new id.toNat)).content) :
    Discovers book (handle, ledger) (handle.remember id, later) := by
  obtain ⟨hnonzero, -, habsent⟩ := Book.accountRejection?_eq_none_iff.mp accepted
  have hnew : id.toNat ∉ (book ledger).accounts := by
    rw [Std.ExtTreeMap.mem_iff_isSome_getElem?]
    exact fun hheld => absurd (Option.isSome_iff_ne_none.mp hheld) (not_not_intro habsent)
  have hthere : ∀ other : AccountId, other.toNat ∈ (book later).accounts ↔
      id = other ∨ other.toNat ∈ (book ledger).accounts := by
    intro other
    rw [(Prod.mk.inj created).1, Book.mem_accounts_addAccount, ← UInt64.toNat_inj]
    rfl
  refine ⟨rfl, IsTrans.trans _ _ _ (Book.extends_addAccount hnonzero)
    (Book.extends_of_content created), fun other => ?_, fun _ _ => connected⟩
  rw [mem_remember, or_comm, Book.Gained, hthere]
  refine or_congr_right ⟨?_, fun ⟨habsent, hheld⟩ => hheld.resolve_right habsent⟩
  rintro rfl
  exact ⟨hnew, .inl rfl⟩

/-- Without a connection nothing is created. -/
theorem prepare_of_closed {handle : Handle} {ledger : L} (closed : handle.isConnected = false)
    (change : Change) : (prepare service change (handle, ledger)).2 = (handle, ledger) := by
  rw [prepare]
  split
  · have hrefused : createAccount service change.id (handle, ledger) =
        (.error .notInitialized, (handle, ledger)) := ensureConnected_bind_of_closed closed _
    rw [Run.bind_of_error hrefused]
  · rfl

section

variable (keeps : service.Keeps book)
include keeps

theorem prepare_discovers (change : Change) :
    Run.Along (Discovers book) (prepare service change) := by
  rintro ⟨handle, ledger⟩
  cases hconnected : handle.isConnected with
  | false =>
      rw [prepare_of_closed hconnected]
      exact Std.Refl.refl (handle, ledger)
  | true =>
      obtain ⟨later, hrun, hcontent, haccepted⟩ | ⟨e, later, hrun, -, hcontent⟩ :=
        prepare_asked handle ledger keeps change
      · rw [hrun, Handle.opened]
        rw [Book.prepare] at hcontent
        split at hcontent
        · next hcreation =>
            rw [if_pos hcreation]
            exact discovers_of_created hconnected (haccepted hcreation) hcontent
        · next hcreation =>
            rw [if_neg hcreation]
            exact discovers_of_content hcontent
      · rw [hrun]
        exact discovers_of_content hcontent

/-- A movement brings no account into the ledger. -/
theorem transfer_discovers (id : AccountId) (delta : Int) :
    Run.Along (Discovers book) (transfer service id delta) := by
  rintro ⟨handle, ledger⟩
  have hasked := transfer_asked handle ledger keeps id delta
  generalize transfer service id delta (handle, ledger) = result at hasked
  cases hasked with
  | done _ same =>
      refine discovers_of_still (IsTrans.trans _ _ _ (Book.extends_post _ _)
        (Book.extends_of_content same)) fun other ⟨habsent, hthere⟩ => habsent ?_
      rwa [(Prod.mk.inj same).1, Book.mem_accounts_post] at hthere
  | failed _ same => exact discovers_of_content same

theorem book_discovers (change : Change) (state : State L) :
    Discovers book state (Ledger.book service change state).2 := by
  have hprepared := prepare_discovers keeps change state
  rcases hrun : prepare service change state with ⟨e | _, mid⟩
  · rw [hrun] at hprepared
    rwa [book_of_unprepared hrun]
  · rw [hrun] at hprepared
    have hmoved := transfer_discovers keeps change.id change.delta mid
    rw [book_of_prepared hrun]
    split
    · exact hprepared
    · rcases htransfer : transfer service change.id change.delta mid with ⟨e | _, final⟩
      all_goals
        rw [htransfer] at hmoved
        exact IsTrans.trans _ _ _ hprepared hmoved

/-- However a flush ends, the store has come to know the accounts that it brought into the
ledger. -/
theorem bookAll_discovers (total applied : Nat) (wrote : Bool) (changes : List Change) :
    Run.Along (Discovers book) (bookAll service total applied wrote changes) := by
  induction changes generalizing applied wrote with
  | nil => exact Run.Along.pure _
  | cons change rest ih =>
      intro state
      have hbooked := book_discovers keeps change state
      rw [bookAll, Run.lift_bind_apply]
      cases (Ledger.book service change state).1 with
      | done now => exact IsTrans.trans _ _ _ hbooked (ih _ _ _)
      | failed now e =>
          dsimp only
          split <;> exact hbooked

end

/-! ## What a store has come across -/

/-- What a store comes across. It begins anew when the store takes hold of the ledger. A load
finds an account if the ledger has it, and a flush finds the accounts that it brings into the
ledger. -/
def sightings : Watcher (State Book) (Set AccountId) where
  connect _ _ _ := ∅
  load id state _ seen := {other | other = id ∧ id.toNat ∈ state.2.accounts} ∪ seen
  flush _ state later seen := {id | state.2.Gained later.2 id} ∪ seen

/-- While a store is connected it remembers the accounts that it has come across, and all of them
are in the ledger. -/
structure Recalled (state : State Book) (seen : Set AccountId) : Prop where
  filed : state.2.Filed
  zero : 0 ∉ state.2.accounts
  there : ∀ id ∈ state.1.known, id.toNat ∈ state.2.accounts
  known : state.1.isConnected = true → ∀ id, id ∈ state.1.known ↔ id ∈ seen
  fresh : state.1.isConnected = false → ∀ id, id ∉ state.1.known

/-- A store stays connected or unconnected, and if it did remember what it has come across, it
does so still. -/
def StaysRecalled (m m' : State Book × Set AccountId) : Prop :=
  m'.1.1.isConnected = m.1.1.isConnected ∧ (Recalled m.1 m.2 → Recalled m'.1 m'.2)

instance : IsPreorder (State Book × Set AccountId) StaysRecalled where
  refl _ := ⟨rfl, id⟩
  trans _ _ _ first second := ⟨second.1.trans first.1, second.2 ∘ first.2⟩

namespace Recalled

variable {state later : State Book} {seen : Set AccountId}

/-- Others may add to the ledger. -/
theorem extended (recalled : Recalled state seen) {ledger : Book}
    (grown : state.2.Extends ledger) : Recalled (state.1, ledger) seen where
  filed := grown.filed recalled.filed
  zero := grown.zero recalled.zero
  there id hknown := grown.kept _ (recalled.there id hknown)
  known := recalled.known
  fresh := recalled.fresh

/-- What a connected store finds it remembers. -/
theorem found (recalled : Recalled state seen) {found : Set AccountId}
    (connection : later.1.isConnected = state.1.isConnected) (grown : state.2.Extends later.2)
    (there : ∀ id ∈ found, id.toNat ∈ later.2.accounts)
    (known : ∀ id, id ∈ later.1.known ↔
      id ∈ state.1.known ∨ state.1.isConnected = true ∧ id ∈ found) :
    Recalled later (found ∪ seen) where
  filed := grown.filed recalled.filed
  zero := grown.zero recalled.zero
  there id hknown := ((known id).mp hknown).elim
    (fun hbefore => grown.kept _ (recalled.there id hbefore)) fun hfound => there id hfound.2
  known connected id := by
    have hconnected := connection.symm.trans connected
    rw [known, recalled.known hconnected, Set.mem_union, or_comm, and_iff_right hconnected]
  fresh closed id hknown := by
    have hclosed := connection.symm.trans closed
    refine ((known id).mp hknown).elim (recalled.fresh hclosed id) fun hfound => ?_
    exact Bool.false_ne_true (hclosed.symm.trans hfound.1)

end Recalled

section

variable (draw : Book → TransferNumber)

/-- The medium of a store on a ledger in this process, watched for what the store comes across. -/
abbrev watchedBackend : Backend (State Book × Set AccountId) :=
  (backend (Book.serviceWith draw)).watched sightings

/-- A load finds the account that it asks for, if there is a connection and the account is
there. -/
theorem known_of_load (id : AccountId) (state : State Book) :
    let later := ((backend (Book.serviceWith draw)).load id state).2
    later.1.isConnected = state.1.isConnected ∧ later.2 = state.2 ∧
      ∀ other, other ∈ later.1.known ↔ other ∈ state.1.known ∨
        state.1.isConnected = true ∧ other = id ∧ id.toNat ∈ state.2.accounts := by
  cases hconnected : state.1.isConnected with
  | false =>
      rw [load_of_closed draw hconnected]
      exact ⟨hconnected, rfl, fun other => by simp⟩
  | true =>
      rw [load_of_connected draw hconnected, Std.ExtTreeMap.mem_iff_isSome_getElem?]
      cases state.2.accounts[id.toNat]? with
      | none => exact ⟨hconnected, rfl, fun other => by simp⟩
      | some account =>
          refine ⟨hconnected, rfl, fun other => ?_⟩
          dsimp only
          rw [mem_remember, or_comm, eq_comm]
          simp

theorem load_staysRecalled (id : AccountId) :
    Run.Along StaysRecalled ((watchedBackend draw).load id) := by
  rintro ⟨state, seen⟩
  obtain ⟨hconnection, hledger, hknown⟩ := known_of_load draw id state
  have hrun : ((watchedBackend draw).load id (state, seen)).2 =
      (((backend (Book.serviceWith draw)).load id state).2,
        {other | other = id ∧ id.toNat ∈ state.2.accounts} ∪ seen) := rfl
  rw [hrun]
  refine ⟨hconnection, fun recalled => recalled.found hconnection ?_ ?_ hknown⟩
  · rw [hledger]
    exact Std.Refl.refl state.2
  · rintro other ⟨rfl, hthere⟩
    rwa [hledger]

theorem loadAll_staysRecalled : Run.Along StaysRecalled (watchedBackend draw).loadAll := by
  rintro ⟨state, seen⟩
  have hkept : ((watchedBackend draw).loadAll (state, seen)).2 = (state, seen) :=
    congrArg (·, seen) (loadAll_kept draw state)
  rw [hkept]
  exact Std.Refl.refl (state, seen)

theorem flush_staysRecalled (changes : List Change) :
    Run.Along StaysRecalled ((watchedBackend draw).flush changes) := by
  rintro ⟨state, seen⟩
  have hdiscovers : Discovers id state ((backend (Book.serviceWith draw)).flush changes state).2 :=
    bookAll_discovers (Book.serviceWith_keeps draw) changes.length 0 false changes state
  refine ⟨hdiscovers.connection, fun recalled => recalled.found hdiscovers.connection
    hdiscovers.grown (fun _ gained => gained.2) fun other => (hdiscovers.known other).trans ?_⟩
  exact or_congr_right ⟨fun gained => ⟨hdiscovers.gained other gained, gained⟩, And.right⟩

/-- To take hold of the ledger opens the system account at most. The store has come across
nothing by then. -/
theorem connect_recalled {state : State Book} {seen : Set AccountId}
    (recalled : Recalled state seen) (closed : state.1.isConnected = false) :
    (∃ later, (watchedBackend draw).connect (state, seen) = (.ok (), (later, ∅)) ∧
        later.1.isConnected = true ∧ Recalled later ∅) ∨
      ∃ e, (watchedBackend draw).connect (state, seen) = (.error e, (state, ∅)) ∧
        Recalled state ∅ := by
  have hrun : (watchedBackend draw).connect (state, seen) =
      ((connect (Book.serviceWith draw) state).1, ((connect (Book.serviceWith draw) state).2, ∅)) :=
    rfl
  have hconnected : ∀ {ledger : Book}, state.2.Extends ledger →
      Recalled ({ state.1 with isConnected := true }, ledger) ∅ := fun grown =>
    { filed := grown.filed recalled.filed
      zero := grown.zero recalled.zero
      there := fun id hknown => absurd hknown (recalled.fresh closed id)
      known := fun _ id => iff_of_false (recalled.fresh closed id) (Set.notMem_empty id)
      fresh := nofun }
  rw [hrun, connect_apply]
  cases state.2.accountRejection? (.new systemAccount) with
  | none => exact .inl ⟨_, rfl, rfl, hconnected (Book.extends_addAccount (by decide))⟩
  | some reason =>
      have hrefused : Recalled state ∅ :=
        { filed := recalled.filed
          zero := recalled.zero
          there := recalled.there
          known := fun connected => absurd (closed.symm.trans connected) Bool.false_ne_true
          fresh := recalled.fresh }
      -- That the system account is there already is no reason to refuse.
      cases reason <;> first
        | exact .inr ⟨_, rfl, hrefused⟩
        | exact .inl ⟨_, rfl, rfl, hconnected (Std.Refl.refl state.2)⟩

end

/-! ## Stores on one ledger -/

/-- A store is connected while it is open, and remembers then what it has come across. -/
def Aware (s : Store (State Book × Set AccountId)) : Prop :=
  s.medium.1.1.isConnected = s.initialized ∧ Recalled s.medium.1 s.medium.2

theorem carries_aware : Store.Carries StaysRecalled (Run.Preserved Aware) where
  medium stays aware := ⟨stays.1.trans aware.1, stays.2 aware.2⟩
  staged _ _ aware := aware

theorem access_aware (draw : Book → TransferNumber) :
    Store.Access (watchedBackend draw) (Run.Preserved Aware) :=
  carries_aware.access (load_staysRecalled draw) (loadAll_staysRecalled draw)
    fun s changes _ => carries_aware.medium (flush_staysRecalled draw changes s.medium)

theorem working_aware (draw : Book → TransferNumber) :
    Batch.Working (watchedBackend draw) (Run.Preserved Aware) where
  toReading := (access_aware draw).toReading
  update := (access_aware draw).update_along
  begin := by
    refine Store.ensureInitialized_along.bind fun _ s => ?_
    rw [Run.get_bind_apply]
    split
    · exact Run.Along.throw _ s
    · exact id
  commit := Store.commit_along carries_aware (flush_staysRecalled draw) fun _ => id
  rollback := Store.ensureInitialized_along.bind fun _ _ => id

theorem start_aware (draw : Book → TransferNumber) :
    Run.Along (Run.Preserved Aware) (Store.start (watchedBackend draw)) := by
  rintro s ⟨hconnection, recalled⟩
  cases hopened : s.initialized with
  | true =>
      rw [Store.start_of_opened hopened]
      exact ⟨hconnection, recalled⟩
  | false =>
      rw [Store.start_of_closed hopened]
      obtain ⟨later, hrun, hconnected, hlater⟩ | ⟨e, hrun, hstill⟩ :=
        connect_recalled draw recalled (hconnection.trans hopened)
      · have hconnect : (watchedBackend draw).connect s.medium = _ := hrun
        rw [hconnect]
        exact ⟨hconnected, hlater⟩
      · have hconnect : (watchedBackend draw).connect s.medium = _ := hrun
        rw [hconnect]
        exact ⟨hconnection, hstill⟩

/-- A store that lets go of the ledger remembers nothing. -/
theorem close_aware (draw : Book → TransferNumber) :
    Run.Along (Run.Preserved Aware) (Store.close (watchedBackend draw)) := by
  rintro s ⟨hconnection, recalled⟩
  cases hopened : s.initialized with
  | false =>
      rw [Store.close, Store.ensureInitialized_bind_of_closed hopened]
      exact ⟨hconnection, recalled⟩
  | true =>
      rw [Store.close, Store.ensureInitialized_bind hopened, Run.modify_bind_apply]
      refine ⟨rfl, recalled.filed, recalled.zero, fun id hknown => ?_, fun connected => ?_,
        fun _ id => ?_⟩
      · exact absurd hknown Std.ExtTreeSet.not_mem_empty
      · exact absurd connected Bool.false_ne_true
      · exact Std.ExtTreeSet.not_mem_empty

theorem perform_aware (draw : Book → TransferNumber) (op : Store.Op) :
    Run.Along (Run.Preserved Aware) (Store.perform (watchedBackend draw) op) :=
  (access_aware draw).toReading.perform_along
    (fun id balance _ => (access_aware draw).create_along id balance)
    (fun id delta _ => (access_aware draw).update_along id delta) (fun _ => start_aware draw)
    (fun _ => close_aware draw) (fun _ => (working_aware draw).begin)
    (fun _ => (working_aware draw).commit) fun _ => (working_aware draw).rollback

/-! ## Histories -/

/-- Accounts were added to the ledger behind a connection at most. -/
def Grown (state later : State Book) : Prop := state.2.Extends later.2

instance : IsPreorder (State Book) Grown where
  refl state := Std.Refl.refl state.2
  trans state mid later := IsTrans.trans state.2 mid.2 later.2

/-- Whatever a store is asked, it adds accounts to the ledger at most. -/
theorem respects_grown (draw : Book → TransferNumber) :
    (backend (Book.serviceWith draw)).Respects Grown where
  connect := by
    refine connect_along (Book.serviceWith_keeps draw) (fun _ => rfl) Book.extends_of_content
      fun {state later} same => ?_
    have hadded : state.2.Extends (state.2.addAccount (.new systemAccount)) :=
      Book.extends_addAccount (by decide)
    exact IsTrans.trans state.2 _ later.2 hadded (Book.extends_of_content same)
  disconnect state := Std.Refl.refl state.2
  load id state := by
    obtain ⟨-, hledger, -⟩ := known_of_load draw id state
    rw [Grown, hledger]
    exact Std.Refl.refl state.2
  loadAll state := by
    have hkept : ((backend (Book.serviceWith draw)).loadAll state).2 = state :=
      loadAll_kept draw state
    rw [hkept]
    exact Std.Refl.refl state
  flush changes state :=
    (bookAll_discovers (Book.serviceWith_keeps draw) changes.length 0 false changes state).grown

/-- So does whoever asks the ledger directly. -/
theorem extends_demand (book : Book) (demand : Demand) : book.Extends (demand.perform book) := by
  cases demand with
  | accounts items =>
      rw [Demand.perform_accounts]
      refine Book.creating.takeAll_induction (fun later _ => book.Extends later)
        (fun later _ account grown accepted => ?_) items [] (Std.Refl.refl book)
      exact IsTrans.trans _ _ _ grown
        (Book.extends_addAccount (Book.accountRejection?_eq_none_iff.mp accepted).1)
  | transfers items =>
      obtain ⟨failAfter, hperform⟩ := Book.exists_createTransfers_eq items book
      have hposted : book.Extends (Book.posting.takeAll book (book.reached items)) :=
        Book.posting.takeAll_induction (fun later _ => book.Extends later)
          (fun later _ transfer grown _ =>
            IsTrans.trans _ _ _ grown (Book.extends_post later transfer))
          _ [] (Std.Refl.refl book)
      rw [Demand.perform, hperform]
      exact IsTrans.trans _ _ _ hposted (Book.extends_of_content rfl)
  | failure count => exact Book.extends_of_content rfl

/-- What happens to stores on one ledger: one of them is put to something, or the ledger is asked
directly, or told to fail after some more transfers. -/
inductive Happening (ι : Type)
  | turn (i : ι) (act : Batch.Act)
  | asked (demand : Demand)

section

variable {ι : Type} [DecidableEq ι] (draw : Book → TransferNumber)

/-- The stores and the ledger afterwards. -/
def Happening.after : Happening ι → Company ι Handle Book → Company ι Handle Book
  | turn i act, company =>
    company.put i (act.after (backend (Book.serviceWith draw)) (company.store i))
  | asked demand, company => { company with shared := demand.perform company.shared }

/-- What a store has come across afterwards. -/
def Happening.seen (a : ι) :
    Happening ι → Company ι Handle Book → Set AccountId → Set AccountId
  | turn i act, company, seen =>
    if i = a then act.notes (backend (Book.serviceWith draw)) sightings (company.store i) seen
    else seen
  | asked _, _, seen => seen

/-- The stores and the ledger after a history. -/
def courseOf (history : List (Happening ι)) (company : Company ι Handle Book) :
    Company ι Handle Book :=
  history.foldl (fun company happening => happening.after draw company) company

/-- What a store has come across in a history since it last took hold of the ledger. -/
def seenBy (a : ι) : List (Happening ι) → Company ι Handle Book → Set AccountId → Set AccountId
  | [], _, seen => seen
  | happening :: rest, company, seen =>
    seenBy a rest (happening.after draw company) (happening.seen draw a company seen)

/-- New stores, and a ledger without accounts. -/
def beginning (settings : ι → Settings) : Company ι Handle Book :=
  .opening (fun i => ⟨settings i, false, ∅⟩) Book.empty

/-- Whatever happens, a store remembers what it has come across. -/
theorem aware_after {a : ι} {company : Company ι Handle Book} {seen : Set AccountId}
    (aware : Aware ((company.store a).withNotes seen)) (happening : Happening ι) :
    Aware (((happening.after draw company).store a).withNotes
      (happening.seen draw a company seen)) := by
  obtain ⟨hconnection, recalled⟩ := aware
  cases happening with
  | turn i act =>
      by_cases hown : i = a
      · subst hown
        have hafter := act.after_along (working_aware draw) (perform_aware draw)
          ((company.store i).withNotes seen) ⟨hconnection, recalled⟩
        rw [Batch.Act.after_watched] at hafter
        rw [Happening.after, Happening.seen, if_pos rfl, Company.store_put_self]
        exact hafter
      · have hgrown := act.after_along (Batch.working_medium (respects_grown draw))
          (Store.perform_along (respects_grown draw)) (company.store i)
        rw [Happening.after, Happening.seen, if_neg hown,
          Company.store_put_of_ne (Ne.symm hown)]
        exact ⟨hconnection, recalled.extended hgrown⟩
  | asked demand =>
      exact ⟨hconnection, recalled.extended (extends_demand company.shared demand)⟩

theorem aware_course {a : ι} {company : Company ι Handle Book} {seen : Set AccountId}
    (aware : Aware ((company.store a).withNotes seen)) (history : List (Happening ι)) :
    Aware (((courseOf draw history company).store a).withNotes
      (seenBy draw a history company seen)) := by
  induction history generalizing company seen with
  | nil => exact aware
  | cons happening rest ih => exact ih (aware_after draw aware happening)

omit [DecidableEq ι] in
theorem aware_beginning (settings : ι → Settings) (a : ι) :
    Aware (((beginning settings).store a).withNotes ∅) :=
  have hnone : ∀ id : AccountId, id ∉ (∅ : Std.ExtTreeSet AccountId) :=
    fun _ => Std.ExtTreeSet.not_mem_empty
  ⟨rfl, Book.filed_empty, Std.ExtTreeMap.not_mem_empty, fun id hknown => absurd hknown (hnone id),
    nofun, fun _ => hnone⟩

end

/-! ## Listing -/

/-- An account of the ledger is found with its net credit, if that is a balance. -/
theorem Book.look_of_mem {book : Book} {id : AccountId} (there : id.toNat ∈ book.accounts)
    (fits : Balance.InRange (book.netCredit id)) :
    ∃ account, book.look id = .ok (some account) ∧ account.balance.toInt = book.netCredit id := by
  obtain ⟨account, hfound⟩ := Option.isSome_iff_exists.mp
    (Std.ExtTreeMap.mem_iff_isSome_getElem?.mp there)
  have hcredit : book.netCredit id = account.net := by
    rw [netCredit, hfound, Option.map_some, Option.getD_some]
  rw [hcredit] at fits ⊢
  have hbalance : Balance.ofInt? account.net = some (Int64.ofInt account.net) := by
    rw [Balance.ofInt?, if_pos fits]
  refine ⟨⟨id, Int64.ofInt account.net⟩, ?_, Balance.ofInt?_eq_some_iff.mp hbalance⟩
  have hreported : accountOf id account = .ok ⟨id, Int64.ofInt account.net⟩ := by
    rw [accountOf, hbalance]
    rfl
  rw [look, hfound]
  dsimp only
  rw [hreported]
  rfl

section

variable (draw : Book → TransferNumber)

/-- A store that is open and idle lists what it has come across. -/
theorem listed_of_aware {s : Store (State Book)} {seen : Set AccountId}
    (aware : Aware (s.withNotes seen)) (opened : s.initialized = true) (idle : s.staging = none)
    (fits : ∀ id ∈ seen, Balance.InRange (s.medium.2.netCredit id)) :
    ∃ listed, (Store.accounts (backend (Book.serviceWith draw)) s).1 = .ok listed ∧
      listed.Pairwise (fun first later => first.id < later.id) ∧
      (∀ id, (∃ account ∈ listed, account.id = id) ↔ id ∈ seen) ∧
      (∀ account ∈ listed, account.balance.toInt = s.medium.2.netCredit account.id) ∧
      ∀ account ∈ listed, account.id ≠ UInt64.ofNat systemAccount := by
  obtain ⟨hconnection, recalled⟩ := aware
  have hconnected : s.medium.1.isConnected = true := hconnection.trans opened
  have hknown : ∀ id, id ∈ s.medium.1.known.toList ↔ id ∈ seen := fun id =>
    Std.ExtTreeSet.mem_toList.trans (recalled.known hconnected id)
  have hfound : ∀ id ∈ seen, ∃ account, s.medium.2.look id = .ok (some account) ∧
      account.balance.toInt = s.medium.2.netCredit id := fun id hseen =>
    Book.look_of_mem (recalled.there id ((recalled.known hconnected id).mpr hseen)) (fits id hseen)
  obtain ⟨listed, hlisted, hids⟩ := lookAll_of_found (fun _ _ => Book.look_own)
    fun id hmem => (hfound id ((hknown id).mp hmem)).imp fun _ => And.left
  obtain ⟨-, hshown⟩ := lookAll_found (fun _ _ => Book.look_own) hlisted
  have hmem : ∀ {account}, account ∈ s.overlaid listed ↔ account ∈ listed := by
    intro account
    rw [Store.mem_overlaid hshown, idle]
    simp
  have hseen : ∀ {account}, account ∈ listed → account.id ∈ seen := by
    intro account hlists
    rw [← hknown, ← hids]
    exact List.mem_map_of_mem hlists
  refine ⟨s.overlaid listed, ?_, Table.accounts_ascending _, fun id => ?_,
    fun account hlists => ?_, fun account hlists hsystem => ?_⟩
  · rw [Store.accounts_of_opened opened, loadAll_eq_lookAll draw hconnected recalled.filed, hlisted]
    rfl
  · rw [← hknown, ← hids, List.mem_map]
    exact exists_congr fun account => and_congr_left' hmem
  · have hlook := hshown account (hmem.mp hlists)
    obtain ⟨same, hsame, hbalance⟩ := hfound account.id (hseen (hmem.mp hlists))
    cases hlook.symm.trans hsame
    exact hbalance
  -- The lower 64 bits of the number of the system account are zero, and so is no number of another.
  · have hthere := recalled.there _ ((recalled.known hconnected _).mpr (hseen (hmem.mp hlists)))
    rw [hsystem] at hthere
    exact recalled.zero hthere

/-- Stores share a ledger that was empty at first. They are put to any operations and batches,
close and take hold of the ledger again, the ledger is also asked directly, and transfers fail
at any time. Whenever a store is then open and idle, and the net credits of the accounts that it
has come across are balances, it lists those accounts in strictly ascending order, each with its
net credit, and no others: those that a load of the store has found since it last took hold of
the ledger, and those that a flush of the store has brought into the ledger since, even if the
flush broke off before anything was booked on them. The system account is not among them, nor
anything under the identifier that is left of its number in 64 bits. -/
theorem lists_what_was_seen {ι : Type} [DecidableEq ι] (settings : ι → Settings)
    (history : List (Happening ι)) (a : ι) :
    let company := courseOf draw history (beginning settings)
    let seen := seenBy draw a history (beginning settings) ∅
    (company.store a).initialized = true → (company.store a).staging = none →
      (∀ id ∈ seen, Balance.InRange (company.shared.netCredit id)) →
      ∃ listed, (Store.accounts (backend (Book.serviceWith draw)) (company.store a)).1 =
          .ok listed ∧
        listed.Pairwise (fun first later => first.id < later.id) ∧
        (∀ id, (∃ account ∈ listed, account.id = id) ↔ id ∈ seen) ∧
        (∀ account ∈ listed, account.balance.toInt = company.shared.netCredit account.id) ∧
        ∀ account ∈ listed, account.id ≠ UInt64.ofNat systemAccount := by
  intro company seen opened idle fits
  exact listed_of_aware draw (aware_course draw (aware_beginning settings a) history) opened idle
    fits

end

/-- Net credits are balances if those of all accounts in the ledger are. -/
theorem Book.inRange_netCredit {book : Book}
    (fits : ∀ entry ∈ book.accounts.toList, Balance.InRange entry.2.net) (id : AccountId) :
    Balance.InRange (book.netCredit id) := by
  rw [netCredit]
  cases hfound : book.accounts[id.toNat]? with
  | none =>
      rw [Option.map_none, Option.getD_none]
      decide
  | some account =>
      rw [Option.map_some, Option.getD_some]
      exact fits (id.toNat, account) (Std.ExtTreeMap.mem_toList_iff_getElem?_eq_some.mpr hfound)

/-- Two stores on one ledger. The first has seen accounts 1 and 2 of the other, but has taken
hold of the ledger anew before it saw account 1 again. It does not find account 7. Account 5 it
creates, and the transfer that would open it fails. -/
theorem broken_opening_is_listed :
    let settings : Bool → Settings := fun _ => ⟨["3000"], 0, false⟩
    let turn : Bool → Store.Op → Happening Bool := fun i op => .turn i (.operation op)
    let history : List (Happening Bool) :=
      [turn true .start, turn false .start, turn false (.create 1 10), turn false (.create 2 20),
        turn true (.getBalance 2), turn true (.contains 1), turn true .close, turn true .start,
        turn true (.update 1 4), turn true (.contains 7), .asked (.failure 0),
        turn true (.create 5 100), turn false (.update 1 1)]
    let company := courseOf Book.freshNumber history (beginning settings)
    (Store.accounts (backend (Book.serviceWith Book.freshNumber)) (company.store true)).1 =
        .ok [⟨1, 15⟩, ⟨5, 0⟩] ∧
      ∀ id, id ∈ seenBy Book.freshNumber true history (beginning settings) ∅ ↔
        id = 1 ∨ id = 5 := by
  intro settings turn history company
  have hopened : (company.store true).initialized = true := by decide +kernel
  have hidle : (company.store true).staging.isNone = true := by decide +kernel
  have hfits : ∀ entry ∈ company.shared.accounts.toList, Balance.InRange entry.2.net := by
    decide +kernel
  have hconnected : (company.store true).medium.1.isConnected = true := by decide +kernel
  have hfiled : (company.store true).medium.2.Filed :=
    (aware_course Book.freshNumber (aware_beginning settings true) history).2.filed
  have hanswer : (Store.accounts (backend (Book.serviceWith Book.freshNumber))
      (company.store true)).1 = .ok [⟨1, 15⟩, ⟨5, 0⟩] := by
    rw [Store.accounts_of_opened hopened, loadAll_eq_lookAll Book.freshNumber hconnected hfiled]
    decide +kernel
  obtain ⟨listed, hlisted, -, hseen, -⟩ := lists_what_was_seen Book.freshNumber settings history
    true hopened (Option.isNone_iff_eq_none.mp hidle) fun id _ => Book.inRange_netCredit hfits id
  cases hanswer.symm.trans hlisted
  refine ⟨hanswer, fun id => (hseen id).symm.trans ?_⟩
  simp [eq_comm]

end Clearinghouse.Ledger
