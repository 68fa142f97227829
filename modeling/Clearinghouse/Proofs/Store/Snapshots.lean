/-
# What a transaction has read, it reads again

A transaction takes an account from the medium once. From then on it has an entry of its own for
the account, and whoever else writes to the medium, reads inside the transaction answer from that
entry, which only the transaction's own updates move. An account without an entry is taken from
the medium as it is at that moment. Only four operations bring an account in: reading it, reading
its balance, updating it and creating it. Asking whether it is there, listing all accounts and
failing to create it do not.

Nothing is assumed of the medium or of those who share it: between two operations of the store it
may become anything, and every call may fail.
-/

import Clearinghouse.Cache.InProcess
import Clearinghouse.Cache.Backend
import Clearinghouse.Proofs.Store.Company
import Clearinghouse.Proofs.Store.Entries
import Clearinghouse.Proofs.Store.Unflushed

namespace Clearinghouse

namespace Store

variable {S : Type} {b : Backend S} {s : Store S} {op : Op} {id other : AccountId}
  {found : Option Staged} {entry : Staged}

/-- The account that an operation brings into the open transaction, if it is there. -/
def Op.brings? : Op → Option AccountId
  | .getAccount id | .getBalance id | .update id _ | .create id _ => some id
  | _ => none

/-- How far an operation with this answer has moved an account by an update. -/
def Op.movement (id : AccountId) (op : Op) (answer : Except StoreError Answer) : Int :=
  match op with
  | .update other delta => if other = id ∧ answer.isOk then delta.toInt else 0
  | _ => 0

/-- An operation that brings an account in succeeded: it returned this balance for the account,
or left it in the transaction. -/
inductive Gives (b : Backend S) (s : Store S) (id : AccountId) (balance : Balance) : Op → Prop
  | account (answered : (perform b (.getAccount id) s).1 = .ok (.account ⟨id, balance⟩)) :
      Gives b s id balance (.getAccount id)
  | balance (answered : (perform b (.getBalance id) s).1 = .ok (.balance balance)) :
      Gives b s id balance (.getBalance id)
  | created (answered : (perform b (.create id balance) s).1 = .ok .done) :
      Gives b s id balance (.create id balance)
  | updated {delta : Balance} (answered : (perform b (.update id delta) s).1 = .ok .done)
      (left : ((perform b (.update id delta) s).2.staged? id).map (·.balance) = some balance) :
      Gives b s id balance (.update id delta)

/-- However the store is asked for an account, it shows this balance. Only a list of all accounts
may fail. -/
structure ShowsAs (b : Backend S) (s : Store S) (id : AccountId) (balance : Balance) : Prop where
  getAccount : (perform b (.getAccount id) s).1 = .ok (.account ⟨id, balance⟩)
  getBalance : (perform b (.getBalance id) s).1 = .ok (.balance balance)
  contains : (perform b (.contains id) s).1 = .ok (.flag true)
  accounts : ∀ listed, (perform b .accounts s).1 = .ok (.accounts listed) →
    ∀ account : Account, account.id = id → (account ∈ listed ↔ account.balance = balance)

/-- The store is inside a transaction, which has this entry for the account, or none. -/
structure Inside (s : Store S) (id : AccountId) (found : Option Staged) : Prop where
  opened : s.initialized = true
  transaction : s.inTransaction = true
  staged : s.staged? id = found

namespace Inside

/-- What others do to the medium changes nothing inside. -/
theorem withMedium (inside : s.Inside id found) (m : S) :
    Inside { s with medium := m } id found :=
  ⟨inside.opened, inside.transaction, inside.staged⟩

theorem peek (inside : s.Inside id found) (other : AccountId) :
    (peek b other s).2.Inside id found := by
  rw [peek_apply]
  cases s.staged? other with
  | some entry => exact inside
  | none => exact inside.withMedium _

/-- Observing an account enters it if it has no entry, and changes no other entry. -/
theorem observe (inside : s.Inside id found) (apart : other = id → found.isSome = true) :
    (observe b other s).2.Inside id found := by
  have hreads := observe_reads (b := b) other s
  refine ⟨hreads.initialized.trans inside.opened,
    hreads.inTransaction.trans inside.transaction, ?_⟩
  have hstaged := inside.staged
  cases found with
  | some entry => exact hreads.kept hstaged
  | none =>
      have hother : other ≠ id := fun same => by cases apart same
      obtain ⟨staging, hstaging⟩ := Option.isSome_iff_exists.mp inside.transaction
      rw [observe_apply]
      cases s.staged? other with
      | some entry => exact hstaged
      | none =>
          dsimp only
          split
          · simp only [copied, loaded, hstaging, Option.map_some, staged?_insert, if_neg hother]
            exact (staged?_of_staging hstaging id).symm.trans hstaged
          · exact hstaged
          · exact hstaged

/-- A balance is written to the entry of its account and to no other. -/
theorem write (inside : s.Inside id found) (apart : other ≠ id) (observed : Option Balance)
    (balance : Balance) : (write b other observed balance s).2.Inside id found := by
  obtain ⟨staging, hstaging⟩ := Option.isSome_iff_exists.mp inside.transaction
  rw [write_apply, hstaging]
  refine ⟨inside.opened, rfl, ?_⟩
  simp only [Staging.write_eq_insert, staged?_insert, if_neg apart]
  exact (staged?_of_staging hstaging id).symm.trans inside.staged

/-- An operation that would write another account leaves this one alone. -/
theorem target (inside : s.Inside id found) (target : op.target? = some other)
    (apart : other ≠ id) : (perform b op s).2.Inside id found := by
  have hlook : (op.look b s).2.Inside id found := by
    rcases Op.target?_eq_some_iff.mp target with ⟨balance, rfl⟩ | ⟨delta, rfl⟩
    · exact inside.peek other
    · exact inside.observe fun same => absurd same apart
  obtain ⟨e, -, hrun⟩ | ⟨_, -, ⟨-, e, hrun⟩ | ⟨-, hrun⟩⟩ :=
    perform_of_target (b := b) inside.opened target
  · rwa [hrun]
  · rwa [hrun]
  · rw [hrun, Run.map_apply]
    exact hlook.write apart _ _

/-- Reading an account leaves the transaction as observing it does. -/
theorem read (inside : s.Inside id found) (apart : other = id → found.isSome = true) :
    (perform b (.getAccount other) s).2.Inside id found ∧
      (perform b (.getBalance other) s).2.Inside id found := by
  have hobserved := inside.observe (b := b) apart
  rw [perform, Run.map_apply, perform_getBalance, Run.map_apply,
    getAccount_of_transaction inside.opened inside.transaction]
  exact ⟨hobserved, hobserved⟩

/-- Until the transaction ends, an operation that does not bring the account in leaves its entry
alone. -/
theorem apart (inside : s.Inside id found) (stays : op.StaysInside)
    (apart : op.brings? ≠ some id) : (perform b op s).2.Inside id found := by
  have hother : ∀ {other}, op.brings? = some other → other ≠ id := by
    rintro _ hbrings rfl
    exact apart hbrings
  cases op with
  | start =>
      rw [perform, Run.map_apply, start_of_opened inside.opened]
      exact inside
  | begin =>
      rw [perform, Run.map_apply, begin_of_transaction inside.opened inside.transaction]
      exact inside
  | contains other =>
      rw [perform, Run.map_apply, contains_apply inside.opened]
      exact inside.peek other
  | accounts =>
      rw [perform, Run.map_apply, accounts_of_opened inside.opened]
      exact inside.withMedium _
  | getAccount other => exact (inside.read fun same => absurd same (hother rfl)).1
  | getBalance other => exact (inside.read fun same => absurd same (hother rfl)).2
  | create other balance => exact inside.target rfl (hother rfl)
  | update other delta => exact inside.target rfl (hother rfl)
  | close | commit | rollback => exact stays.elim

/-- Until the transaction ends, an entry is moved by updates of its account that succeed, and by
nothing else. -/
theorem moves (inside : s.Inside id (some entry)) (stays : op.StaysInside) :
    ∃ later, (perform b op s).2.Inside id (some later) ∧
      later.balance.toInt = entry.balance.toInt + op.movement id (perform b op s).1 := by
  have hobserve := observe_of_staged (b := b) inside.staged
  by_cases hbrings : op.brings? = some id
  · cases op with
    | getAccount _ =>
        cases hbrings
        exact ⟨entry, (inside.read fun _ => rfl).1, (Int.add_zero _).symm⟩
    | getBalance _ =>
        cases hbrings
        exact ⟨entry, (inside.read fun _ => rfl).2, (Int.add_zero _).symm⟩
    | create _ balance =>
        cases hbrings
        have hpeek : Store.peek b id s = (.ok (some entry.balance), s) := by
          rw [peek_apply, inside.staged]
        have hrun : perform b (.create id balance) s = (.error (.accountAlreadyExists id), s) := by
          rw [perform, Run.map_apply, create_of_peek inside.opened balance hpeek]
          rfl
        rw [hrun]
        exact ⟨entry, inside, (Int.add_zero _).symm⟩
    | update _ delta =>
        cases hbrings
        by_cases hallowed : (Op.update id delta).Allowed (some entry.balance)
        · obtain ⟨s', later, hwrite, hwithin, hlater, hbalance⟩ := write_stages (b := b)
            inside.transaction id (some entry.balance)
            ((Op.update id delta).outcome (some entry.balance))
          have hrun : perform b (.update id delta) s = (.ok .done, s') := by
            rw [perform, Run.map_apply, update_of_allowed inside.opened hobserve hallowed, hwrite]
            rfl
          have hsum : later.balance.toInt = entry.balance.toInt + delta.toInt := by
            rw [hbalance]
            exact Balance.ofInt?_eq_some_iff.mp (if_pos hallowed.1)
          rw [hrun]
          exact ⟨later, ⟨hwithin.initialized.trans inside.opened,
            hwithin.inTransaction.trans inside.transaction, hlater⟩,
            by rw [hsum, Op.movement, if_pos ⟨rfl, rfl⟩]⟩
        · obtain ⟨e, hfailed⟩ := update_of_not_allowed inside.opened hobserve hallowed
          have hrun : perform b (.update id delta) s = (.error e, s) := by
            rw [perform, Run.map_apply, hfailed]
            rfl
          rw [hrun]
          exact ⟨entry, inside, by simp [Op.movement, Except.isOk, Except.toBool]⟩
    | start | close | contains | accounts | begin | commit | rollback => cases hbrings
  · refine ⟨entry, inside.apart stays hbrings, ?_⟩
    have hstill : op.movement id (perform b op s).1 = 0 := by
      cases op with
      | update other delta => exact if_neg fun moved => hbrings (congrArg some moved.1)
      | start | close | create | contains | getAccount | getBalance | accounts | begin | commit
      | rollback => rfl
    rw [hstill, Int.add_zero]

/-- Reading an account that is there, in whichever form, leaves an entry with the balance read. -/
theorem enters (inside : s.Inside id found) {form : Account → Answer} {answer : Answer}
    (answered : (getAccount b id s).1.map form = .ok answer) :
    ∃ entry, (getAccount b id s).2.Inside id (some entry) ∧
      form ⟨id, entry.balance⟩ = answer := by
  obtain ⟨hopened, htransaction, -⟩ := inside
  have hreads := observe_reads (b := b) id s
  rw [getAccount_of_transaction hopened htransaction] at answered ⊢
  cases hobserved : (Store.observe b id s).1 with
  | error e =>
      rw [hobserved] at answered
      cases answered
  | ok observed =>
      rw [hobserved] at answered
      cases observed with
      | none => cases answered
      | some balance =>
          cases answered
          obtain ⟨entry, hentry, rfl⟩ := exists_staged_of_observed htransaction hobserved
          exact ⟨entry, ⟨hreads.initialized.trans hopened,
            hreads.inTransaction.trans htransaction, hentry⟩, rfl⟩

/-- An operation that would write an account and succeeds leaves an entry with its outcome. -/
theorem stages (inside : s.Inside id found) (target : op.target? = some id) {answer : Answer}
    (answered : (perform b op s).1 = .ok answer) : answer = .done ∧ ∃ observed entry,
      (perform b op s).2.Inside id (some entry) ∧ entry.balance = op.outcome observed := by
  have hlook : (op.look b s).2.initialized = true ∧ (op.look b s).2.inTransaction = true := by
    rcases Op.target?_eq_some_iff.mp target with ⟨balance, rfl⟩ | ⟨delta, rfl⟩
    · exact ⟨(inside.peek id).opened, (inside.peek id).transaction⟩
    · have hreads := observe_reads (b := b) id s
      exact ⟨hreads.initialized.trans inside.opened, hreads.inTransaction.trans inside.transaction⟩
  obtain ⟨e, -, hrun⟩ | ⟨observed, -, ⟨-, e, hrun⟩ | ⟨-, hrun⟩⟩ :=
    perform_of_target (b := b) inside.opened target
  · rw [hrun] at answered
    cases answered
  · rw [hrun] at answered
    cases answered
  · obtain ⟨s', entry, hwrite, hwithin, hentry, hbalance⟩ := write_stages (b := b) hlook.2 id
      observed (op.outcome observed)
    rw [Run.map_apply, hwrite] at hrun
    rw [hrun] at answered ⊢
    cases answered
    exact ⟨rfl, observed, entry, ⟨hwithin.initialized.trans hlook.1,
      hwithin.inTransaction.trans hlook.2, hentry⟩, hbalance⟩

/-- An operation that brings an account in and succeeds leaves an entry with the balance that it
gave. -/
theorem gives (inside : s.Inside id found) (brings : op.brings? = some id) {answer : Answer}
    (answered : (perform b op s).1 = .ok answer) :
    ∃ entry, (perform b op s).2.Inside id (some entry) ∧ Gives b s id entry.balance op := by
  cases op with
  | getAccount _ =>
      cases brings
      have hread := answered
      rw [perform, Run.map_apply] at hread ⊢
      obtain ⟨entry, hinside, rfl⟩ := inside.enters hread
      exact ⟨entry, hinside, .account answered⟩
  | getBalance _ =>
      cases brings
      have hread := answered
      rw [perform_getBalance, Run.map_apply] at hread ⊢
      obtain ⟨entry, hinside, rfl⟩ := inside.enters hread
      exact ⟨entry, hinside, .balance answered⟩
  | create _ balance =>
      cases brings
      obtain ⟨rfl, _, entry, hinside, rfl⟩ := inside.stages rfl answered
      exact ⟨entry, hinside, .created answered⟩
  | update _ delta =>
      cases brings
      obtain ⟨rfl, _, entry, hinside, -⟩ := inside.stages rfl answered
      exact ⟨entry, hinside, .updated answered (by rw [hinside.staged]; rfl)⟩
  | start | close | contains | accounts | begin | commit | rollback => cases brings

/-- Until the transaction ends, the store stays inside. -/
theorem stays (inside : s.Inside id found) (stays : op.StaysInside) :
    ∃ later, (perform b op s).2.Inside id later := by
  obtain ⟨-, hopened, htransaction⟩ := perform_inside (b := b) (R := Run.Kept fun _ => ())
    (fun _ _ => rfl) (fun _ => rfl) stays s inside.opened inside.transaction
  exact ⟨_, hopened, htransaction, rfl⟩

/-- An account that has an entry is shown as the entry says. -/
theorem showsAs (inside : s.Inside id (some entry)) : s.ShowsAs b id entry.balance := by
  have hread : (getAccount b id s).1 = .ok ⟨id, entry.balance⟩ := by
    rw [getAccount_of_transaction inside.opened inside.transaction, observe_of_staged inside.staged]
    rfl
  obtain ⟨staging, hstaging⟩ := Option.isSome_iff_exists.mp inside.transaction
  have hentry : staging[id]? = some entry :=
    (staged?_of_staging hstaging id).symm.trans inside.staged
  have hlists : ∀ listed, (perform b .accounts s).1 = .ok (.accounts listed) →
      ∀ account : Account, account.id = id → (account ∈ listed ↔ account.balance = entry.balance) := by
    intro listed hlisted account hid
    subst hid
    rw [perform, Run.map_apply, accounts_of_opened inside.opened, hstaging] at hlisted
    cases hloaded : (b.loadAll s.medium).1 with
    | error e =>
        rw [hloaded] at hlisted
        cases hlisted
    | ok committed =>
        rw [hloaded] at hlisted
        cases hlisted
        rw [Option.getD_some, Table.mem_accounts, Staging.getElem?_onto, hentry]
        simp [eq_comm]
  refine ⟨?_, ?_, ?_, hlists⟩
  · rw [perform, Run.map_apply, hread]
    rfl
  · rw [perform_getBalance, Run.map_apply, hread]
    rfl
  · rw [perform, Run.map_apply, contains_apply inside.opened, peek_apply, inside.staged]
    rfl

/-- An account without an entry is read as the medium has it. -/
theorem getAccount_eq (inside : s.Inside id none) : (perform b (.getAccount id) s).1 =
    (b.load id s.medium).1.bind fun found =>
      found.elim (.error (.accountNotFound id)) fun account =>
        .ok (.account ⟨id, account.balance⟩) := by
  rw [perform, Run.map_apply, getAccount_of_transaction inside.opened inside.transaction,
    observe_apply, inside.staged]
  cases (b.load id s.medium).1 with
  | error e => rfl
  | ok found => cases found <;> rfl

end Inside

end Store

namespace Company

variable {ι H M : Type} [DecidableEq ι] {b : Backend (H × M)} {company : Company ι H M} {a : ι}
  {id : AccountId} {found : Option Staged} {entry : Staged} {history : List (Event ι M)}

section

variable (b) (a : ι) (id : AccountId)

/-- How far an event moves an account by an update of this store. -/
def Event.movement : Event ι M → Company ι H M → Int
  | .turn i op, company =>
    if i = a then op.movement id (Store.perform b op (company.store i)).1 else 0
  | .disturbance _, _ => 0

/-- How far this store moves an account by its updates in the course of a history. -/
def movement : List (Event ι M) → Company ι H M → Int
  | [], _ => 0
  | event :: rest, company =>
    event.movement b a id company + movement rest (event.after b company)

end

theorem movement_of_other {event : Event ι M} (other : ∀ op, event ≠ .turn a op) :
    event.movement b a id company = 0 := by
  cases event with
  | turn i op =>
      refine if_neg ?_
      rintro rfl
      exact other op rfl
  | disturbance disturb => rfl

/-- While a store is inside its transaction, an account that it does not bring in stays without
an entry. -/
theorem final_apart (inside : (company.store a).Inside id none)
    (stays : ∀ op, .turn a op ∈ history → op.StaysInside)
    (apart : ∀ op, .turn a op ∈ history → op.brings? ≠ some id) :
    ((final b history company).store a).Inside id none := by
  induction history generalizing company with
  | nil => exact inside
  | cons event rest ih =>
      refine ih ?_ (fun op h => stays op (.tail _ h)) fun op h => apart op (.tail _ h)
      obtain ⟨op, rfl, hafter⟩ | ⟨-, _, hafter⟩ := store_after (b := b) event company a
      · rw [hafter]
        exact inside.apart (stays op (.head _)) (apart op (.head _))
      · rw [hafter]
        exact inside.withMedium _

/-- While a store is inside its transaction, an entry of it is moved by the store's own updates
that succeed, and by nothing else. -/
theorem final_moves (inside : (company.store a).Inside id (some entry))
    (stays : ∀ op, .turn a op ∈ history → op.StaysInside) :
    ∃ later, ((final b history company).store a).Inside id (some later) ∧
      later.balance.toInt = entry.balance.toInt + movement b a id history company := by
  induction history generalizing company entry with
  | nil => exact ⟨entry, inside, (Int.add_zero _).symm⟩
  | cons event rest ih =>
      have hstep : ∃ next, ((event.after b company).store a).Inside id (some next) ∧
          next.balance.toInt = entry.balance.toInt + event.movement b a id company := by
        obtain ⟨op, rfl, hafter⟩ | ⟨hother, _, hafter⟩ := store_after (b := b) event company a
        · rw [hafter, Event.movement, if_pos rfl]
          exact inside.moves (stays op (.head _))
        · rw [hafter, movement_of_other hother]
          exact ⟨entry, inside.withMedium _, (Int.add_zero _).symm⟩
      obtain ⟨next, hnext, hmoved⟩ := hstep
      obtain ⟨later, hlater, hsum⟩ := ih hnext fun op h => stays op (.tail _ h)
      refine ⟨later, hlater, ?_⟩
      rw [hsum, hmoved, movement, Int.add_assoc]

/-- A store that does not end its transaction stays inside. -/
theorem final_stays (inside : (company.store a).Inside id found)
    (stays : ∀ op, .turn a op ∈ history → op.StaysInside) :
    ∃ later, ((final b history company).store a).Inside id later := by
  induction history generalizing company found with
  | nil => exact ⟨found, inside⟩
  | cons event rest ih =>
      have hrest : ∀ op, .turn a op ∈ rest → op.StaysInside := fun op h => stays op (.tail _ h)
      obtain ⟨op, rfl, hafter⟩ | ⟨-, _, hafter⟩ := store_after (b := b) event company a
      · obtain ⟨next, hnext⟩ := inside.stays (b := b) (stays op (.head _))
        exact ih (hafter ▸ hnext) hrest
      · exact ih (hafter ▸ inside.withMedium _) hrest

/-- Reads inside a transaction are repeatable. A store begins a transaction and has not ended it
yet, while the others do anything and the medium is disturbed at will. From the first access on
that gives it the balance of an account, the store shows the account with that balance, moved by
its own updates since then that succeeded. An account that it has not accessed is found as it is
on the medium at that moment. -/
theorem reads_repeat (b : Backend (H × M)) (company : Company ι H M) (a : ι) (id : AccountId)
    (before inside : List (Event ι M))
    (begins : (Store.perform b .begin ((final b before company).store a)).1 = .ok .done)
    (stays : ∀ op, .turn a op ∈ inside → op.StaysInside) :
    let now := (final b (before ++ .turn a .begin :: inside) company).store a
    (∀ first op since answer, inside = first ++ .turn a op :: since → op.brings? = some id →
      let accessed := final b (before ++ .turn a .begin :: first) company
      (Store.perform b op (accessed.store a)).1 = .ok answer →
      ∃ given balance, Store.Gives b (accessed.store a) id given op ∧
        balance.toInt = given.toInt + movement b a id since (Event.after b (.turn a op) accessed) ∧
        now.ShowsAs b id balance) ∧
    ((∀ op, .turn a op ∈ inside → op.brings? ≠ some id) →
      (Store.perform b (.getAccount id) now).1 = (b.load id now.medium).1.bind fun found =>
        found.elim (.error (.accountNotFound id)) fun account =>
          .ok (.account ⟨id, account.balance⟩)) := by
  obtain ⟨hopened, -, hbegin⟩ := Store.perform_begin_eq_ok begins
  have hbegun : ((Event.after b (.turn a .begin) (final b before company)).store a).Inside id
      none := by
    rw [Event.after, store_put_self, hbegin]
    exact ⟨hopened, rfl, rfl⟩
  refine ⟨?_, fun hapart => ?_⟩
  · rintro first op since answer rfl hbrings accessed hanswer
    have hfirst : ∀ op, .turn a op ∈ first → op.StaysInside := fun op hmem =>
      stays op (List.mem_append_left _ hmem)
    obtain ⟨found, hinside⟩ := final_stays (b := b) hbegun hfirst
    rw [← final_cons, ← final_append] at hinside
    obtain ⟨entry, hentry, hgives⟩ := hinside.gives hbrings hanswer
    have hafter : ((Event.after b (.turn a op) accessed).store a).Inside id (some entry) := by
      rw [Event.after, store_put_self]
      exact hentry
    obtain ⟨later, hlater, hmoved⟩ := final_moves hafter fun op hmem =>
      stays op (List.mem_append_right _ (.tail _ hmem))
    refine ⟨entry.balance, later.balance, hgives, hmoved, ?_⟩
    rw [← List.cons_append, ← List.append_assoc, final_append, final_cons]
    exact hlater.showsAs
  · rw [final_append, final_cons]
    exact (final_apart hbegun stays hapart).getAccount_eq

/-- Two stores over one cache. Inside a transaction the first reads an account and then debits it.
In between the second credits the same account and creates another one, which the first finds. -/
theorem cache_reads_repeat :
    let b := Cache.backend Cache.InProcess.client
    let connection : Cache.Handle Unit := ⟨⟨"cache", none, 0, "account:"⟩, none⟩
    let company : Company Bool (Cache.Handle Unit) Cache.InProcess :=
      opening (fun _ => connection) .empty
    let before : List (Event Bool Cache.InProcess) :=
      [.turn true .start, .turn false .start, .turn false (.create 1 100)]
    let since : List (Event Bool Cache.InProcess) :=
      [.turn false (.update 1 50), .turn true (.update 1 (-30)), .turn false (.create 2 7)]
    let accessed := final b (before ++ [.turn true .begin]) company
    let now := (final b (before ++ .turn true .begin :: .turn true (.getBalance 1) :: since)
      company).store true
    ((∃ given balance, Store.Gives b (accessed.store true) 1 given (.getBalance 1) ∧
        balance.toInt = given.toInt +
          movement b true 1 since (Event.after b (.turn true (.getBalance 1)) accessed) ∧
        now.ShowsAs b 1 balance) ∧
      (Store.perform b (.getAccount 2) now).1 = (b.load 2 now.medium).1.bind fun found =>
        found.elim (.error (.accountNotFound 2)) fun account =>
          .ok (.account ⟨2, account.balance⟩)) ∧
    (Store.perform b (.getBalance 1) now).1 = .ok (.balance 70) ∧
      (Store.perform b (.getAccount 2) now).1 = .ok (.account ⟨2, 7⟩) := by
  intro b connection company before since accessed now
  have hbegins : (Store.perform b .begin ((final b before company).store true)).1 =
      .ok .done := by decide +kernel
  have hown : ∀ op, .turn true op ∈ .turn true (.getBalance 1) :: since →
      op = .getBalance 1 ∨ op = .update 1 (-30) := by
    simp [since]
  have hstays : ∀ op, .turn true op ∈ .turn true (.getBalance 1) :: since → op.StaysInside := by
    intro op hmem
    rcases hown op hmem with rfl | rfl <;> trivial
  refine ⟨⟨?_, ?_⟩, by decide +kernel, by decide +kernel⟩
  · exact (reads_repeat b company true 1 before _ hbegins hstays).1 [] (.getBalance 1) since
      (.balance 100) rfl rfl (by decide +kernel)
  · refine (reads_repeat b company true 2 before _ hbegins hstays).2 fun op hmem => ?_
    rcases hown op hmem with rfl | rfl <;> decide

end Company

end Clearinghouse
