/-
# Concurrent stores over one ledger lose nothing

Stores that share a ledger read it at one time and commit at another, when others may have
posted to the same accounts. What they commit are movements, not balances. So whatever the
stores do and however their commits break off, what is credited to an account is the sum of
the movements that were booked, each of them once. A commit from an old snapshot adds its own
movement to those of the others, and an account that another store has created meanwhile is
not created again.
-/

import Clearinghouse.Proofs.Ledger.Settling
import Clearinghouse.Proofs.Store.Journal
import Mathlib.Data.List.Nodup

namespace Clearinghouse.Ledger

namespace Book

/-- The net credit of an account; nothing for one that does not exist. -/
def netCredit (book : Book) (id : AccountId) : Int :=
  (book.accounts[id.toNat]?.map (·.net)).getD 0

variable {before after : Book} {changes : List Change} {change : Change}

/-- Within bounds the net credit is what is posted. -/
theorem netCredit_of_withinBounds {book : Book} (bounded : book.WithinBounds) (id : AccountId) :
    book.netCredit id = book.total id := by
  rw [netCredit, total, account]
  cases hfound : book.accounts[id.toNat]? with
  | none => exact (LedgerAccount.posted_new _).symm
  | some found =>
      rw [Option.map_some, Option.getD_some, Option.getD_some]
      exact (bounded _ _ hfound).net

/-- The system account has no identifier of its own, so adding it shows on no other. -/
theorem total_addAccount_system (book : Book) :
    (book.addAccount (.new systemAccount)).total = book.total := by
  funext id
  have hother : ¬ systemAccount = id.toNat := (toNat_ne_systemAccount id).symm
  rw [total, account, addAccount, Std.ExtTreeMap.getElem?_insert,
    if_neg (by simpa [LedgerAccount.new] using hother), total, account]

/-- What was recorded moved every account by its changes. -/
theorem Recorded.total_eq (recorded : Recorded before changes after) (id : AccountId) :
    after.total id = before.total id + movedBy changes id := by
  have hmoved := (recorded.moves id.toNat).posted
  rw [movement, if_neg (toNat_ne_systemAccount id)] at hmoved
  have hsame : changes.filter (·.id.toNat = id.toNat) = changes.filter (·.id = id) :=
    List.filter_congr fun change _ => by rw [decide_eq_decide, UInt64.toNat_inj]
  rw [hsame] at hmoved
  exact hmoved

/-- An account that was there is not created again, and is the same record as before if no
other change is about it. -/
theorem Recorded.account_of_refused (recorded : Recorded before changes after)
    (creation : change.isCreation = true) {account : LedgerAccount}
    (there : before.accounts[change.id.toNat]? = some account)
    (alone : ∀ other ∈ changes, other.id = change.id → other = change) :
    change ∉ changes ∧ after.accounts[change.id.toNat]? = some account := by
  have hrefused : change ∉ changes := by
    intro hmem
    cases (recorded.created change hmem creation).symm.trans there
  refine ⟨hrefused, ?_⟩
  rw [recorded.others _ (toNat_ne_systemAccount _) fun other hmem hid => ?_, there]
  exact hrefused (alone other hmem (UInt64.toNat_inj.mp hid) ▸ hmem)

end Book

section

variable {L : Type} {service : Service L} {book : L → Book}

theorem connect_total (keeps : service.Keeps book)
    (connects : Run.Along (Run.Kept fun ledger => (book ledger).content) service.connect) :
    Run.Along (Run.Kept fun state : State L => (book state.2).total) (connect service) :=
  connect_along keeps connects Book.total_congr fun same =>
    (Book.total_congr same).trans (Book.total_addAccount_system _)

/-- How a flush ends: the changes that its answer says are booked are recorded, and if it
breaks off, something of the next one may be there. -/
theorem flush_booked (keeps : service.Keeps book) (changes : List Change) (state : State L) :
    ∃ reached, Book.Recorded (book state.2)
        (Flush.mk changes ((backend service).flush changes state).1).booked reached ∧
      ((((backend service).flush changes state).1 = .ok () ∧
          reached = book ((backend service).flush changes state).2.2) ∨
        ∃ e change wrote, ((backend service).flush changes state).1 = .error e ∧
          reached.Stopped change wrote (book ((backend service).flush changes state).2.2)) := by
  have hbooking := flush_booking keeps changes state
  have hcandid : ∀ {e}, ((backend service).flush changes state).1 = .error e →
      ¬ e.IsPartialCommit →
        (book ((backend service).flush changes state).2.2).content = (book state.2).content :=
    (backend_candid keeps.candid).flush_content
  generalize (backend service).flush changes state = result at hbooking hcandid
  cases hbooking with
  | done recorded => exact ⟨_, recorded, .inl ⟨rfl, rfl⟩⟩
  | @failed first last change mid wrote e later after split recorded stopped whole =>
      rw [List.nil_append] at recorded hcandid ⊢
      by_cases hwrote : (first.any Book.isEffective || wrote) = true
      · rw [if_pos hwrote]
        have hbooked : (Flush.mk changes (.error (.partialCommit "ledger" (some first.length)
            changes.length e.message))).booked = first := by
          rw [split]
          exact List.take_left
        rw [hbooked]
        exact ⟨mid, recorded, .inr ⟨_, change, wrote, rfl, stopped⟩⟩
      · rw [if_neg hwrote] at hcandid ⊢
        have hbooked : (Flush.mk changes (.error e)).booked = [] := by
          cases e with
          | partialCommit => exact absurd ⟨_, _, _, _, rfl⟩ whole
          | _ => rfl
        rw [hbooked]
        exact ⟨book state.2, .nil rfl, .inr ⟨e, change, false, rfl, hcandid rfl whole⟩⟩

/-- A ledger keeps to its journal. -/
theorem backend_keepsToJournal (keeps : service.Keeps book)
    (connects : Run.Along (Run.Kept fun ledger => (book ledger).content) service.connect) :
    (backend service).KeepsToJournal fun state => (book state.2).total where
  connect := connect_total keeps connects
  disconnect state := Std.Refl.refl (book state.2).total
  load id state := Book.total_congr ((backend_candid keeps.candid).load_content id state)
  loadAll state := Book.total_congr (loadAll_content keeps state)
  flush changes state id := by
    obtain ⟨reached, hrecorded, ⟨-, hreached⟩ | ⟨e, change, wrote, -, hstopped⟩⟩ :=
      flush_booked keeps changes state
    · rw [← hreached]
      exact hrecorded.total_eq id
    · rw [hstopped.total]
      exact hrecorded.total_eq id

/-- A flush that creates an account which is there already fails, and the account is the same
record as before. -/
theorem flush_refuses_creation (keeps : service.Keeps book) {changes : List Change}
    (ascending : changes.Pairwise fun first later => first.id < later.id) {change : Change}
    (named : change ∈ changes) (creation : change.isCreation = true) {state : State L}
    {account : LedgerAccount} (there : (book state.2).accounts[change.id.toNat]? = some account) :
    (∃ e, ((backend service).flush changes state).1 = .error e) ∧
      (book ((backend service).flush changes state).2.2).accounts[change.id.toNat]? =
        some account := by
  have hapart : (changes.map (·.id)).Nodup :=
    List.pairwise_map.mpr (ascending.imp UInt64.ne_of_lt)
  have hbooked := Flush.booked_sublist ⟨changes, ((backend service).flush changes state).1⟩
  obtain ⟨reached, hrecorded, hends⟩ := flush_booked keeps changes state
  obtain ⟨hrefused, hkept⟩ := hrecorded.account_of_refused creation there
    fun other hmem hid => List.inj_on_of_nodup_map hapart (hbooked.mem hmem) named hid
  obtain ⟨hanswer, -⟩ | ⟨e, broken, wrote, hanswer, hstopped⟩ := hends
  · rw [hanswer] at hrefused
    exact absurd named hrefused
  · refine ⟨⟨e, hanswer⟩, ?_⟩
    rw [hstopped.kept.2 _ (by rw [hkept]; rfl), hkept]

/-- A commit that succeeds has moved every account by what was staged for it. -/
theorem total_of_committed (keeps : service.Keeps book) {s : Store (State L)} {staging : Staging}
    (opened : s.initialized = true) (transaction : s.staging = some staging)
    (committed : (Store.commit (backend service) s).1 = .ok ()) (id : AccountId) :
    (book (Store.commit (backend service) s).2.medium.2).total id =
      (book s.medium.2).total id + movedBy staging.changes id := by
  rw [Store.commit_of_staging opened transaction] at committed ⊢
  by_cases hchanges : staging.changes = []
  · rw [if_pos hchanges, hchanges]
    exact (Int.add_zero _).symm
  · rw [if_neg hchanges] at committed ⊢
    obtain ⟨reached, hrecorded, ⟨hanswer, hreached⟩ | ⟨e, change, wrote, hanswer, -⟩⟩ :=
      flush_booked keeps staging.changes s.medium
    · rw [hanswer] at hrecorded
      rw [hreached] at hrecorded
      exact hrecorded.total_eq id
    · cases hanswer.symm.trans committed

/-- A commit that would create an account which is there already fails, and leaves the
account as it is. -/
theorem commit_refuses_creation (keeps : service.Keeps book) {s : Store (State L)}
    {staging : Staging} (opened : s.initialized = true) (transaction : s.staging = some staging)
    {change : Change} (named : change ∈ staging.changes) (creation : change.isCreation = true)
    {account : LedgerAccount}
    (there : (book s.medium.2).accounts[change.id.toNat]? = some account) :
    (∃ e, (Store.commit (backend service) s).1 = .error e) ∧
      (book (Store.commit (backend service) s).2.medium.2).accounts[change.id.toNat]? =
        some account := by
  have hchanges : staging.changes ≠ [] := List.ne_nil_of_mem named
  rw [Store.commit_of_staging opened transaction, if_neg hchanges]
  exact flush_refuses_creation keeps staging.changes_ascending named creation there

end

/-- The medium of stores that share a ledger in this process, with a way to draw numbers for
transfers and behind a wrapper that may interfere. -/
def sharedBackend (draw : Book → TransferNumber) : Backend (State (Guarded Book)) :=
  backend (Guarded.service (Book.serviceWith draw))

/-- Stores that have not taken hold of their ledger yet, which has no accounts. -/
def founding {ι : Type} (handles : ι → Handle) : Company ι Handle (Guarded Book) :=
  .opening handles ⟨Book.empty, none⟩

theorem sharedBackend_keepsToJournal (draw : Book → TransferNumber) :
    (sharedBackend draw).KeepsToJournal fun state => state.2.ledger.total := by
  have hkept : Run.Along (Run.Kept Book.content) (Book.serviceWith draw).connect := fun _ => rfl
  exact backend_keepsToJournal (Guarded.service_keeps (Book.serviceWith_keeps draw))
    (Guarded.connect_kept hkept)

/-- Any number of stores share a ledger that was empty at first, and nobody else writes to it;
failures may be injected at any time. While the counters of the ledger are small, the net
credit of every account is the sum of the movements that any of the stores has booked on it.
A commit that succeeds adds what it has staged to that, whatever it was staged against, and
one that would create an account which is there by now fails and leaves the account alone. -/
theorem net_credit_is_what_was_booked {ι : Type} [DecidableEq ι] (draw : Book → TransferNumber)
    (handles : ι → Handle) (history : List (Company.Event ι (Guarded Book)))
    (injected : ∀ disturb, .disturbance disturb ∈ history → ∀ guarded : Guarded Book,
      (disturb guarded).ledger.content = guarded.ledger.content)
    (bounded : (Company.final (sharedBackend draw) history
      (founding handles)).shared.ledger.WithinBounds) :
    let company := Company.final (sharedBackend draw) history (founding handles)
    (∀ id, company.shared.ledger.netCredit id =
      bookedOn (Company.journal (sharedBackend draw) history (founding handles)) id) ∧
    ∀ i staging, (company.store i).initialized = true → (company.store i).staging = some staging →
      let answer := (Store.commit (sharedBackend draw) (company.store i)).1
      let after := (Store.commit (sharedBackend draw) (company.store i)).2.medium.2.ledger
      (answer = .ok () → after.WithinBounds → ∀ id,
        after.netCredit id = company.shared.ledger.netCredit id + movedBy staging.changes id) ∧
      ∀ change ∈ staging.changes, change.isCreation = true →
        ∀ account, company.shared.ledger.accounts[change.id.toNat]? = some account →
          (∃ e, answer = .error e) ∧ after.accounts[change.id.toNat]? = some account := by
  intro company
  have hkeeps := Guarded.service_keeps (Book.serviceWith_keeps draw)
  refine ⟨fun id => ?_, fun i staging opened transaction => ⟨fun committed hbounded id => ?_,
    fun change named creation account there => ?_⟩⟩
  · have htotal : company.shared.ledger.total id =
        (founding handles).shared.ledger.total id +
          bookedOn (Company.journal (sharedBackend draw) history (founding handles)) id :=
      Company.total_final (fun guarded : Guarded Book => guarded.ledger.total)
        (sharedBackend_keepsToJournal draw)
        (fun disturb hmem guarded => Book.total_congr (injected disturb hmem guarded))
        (founding handles) id
    have hempty : (founding handles).shared.ledger.total id = 0 := by
      change (Book.empty.account id.toNat).posted = 0
      simp [Book.account, Book.empty]
    rw [Book.netCredit_of_withinBounds bounded, htotal, hempty, Int.zero_add]
  · rw [Book.netCredit_of_withinBounds hbounded, Book.netCredit_of_withinBounds bounded]
    exact total_of_committed hkeeps opened transaction committed id
  · exact commit_refuses_creation hkeeps opened transaction named creation there

/-- Two stores over one ledger. One of them moves an account that the other has read inside
its transaction, and both movements are booked. Then both create an account; the first to
commit it wins, and the transaction of the other is refused. -/
theorem stale_transaction_net_credit :
    let handles : Bool → Handle := fun _ => ⟨⟨["3000"], 0, false⟩, false, ∅⟩
    let history : List (Company.Event Bool (Guarded Book)) :=
      [.turn true .start, .turn false .start, .turn true (.create 1 10), .turn true .begin,
        .turn true (.update 1 5), .turn false (.update 1 (-4)), .turn true .commit,
        .disturbance fun guarded => { guarded with
          ledger := { guarded.ledger with failAfter := some 0 } },
        .turn false (.update 1 1), .turn true .begin, .turn true (.create 2 3),
        .turn false (.create 2 8)]
    (Company.final (sharedBackend Book.freshNumber) history
        (founding handles)).shared.ledger.netCredit 1 =
        bookedOn (Company.journal (sharedBackend Book.freshNumber) history (founding handles)) 1 ∧
      (Company.final (sharedBackend Book.freshNumber) history
        (founding handles)).shared.ledger.netCredit 1 = 11 ∧
      ∃ e, (Store.commit (sharedBackend Book.freshNumber) ((Company.final
        (sharedBackend Book.freshNumber) history (founding handles)).store true)).1 = .error e := by
  intro handles history
  have hinjected : ∀ disturb, .disturbance disturb ∈ history → ∀ guarded : Guarded Book,
      (disturb guarded).ledger.content = guarded.ledger.content := by
    intro disturb hmem guarded
    simp only [history, List.mem_cons, List.not_mem_nil, reduceCtorEq, false_or, or_false,
      Company.Event.disturbance.injEq] at hmem
    rw [hmem]
    rfl
  have hbounded : (Company.final (sharedBackend Book.freshNumber) history
      (founding handles)).shared.ledger.WithinBounds := by decide +kernel
  have hopened : ((Company.final (sharedBackend Book.freshNumber) history
      (founding handles)).store true).initialized = true := by decide +kernel
  have hstaged : ((Company.final (sharedBackend Book.freshNumber) history
      (founding handles)).store true).staging.map (·.changes) = some [⟨2, none, 3⟩] := by
    decide +kernel
  have hthere : (Company.final (sharedBackend Book.freshNumber) history
      (founding handles)).shared.ledger.accounts[(2 : AccountId).toNat]?.isSome = true := by
    decide +kernel
  have hcredit : (Company.final (sharedBackend Book.freshNumber) history
      (founding handles)).shared.ledger.netCredit 1 = 11 := by decide +kernel
  obtain ⟨hbooked, hcommits⟩ :=
    net_credit_is_what_was_booked Book.freshNumber handles history hinjected hbounded
  obtain ⟨staging, hstaging, hchanges⟩ := Option.map_eq_some_iff.mp hstaged
  obtain ⟨account, haccount⟩ := Option.isSome_iff_exists.mp hthere
  have hnamed : ⟨2, none, 3⟩ ∈ staging.changes := by simp [hchanges]
  exact ⟨hbooked 1, hcredit,
    ((hcommits true staging hopened hstaging).2 _ hnamed rfl account haccount).1⟩

end Clearinghouse.Ledger
