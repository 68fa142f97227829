/-
# What a commit on a ledger reports

Changes are booked one after the other, each with at most two requests of the
service. A request of one item takes the item on or leaves the ledger as it was. So
the booking of a change ends in one of three ways: it is booked; the ledger is as it
was; or an account was created and its movement was not booked. Along a list the
changes before the first that fails are booked, and the flag that travels with them
tells whether the ledger has changed by then.
-/

import Clearinghouse.Proofs.Ledger.Postings

namespace Clearinghouse.Ledger

/-- A request of one item ends: the item is taken on, or rejected, or the request
fails. Only the first changes anything. -/
inductive Taking {L α : Type} (book : L → Book) (before : Book) (accepted : Prop) (after : Book) :
    Except RequestFailure (List α) × L → Prop
  | taken {ledger : L} (sound : accepted) (same : (book ledger).content = after.content) :
      Taking book before accepted after (.ok [], ledger)
  | refused {answer : Except RequestFailure (List α)} {ledger : L} (refused : answer ≠ .ok [])
      (same : (book ledger).content = before.content) :
      Taking book before accepted after (answer, ledger)

/-- A service that keeps a book. It takes an item on only if the book accepts it. -/
structure Service.Keeps {L : Type} (service : Service L) (book : L → Book) : Prop where
  lookup_content : ∀ numbers,
    Run.Along (Run.Kept fun ledger => (book ledger).content) (service.lookup numbers)
  lookup_answer : ∀ {numbers ledger found}, (service.lookup numbers ledger).1 = .ok found →
    found = numbers.filterMap ((book ledger).accounts[·]?)
  account : ∀ account ledger, Taking book (book ledger)
    ((book ledger).accountRejection? account = none) ((book ledger).addAccount account)
    (service.createAccounts [account] ledger)
  transfer : ∀ transfer ledger, Taking book (book ledger)
    ((book ledger).transferRejection? transfer = none) ((book ledger).post transfer)
    (service.createTransfers [transfer] ledger)

/-- A service that keeps a book tells the truth about it. -/
theorem Service.Keeps.candid {L : Type} {service : Service L} {book : L → Book}
    (keeps : service.Keeps book) : service.Candid fun ledger => (book ledger).content where
  lookup_content := keeps.lookup_content
  account_content account ledger refused := by
    have htaking := keeps.account account ledger
    generalize service.createAccounts [account] ledger = result at htaking refused
    cases htaking with
    | taken => exact absurd rfl refused
    | refused _ same => exact same
  transfer_content transfer ledger refused := by
    have htaking := keeps.transfer transfer ledger
    generalize service.createTransfers [transfer] ledger = result at htaking refused
    cases htaking with
    | taken => exact absurd rfl refused
    | refused _ same => exact same

/-- A store's connection after an account was created or seen. -/
def Handle.remember (handle : Handle) (id : AccountId) : Handle :=
  { handle with known := handle.known.insert id }

/-- A store's connection after a change was booked. -/
def Handle.opened (handle : Handle) (change : Change) : Handle :=
  if change.isCreation then handle.remember change.id else handle

theorem Handle.isConnected_opened (handle : Handle) (change : Change) :
    (handle.opened change).isConnected = handle.isConnected := by
  unfold Handle.opened
  split <;> rfl

section

variable {L : Type} {service : Service L} {book : L → Book} {handle : Handle} {ledger : L}

theorem ensureConnected_bind {α : Type} (connected : handle.isConnected = true)
    (next : Unit → Step (State L) α) :
    (ensureConnected >>= next) (handle, ledger) = next () (handle, ledger) := by
  have hguard : (ensureConnected : Step (State L) Unit) (handle, ledger) =
      (.ok (), (handle, ledger)) := by
    rw [ensureConnected, Run.get_bind_apply]
    simp [connected]
  rw [Run.bind_of_ok hguard]

theorem ensureConnected_bind_of_closed {α : Type} (closed : handle.isConnected = false)
    (next : Unit → Step (State L) α) :
    (ensureConnected >>= next) (handle, ledger) = (.error .notInitialized, (handle, ledger)) := by
  have hguard : (ensureConnected : Step (State L) Unit) (handle, ledger) =
      (.error .notInitialized, (handle, ledger)) := by
    rw [ensureConnected, Run.get_bind_apply]
    simp [closed]
  rw [Run.bind_of_error hguard]

/-- What a request of one item comes to for a store: done, or a failure that is no
partial commit and left the ledger as it was. The connection stays as it is. -/
inductive Asked (book : L → Book) (before : Book) (accepted : Prop) (after : Book)
    (handle : Handle) : Except StoreError Unit × State L → Prop
  | done {ledger : L} (sound : accepted) (same : (book ledger).content = after.content) :
      Asked book before accepted after handle (.ok (), (handle, ledger))
  | failed {e : StoreError} {ledger : L} (whole : ¬ e.IsPartialCommit)
      (same : (book ledger).content = before.content) :
      Asked book before accepted after handle (.error e, (handle, ledger))

theorem whole_of_notInitialized : ¬ StoreError.notInitialized.IsPartialCommit := by
  rintro ⟨_, _, _, _, ⟨⟩⟩

/-- A request that reports the first rejected item. -/
theorem run_bind_asked {α : Type} {before after : Book} {accepted : Prop} {context : String}
    {request : Request L (List α)} {next : List α → Step (State L) Unit}
    (taking : Taking book before accepted after (request ledger)) (accepts : next [] = pure ())
    (rejects : ∀ first rest, ∃ text message, next (first :: rest) = throw (.medium text message)) :
    Asked book before accepted after handle ((run context request >>= next) (handle, ledger)) := by
  have hrun : run context request (handle, ledger) =
      ((request ledger).1.mapError fun failure => .medium context failure.message,
        (handle, (request ledger).2)) := rfl
  generalize request ledger = result at hrun taking
  cases taking with
  | taken sound same =>
      rw [Run.bind_of_ok hrun, accepts]
      exact .done sound same
  | @refused answer _ refused same =>
      cases answer with
      | error failure =>
          rw [Run.bind_of_error hrun]
          exact .failed nofun same
      | ok rejected =>
          rw [Run.bind_of_ok hrun]
          cases rejected with
          | nil => exact absurd rfl refused
          | cons first rest =>
              obtain ⟨text, message, hthrow⟩ := rejects first rest
              rw [hthrow]
              exact .failed nofun same

variable (handle ledger) in
/-- An account is created if there is none under its number. -/
theorem createAccount_asked (keeps : service.Keeps book) (id : AccountId) :
    Asked book (book ledger) ((book ledger).accountRejection? (.new id.toNat) = none)
      ((book ledger).addAccount (.new id.toNat)) handle
      (createAccount service id (handle, ledger)) := by
  rw [createAccount]
  cases hconnected : handle.isConnected with
  | false =>
      rw [ensureConnected_bind_of_closed hconnected]
      exact .failed whole_of_notInitialized rfl
  | true =>
      rw [ensureConnected_bind hconnected]
      exact run_bind_asked (keeps.account (.new id.toNat) ledger) rfl
        fun first _ => ⟨s!"account {id} rejected", first.2.message, rfl⟩

variable (handle ledger) in
/-- A movement is posted under the number that the service proposes. -/
theorem transfer_asked (keeps : service.Keeps book) (id : AccountId) (delta : Int) :
    let transferred := transferOf (service.freshNumber ledger) id delta
    Asked book (book ledger) ((book ledger).transferRejection? transferred = none)
      ((book ledger).post transferred) handle (transfer service id delta (handle, ledger)) := by
  intro transferred
  rw [transfer]
  cases hconnected : handle.isConnected with
  | false =>
      rw [ensureConnected_bind_of_closed hconnected]
      exact .failed whole_of_notInitialized rfl
  | true =>
      rw [ensureConnected_bind hconnected, Run.get_bind_apply]
      exact run_bind_asked (keeps.transfer transferred ledger) rfl
        fun first _ => ⟨s!"transfer for account {id} rejected", first.2.message, rfl⟩

end

namespace Book

/-- A ledger in which the booking of a change was broken off. It is as it was, or the
account of a creation was added and nothing booked on it. -/
def Stopped (before : Book) (change : Change) (wrote : Bool) (after : Book) : Prop :=
  if wrote then change.isCreation = true ∧ before.accounts[change.id.toNat]? = none ∧
    after.content = (before.addAccount (.new change.id.toNat)).content
  else after.content = before.content

/-- A change asks the ledger for something. -/
def isEffective (change : Change) : Bool := change.isCreation || decide (change.delta ≠ 0)

/-- What a ledger takes on depends on its content alone. -/
theorem transferRejection?_congr {book other : Book} (same : book.content = other.content)
    (transfer : Transfer) :
    book.transferRejection? transfer = other.transferRejection? transfer := by
  obtain ⟨haccounts, htransfers⟩ := Prod.mk.inj same
  unfold transferRejection?
  rw [haccounts, htransfers]

theorem content_post_congr {book other : Book} (same : book.content = other.content)
    (transfer : Transfer) : (book.post transfer).content = (other.post transfer).content := by
  obtain ⟨haccounts, htransfers⟩ := Prod.mk.inj same
  simp only [post, content, haccounts, htransfers]

theorem accountRejection?_eq_none_iff {book : Book} {account : LedgerAccount} :
    book.accountRejection? account = none ↔
      account.number ≠ 0 ∧ account.ledger ≠ 0 ∧ book.accounts[account.number]? = none := by
  unfold accountRejection?
  rw [Std.ExtTreeMap.contains_eq_isSome_getElem?]
  cases book.accounts[account.number]? <;> by_cases hnumber : account.number = 0 <;>
    by_cases hledger : account.ledger = 0 <;> simp [hnumber, hledger]

end Book

section

variable {L : Type} {service : Service L} {book : L → Book} {handle : Handle} {ledger : L}

/-- The booking of a change ends: it is booked, or broken off with the truth about
what was written. A store remembers the account that it created. -/
inductive Booking (book : L → Book) (before : Book) (change : Change) (handle : Handle) :
    Progress × State L → Prop
  | done {number : TransferNumber} {ledger : L} (accepts : before.Accepts number change)
      (same : (book ledger).content = (before.record number change).content) :
      Booking book before change handle (.done (Book.isEffective change),
        (handle.opened change, ledger))
  | failed {wrote : Bool} {e : StoreError} {later : Handle} {ledger : L}
      (whole : ¬ e.IsPartialCommit) (stopped : before.Stopped change wrote (book ledger)) :
      Booking book before change handle (.failed wrote e, (later, ledger))

variable (handle ledger) in
/-- What preparing a change comes to. -/
theorem prepare_asked (keeps : service.Keeps book) (change : Change) :
    (∃ ledger', prepare service change (handle, ledger) =
        (.ok (), (handle.opened change, ledger')) ∧
      (book ledger').content = ((book ledger).prepare change).content ∧
      (change.isCreation = true →
        (book ledger).accountRejection? (.new change.id.toNat) = none)) ∨
    ∃ e ledger', prepare service change (handle, ledger) = (.error e, (handle, ledger')) ∧
      ¬ e.IsPartialCommit ∧ (book ledger').content = (book ledger).content := by
  rw [prepare]
  cases hcreation : change.isCreation with
  | false =>
      refine .inl ⟨ledger, ?_, ?_, fun hopens => ?_⟩
      · rw [Handle.opened, hcreation]
        rfl
      · rw [Book.prepare, hcreation]
        rfl
      · cases hopens
  | true =>
      have hasked := createAccount_asked handle ledger keeps change.id
      generalize hrun : createAccount service change.id (handle, ledger) = result at hasked
      cases hasked with
      | @done ledger' sound same =>
          refine .inl ⟨ledger', ?_, ?_, fun _ => ?_⟩
          · simp only [if_true]
            rw [Run.bind_of_ok hrun, Handle.opened, hcreation]
            rfl
          · rw [Book.prepare, hcreation]
            exact same
          · exact sound
      | @failed e ledger' whole same =>
          refine .inr ⟨e, ledger', ?_, whole, same⟩
          simp only [if_true]
          rw [Run.bind_of_error hrun]

variable (handle ledger) in
theorem book_booking (keeps : service.Keeps book) (change : Change) :
    Booking book (book ledger) change handle (Ledger.book service change (handle, ledger)) := by
  obtain ⟨ledger₁, hprepared, hcontent, haccepted⟩ | ⟨e, ledger₁, hfailed, hwhole, hcontent⟩ :=
    prepare_asked handle ledger keeps change
  · have habsent : change.isCreation = true → (book ledger).accounts[change.id.toNat]? = none :=
      fun hcreation => (Book.accountRejection?_eq_none_iff.mp (haccepted hcreation)).2.2
    rw [book_of_prepared hprepared]
    by_cases hstill : change.delta = 0
    · have hrecord : (book ledger).record 0 change = (book ledger).prepare change := by
        rw [Book.record, if_pos hstill]
      have hstays : Booking book (book ledger) change handle
          (.done (Book.isEffective change),
            (handle.opened change, ledger₁)) :=
        .done ⟨habsent, fun hmoves => absurd hstill hmoves⟩ (hcontent.trans (congrArg _ hrecord.symm))
      rw [if_pos hstill]
      rwa [Book.isEffective, decide_eq_false (not_not_intro hstill), Bool.or_false] at hstays
    · rw [if_neg hstill]
      generalize hlater : handle.opened change = later
      have hasked := transfer_asked later ledger₁ keeps change.id change.delta
      generalize transfer service change.id change.delta (later, ledger₁) = result at hasked
      cases hasked with
      | @done ledger' sound same =>
          have hposts : (book ledger).record (service.freshNumber ledger₁) change =
              ((book ledger).prepare change).post
                (transferOf (service.freshNumber ledger₁) change.id change.delta) := by
            rw [Book.record, if_neg hstill]
          have hmoves : Booking book (book ledger) change handle
              (.done (Book.isEffective change),
                (handle.opened change, ledger')) := by
            refine .done ⟨habsent, fun _ => ?_⟩
              (same.trans ((Book.content_post_congr hcontent _).trans (congrArg _ hposts.symm)))
            rw [← Book.transferRejection?_congr hcontent]
            exact sound
          rwa [hlater, Book.isEffective, decide_eq_true hstill, Bool.or_true] at hmoves
      | @failed e ledger' whole same =>
          refine .failed whole ?_
          rw [Book.Stopped]
          cases hcreation : change.isCreation with
          | true =>
              rw [Book.prepare, hcreation] at hcontent
              exact ⟨rfl, habsent hcreation, same.trans hcontent⟩
          | false =>
              rw [Book.prepare, hcreation] at hcontent
              exact same.trans hcontent
  · rw [book_of_unprepared hfailed]
    exact .failed hwhole hcontent

/-- The booking of a list of changes ends. All of them are booked; or those before
one of them are, and it is broken off. The failure is then a partial commit that counts
the changes booked, unless nothing had been written at all. -/
inductive BookingAll (book : L → Book) (before : Book) (total : Nat)
    (done rest : List Change) (handle : Handle) :
    Except StoreError Unit × State L → Prop
  | done {later : Handle} {ledger : L} (recorded : Book.Recorded before (done ++ rest) (book ledger))
      (remembered : later = rest.foldl Handle.opened handle) :
      BookingAll book before total done rest handle (.ok (), (later, ledger))
  | failed {first last : List Change} {change : Change} {reached : Book} {wrote : Bool}
      {e : StoreError} {later : Handle} {ledger : L} (split : rest = first ++ change :: last)
      (recorded : Book.Recorded before (done ++ first) reached)
      (stopped : reached.Stopped change wrote (book ledger)) (whole : ¬ e.IsPartialCommit) :
      BookingAll book before total done rest handle
        (.error (if (done ++ first).any Book.isEffective || wrote then
          .partialCommit "ledger" (some (done ++ first).length) total e.message else e),
          (later, ledger))

variable (handle) in
/-- Booking goes on from the changes that are booked already. -/
theorem bookAll_booking (keeps : service.Keeps book) {before : Book} {done : List Change}
    (recorded : Book.Recorded before done (book ledger)) (total : Nat) (rest : List Change) :
    BookingAll book before total done rest handle
      (bookAll service total done.length (done.any Book.isEffective) rest (handle, ledger)) := by
  induction rest generalizing done handle ledger with
  | nil => exact .done (by rwa [List.append_nil]) rfl
  | cons change rest ih =>
      have hbooking := book_booking handle ledger keeps change
      rw [bookAll, Run.lift_bind_apply]
      generalize Ledger.book service change (handle, ledger) = result at hbooking
      cases hbooking with
      | @done _ ledger' accepts same =>
          have hlater := @ih (handle.opened change) _ _ (recorded.snoc accepts same)
          rw [List.length_append, List.length_singleton, List.any_append, List.any_cons,
            List.any_nil, Bool.or_false] at hlater
          dsimp only
          generalize bookAll service total (done.length + 1)
            (done.any Book.isEffective || Book.isEffective change) rest
              (handle.opened change, ledger') = last at hlater
          cases hlater with
          | done recorded remembered =>
              rw [List.append_assoc, List.singleton_append] at recorded
              exact .done recorded remembered
          | failed split recorded stopped whole =>
              rw [List.append_assoc, List.singleton_append] at recorded
              rw [List.append_assoc, List.singleton_append]
              exact .failed (congrArg (change :: ·) split) recorded stopped whole
      | @failed wrote e later ledger' whole stopped =>
          have hstopped : BookingAll book before total done (change :: rest) handle
              (.error (if (done ++ []).any Book.isEffective || wrote then
                .partialCommit "ledger" (some (done ++ []).length) total e.message else e),
                (later, ledger')) :=
            .failed (List.nil_append _).symm (by rwa [List.append_nil]) stopped whole
          rw [List.append_nil] at hstopped
          dsimp only
          split
          · next hwrote => rwa [if_pos hwrote] at hstopped
          · next hwrote => rwa [if_neg hwrote] at hstopped

/-- A flush books its changes from the first one on. -/
theorem flush_booking (keeps : service.Keeps book) (changes : List Change) (state : State L) :
    BookingAll book (book state.2) changes.length [] changes state.1
      ((backend service).flush changes state) :=
  bookAll_booking state.1 keeps (Book.Recorded.nil rfl) changes.length changes

/-! ## The other calls of the medium -/

/-- To connect opens the system account at most, beside reaching the service. -/
theorem connect_along {R : State L → State L → Prop} [IsPreorder (State L) R]
    (keeps : service.Keeps book)
    (connects : Run.Along (Run.Kept fun ledger => (book ledger).content) service.connect)
    (same : ∀ {state later}, (book later.2).content = (book state.2).content → R state later)
    (adds : ∀ {state later},
      (book later.2).content = ((book state.2).addAccount (.new systemAccount)).content →
      R state later) :
    Run.Along R (connect service) := by
  refine Run.Along.bind (fun state => Std.Refl.refl state) fun current => ?_
  refine Run.Along.bind (fun state => same (connects state.2)) fun _ => ?_
  refine Run.Along.bind (fun state => ?_) fun rejected => ?_
  · have htaking := keeps.account (.new systemAccount) state.2
    have hrun : (run "failed to create system account"
        (service.createAccounts [.new systemAccount]) state).2 =
        (state.1, (service.createAccounts [.new systemAccount] state.2).2) := rfl
    rw [hrun]
    generalize service.createAccounts [.new systemAccount] state.2 = result at htaking
    cases htaking with
    | taken _ hcontent => exact adds hcontent
    | refused _ hcontent => exact same hcontent
  · dsimp only
    split
    · exact Run.Along.throw _
    · exact fun state => same rfl

/-- To list the accounts leaves the ledger alone. -/
theorem loadAll_content (keeps : service.Keeps book) :
    Run.Along (Run.Kept fun state : State L => (book state.2).content)
      (backend service).loadAll := by
  refine Run.Along.bind (fun state => Std.Refl.refl state) fun current => ?_
  dsimp only
  split
  · exact Run.Along.pure _
  · refine Run.Along.bind (ensureConnected_kept.kept_of_id _) fun _ => ?_
    refine Run.Along.bind (fun state => keeps.lookup_content _ state.2) fun found => ?_
    exact Run.Along.bind (fun state => Std.Refl.refl state) fun accounts => Run.Along.pure _

end

/-! ## Services that keep a book -/

namespace Book

/-- The service of a ledger in this process, with numbers for transfers drawn in some
other way. -/
def serviceWith (draw : Book → TransferNumber) : Service Book :=
  { service with freshNumber := draw }

/-- Booking a single transfer, once the armed failure has let it through. -/
theorem createTransfer_taking (transfer : Transfer) (before : Book) :
    Taking id before (before.transferRejection? transfer = none) (before.post transfer)
      (createTransfersFrom 0 [transfer] before) := by
  obtain ⟨failAfter, hrun | ⟨reason, -, hrun⟩ | ⟨hrejection, hrun⟩⟩ :=
    createTransfersFrom_cases transfer before
  · rw [hrun]
    exact .refused (by simp) rfl
  · rw [hrun]
    exact .refused (by simp) rfl
  · rw [hrun]
    exact .taken hrejection rfl

theorem serviceWith_keeps (draw : Book → TransferNumber) : (serviceWith draw).Keeps id where
  lookup_content numbers :=
    Run.Along.bind (fun book => Std.Refl.refl book.content) fun _ => Run.Along.pure _
  lookup_answer answered := (Except.ok.inj answered).symm
  account account book := by
    have hcreate : (serviceWith draw).createAccounts [account] book =
        (.ok (createAccountsFrom 0 [account] book).1, (createAccountsFrom 0 [account] book).2) :=
      rfl
    rw [hcreate]
    simp only [createAccountsFrom]
    cases hrejection : book.accountRejection? account with
    | some reason => exact .refused (by simp) rfl
    | none => exact .taken hrejection rfl
  transfer := createTransfer_taking

theorem service_keeps : service.Keeps id := serviceWith_keeps freshNumber

end Book

namespace Guarded

variable {L α : Type} {s : Service L} {book : L → Book}

/-- An item that is taken on behind the wrapper, or rejected by it. -/
theorem request_taking {kind : RequestKind} {rejection : String → Option (List α)}
    {act : Request L (List α)} {before after : Book} {accepted : Prop} {state : Guarded L}
    (same : before = book state.ledger) (taking : Taking book before accepted after (act state.ledger))
    (rejects : ∀ reason, rejection reason ≠ some []) :
    Taking (fun state : Guarded L => book state.ledger) before accepted after
      (request kind rejection act state) := by
  obtain ⟨fault, hrun | ⟨answer, hrun, hanswer⟩⟩ := request_cases kind rejection act state
  · rw [hrun]
    generalize act state.ledger = result at taking
    cases taking with
    | taken sound same => exact .taken sound same
    | refused refused same => exact .refused refused same
  · rw [hrun]
    refine .refused (fun hempty => ?_) (congrArg Book.content same.symm)
    obtain ⟨reason, hrejection⟩ := hanswer [] hempty
    exact rejects reason hrejection

/-- A wrapper that interferes keeps the book of the ledger behind it. -/
theorem service_keeps (keeps : s.Keeps book) :
    (service s).Keeps fun state => book state.ledger where
  lookup_content numbers state := by
    obtain ⟨fault, hrun | ⟨answer, hrun, -⟩⟩ :=
      request_cases .lookup (fun _ => none) (s.lookup numbers) state
    · have hkept := keeps.lookup_content numbers state.ledger
      rw [Run.Kept] at hkept ⊢
      rw [← hkept]
      exact congrArg (fun run => (book run.2.ledger).content) hrun
    · exact congrArg (fun run => (book run.2.ledger).content) hrun
  lookup_answer {numbers state found} answered := by
    obtain ⟨fault, hrun | ⟨answer, hrun, hanswer⟩⟩ :=
      request_cases .lookup (fun _ => none) (s.lookup numbers) state
    · exact keeps.lookup_answer ((congrArg Prod.fst hrun).symm.trans answered)
    · obtain ⟨_, ⟨⟩⟩ := hanswer found ((congrArg Prod.fst hrun).symm.trans answered)
  account account state := by
    have hrun : (service s).createAccounts [account] state =
        request .createAccounts (fun reason => some [(0, .other reason)])
          (s.createAccounts [account]) state := rfl
    rw [hrun]
    exact request_taking rfl (keeps.account account state.ledger) fun _ => by simp
  transfer transfer state := by
    have hrun : (service s).createTransfers [transfer] state =
        request .createTransfers (fun reason => some [(0, .other reason)])
          (s.createTransfers [transfer]) state := rfl
    rw [hrun]
    exact request_taking rfl (keeps.transfer transfer state.ledger) fun _ => by simp

/-- So it does around a ledger in this process. -/
theorem ledger_keeps : (service Book.service).Keeps Guarded.ledger :=
  service_keeps Book.service_keeps

end Guarded

end Clearinghouse.Ledger
