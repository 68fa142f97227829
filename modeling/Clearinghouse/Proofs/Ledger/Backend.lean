/-
# What a ledger tells of its failures

Changes are booked one after the other, so a commit that fails may leave those
before the failure booked. The medium counts a change as written from the moment
the ledger takes on anything of it. As long as it has counted none, the ledger is
as it was; and once it has, it reports a partial commit.
-/

import Clearinghouse.Ledger.Backend
import Clearinghouse.Ledger.Book
import Clearinghouse.Ledger.Interference
import Clearinghouse.Proofs.Steps
import Clearinghouse.Proofs.Store.Media

namespace Clearinghouse.Ledger

/-- A service that tells the truth about what it holds. Looking up changes nothing,
and neither does a request of a single item that fails or rejects the item. -/
structure Service.Candid {L C : Type} (service : Service L) (content : L → C) : Prop where
  lookup_content : ∀ numbers, Run.Along (Run.Kept content) (service.lookup numbers)
  account_content : ∀ account ledger, (service.createAccounts [account] ledger).1 ≠ .ok [] →
    content (service.createAccounts [account] ledger).2 = content ledger
  transfer_content : ∀ transfer ledger, (service.createTransfers [transfer] ledger).1 ≠ .ok [] →
    content (service.createTransfers [transfer] ledger).2 = content ledger

/-- The ledger has taken on something of a change. -/
def Progress.wrote : Progress → Bool
  | .done wrote => wrote
  | .failed wrote _ => wrote

section

variable {L C : Type} {service : Service L} {content : L → C}

theorem ensureConnected_kept : Run.Along (Run.Kept id) (ensureConnected : Step (State L) Unit) := by
  intro state
  rw [ensureConnected, Run.get_bind_apply]
  split
  · exact Run.Along.pure _ state
  · exact Run.Along.throw _ state

/-- A request whose answer lists what was rejected leaves the ledger as it was,
unless nothing was. -/
theorem run_bind_content {α : Type} {context : String} {request : Request L (List α)}
    {next : List α → Step (State L) Unit} {state : State L} {e : StoreError}
    (kept : (request state.2).1 ≠ .ok [] → content (request state.2).2 = content state.2)
    (silent : ∀ rejected, Run.Along (Run.Kept id) (next rejected)) (accepts : next [] = pure ())
    (failed : ((run context request >>= next) state).1 = .error e) :
    content ((run context request >>= next) state).2.2 = content state.2 := by
  have hrun : run context request state =
      ((request state.2).1.mapError fun failure => .medium context failure.message,
        (state.1, (request state.2).2)) := rfl
  cases hanswer : (request state.2).1 with
  | error failure =>
      rw [hanswer] at hrun kept
      rw [Run.bind_of_error hrun]
      exact kept nofun
  | ok rejected =>
      rw [hanswer] at hrun kept
      rw [Run.bind_of_ok hrun] at failed ⊢
      have hsilent : (next rejected (state.1, (request state.2).2)).2 =
          (state.1, (request state.2).2) := silent rejected _
      rw [hsilent]
      apply kept
      rintro ⟨⟩
      rw [accepts] at failed
      cases failed

/-- What asks for a connection first fails without one, and changes nothing. -/
theorem ensureConnected_bind_content {next : Unit → Step (State L) Unit} {state : State L}
    {e : StoreError}
    (kept : (next () state).1 = .error e → content (next () state).2.2 = content state.2)
    (failed : ((ensureConnected >>= next) state).1 = .error e) :
    content ((ensureConnected >>= next) state).2.2 = content state.2 := by
  have hkept := ensureConnected_kept (L := L) state
  cases hguard : (ensureConnected : Step (State L) Unit) state with
  | mk answer mid =>
      rw [hguard] at hkept
      obtain rfl : mid = state := hkept
      cases answer with
      | error e => rw [Run.bind_of_error hguard]
      | ok =>
          rw [Run.bind_of_ok hguard] at failed ⊢
          exact kept failed

/-- An account that is not created leaves the ledger as it was. -/
theorem createAccount_content (candid : service.Candid content) {id : AccountId}
    {state : State L} {e : StoreError} (failed : (createAccount service id state).1 = .error e) :
    content (createAccount service id state).2.2 = content state.2 := by
  rw [createAccount] at failed ⊢
  apply ensureConnected_bind_content _ failed
  intro hfailed
  apply run_bind_content (candid.account_content _ state.2) _ rfl hfailed
  intro rejected
  cases rejected with
  | nil => exact Run.Along.pure _
  | cons first rest => exact Run.Along.throw _

/-- A movement that is not booked leaves the ledger as it was. -/
theorem transfer_content (candid : service.Candid content) {id : AccountId} {delta : Int}
    {state : State L} {e : StoreError} (failed : (transfer service id delta state).1 = .error e) :
    content (transfer service id delta state).2.2 = content state.2 := by
  rw [transfer] at failed ⊢
  apply ensureConnected_bind_content _ failed
  intro hfailed
  rw [Run.get_bind_apply] at hfailed ⊢
  apply run_bind_content (candid.transfer_content _ state.2) _ rfl hfailed
  intro rejected
  cases rejected with
  | nil => exact Run.Along.pure _
  | cons first rest => exact Run.Along.throw _

/-- Makes sure that the account of a change exists. -/
def prepare (service : Service L) (change : Change) : Step (State L) Unit :=
  if change.isCreation then do
    createAccount service change.id
    remember change.id
  else return

/-- The account of a change is prepared before anything is moved. -/
theorem book_apply (change : Change) (state : State L) :
    book service change state =
      (match (prepare service change state).1 with
      | .error e => return .failed false e
      | .ok () =>
        if change.delta = 0 then return .done change.isCreation
        else do
          match ← (transfer service change.id change.delta).run with
          | .error e => return .failed change.isCreation e
          | .ok () => return .done true : StateM (State L) Progress)
        (prepare service change state).2 := rfl

theorem book_of_unprepared {change : Change} {state mid : State L} {e : StoreError}
    (failed : prepare service change state = (.error e, mid)) :
    book service change state = (.failed false e, mid) := by
  rw [book_apply, failed]
  rfl

theorem book_of_prepared {change : Change} {state mid : State L}
    (prepared : prepare service change state = (.ok (), mid)) :
    book service change state =
      if change.delta = 0 then (.done change.isCreation, mid)
      else match transfer service change.id change.delta mid with
        | (.error e, final) => (.failed change.isCreation e, final)
        | (.ok (), final) => (.done true, final) := by
  rw [book_apply, prepared]
  by_cases hstill : change.delta = 0
  · simp only [hstill, if_true]
    rfl
  · simp only [hstill, if_false, bind, StateT.bind, ExceptT.run]
    rcases transfer service change.id change.delta mid with ⟨answer, final⟩
    cases answer <;> rfl

/-- A change of which nothing was written leaves the ledger as it was. -/
theorem book_content (candid : service.Candid content) (change : Change) (state : State L)
    (unwritten : (book service change state).1.wrote = false) :
    content (book service change state).2.2 = content state.2 := by
  cases hcreation : change.isCreation with
  | true =>
      have hprepare : prepare service change =
          createAccount service change.id >>= fun _ => remember change.id := by
        rw [prepare, hcreation, if_pos rfl]
      cases hrun : createAccount service change.id state with
      | mk answer mid =>
          cases answer with
          | error e =>
              have hfailed : prepare service change state = (.error e, mid) := by
                rw [hprepare, Run.bind_of_error hrun]
              have hkept := createAccount_content candid (congrArg Prod.fst hrun)
              rw [hrun] at hkept
              rwa [book_of_unprepared hfailed]
          | ok =>
              have hprepared : prepare service change state = remember change.id mid := by
                rw [hprepare, Run.bind_of_ok hrun]
              -- The new account counts as written, whatever follows.
              rw [book_of_prepared hprepared, hcreation] at unwritten
              split at unwritten
              · cases unwritten
              · split at unwritten <;> cases unwritten
  | false =>
      have hprepared : prepare service change state = (.ok (), state) := by
        rw [prepare, hcreation]
        rfl
      rw [book_of_prepared hprepared, hcreation] at unwritten ⊢
      by_cases hstill : change.delta = 0
      · rw [if_pos hstill]
      · rw [if_neg hstill] at unwritten ⊢
        cases hrun : transfer service change.id change.delta state with
        | mk answer final =>
            rw [hrun] at unwritten
            cases answer with
            | error e =>
                have hkept := transfer_content candid (congrArg Prod.fst hrun)
                rwa [hrun] at hkept
            | ok => cases unwritten

/-- As long as no partial commit is reported, nothing was written. -/
theorem bookAll_content (candid : service.Candid content) {total applied : Nat} {wrote : Bool}
    {changes : List Change} {state : State L} {e : StoreError}
    (failed : (bookAll service total applied wrote changes state).1 = .error e)
    (whole : ¬ e.IsPartialCommit) :
    wrote = false ∧
      content (bookAll service total applied wrote changes state).2.2 = content state.2 := by
  induction changes generalizing applied wrote state with
  | nil => cases failed
  | cons change rest ih =>
      have hkept := book_content candid change state
      rw [bookAll, Run.lift_bind_apply] at failed ⊢
      cases hrun : book service change state with
      | mk progress mid =>
          rw [hrun] at failed hkept
          cases progress with
          | done now =>
              obtain ⟨hwrote, hrest⟩ := ih failed
              rw [Bool.or_eq_false_iff] at hwrote
              exact ⟨hwrote.1, hrest.trans (hkept hwrote.2)⟩
          | failed now reason =>
              dsimp only at failed ⊢
              split at failed
              · cases failed
                exact absurd ⟨_, _, _, _, rfl⟩ whole
              · next hunwritten =>
                  rw [if_neg hunwritten]
                  rw [Bool.not_eq_true, Bool.or_eq_false_iff] at hunwritten
                  exact ⟨hunwritten.1, hkept hunwritten.2⟩

/-- Of a truthful service a truthful medium is made. -/
theorem backend_candid (candid : service.Candid content) :
    (backend service).Candid fun state => content state.2 where
  load_content id state := by
    have hload : Run.Along (Run.Kept fun state => content state.2)
        ((backend service).load id) := by
      apply Run.Along.bind (ensureConnected_kept.kept_of_id _)
      intro _
      refine Run.Along.bind (fun state => candid.lookup_content [id.toNat] state.2) fun found => ?_
      cases found with
      | nil => exact Run.Along.pure _
      | cons account rest =>
          refine Run.Along.bind (fun state => Std.Refl.refl (content state.2)) fun _ => ?_
          exact Run.Along.bind (fun state => Std.Refl.refl state) fun _ => Run.Along.pure _
    exact hload state
  flush_content failed whole := (bookAll_content candid failed whole).2

end

namespace Book

/-- The accounts and the transfers of a ledger. -/
def content (book : Book) : Std.ExtTreeMap AccountNumber LedgerAccount ×
    Std.ExtTreeSet TransferNumber :=
  (book.accounts, book.transfers)

/-- A request of one transfer fails as armed, or the transfer is rejected or booked.
Counting down towards an armed failure changes nothing else. -/
theorem createTransfersFrom_cases (transfer : Transfer) (book : Book) :
    ∃ failAfter,
      createTransfersFrom 0 [transfer] book =
          (.error (.unavailable "injected failure"), { book with failAfter }) ∨
      (∃ reason, book.transferRejection? transfer = some reason ∧
        createTransfersFrom 0 [transfer] book = (.ok [(0, reason)], { book with failAfter })) ∨
      (book.transferRejection? transfer = none ∧
        createTransfersFrom 0 [transfer] book =
          (.ok [], { book.post transfer with failAfter })) := by
  rw [createTransfersFrom, Run.get_bind_apply]
  cases hfail : book.failAfter with
  | none =>
      have hsame : { book with failAfter := none } = book := by rw [← hfail]
      have hposted : { book.post transfer with failAfter := none } = book.post transfer := by
        rw [← hfail]
        rfl
      refine ⟨none, .inr ?_⟩
      rw [hsame, hposted]
      cases book.transferRejection? transfer with
      | some reason => exact .inl ⟨reason, rfl, rfl⟩
      | none => exact .inr ⟨rfl, rfl⟩
  | some count =>
      cases count with
      | zero => exact ⟨none, .inl rfl⟩
      | succ n =>
          refine ⟨some n, .inr ?_⟩
          cases book.transferRejection? transfer with
          | some reason => exact .inl ⟨reason, rfl, rfl⟩
          | none => exact .inr ⟨rfl, rfl⟩

theorem createTransfersFrom_content (transfer : Transfer) (book : Book)
    (refused : (createTransfersFrom 0 [transfer] book).1 ≠ .ok []) :
    content (createTransfersFrom 0 [transfer] book).2 = content book := by
  obtain ⟨failAfter, hrun | ⟨reason, -, hrun⟩ | ⟨-, hrun⟩⟩ :=
    createTransfersFrom_cases transfer book
  · rw [hrun]
    rfl
  · rw [hrun]
    rfl
  · rw [hrun] at refused
    exact absurd rfl refused

theorem service_candid : service.Candid content where
  lookup_content numbers :=
    Run.Along.bind (fun book => Std.Refl.refl (content book)) fun _ => Run.Along.pure _
  account_content account book refused := by
    have hcreate : service.createAccounts [account] book =
        (.ok (createAccountsFrom 0 [account] book).1, (createAccountsFrom 0 [account] book).2) :=
      rfl
    rw [hcreate] at refused ⊢
    cases hrejection : book.accountRejection? account with
    | some reason => simp only [createAccountsFrom, hrejection]
    | none => simp [createAccountsFrom, hrejection] at refused
  transfer_content := createTransfersFrom_content

end Book

namespace Guarded

variable {L C : Type} {s : Service L} {content : L → C}

/-- A request reaches the ledger, or it fails or is rejected without it. -/
theorem request_cases {α : Type} (kind : RequestKind) (rejection : String → Option α)
    (act : Request L α) (state : Guarded L) :
    ∃ fault, request kind rejection act state =
        ((act state.ledger).1, ⟨(act state.ledger).2, fault⟩) ∨
      ∃ answer, request kind rejection act state = (answer, ⟨state.ledger, fault⟩) ∧
        ∀ value, answer = .ok value → ∃ reason, rejection reason = some value := by
  refine ⟨(Fault.meet kind state.fault).2, ?_⟩
  rw [request, Run.get_bind_apply]
  dsimp only
  rw [Run.set_bind_apply]
  cases (Fault.meet kind state.fault).1 with
  | none => exact .inl rfl
  | some effect =>
      cases effect with
      | fail failure => exact .inr ⟨_, rfl, nofun⟩
      | reject reason =>
          dsimp only
          cases hanswer : rejection reason with
          | none => exact .inl rfl
          | some answer =>
              refine .inr ⟨_, rfl, fun value heq => ⟨reason, ?_⟩⟩
              rw [hanswer, Except.ok.inj heq]

/-- What the ledger does not accept changes nothing, if it is asked at all. -/
theorem request_content {α : Type} {kind : RequestKind} {rejection : String → Option α}
    {act : Request L α} {state : Guarded L} (accepted : Except RequestFailure α → Prop)
    (kept : ¬ accepted (act state.ledger).1 → content (act state.ledger).2 = content state.ledger)
    (refused : ¬ accepted (request kind rejection act state).1) :
    content (request kind rejection act state).2.ledger = content state.ledger := by
  obtain ⟨fault, hrun | ⟨answer, hrun, -⟩⟩ := request_cases kind rejection act state
  · rw [hrun] at refused ⊢
    exact kept refused
  · rw [hrun]

/-- What connecting to the ledger does not change, connecting to the wrapper does not. -/
theorem connect_kept (kept : Run.Along (Run.Kept content) s.connect) :
    Run.Along (Run.Kept fun state => content state.ledger) (service s).connect := by
  intro state
  obtain ⟨fault, hrun | ⟨answer, hrun, -⟩⟩ :=
    request_cases .connect (fun _ => none) s.connect state
  · rw [Run.Kept, show (service s).connect state = _ from hrun]
    exact kept state.ledger
  · rw [Run.Kept, show (service s).connect state = _ from hrun]

theorem service_candid (candid : s.Candid content) :
    (service s).Candid fun state => content state.ledger where
  lookup_content numbers state :=
    request_content (fun _ => False) (fun _ => candid.lookup_content numbers state.ledger) nofun
  account_content account state refused :=
    request_content (· = .ok []) (candid.account_content account state.ledger) refused
  transfer_content transfer state refused :=
    request_content (· = .ok []) (candid.transfer_content transfer state.ledger) refused

end Guarded

end Clearinghouse.Ledger
