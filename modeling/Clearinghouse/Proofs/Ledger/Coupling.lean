/-
# Connections to one ledger

A store on a ledger is told by its connection and by what the ledger answers. Behind two
connections that differ at most in the accounts they know, the ledger answers every request
alike; so they may differ in any way that requests, new accounts and the ends of a session
carry over.
-/

import Clearinghouse.Proofs.Ledger.Booking
import Clearinghouse.Proofs.Store.Withdrawal

namespace Clearinghouse.Ledger

variable {L α : Type} {service : Service L}

/-- What is seen of a connection to a ledger: everything but the accounts it knows. -/
def Handle.view (handle : Handle) : Settings × Bool := (handle.settings, handle.isConnected)

/-- Two connections to one ledger that may know different accounts. -/
def SameView (state state' : State L) : Prop :=
  Backend.seen Handle.view state = Backend.seen Handle.view state'

section

variable {state state' : State L}

theorem SameView.ledger (same : SameView state state') : state.2 = state'.2 :=
  (Prod.mk.inj same).2

theorem SameView.settings (same : SameView state state') : state.1.settings = state'.1.settings :=
  (Prod.mk.inj (Prod.mk.inj same).1).1

theorem SameView.isConnected (same : SameView state state') :
    state.1.isConnected = state'.1.isConnected :=
  (Prod.mk.inj (Prod.mk.inj same).1).2

end

/-- The requests that a store makes of a ledger. -/
inductive Service.Offers (service : Service L) : {α : Type} → Request L α → Prop
  | connect : service.Offers service.connect
  | lookup (numbers : List AccountNumber) : service.Offers (service.lookup numbers)
  | createAccounts (accounts : List LedgerAccount) : service.Offers (service.createAccounts accounts)
  | createTransfers (transfers : List Transfer) : service.Offers (service.createTransfers transfers)

/-- A relation between connections to one ledger that everything carries over that a store does
to its connection. -/
structure Coupled (service : Service L) (related : State L → State L → Prop) : Prop where
  view : ∀ {state state'}, related state state' → SameView state state'
  request : ∀ {α : Type} {request : Request L α}, service.Offers request → ∀ {state state'},
    related state state' →
      related (state.1, (request state.2).2) (state'.1, (request state'.2).2)
  remember : ∀ id {state state'}, related state state' →
    related (state.1.remember id, state.2) (state'.1.remember id, state'.2)
  connect : ∀ {state state'}, related state state' →
    related ({ state.1 with isConnected := true }, state.2)
      ({ state'.1 with isConnected := true }, state'.2)
  disconnect : ∀ {state state'}, related state state' →
    related (⟨state.1.settings, false, ∅⟩, state.2) (⟨state'.1.settings, false, ∅⟩, state'.2)

/-- Two connections that are seen to be the same stay so. -/
theorem coupled_sameView (service : Service L) : Coupled service SameView where
  view same := same
  request {_ request} _ {state state'} same := by
    have hledger : (request state.2).2 = (request state'.2).2 := by rw [same.ledger]
    exact Prod.ext (Prod.mk.inj same).1 hledger
  remember _ {_ _} same := same
  connect same := Prod.ext (Prod.ext same.settings rfl) same.ledger
  disconnect same := Prod.ext (Prod.ext same.settings rfl) same.ledger

section

variable {related : State L → State L → Prop} (coupled : Coupled service related)
include coupled

theorem run_parallel (context : String) {request : Request L α} (offers : service.Offers request) :
    Run.Parallel related (run context request) (run context request) := by
  refine Run.Parallel.intro fun {state state'} same => ?_
  have hrun : ∀ state : State L, run context request state =
      ((request state.2).1.mapError fun failure => .medium context failure.message,
        (state.1, (request state.2).2)) := fun _ => rfl
  have hlater := coupled.request offers same
  rw [hrun, hrun]
  rw [(coupled.view same).ledger] at hlater ⊢
  exact ⟨rfl, hlater⟩

theorem ensureConnected_parallel :
    Run.Parallel related (ensureConnected : Step (State L) Unit) ensureConnected := by
  refine Run.Parallel.intro fun {state state'} same => ?_
  rw [ensureConnected, Run.get_bind_apply, Run.get_bind_apply, (coupled.view same).isConnected]
  split
  · exact ⟨rfl, same⟩
  · exact ⟨rfl, same⟩

theorem remember_parallel (id : AccountId) :
    Run.Parallel related (remember id : Step (State L) Unit) (remember id) :=
  Run.Parallel.intro fun same => ⟨rfl, coupled.remember id same⟩

theorem connect_parallel : Run.Parallel related (connect service) (connect service) := by
  refine Run.Parallel.intro fun {state state'} same => ?_
  rw [connect, Run.get_bind_apply, Run.get_bind_apply, (coupled.view same).settings]
  refine Run.Agrees.agrees (Run.Alike.bind (run_parallel coupled _ .connect) fun _ =>
    (run_parallel coupled _ (.createAccounts _)).bind fun rejected => ?_) same trivial
  split
  · exact Run.Alike.throw _
  · exact Run.Parallel.intro fun same => ⟨rfl, coupled.connect same⟩

theorem disconnect_parallel :
    Run.Parallel related (backend service).disconnect (backend service).disconnect :=
  Run.Parallel.intro fun same => ⟨rfl, coupled.disconnect same⟩

theorem createAccount_parallel (id : AccountId) :
    Run.Parallel related (createAccount service id) (createAccount service id) := by
  refine (ensureConnected_parallel coupled).bind fun _ =>
    (run_parallel coupled _ (.createAccounts _)).bind fun rejected => ?_
  cases rejected with
  | nil => exact Run.Alike.pure _
  | cons first rest => exact Run.Alike.throw _

theorem transfer_parallel (id : AccountId) (delta : Int) :
    Run.Parallel related (transfer service id delta) (transfer service id delta) := by
  refine (ensureConnected_parallel coupled).bind fun _ =>
    Run.Parallel.intro fun {state state'} same => ?_
  rw [Run.get_bind_apply, Run.get_bind_apply, (coupled.view same).ledger]
  refine Run.Agrees.agrees ((run_parallel coupled _ (.createTransfers _)).bind
    fun rejected => ?_) same trivial
  cases rejected with
  | nil => exact Run.Alike.pure _
  | cons first rest => exact Run.Alike.throw _

theorem prepare_parallel (change : Change) :
    Run.Parallel related (prepare service change) (prepare service change) := by
  rw [prepare]
  split
  · exact (createAccount_parallel coupled _).bind fun _ => remember_parallel coupled _
  · exact Run.Alike.pure _

theorem book_parallel (change : Change) :
    Run.Alike (fun _ => True) related (book service change) (book service change) := by
  refine ⟨fun _ => trivial, fun {state state'} same _ => ?_⟩
  have hprepare : Run.Parallel related (prepare service change) (prepare service change) :=
    prepare_parallel coupled change
  obtain ⟨hanswer, hsame⟩ := hprepare.agrees same trivial
  rw [book_apply, book_apply, hanswer]
  cases (prepare service change state').1 with
  | error e => exact ⟨rfl, hsame⟩
  | ok =>
      dsimp only
      split
      · exact ⟨rfl, hsame⟩
      · refine Run.Agrees.agrees (Run.Alike.andThen (transfer_parallel coupled _ _) fun answer => ?_)
          hsame trivial
        cases answer with
        | error e => exact Run.Alike.give _
        | ok => exact Run.Alike.give _

theorem bookAll_parallel (total applied : Nat) (wrote : Bool) (changes : List Change) :
    Run.Parallel related (bookAll service total applied wrote changes)
      (bookAll service total applied wrote changes) := by
  induction changes generalizing applied wrote with
  | nil => exact Run.Alike.pure _
  | cons change rest ih =>
      refine Run.Alike.bind ((book_parallel coupled change).form Except.ok) fun progress => ?_
      cases progress with
      | done now => exact ih _ _
      | failed now e =>
          dsimp only
          split
          · exact Run.Alike.throw _
          · exact Run.Alike.throw _

theorem load_parallel (id : AccountId) :
    Run.Parallel related ((backend service).load id) ((backend service).load id) := by
  refine (ensureConnected_parallel coupled).bind fun _ =>
    (run_parallel coupled _ (.lookup _)).bind fun found => ?_
  cases found with
  | nil => exact Run.Alike.pure _
  | cons account rest =>
      refine (remember_parallel coupled _).bind fun _ => Run.Alike.bind ?_ fun _ => Run.Alike.pure _
      exact Run.Parallel.intro fun same => ⟨rfl, same⟩

/-- Behind coupled connections a ledger answers alike. -/
theorem Coupled.parallels (loadAll : ∀ {state state'}, related state state' →
      related ((backend service).loadAll state).2 ((backend service).loadAll state').2) :
    (backend service).Parallels (backend service) related where
  connect := connect_parallel coupled
  disconnect := disconnect_parallel coupled
  load := load_parallel coupled
  loadAll := loadAll
  flush _ := bookAll_parallel coupled _ _ _ _

end

end Clearinghouse.Ledger
