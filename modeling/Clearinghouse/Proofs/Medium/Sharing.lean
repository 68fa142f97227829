/-
# Nobody sees what is rolled back

Three kinds of media are shared by stores: a cache in the same process, whose stores may keep
their accounts under different keys, a ledger in the same process, and databases among the
same files. On each of them looking at accounts leaves nothing behind that another store
could find. A store over a ledger remembers which accounts it has seen, but only for its own
list of accounts.
-/

import Clearinghouse.Proofs.Cache.Backend
import Clearinghouse.Proofs.Ledger.Coupling
import Clearinghouse.Proofs.Medium.RowStore

namespace Clearinghouse

namespace Cache.InProcess

theorem backend_looksOnly : (backend client).LooksOnly (id : Handle Unit → Handle Unit) :=
  .of_kept (fun account => load_kept id (fun connection key state => by rw [client_get_same])
    account) loadAll_kept

end Cache.InProcess

namespace RowStore

theorem backend_looksOnly : backend.LooksOnly (id : Handle → Handle) :=
  .of_kept load_kept loadAll_kept

end RowStore

namespace Ledger

variable {L α : Type} {service : Service L}

/-- Requests for accounts leave the ledger as it is, and the connection but for the accounts
it knows. -/
theorem run_seen {request : Request L α} (kept : Run.Along (Run.Kept id) request)
    (context : String) :
    Run.Along (Run.Kept (Backend.seen Handle.view)) (run context request) :=
  fun state => congrArg (state.1.view, ·) (kept state.2)

theorem load_seen (kept : ∀ numbers, Run.Along (Run.Kept id) (service.lookup numbers))
    (account : AccountId) :
    Run.Along (Run.Kept (Backend.seen Handle.view)) ((backend service).load account) := by
  refine (ensureConnected_kept.kept_of_id _).bind fun _ => (run_seen (kept _) _).bind fun found => ?_
  cases found with
  | nil => exact Run.Along.pure _
  | cons first rest =>
      refine Run.Along.bind (fun state => Std.Refl.refl (Backend.seen Handle.view state)) fun _ => ?_
      exact Run.Along.bind (fun state => Std.Refl.refl state) fun _ => Run.Along.pure _

theorem loadAll_seen (kept : ∀ numbers, Run.Along (Run.Kept id) (service.lookup numbers)) :
    Run.Along (Run.Kept (Backend.seen Handle.view)) (backend service).loadAll := by
  refine Run.Along.bind (fun state => Std.Refl.refl state) fun state => ?_
  dsimp only
  split
  · exact Run.Along.pure _
  · refine (ensureConnected_kept.kept_of_id _).bind fun _ => (run_seen (kept _) _).bind fun _ => ?_
    exact Run.Along.bind (fun state => Std.Refl.refl state) fun _ => Run.Along.pure _

/-- A ledger that looking up accounts leaves as it is. -/
theorem backend_looksOnly (kept : ∀ numbers, Run.Along (Run.Kept id) (service.lookup numbers)) :
    (backend service).LooksOnly Handle.view where
  load := load_seen kept
  loadAll := loadAll_seen kept
  parallels := (coupled_sameView service).parallels fun {state state'} same =>
    (loadAll_seen kept state).trans (Eq.trans same (loadAll_seen kept state').symm)

theorem Book.lookup_kept (draw : Book → TransferNumber) (numbers : List AccountNumber) :
    Run.Along (Run.Kept id) ((Book.serviceWith draw).lookup numbers) :=
  Run.Along.bind (fun book => Std.Refl.refl book) fun _ => Run.Along.pure _

end Ledger

/-- The media that several stores share. -/
inductive SharedMedium
  /-- A cache in the same process. -/
  | cache
  /-- A ledger in the same process, with a way to draw numbers for transfers. -/
  | ledger (draw : Ledger.Book → Ledger.TransferNumber)
  /-- Databases among the same files. -/
  | rowStore

namespace SharedMedium

/-- What a store has of the medium to itself. -/
def Connection : SharedMedium → Type
  | cache => Cache.Handle Unit
  | ledger _ => Ledger.Handle
  | rowStore => RowStore.Handle

/-- What is shared. -/
def Shared : SharedMedium → Type
  | cache => Cache.InProcess
  | ledger _ => Ledger.Book
  | rowStore => Files

def backend : (medium : SharedMedium) → Backend (medium.Connection × medium.Shared)
  | cache => Cache.backend Cache.InProcess.client
  | ledger draw => Ledger.backend (Ledger.Book.serviceWith draw)
  | rowStore => RowStore.backend

theorem looksOnly (medium : SharedMedium) :
    ∃ (V : Type) (view : medium.Connection → V), medium.backend.LooksOnly view := by
  cases medium with
  | cache => exact ⟨_, _, Cache.InProcess.backend_looksOnly⟩
  | ledger draw => exact ⟨_, _, Ledger.backend_looksOnly (Ledger.Book.lookup_kept draw)⟩
  | rowStore => exact ⟨_, _, RowStore.backend_looksOnly⟩

end SharedMedium

namespace Company

variable {ι : Type} [DecidableEq ι]

/-- A store begins a transaction and does anything inside it but end it, among any doings of
the others and any disturbances of the medium. Take its doings out of the history, from the
beginning to the rollback if there is one: then the others are answered the same, and the
medium comes to be the same, while the transaction is open, once it is rolled back and once
it is dropped by a close. As histories may end anywhere, so it is at every point. -/
theorem rolled_back_work_is_invisible (medium : SharedMedium)
    (company : Company ι medium.Connection medium.Shared) (a : ι)
    (before inside later : List (Event ι medium.Shared))
    (begins : (Store.perform medium.backend .begin
      ((final medium.backend before company).store a)).1 = .ok .done)
    (stays : ∀ op, .turn a op ∈ inside → op.StaysInside) :
    let opened := before ++ .turn a .begin :: inside
    let omitted := before ++ without a inside
    SameToOthers medium.backend a company opened omitted ∧
      SameToOthers medium.backend a company (opened ++ .turn a .rollback :: later)
        (omitted ++ later) ∧
      SameToOthers medium.backend a company (opened ++ .turn a .close :: later)
        (omitted ++ .turn a .close :: later) := by
  obtain ⟨V, view, looks⟩ := medium.looksOnly
  exact sameToOthers_without looks begins stays later

/-- Two stores over one ledger. The first creates an account inside a transaction, the second
creates the same account at once, and the first rolls back. -/
theorem rolled_back_creation_is_invisible :
    let medium : SharedMedium := .ledger Ledger.Book.freshNumber
    let connection : Ledger.Handle := ⟨⟨["3000"], 0, false⟩, false, ∅⟩
    let company : Company Bool medium.Connection medium.Shared :=
      opening (fun _ => connection) Ledger.Book.empty
    let before : List (Event Bool medium.Shared) := [.turn true .start, .turn false .start]
    let later : List (Event Bool medium.Shared) := [.turn false (.getBalance 1)]
    let history := before ++ .turn true .begin :: [.turn true (.create 1 5),
      .turn false (.create 1 7)] ++ .turn true .rollback :: later
    SameToOthers medium.backend true company history
        (before ++ [.turn false (.create 1 7)] ++ later) ∧
      othersAnswers medium.backend true history company =
        [(false, .ok .done), (false, .ok .done), (false, .ok (.balance 7))] := by
  intro medium connection company before later history
  have hbegins : (Store.perform medium.backend .begin
      ((final medium.backend before company).store true)).1 = .ok .done := by
    rfl
  refine ⟨(rolled_back_work_is_invisible medium company true before
    [.turn true (.create 1 5), .turn false (.create 1 7)] later hbegins fun op hmem => ?_).2.1,
    by decide +kernel⟩
  simp only [List.mem_cons, Event.turn.injEq, true_and, Bool.true_eq_false, false_and,
    List.not_mem_nil, or_false] at hmem
  rw [hmem]
  trivial

end Company

end Clearinghouse
