/-
# Restarts

The program may be stopped between two lines of its input and started again. A tree of keys, a
database in a file and a cache outlast the store that uses them, so the new store finds what the
earlier one left. A table or a database in memory is gone with its store, and what a store of a
ledger lists depends on what it was asked for; nothing is said of them here.
-/

import Clearinghouse.Deployment
import Clearinghouse.Proofs.Application.Continuing
import Clearinghouse.Proofs.Cache.Resuming
import Clearinghouse.Proofs.Medium.Resuming

namespace Clearinghouse

/-- The medium that settings describe outlasts the stores that use it. A server counts if no
failure is armed there. -/
def Config.Storage.Lasts (connectors : Connectors) (around : Surroundings) :
    Config.Storage → Prop
  | .keyTree _ => True
  | .rows path => path ≠ RowStore.inMemory
  | .cache _ => connectors.useNetwork = true → around.network.server.Calm
  | .memory | .ledger _ => False

namespace Deployment

/-- Runs a check on a new application over the medium that settings describe, and lets go of the
medium. -/
def sitting {α : Type} (connectors : Connectors) (storage : Config.Storage) (policy : Policy)
    (act : {S : Type} → Backend S → Check (Application S) α) : Check Surroundings α := fun around =>
  match Holding.ofStorage connectors storage with
  | .error e => (.error (.storage e), around)
  | .ok holding =>
    let (answer, deployment, around) := (new holding policy).run (fun b => (act b).run) around
    (answer, deployment.holding.release around)

/-- The course of a session over some lines. -/
def session (connectors : Connectors) (storage : Config.Storage) (policy : Policy)
    (genesis : List GenesisAccount) (lines : List (List UInt8)) :
    Check Surroundings (Option (List Session.Delivery) × Except StoreError (List Account)) :=
  sitting connectors storage policy fun b => Session.course b genesis lines

end Deployment

/-- Where a medium is among the surroundings: what a new store of it finds there, and what a store
leaves behind. -/
structure Site (S : Type) where
  find : Surroundings → S
  leave : S → Surroundings → Surroundings
  /-- What was left before is replaced. -/
  leave_leave : ∀ m m' around, leave m' (leave m around) = leave m' around

namespace Site

variable {S : Type} {site : Site S} {b : Backend S} {connectors : Connectors}
  {storage : Config.Storage} {policy : Policy} {genesis : List GenesisAccount}
  {around : Surroundings} {held : S → Prop}

/-- Settings describe the medium at a site. -/
def Serves (site : Site S) (b : Backend S) (connectors : Connectors) (storage : Config.Storage) :
    Prop :=
  ∀ {α : Type} (policy : Policy) (act : {S : Type} → Backend S → Check (Application S) α)
    (around : Surroundings),
    let ran := act b (Application.new (.new (site.find around)) policy)
    Deployment.sitting connectors storage policy act around =
      (ran.1, site.leave ran.2.store.medium around)

/-- A medium that is resumed at its site is found by the next session as the last one left it. -/
theorem session_append (serves : site.Serves b connectors storage)
    (resumes : b.Resumes (fun m => site.find (site.leave m around)) held)
    (takesHold : (b.connect (site.find around)).1 = .ok () →
      held (b.connect (site.find around)).2)
    (started : (Deployment.sitting connectors storage policy
      (fun b => Session.start b genesis) around).1 = .ok ())
    {early late : List (List UInt8)} (texts : ∀ line ∈ early ++ late, Session.IsText line) :
    let first := Deployment.session connectors storage policy genesis early around
    let second := Deployment.session connectors storage policy genesis late first.2
    let whole := Deployment.session connectors storage policy genesis (early ++ late) around
    ∃ done rest between accounts, first.1 = .ok (some done, between) ∧
      second.1 = .ok (some rest, accounts) ∧
      whole.1 = .ok (some (done ++ rest.map (Session.Delivery.further early.length)), accounts) ∧
      whole.2 = second.2 := by
  rw [serves] at started
  obtain ⟨done, rest, between, accounts, hfirst, hsecond, hwhole, hleft⟩ :=
    Session.course_append resumes takesHold started texts
  dsimp only [Deployment.session]
  rw [serves, serves, serves]
  dsimp only
  rw [site.leave_leave]
  exact ⟨done, rest, between, accounts, hfirst, hsecond, hwhole,
    congrArg (fun store => site.leave store.medium around) hleft⟩

end Site

/-! ## Media that last -/

/-- A tree of keys is among the files. -/
def KeyStore.site (path : String) : Site State where
  find around := (⟨path, false⟩, around.files)
  leave state around := { around with files := (release state).2 }
  leave_leave _ _ _ := rfl

/-- So is a database. -/
def RowStore.site (path : String) : Site State where
  find around := (⟨path, false, ∅⟩, around.files)
  leave state around := { around with files := state.2 }
  leave_leave _ _ _ := rfl

/-- A cache in this process. -/
def Cache.InProcess.site (settings : Settings) : Site (State Unit InProcess) where
  find around := (⟨settings, none⟩, around.cache)
  leave state around := { around with cache := state.2 }
  leave_leave _ _ _ := rfl

/-- A cache that is a server. -/
def Cache.Network.site (settings : Settings) : Site (State Server.Connection Network) where
  find around := (⟨settings, none⟩, around.network)
  leave state around := { around with network := state.2 }
  leave_leave _ _ _ := rfl

namespace Deployment

theorem sitting_of_created {connectors : Connectors} {storage : Config.Storage} {holding : Holding}
    (created : Holding.ofStorage connectors storage = .ok holding) {α : Type} (policy : Policy)
    (act : {S : Type} → Backend S → Check (Application S) α) (around : Surroundings) :
    sitting connectors storage policy act around =
      let ran := (new holding policy).run (fun b => (act b).run) around
      (ran.1, ran.2.1.holding.release ran.2.2) := by
  rw [sitting, created]

/-- Settings that describe a medium at all describe one with this handle. -/
theorem exists_handle_of_sitting {connectors : Connectors} {storage : Config.Storage}
    {α H : Type} {policy : Policy} {act : {S : Type} → Backend S → Check (Application S) α}
    {around : Surroundings} {a : α} (created : Except StoreError H) (hold : H → Holding)
    (asked : Holding.ofStorage connectors storage = hold <$> created)
    (answered : (sitting connectors storage policy act around).1 = .ok a) :
    ∃ handle, created = .ok handle ∧ Holding.ofStorage connectors storage = .ok (hold handle) := by
  rw [sitting, asked] at answered
  cases hcreated : created with
  | ok handle => exact ⟨handle, rfl, by rw [asked, hcreated]; rfl⟩
  | error e =>
      rw [hcreated] at answered
      cases answered

end Deployment

/-- Restarting the program between two lines of its input changes nothing. On every medium that
lasts, a session that delivers the first lines and a later one that delivers the rest bring about
the same as one session that delivers all of them: the same comes of every line, the same
accounts are listed at the end, and everything around is left in the same state. The second
session begins whenever the first one does. -/
theorem restart_changes_nothing {connectors : Connectors} {storage : Config.Storage}
    {around : Surroundings} (lasts : storage.Lasts connectors around) {policy : Policy}
    {genesis : List GenesisAccount}
    (started : (Deployment.sitting connectors storage policy
      (fun b => Session.start b genesis) around).1 = .ok ())
    {early late : List (List UInt8)} (texts : ∀ line ∈ early ++ late, Session.IsText line) :
    let first := Deployment.session connectors storage policy genesis early around
    let second := Deployment.session connectors storage policy genesis late first.2
    let whole := Deployment.session connectors storage policy genesis (early ++ late) around
    ∃ done rest between accounts, first.1 = .ok (some done, between) ∧
      second.1 = .ok (some rest, accounts) ∧
      whole.1 = .ok (some (done ++ rest.map (Session.Delivery.further early.length)), accounts) ∧
      whole.2 = second.2 := by
  cases storage with
  | memory | ledger _ => exact lasts.elim
  | keyTree path =>
      obtain ⟨handle, hcreated, hholding⟩ := Deployment.exists_handle_of_sitting
        (KeyStore.Handle.new path) .keyStore rfl started
      obtain rfl : ⟨path, false⟩ = handle := eq_of_unrefused hcreated
      have hserves : (KeyStore.site path).Serves KeyStore.backend connectors (.keyTree path) :=
        fun policy act around => Deployment.sitting_of_created hholding policy act around
      exact Site.session_append hserves (KeyStore.backend_resumes path)
        KeyStore.holdsAt_of_connect started texts
  | rows path =>
      obtain ⟨handle, hcreated, hholding⟩ := Deployment.exists_handle_of_sitting
        (RowStore.Handle.new path) .rowStore rfl started
      obtain rfl : ⟨path, false, ∅⟩ = handle := eq_of_unrefused hcreated
      have hserves : (RowStore.site path).Serves RowStore.backend connectors (.rows path) :=
        fun policy act around => Deployment.sitting_of_created hholding policy act around
      exact Site.session_append hserves (RowStore.backend_resumes lasts)
        (RowStore.connectedTo_of_connect lasts) started texts
  | cache settings =>
      cases hnetwork : connectors.useNetwork with
      | true =>
          obtain ⟨handle, hcreated, hholding⟩ := Deployment.exists_handle_of_sitting
            (Cache.Handle.new settings) .server
            (by rw [Holding.ofStorage, hnetwork]; rfl) started
          obtain rfl := Cache.eq_of_created hcreated
          have hserves : (Cache.Network.site settings).Serves (Cache.backend Cache.Network.client)
              connectors (.cache settings) :=
            fun policy act around => Deployment.sitting_of_created hholding policy act around
          exact Site.session_append hserves (Cache.Network.client_remembers.backend_resumes settings)
            (Cache.connected_of_connect Cache.Network.client_steady (lasts hnetwork)) started texts
      | false =>
          obtain ⟨handle, hcreated, hholding⟩ := Deployment.exists_handle_of_sitting
            (Cache.Handle.new settings) .cache
            (by rw [Holding.ofStorage, hnetwork]; rfl) started
          obtain rfl := Cache.eq_of_created hcreated
          have hserves : (Cache.InProcess.site settings).Serves
              (Cache.backend Cache.InProcess.client) connectors (.cache settings) :=
            fun policy act around => Deployment.sitting_of_created hholding policy act around
          exact Site.session_append hserves
            (Cache.InProcess.client_remembers.backend_resumes settings)
            (Cache.connected_of_connect Cache.InProcess.client_steady trivial) started texts

/-- A payment is made in each of two sessions on a tree of keys. The key of the payer is the
neutral point, which signs everything. -/
theorem payments_go_on_after_a_restart :
    let genesis : List GenesisAccount :=
      [⟨1, 10, some ("01" ++ String.ofList (List.replicate 62 '0'))⟩]
    let payment := Transaction.encode
      ⟨[⟨1, 2, 3, (1 :: List.replicate 31 0) ++ List.replicate 32 0⟩]⟩
    let session := Deployment.session ⟨true, false⟩ (.keyTree "data/bank") .allOrNothing genesis
    let first := session [payment] .empty
    let second := session [[0x20], payment] first.2
    first.1.map Prod.snd = .ok (.ok [⟨1, 7⟩, ⟨2, 3⟩]) ∧
      second.1.map Prod.snd = .ok (.ok [⟨1, 4⟩, ⟨2, 6⟩]) := by
  intro genesis payment session first second
  have hlasts : Config.Storage.Lasts ⟨true, false⟩ .empty (.keyTree "data/bank") := trivial
  have hstarted : (Deployment.sitting ⟨true, false⟩ (.keyTree "data/bank") .allOrNothing
      (fun b => Session.start b genesis) .empty).1 = .ok () := by decide +kernel
  have htexts : ∀ line ∈ [payment] ++ [[0x20], payment], Session.IsText line := by decide +kernel
  obtain ⟨done, rest, between, accounts, -, hsecond, hwhole, -⟩ :=
    restart_changes_nothing hlasts hstarted htexts
  have hlisted : (session ([payment] ++ [[0x20], payment]) .empty).1.map Prod.snd =
      .ok (.ok [⟨1, 4⟩, ⟨2, 6⟩]) := by decide +kernel
  refine ⟨by decide +kernel, ?_⟩
  rw [show second.1 = _ from hsecond]
  rwa [show (session ([payment] ++ [[0x20], payment]) .empty).1 = _ from hwhole] at hlisted

end Clearinghouse
