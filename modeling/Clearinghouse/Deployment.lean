/-
# Applications over media of any kind

Which medium a store uses is decided when it is opened. From then on everything
is done to it in the same way: an action that works over every medium is run over
the one the store has. Media that several stores share are kept together in the
surroundings; a store holds the rest of its medium itself.
-/

import Clearinghouse.Application
import Clearinghouse.Cache.Backend
import Clearinghouse.Cache.InProcess
import Clearinghouse.Cache.Server
import Clearinghouse.Config.Storage
import Clearinghouse.Ledger.Book
import Clearinghouse.Ledger.Interference
import Clearinghouse.Medium.KeyStore
import Clearinghouse.Medium.Memory
import Clearinghouse.Medium.Recording
import Clearinghouse.Medium.RowStore

namespace Clearinghouse

/-- What stores share. -/
structure Surroundings where
  cache : Cache.InProcess
  network : Cache.Network
  ledger : Ledger.Guarded Ledger.Book
  files : Files

/-- Empty media, and no way to any server. -/
def Surroundings.empty : Surroundings where
  cache := .empty
  network := ⟨.empty, false⟩
  ledger := ⟨.empty, none⟩
  files := ∅

/-- The part of its medium that a store holds itself. -/
inductive Holding
  | memory (table : Table)
  | recording (state : Recording.State)
  | keyStore (handle : KeyStore.Handle)
  | rowStore (handle : RowStore.Handle)
  | cache (handle : Cache.Handle Unit)
  | server (handle : Cache.Handle Cache.Server.Connection)
  | ledger (handle : Ledger.Handle)
  /-- A ledger of the store's own. -/
  | simulation (handle : Ledger.Handle) (book : Ledger.Book)

/-- How the media beyond this process are reached. -/
structure Connectors where
  /-- Caches are servers, and not the one in this process. -/
  useNetwork : Bool
  /-- There is a ledger service. -/
  hasLedger : Bool

namespace Holding

/-- The holding of a store that a configuration asks for. -/
def ofStorage (connectors : Connectors) : Config.Storage → Except StoreError Holding
  | .memory => return .memory ∅
  | .keyTree path => return .keyStore (← KeyStore.Handle.new path)
  | .rows path => return .rowStore (← RowStore.Handle.new path)
  | .cache settings =>
    if connectors.useNetwork then return .server (← Cache.Handle.new settings)
    else return .cache (← Cache.Handle.new settings)
  | .ledger settings =>
    if settings.simulate then
      return .simulation (← Ledger.Handle.new settings) .empty
    else if connectors.hasLedger then
      return .ledger (← Ledger.Handle.new settings)
    else
      throw (.invalidConfiguration
        "ledger: built without the tigerbeetle feature; set simulate = true or inject a connector")

/-- Lets go of everything that a holding keeps from others. -/
def release (holding : Holding) (around : Surroundings) : Surroundings :=
  match holding with
  | .keyStore handle => { around with files := (KeyStore.release (handle, around.files)).2 }
  | _ => around

end Holding

/-- An application and its holding. The application's own medium is left open. -/
structure Deployment where
  holding : Holding
  application : Application Unit

namespace Deployment

/-- A new application over a holding. -/
def new (holding : Holding) (policy : Policy) : Deployment :=
  ⟨holding, Application.new (Store.new ()) policy⟩

/-- The same application over another medium. -/
def onMedium {S T : Type} (app : Application S) (medium : T) : Application T :=
  { store := ⟨medium, app.store.initialized, app.store.staging⟩
    keys := app.keys
    policy := app.policy
    tally := app.tally }

/-- Runs an action over a medium that is put together from a holding and the
surroundings, and takes it apart again. -/
def runOn {S α : Type} (b : Backend S) (medium : S)
    (takeApart : S → Holding × Surroundings)
    (act : {S : Type} → Backend S → StateM (Application S) α) (app : Application Unit) :
    α × Deployment × Surroundings :=
  let (answer, app) := act b (onMedium app medium)
  let (holding, around) := takeApart app.store.medium
  (answer, ⟨holding, onMedium app ()⟩, around)

/-- Runs an action that works over every medium. -/
def run {α : Type} (act : {S : Type} → Backend S → StateM (Application S) α)
    (deployment : Deployment) (around : Surroundings) : α × Deployment × Surroundings :=
  let app := deployment.application
  match deployment.holding with
  | .memory table => runOn Memory.backend table (fun table => (.memory table, around)) act app
  | .recording state =>
    runOn Recording.backend state (fun state => (.recording state, around)) act app
  | .keyStore handle =>
    runOn KeyStore.backend (handle, around.files)
      (fun (handle, files) => (.keyStore handle, { around with files })) act app
  | .rowStore handle =>
    runOn RowStore.backend (handle, around.files)
      (fun (handle, files) => (.rowStore handle, { around with files })) act app
  | .cache handle =>
    runOn (Cache.backend Cache.InProcess.client) (handle, around.cache)
      (fun (handle, cache) => (.cache handle, { around with cache })) act app
  | .server handle =>
    runOn (Cache.backend Cache.Network.client) (handle, around.network)
      (fun (handle, network) => (.server handle, { around with network })) act app
  | .ledger handle =>
    runOn (Ledger.backend (Ledger.Guarded.service Ledger.Book.service)) (handle, around.ledger)
      (fun (handle, ledger) => (.ledger handle, { around with ledger })) act app
  | .simulation handle book =>
    runOn (Ledger.backend Ledger.Book.service) (handle, book)
      (fun (handle, book) => (.simulation handle book, around)) act app

end Deployment

end Clearinghouse
