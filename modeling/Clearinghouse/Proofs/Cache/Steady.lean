/-
# Caches that are not changed by being asked

A cache in the same process is not changed by reading texts and listing keys, and neither is a
server, unless a failure is armed there. Nothing that a store asks a server for arms one.
-/

import Clearinghouse.Cache.Server
import Clearinghouse.Proofs.Cache.Backend
import Clearinghouse.Proofs.Store.Steady

namespace Clearinghouse.Cache

/-! ## Clients -/

/-- As long as a cache is calm, a client that does not write leaves it as it is, and writing
leaves it calm. -/
structure Client.Steady {C K : Type} (client : Client C K) (calm : C → Prop) : Prop where
  connect : ∀ settings, Run.Along (Run.Untouched calm) (client.connect settings)
  ping : ∀ connection, Run.Along (Run.Untouched calm) (client.ping connection)
  get : ∀ connection key, Run.Along (Run.Untouched calm) (client.get connection key)
  keys : ∀ connection pattern, Run.Along (Run.Untouched calm) (client.keys connection pattern)
  getAll : ∀ connection keys, Run.Along (Run.Untouched calm) (client.getAll connection keys)
  setAll : ∀ connection writes, Run.Along (Run.Preserved calm) (client.setAll connection writes)

section

variable {C K α : Type} {client : Client C K} {calm : C → Prop}

theorem run_untouched {failure : Failure → StoreError} {command : Command C α}
    (untouched : Run.Along (Run.Untouched calm) command) :
    Run.Along (Run.Untouched fun state => calm state.2)
      (run failure command : Step (State K C) α) :=
  fun state hcalm => congrArg (state.1, ·) (untouched state.2 hcalm)

theorem Client.Steady.entries_untouched (steady : client.Steady calm) (settings : Settings)
    (connection : K) : Run.Along (Run.Untouched calm) (entries client settings connection) :=
  (steady.keys connection settings.pattern).bind fun _ =>
    (steady.getAll connection _).bind fun _ => Run.Along.pure _

/-- A store over such a cache does not change it by asking for accounts. -/
theorem Client.Steady.backend_steady (steady : client.Steady calm) :
    (backend client).Steady fun state => calm state.2 where
  connect := by
    refine Run.Along.bind (fun state => Std.Refl.refl state) fun state => ?_
    refine (run_untouched (steady.connect _)).preserved.bind fun connection => ?_
    exact (run_untouched (steady.ping connection)).preserved.bind fun _ _ hcalm => hcalm
  disconnect _ hcalm := hcalm
  load account := by
    refine Run.Along.bind (fun state => Std.Refl.refl state) fun state => ?_
    refine connection_kept.untouched.bind fun connection => ?_
    refine (run_untouched (steady.get connection _)).bind fun found => ?_
    cases found with
    | none => exact Run.Along.pure _
    | some text => exact Run.Along.bind (fun state => Std.Refl.refl state) fun _ => Run.Along.pure _
  loadAll := by
    refine Run.Along.bind (fun state => Std.Refl.refl state) fun state => ?_
    refine connection_kept.untouched.bind fun connection => ?_
    refine (run_untouched (steady.entries_untouched _ connection)).bind fun found => ?_
    exact Run.Along.bind (fun state => Std.Refl.refl state) fun _ => Run.Along.pure _
  flush changes state hcalm := by
    obtain ⟨e, hrun⟩ | ⟨connection, hrun⟩ := flush_cases client changes state
    · rwa [hrun]
    · rw [hrun]
      exact steady.setAll connection _ state.2 hcalm

end

/-! ## In the same process -/

namespace InProcess

theorem client_steady : client.Steady fun _ => True where
  connect _ := ensureOn_kept.untouched
  ping _ := ensureOn_kept.untouched
  get connection key := (client_get_kept connection key).untouched
  keys _ pattern := (client_keys_kept pattern).untouched
  getAll _ keys := (client_getAll_kept keys).untouched
  setAll _ _ _ _ := trivial

end InProcess

/-! ## At the end of a connection -/

namespace Server

/-- No failure is armed. -/
def Calm (server : Server) : Prop := server.fault = none

variable {server : Server} {α : Type}

theorem Calm.meet (calm : server.Calm) (name : String) :
    Server.meet name server = (.ok (), server) := by
  have hunarmed : ({ server with fault := none } : Server) = server := by
    rw [← show server.fault = none from calm]
  have hmeet : Server.meet name server = (.ok (), { server with fault := none }) := by
    rw [Server.meet, Run.get_bind_apply, show server.fault = none from calm]
    rfl
  rw [hmeet, hunarmed]

theorem meet_untouched (name : String) : Run.Along (Run.Untouched Calm) (meet name) :=
  fun server calm => by rw [Calm.meet calm]

/-- A connection may be used once it has shown the password, if there is one. -/
def Admits (server : Server) (connection : Connection) : Prop :=
  ¬ (server.password.isSome ∧ !connection.isAuthenticated)

instance (connection : Connection) : Decidable (server.Admits connection) :=
  inferInstanceAs (Decidable (¬ _))

/-- A command begins, or the connection has not shown the password. -/
theorem Calm.enter (calm : server.Calm) (connection : Connection) (name : String) :
    enter connection name server =
      (if server.Admits connection then .ok () else .error .authenticationRequired, server) := by
  rw [Server.enter, Run.get_bind_apply]
  by_cases hadmits : server.Admits connection
  · rw [if_neg hadmits, if_pos hadmits]
    exact calm.meet name
  · rw [if_pos (Decidable.not_not.mp hadmits), if_neg hadmits]
    rfl

theorem enter_untouched (connection : Connection) (name : String) :
    Run.Along (Run.Untouched Calm) (enter connection name) :=
  fun server calm => by rw [calm.enter]

theorem authenticate_untouched (password : String) :
    Run.Along (Run.Untouched Calm) (authenticate password) := by
  refine (meet_untouched _).bind fun _ => ?_
  refine Run.Along.bind (fun server => Std.Refl.refl server) fun server => ?_
  split
  · exact Run.Along.throw _
  · exact Run.Along.pure _

theorem select_untouched (connection : Connection) (database : Int) :
    Run.Along (Run.Untouched Calm) (select connection database) := by
  refine (enter_untouched connection _).bind fun _ => ?_
  split
  · exact Run.Along.pure _
  · exact Run.Along.throw _

theorem scanFrom_untouched (connection : Connection) (pattern : String) (pages : Nat)
    (isFirst : Bool) (offset : Nat) :
    Run.Along (Run.Untouched Calm) (scanFrom connection pattern isFirst offset pages) := by
  induction pages generalizing isFirst offset with
  | zero => exact Run.Along.pure _
  | succ pages ih =>
      intro server calm
      have hentered := enter_untouched connection "SCAN" server calm
      dsimp only [scanFrom]
      split
      · next failure server' hrun =>
          obtain rfl : server' = server := by rwa [hrun] at hentered
          split <;> rfl
      · next server' hrun =>
          obtain rfl : server' = server := by rwa [hrun] at hentered
          split
          · exact ih false _ server' calm
          · rfl

/-- Writing arms no failure. -/
theorem setAll_preserved (connection : Connection) (writes : List (String × String)) :
    Run.Along (Run.Preserved Calm) (setAll connection writes) := by
  induction writes with
  | nil => exact Run.Along.pure _
  | cons first rest ih =>
      intro server calm
      have hentered := enter_untouched connection "SET" server calm
      dsimp only [setAll]
      split
      · next server' hrun =>
          obtain rfl : server' = server := by rwa [hrun] at hentered
          exact ih (server'.write connection.database first.1 first.2) calm
      · next failure server' hrun =>
          obtain rfl : server' = server := by rwa [hrun] at hentered
          exact ih server' calm

end Server

namespace Network

variable {α : Type}

/-- The server can be asked, if there is a way to it. -/
def Calm (network : Network) : Prop := network.server.Calm

theorem onServer_untouched {command : Command Server α}
    (untouched : Run.Along (Run.Untouched Server.Calm) command) :
    Run.Along (Run.Untouched Calm) (onServer command) := by
  intro network calm
  have hserver := untouched network.server calm
  exact congrArg (fun server => ({ network with server } : Network)) hserver

theorem connect_untouched (settings : Settings) :
    Run.Along (Run.Untouched Calm) (connect settings) := by
  refine Run.Along.bind (fun network => Std.Refl.refl network) fun endpoint => ?_
  refine Run.Along.bind (fun network => Std.Refl.refl network) fun network => ?_
  have hselects : ∀ connection : Server.Connection, Run.Along (Run.Untouched Calm)
      (if settings.database = 0 then pure connection
        else (onServer (Server.select connection settings.database)).adapt
          fun _ => Failure.databaseRefused) := by
    intro connection
    split
    · exact Run.Along.pure _
    · exact onServer_untouched (Server.select_untouched connection settings.database)
  cases network.isConnected with
  | false => exact fun _ _ => rfl
  | true =>
      cases settings.password with
      | none => exact hselects _
      | some password =>
          exact Run.Along.bind (onServer_untouched (Server.authenticate_untouched password))
            fun _ => hselects _

theorem client_steady : client.Steady Calm where
  connect := connect_untouched
  ping connection := onServer_untouched (Server.enter_untouched connection _)
  get connection key := onServer_untouched <| (Server.enter_untouched connection _).bind fun _ =>
    Run.Along.bind (fun server => Std.Refl.refl server) fun _ => Run.Along.pure _
  keys connection pattern := onServer_untouched fun server =>
    Server.scanFrom_untouched connection pattern _ true 0 server
  getAll connection keys := by
    dsimp only [client]
    split
    · exact Run.Along.pure _
    · exact onServer_untouched <| (Server.enter_untouched connection _).bind fun _ =>
        Run.Along.bind (fun server => Std.Refl.refl server) fun _ => Run.Along.pure _
  setAll connection writes network calm :=
    Server.setAll_preserved connection writes network.server calm

end Network

end Clearinghouse.Cache
