/-
# Caches are resumed

A text that was written to a cache is found there until another one is written under its key.
So a cache in the same process, and a server where no failure is armed, is found by the next
store as the last one left it.
-/

import Clearinghouse.Proofs.Cache.Following
import Clearinghouse.Proofs.Cache.Steady
import Clearinghouse.Proofs.Store.Resuming

namespace Clearinghouse.Cache

/-! ## Clients -/

/-- Whatever is written to a calm cache, it is found there, also if more was to be written.
Nobody is kept from the cache by what is written. -/
structure Client.Remembers {C K : Type} (client : Client C K) (calm : C → Prop) : Prop
    extends client.Steady calm where
  found : ∀ {cache} connection writes key, calm cache →
    (client.get connection key (client.setAll connection writes cache).2).1 =
        (client.get connection key cache).1 ∨
      ∃ text, (key, text) ∈ writes ∧
        (client.get connection key (client.setAll connection writes cache).2).1 = .ok (some text)
  written : ∀ {cache connection writes}, calm cache →
    (client.setAll connection writes cache).1 = .ok () → ∀ entry ∈ writes,
    ∃ text, (entry.1, text) ∈ writes ∧
      (client.get connection entry.1 (client.setAll connection writes cache).2).1 = .ok (some text)
  connect_again : ∀ {cache} connection writes settings, calm cache →
    (client.connect settings (client.setAll connection writes cache).2).1 =
      (client.connect settings cache).1
  ping_again : ∀ {cache} connection writes, calm cache →
    (client.ping connection (client.setAll connection writes cache).2).1 =
      (client.ping connection cache).1

section

variable {C K : Type} {client : Client C K} {calm : C → Prop} {settings : Settings}
  {state : State K C}

/-- The store is connected to a calm cache, as it would be if it connected now. -/
def Connected (client : Client C K) (calm : C → Prop) (settings : Settings) (state : State K C) :
    Prop :=
  ∃ connection, state.1 = ⟨settings, some connection⟩ ∧
    (client.connect settings state.2).1 = .ok connection ∧
    (client.ping connection state.2).1 = .ok () ∧ calm state.2

theorem connect_of_ok (steady : client.Steady calm) {connection : K} {cache : C}
    (connects : (client.connect settings cache).1 = .ok connection)
    (lives : (client.ping connection cache).1 = .ok ()) (hcalm : calm cache)
    (earlier : Option K) :
    (backend client).connect (⟨settings, earlier⟩, cache) =
      (.ok (), (⟨settings, some connection⟩, cache)) := by
  have hconnect : client.connect settings cache = (.ok connection, cache) :=
    Prod.ext connects (steady.connect settings cache hcalm)
  have hping : client.ping connection cache = (.ok (), cache) :=
    Prod.ext lives (steady.ping connection cache hcalm)
  have hrun : ∀ {α : Type} {failure : Failure → StoreError} {command : Command C α} {a : α},
      command cache = (.ok a, cache) →
      run failure command (⟨settings, earlier⟩, cache) = (.ok a, (⟨settings, earlier⟩, cache)) := by
    intro α failure command a answered
    rw [run, Run.onPart_apply, Run.adapt_apply, answered]
    rfl
  exact (Run.get_bind_apply _ _).trans
    ((Run.bind_of_ok (hrun hconnect)).trans (Run.bind_of_ok (hrun hping)))

theorem connected_of_connect (steady : client.Steady calm) (hcalm : calm state.2)
    (connected : ((backend client).connect state).1 = .ok ()) :
    Connected client calm state.1.settings ((backend client).connect state).2 := by
  obtain ⟨⟨settings, earlier⟩, cache⟩ := state
  have hanswer : ((backend client).connect (⟨settings, earlier⟩, cache)).1 = _ :=
    congrArg Prod.fst (Run.get_bind_apply _ _)
  rw [hanswer] at connected
  obtain ⟨connection, ⟨handle, cache'⟩, hconnect, hrest⟩ := Run.exists_of_bind_ok connected
  obtain ⟨rfl, hconnects⟩ := run_eq_ok hconnect
  obtain rfl : cache' = cache := by
    have hkept := steady.connect settings cache hcalm
    rwa [hconnects] at hkept
  obtain ⟨_, ⟨handle, cache''⟩, hping, -⟩ := Run.exists_of_bind_ok hrest
  obtain ⟨rfl, hlives⟩ := run_eq_ok hping
  have hdone := connect_of_ok steady (congrArg Prod.fst hconnects) (congrArg Prod.fst hlives) hcalm
    earlier
  rw [hdone]
  exact ⟨connection, rfl, congrArg Prod.fst hconnects, congrArg Prod.fst hlives, hcalm⟩

/-- An account can be read if there is a text under its key that can be read. -/
theorem has_iff {connection : K} {cache : C} (id : AccountId) :
    (backend client).Has (⟨settings, some connection⟩, cache) id ↔
      ∃ text account, (client.get connection (settings.key id) cache).1 = .ok (some text) ∧
        decode (settings.key id) text = .ok account := by
  constructor
  · rintro ⟨account, answered⟩
    obtain ⟨_, _, hasked, answered⟩ := Run.exists_of_bind_ok answered
    cases hasked
    obtain ⟨_, hconnection, answered⟩ := connection_kept.exists_of_bind_ok answered
    cases hconnection
    obtain ⟨found, state', hrun, hfound⟩ := Run.exists_of_bind_ok answered
    have hget := congrArg Prod.fst (run_eq_ok hrun).2
    cases found with
    | none => cases hfound
    | some text =>
        obtain ⟨account, _, hdecode, -⟩ := Run.exists_of_bind_ok hfound
        exact ⟨text, account, hget, congrArg Prod.fst hdecode⟩
  · rintro ⟨text, account, hget, hread⟩
    have hrun : run (whileDoing "failed to get account") (client.get connection (settings.key id))
        (⟨settings, some connection⟩, cache) = (.ok (some text), (⟨settings, some connection⟩,
          (client.get connection (settings.key id) cache).2)) := by
      rw [run, Run.onPart_apply, Run.adapt_apply, hget]
      rfl
    have hconnection : Cache.connection (⟨settings, some connection⟩, cache) =
        (.ok connection, ((⟨settings, some connection⟩, cache) : State K C)) := rfl
    have hload : (backend client).load id (⟨settings, some connection⟩, cache) = _ :=
      (Run.get_bind_apply _ _).trans
        ((Run.bind_of_ok hconnection).trans (Run.bind_of_ok hrun))
    rw [Backend.Has, hload]
    exact ⟨account, congrArg Prod.fst (Run.bind_of_ok (congrArg (·, _) hread))⟩

theorem flush_of_connection (connection : K) (changes : List Change) (cache : C) :
    (backend client).flush changes (⟨settings, some connection⟩, cache) =
      ((client.setAll connection (writesOf settings changes) cache).1.mapError
          fun failure => .partialCommit "redis" none changes.length failure.message,
        (⟨settings, some connection⟩,
          (client.setAll connection (writesOf settings changes) cache).2)) := rfl

/-- The texts of accounts can be read back. -/
theorem exists_of_mem_writesOf {changes : List Change} {key text : String}
    (written : (key, text) ∈ writesOf settings changes) :
    ∃ account, decode key text = .ok account := by
  obtain ⟨change, -, hentry⟩ := List.mem_map.mp written
  obtain ⟨rfl, rfl⟩ := Prod.mk.inj hentry
  exact ⟨_, decode_encode _ _⟩

/-- A store finds a cache that remembers what was written as the last store left it. -/
theorem Client.Remembers.backend_resumes (remembers : client.Remembers calm) (settings : Settings) :
    (backend client).Resumes (fun state => (⟨settings, none⟩, state.2))
      (Connected client calm settings) where
  load id := by
    have hloads := remembers.backend_steady.load id
    exact fun state connected => hloads state connected.choose_spec.2.2.2
  loadAll := by
    have hloads := remembers.backend_steady.loadAll
    exact fun state connected => hloads state connected.choose_spec.2.2.2
  flush changes := by
    rintro ⟨_, cache⟩ ⟨connection, rfl, connects, lives, hcalm⟩
    rw [flush_of_connection]
    refine ⟨⟨connection, rfl, ?_, ?_, remembers.setAll connection _ cache hcalm⟩, fun id known => ?_⟩
    · exact (remembers.connect_again connection _ settings hcalm).trans connects
    · exact (remembers.ping_again connection _ hcalm).trans lives
    · obtain ⟨text, account, hget, hread⟩ := has_iff id |>.mp known
      refine has_iff id |>.mpr ?_
      obtain hsame | ⟨later, hmem, hfound⟩ :=
        remembers.found connection (writesOf settings changes) (settings.key id) hcalm
      · exact ⟨text, account, hsame.trans hget, hread⟩
      · obtain ⟨account, hread⟩ := exists_of_mem_writesOf hmem
        exact ⟨later, account, hfound, hread⟩
  written {changes state} := by
    obtain ⟨_, cache⟩ := state
    rintro ⟨connection, rfl, -, -, hcalm⟩ answered change named
    rw [flush_of_connection] at answered ⊢
    have hdone : (client.setAll connection (writesOf settings changes) cache).1 = .ok () := by
      cases hanswer : (client.setAll connection (writesOf settings changes) cache).1 with
      | ok => rfl
      | error failure =>
          rw [hanswer] at answered
          cases answered
    obtain ⟨text, hmem, hfound⟩ := remembers.written hcalm hdone _
      (List.mem_map_of_mem (f := fun change : Change =>
        (settings.key change.id, encode ⟨change.id, change.balance⟩)) named)
    obtain ⟨account, hread⟩ := exists_of_mem_writesOf hmem
    exact (has_iff change.id).mpr ⟨text, account, hfound, hread⟩
  disconnect _ := rfl
  connect {state} := by
    obtain ⟨_, cache⟩ := state
    rintro ⟨connection, rfl, connects, lives, hcalm⟩
    exact connect_of_ok remembers.toSteady connects lives hcalm none

end

/-! ## In the same process -/

namespace InProcess

/-- After a series of writes a key has what one of them wrote, if any of them names it. -/
theorem getElem?_writeAll (entries : Std.ExtTreeMap String String) (writes : List (String × String))
    (key : String) :
    ((∀ text, (key, text) ∉ writes) ∧ (writeAll entries writes)[key]? = entries[key]?) ∨
      ∃ text, (key, text) ∈ writes ∧ (writeAll entries writes)[key]? = some text := by
  induction writes generalizing entries with
  | nil => exact .inl ⟨fun _ => List.not_mem_nil, rfl⟩
  | cons first rest ih =>
      obtain ⟨written, value⟩ := first
      obtain ⟨habsent, hkept⟩ | ⟨text, hmem, hwritten⟩ := ih (entries.insert written value)
      · have hfirst : (writeAll entries ((written, value) :: rest))[key]? =
            (entries.insert written value)[key]? := hkept
        rw [hfirst, Std.ExtTreeMap.getElem?_insert]
        by_cases hkey : written = key
        · subst hkey
          exact .inr ⟨value, List.mem_cons_self, by simp⟩
        · refine .inl ⟨fun text hmem => ?_, by simp [hkey]⟩
          obtain hsame | hlater := List.mem_cons.mp hmem
          · exact hkey (Prod.mk.inj hsame).1.symm
          · exact habsent text hlater
      · exact .inr ⟨text, List.mem_cons_of_mem _ hmem, hwritten⟩

theorem client_get_apply (connection : Unit) (key : String) (cache : InProcess) :
    (client.get connection key cache).1 =
      if cache.isOff then .error .refused else .ok cache.entries[key]? := by
  have hget : client.get connection key cache = (ensureOn >>= fun _ =>
      (get >>= fun cache => pure cache.entries[key]? : Command InProcess (Option String))) cache := rfl
  cases hoff : cache.isOff with
  | true => rw [hget, ensureOn_bind_of_off hoff, if_pos rfl]
  | false =>
      rw [hget, ensureOn_bind hoff, if_neg Bool.false_ne_true]
      rfl

theorem ensureOn_answer {cache later : InProcess} (same : later.isOff = cache.isOff) :
    (ensureOn later).1 = (ensureOn cache).1 := by
  rw [ensureOn, Run.get_bind_apply, Run.get_bind_apply, same]
  cases cache.isOff <;> rfl

/-- Nothing that is written switches the cache off. -/
theorem setAll_isOff (writes : List (String × String)) :
    Run.Along (Run.Kept InProcess.isOff) (setAll writes) := by
  intro cache
  cases hoff : cache.isOff with
  | true => rw [setAll_of_off hoff]; rfl
  | false => rw [setAll_of_on hoff]; rfl

theorem client_remembers : client.Remembers fun _ => True where
  toSteady := client_steady
  found {cache} connection writes key _ := by
    have hoff : (setAll writes cache).2.isOff = cache.isOff := setAll_isOff writes cache
    obtain ⟨count, hentries⟩ := setAll_entries writes cache
    rw [client_setAll, client_get_apply, client_get_apply, hoff, hentries]
    cases cache.isOff with
    | true => exact .inl rfl
    | false =>
        obtain ⟨-, hkept⟩ | ⟨text, hmem, hwritten⟩ :=
          getElem?_writeAll cache.entries (writes.take count) key
        · exact .inl (congrArg Except.ok hkept)
        · exact .inr ⟨text, List.mem_of_mem_take hmem, congrArg Except.ok hwritten⟩
  written {cache connection writes} _ answered entry hmem := by
    have hoff : (setAll writes cache).2.isOff = cache.isOff := setAll_isOff writes cache
    have hon : cache.isOff = false := by
      obtain ⟨_, _, hguard, -⟩ := Run.exists_of_bind_ok answered
      rw [ensureOn, Run.get_bind_apply] at hguard
      cases hswitch : cache.isOff with
      | false => rfl
      | true =>
          rw [hswitch] at hguard
          cases hguard
    obtain ⟨-, hentries⟩ | ⟨failure, hfailed, -⟩ := setAll_cases writes cache
    · rw [client_setAll, client_get_apply, hoff, hon, hentries]
      obtain ⟨habsent, -⟩ | ⟨text, hnamed, hwritten⟩ := getElem?_writeAll cache.entries writes entry.1
      · exact absurd hmem (habsent entry.2)
      · exact ⟨text, hnamed, congrArg Except.ok hwritten⟩
    · rw [client_setAll, hfailed] at answered
      cases answered
  connect_again {cache} _ writes _ _ := ensureOn_answer (setAll_isOff writes cache)
  ping_again {cache} _ writes _ := ensureOn_answer (setAll_isOff writes cache)

end InProcess

/-! ## At the end of a connection -/

namespace Server

variable {server server' : Server} {connection : Connection}

/-- Two calm servers ask for the same password. -/
structure SamePassword (server server' : Server) : Prop where
  calm : server.Calm
  calm' : server'.Calm
  password : server'.password = server.password

theorem SamePassword.admits_iff (same : SamePassword server server') (connection : Connection) :
    server'.Admits connection ↔ server.Admits connection := by
  rw [Admits, Admits, same.password]

theorem enter_parallel (connection : Connection) (name : String) :
    Run.Parallel SamePassword (enter connection name) (enter connection name) := by
  refine Run.Parallel.intro fun {server server'} same => ?_
  rw [same.calm.enter, same.calm'.enter]
  exact ⟨by simp only [same.admits_iff], same⟩

theorem authenticate_parallel (password : String) :
    Run.Parallel SamePassword (authenticate password) (authenticate password) := by
  refine Run.Alike.bind (Run.Parallel.intro fun {server server'} same => ?_) fun _ =>
    Run.Parallel.intro fun {server server'} same => ?_
  · rw [same.calm.meet, same.calm'.meet]
    exact ⟨rfl, same⟩
  · rw [Run.get_bind_apply, Run.get_bind_apply, same.password]
    split <;> exact ⟨rfl, same⟩

theorem select_parallel (connection : Connection) (database : Int) :
    Run.Parallel SamePassword (select connection database) (select connection database) := by
  refine (enter_parallel connection _).bind fun _ => ?_
  split
  · exact Run.Alike.pure _
  · exact Run.Alike.throw _

/-- The server after a series of writes. -/
def writeAll (server : Server) (database : Nat) (writes : List (String × String)) : Server :=
  writes.foldl (fun server entry => server.write database entry.1 entry.2) server

theorem entries_writeAll (server : Server) (database : Nat) (writes : List (String × String)) :
    (server.writeAll database writes).entries database =
      InProcess.writeAll (server.entries database) writes := by
  induction writes generalizing server with
  | nil => rfl
  | cons first rest ih =>
      have hfirst : (server.write database first.1 first.2).entries database =
          (server.entries database).insert first.1 first.2 := by
        simp [write, entries]
      exact (ih _).trans (congrArg (InProcess.writeAll · rest) hfirst)

theorem samePassword_writeAll (calm : server.Calm) (database : Nat)
    (writes : List (String × String)) : SamePassword server (server.writeAll database writes) := by
  induction writes generalizing server with
  | nil => exact ⟨calm, calm, rfl⟩
  | cons first rest ih =>
      have hwritten : (server.write database first.1 first.2).Calm := calm
      obtain ⟨-, hcalm, hpassword⟩ := ih hwritten
      exact ⟨calm, hcalm, hpassword⟩

/-- A connection that may be used writes everything, another one writes nothing. -/
theorem Calm.setAll (calm : server.Calm) (connection : Connection) (writes : List (String × String)) :
    (server.Admits connection ∧ setAll connection writes server =
        (.ok (), server.writeAll connection.database writes)) ∨
      (¬ server.Admits connection ∧ (setAll connection writes server).2 = server ∧
        ((setAll connection writes server).1 = .ok () → writes = [])) := by
  by_cases hadmits : server.Admits connection
  · refine .inl ⟨hadmits, ?_⟩
    induction writes generalizing server with
    | nil => rfl
    | cons first rest ih =>
        have hentered := calm.enter connection "SET"
        rw [if_pos hadmits] at hentered
        rw [Server.setAll]
        dsimp only
        rw [hentered]
        have hwritten : (server.write connection.database first.1 first.2).Calm := calm
        exact ih hwritten hadmits
  · refine .inr ⟨hadmits, ?_⟩
    induction writes with
    | nil => exact ⟨rfl, fun _ => rfl⟩
    | cons first rest ih =>
        have hentered := calm.enter connection "SET"
        rw [if_neg hadmits] at hentered
        rw [Server.setAll]
        dsimp only
        rw [hentered]
        exact ⟨ih.1, nofun⟩

end Server

namespace Network

variable {network network' : Network} {α : Type}

/-- Two networks lead alike to calm servers that ask for the same password. -/
structure SameWay (network network' : Network) : Prop where
  server : network.server.SamePassword network'.server
  isConnected : network'.isConnected = network.isConnected

theorem onServer_parallel {command : Command Server α}
    (parallel : Run.Parallel Server.SamePassword command command) :
    Run.Parallel SameWay (onServer command) (onServer command) :=
  Run.Parallel.intro fun same =>
    have hagrees := parallel.agrees same.server trivial
    ⟨hagrees.1, hagrees.2, same.isConnected⟩

theorem connect_parallel (settings : Settings) :
    Run.Parallel SameWay (connect settings) (connect settings) := by
  refine Run.Alike.bind (Run.Parallel.intro fun same => ⟨rfl, same⟩) fun endpoint => ?_
  have hselects : ∀ connection : Server.Connection,
      Run.Parallel SameWay
        (if settings.database = 0 then pure connection
          else (onServer (Server.select connection settings.database)).adapt
            fun _ => Failure.databaseRefused)
        (if settings.database = 0 then pure connection
          else (onServer (Server.select connection settings.database)).adapt
            fun _ => Failure.databaseRefused) := by
    intro connection
    split
    · exact Run.Alike.pure _
    · exact (onServer_parallel (Server.select_parallel connection settings.database)).adapt _
  refine Run.Parallel.intro fun {network network'} same => ?_
  rw [Run.get_bind_apply, Run.get_bind_apply, same.isConnected]
  cases network.isConnected with
  | false => exact ⟨rfl, same⟩
  | true =>
      cases settings.password with
      | none => exact (hselects _).agrees same trivial
      | some password =>
          have hshows := (onServer_parallel (Server.authenticate_parallel password)).adapt
            fun _ => Failure.authenticationFailed
          exact (hshows.bind fun _ => hselects ⟨0, true⟩).agrees same trivial

/-- Writing changes neither the way to the server nor its password. -/
theorem sameWay_setAll (calm : network.Calm) (connection : Server.Connection)
    (writes : List (String × String)) :
    SameWay network (client.setAll connection writes network).2 := by
  refine ⟨?_, rfl⟩
  have hserver : (client.setAll connection writes network).2.server =
      (Server.setAll connection writes network.server).2 := rfl
  rw [hserver]
  obtain ⟨-, hdone⟩ | ⟨-, hkept, -⟩ := Server.Calm.setAll calm connection writes
  · rw [hdone]
    exact Server.samePassword_writeAll calm _ writes
  · rw [hkept]
    exact ⟨calm, calm, rfl⟩

theorem client_get_apply (calm : network.Calm) (connection : Server.Connection) (key : String) :
    (client.get connection key network).1 =
      if network.server.Admits connection then
        .ok (network.server.entries connection.database)[key]?
      else .error .authenticationRequired := by
  have hget : (client.get connection key network).1 = ((Server.enter connection "GET" >>= fun _ =>
      get >>= fun server => pure (server.read connection.database key) :
        Command Server (Option String)) network.server).1 := rfl
  have hentered := Server.Calm.enter calm connection "GET"
  rw [hget]
  by_cases hadmits : network.server.Admits connection
  · rw [if_pos hadmits] at hentered ⊢
    rw [Run.bind_of_ok hentered]
    rfl
  · rw [if_neg hadmits] at hentered ⊢
    rw [Run.bind_of_error hentered]

/-- A server remembers what was written. -/
theorem client_remembers : client.Remembers Calm where
  toSteady := client_steady
  found {network} connection writes key calm := by
    have hsame := sameWay_setAll calm connection writes
    rw [client_get_apply hsame.server.calm', client_get_apply calm]
    simp only [hsame.server.admits_iff]
    have hserver : (client.setAll connection writes network).2.server =
        (Server.setAll connection writes network.server).2 := rfl
    rw [hserver]
    obtain ⟨hadmits, hdone⟩ | ⟨hrefused, hkept, -⟩ :=
      Server.Calm.setAll calm connection writes
    · rw [hdone, if_pos hadmits, if_pos hadmits, Server.entries_writeAll]
      obtain ⟨-, hkept⟩ | ⟨text, hmem, hwritten⟩ := InProcess.getElem?_writeAll
        (network.server.entries connection.database) writes key
      · exact .inl (congrArg Except.ok hkept)
      · exact .inr ⟨text, hmem, congrArg Except.ok hwritten⟩
    · rw [hkept]
      exact .inl rfl
  written {network connection writes} calm answered entry hmem := by
    have hsame := sameWay_setAll calm connection writes
    rw [client_get_apply hsame.server.calm']
    simp only [hsame.server.admits_iff]
    have hserver : (client.setAll connection writes network).2.server =
        (Server.setAll connection writes network.server).2 := rfl
    rw [hserver]
    obtain ⟨hadmits, hdone⟩ | ⟨-, -, hnothing⟩ :=
      Server.Calm.setAll calm connection writes
    · rw [hdone, if_pos hadmits, Server.entries_writeAll]
      obtain ⟨habsent, -⟩ | ⟨text, hnamed, hwritten⟩ := InProcess.getElem?_writeAll
        (network.server.entries connection.database) writes entry.1
      · exact absurd hmem (habsent entry.2)
      · exact ⟨text, hnamed, congrArg Except.ok hwritten⟩
    · rw [hnothing answered] at hmem
      cases hmem
  connect_again {network} connection writes settings calm :=
    ((connect_parallel settings).agrees (sameWay_setAll calm connection writes) trivial).1.symm
  ping_again {network} connection writes calm :=
    ((onServer_parallel (Server.enter_parallel connection "PING")).agrees
      (sameWay_setAll calm connection writes) trivial).1.symm

end Network

end Clearinghouse.Cache
