/-
# What a cache tells of its failures

A cache may break off in the middle of a commit, and then nobody knows what
landed. Its medium says so of every commit that fails, so there is nothing that
it could say wrongly.
-/

import Clearinghouse.Cache.Backend
import Clearinghouse.Cache.InProcess
import Clearinghouse.Proofs.Cache.Texts
import Clearinghouse.Proofs.Store.Settling

namespace Clearinghouse.Cache

section

variable {C K D : Type} {client : Client C K}

theorem connection_kept : Run.Along (Run.Kept id) (connection : Step (State K C) K) := by
  intro state
  rw [connection, Run.get_bind_apply]
  cases state.1.connection with
  | none => exact Run.Along.throw _ state
  | some connection => exact Run.Along.pure _ state

theorem run_eq_ok {α : Type} {failure : Failure → StoreError} {command : Command C α}
    {state state' : State K C} {a : α} (answered : run failure command state = (.ok a, state')) :
    state'.1 = state.1 ∧ command state.2 = (.ok a, state'.2) := by
  rw [run, Run.onPart_apply, Run.adapt_apply] at answered
  cases hrun : command state.2 with
  | mk answer cache =>
      rw [hrun] at answered
      cases answer with
      | error failure => cases answered
      | ok a =>
          cases answered
          exact ⟨rfl, rfl⟩

/-- What no lookup of a client changes, no load of the medium changes. -/
theorem load_kept {E : Type} (content : State K C → E)
    (kept : ∀ connection key state, content (state.1, (client.get connection key state.2).2) =
      content state) (account : AccountId) :
    Run.Along (Run.Kept content) ((backend client).load account) := by
  refine Run.Along.bind (fun state => Std.Refl.refl state) fun found => ?_
  apply Run.Along.bind (connection_kept.kept_of_id _)
  intro connection
  refine Run.Along.bind (fun state => kept connection _ state) fun found => ?_
  cases found with
  | none => exact Run.Along.pure _
  | some text => exact Run.Along.bind (fun state => Std.Refl.refl state) fun _ => Run.Along.pure _

/-- The texts that a flush of changes writes. -/
def writesOf (settings : Settings) (changes : List Change) : List (String × String) :=
  changes.map fun change => (settings.key change.id, encode ⟨change.id, change.balance⟩)

variable (client) in
/-- A flush fails without a connection, or it is a series of writes. -/
theorem flush_cases (changes : List Change) (state : State K C) :
    (∃ e, (backend client).flush changes state = (.error e, state)) ∨
      ∃ connection, (backend client).flush changes state =
        ((client.setAll connection (writesOf state.1.settings changes) state.2).1.mapError
            fun failure => .partialCommit "redis" none changes.length failure.message,
          (state.1, (client.setAll connection (writesOf state.1.settings changes) state.2).2)) := by
  have hflush : (backend client).flush changes state =
      (connection >>= fun connection =>
        run (fun failure => .partialCommit "redis" none changes.length failure.message)
          (client.setAll connection (writesOf state.1.settings changes))) state :=
    rfl
  have hsame := connection_kept state
  rw [hflush]
  cases hrun : (connection : Step (State K C) K) state with
  | mk answer state' =>
      rw [hrun] at hsame
      obtain rfl : state' = state := hsame
      cases answer with
      | error e =>
          rw [Run.bind_of_error hrun]
          exact .inl ⟨e, rfl⟩
      | ok connection =>
          rw [Run.bind_of_ok hrun, run, Run.onPart_apply, Run.adapt_apply]
          exact .inr ⟨connection, rfl⟩

theorem backend_candid {E : Type} (content : State K C → E)
    (kept : ∀ connection key state, content (state.1, (client.get connection key state.2).2) =
      content state) : (backend client).Candid content where
  load_content := load_kept content kept
  flush_content {state changes e} failed whole := by
    obtain ⟨e, hrun⟩ | ⟨connection, hrun⟩ := flush_cases client changes state
    · rw [hrun]
    · rw [hrun] at failed
      cases hanswer : (client.setAll connection (writesOf state.1.settings changes) state.2).1 with
      | ok =>
          rw [hanswer] at failed
          cases failed
      | error failure =>
          rw [hanswer] at failed
          cases failed
          exact absurd ⟨_, _, _, _, rfl⟩ whole

end

namespace InProcess

theorem ensureOn_kept : Run.Along (Run.Kept id) ensureOn := by
  intro cache
  rw [ensureOn, Run.get_bind_apply]
  split
  · exact Run.Along.throw _ cache
  · exact Run.Along.pure _ cache

theorem client_get_kept (connection : Unit) (key : String) :
    Run.Along (Run.Kept id) (client.get connection key) :=
  Run.Along.bind ensureOn_kept fun _ =>
    Run.Along.bind (fun cache => Std.Refl.refl cache) fun _ => Run.Along.pure _

theorem client_get_same (connection : Unit) (key : String) (cache : InProcess) :
    (client.get connection key cache).2 = cache :=
  client_get_kept connection key cache

theorem client_get_answer {connection : Unit} {key : String} {cache : InProcess}
    {found : Option String} (answered : (client.get connection key cache).1 = .ok found) :
    found = cache.entries[key]? := by
  obtain ⟨_, -, hfound⟩ := ensureOn_kept.exists_of_bind_ok answered
  exact (Except.ok.inj hfound).symm

theorem client_keys_kept (pattern : String) : Run.Along (Run.Kept id) (client.keys () pattern) :=
  Run.Along.bind ensureOn_kept fun _ =>
    Run.Along.bind (fun cache => Std.Refl.refl cache) fun _ => Run.Along.pure _

theorem client_getAll_kept (keys : List String) : Run.Along (Run.Kept id) (client.getAll () keys) :=
  Run.Along.bind ensureOn_kept fun _ =>
    Run.Along.bind (fun cache => Std.Refl.refl cache) fun _ => Run.Along.pure _

theorem entries_kept (settings : Settings) :
    Run.Along (Run.Kept id) (Cache.entries client settings ()) :=
  (client_keys_kept settings.pattern).bind fun _ =>
    (client_getAll_kept _).bind fun _ => Run.Along.pure _

/-- A command that leaves the cache alone leaves the connection alone too. -/
theorem run_kept {α : Type} {failure : Failure → StoreError} {command : Command InProcess α}
    (kept : Run.Along (Run.Kept id) command) :
    Run.Along (Run.Kept id) (run failure command : Step (State Unit InProcess) α) :=
  fun state => congrArg (state.1, ·) (kept state.2)

theorem loadAll_kept : Run.Along (Run.Kept id) (backend client).loadAll := by
  refine Run.Along.bind (fun state => Std.Refl.refl state) fun state => ?_
  refine connection_kept.bind fun _ => (run_kept (entries_kept _)).bind fun _ => ?_
  exact Run.Along.bind (fun state => Std.Refl.refl state) fun _ => Run.Along.pure _

/-- What an account of a cache holds; nothing if it has no text that can be read. -/
def total (settings : Settings) (entries : Std.ExtTreeMap String String) (id : AccountId) : Int :=
  match entries[settings.key id]? with
  | none => 0
  | some text => match decode (settings.key id) text with
    | .ok account => account.balance.toInt
    | .error _ => 0

/-- The entries after one change. -/
def record (settings : Settings) (entries : Std.ExtTreeMap String String) (change : Change) :
    Std.ExtTreeMap String String :=
  entries.insert (settings.key change.id) (encode ⟨change.id, change.balance⟩)

theorem total_record (settings : Settings) (entries : Std.ExtTreeMap String String)
    (change : Change) (id : AccountId) :
    total settings (record settings entries change) id =
      if change.id = id then change.balance.toInt else total settings entries id := by
  rw [total, record, Std.ExtTreeMap.getElem?_insert, total]
  by_cases hid : change.id = id
  · simp [hid, decode_encode]
  · have hkey : settings.key change.id ≠ settings.key id :=
      fun same => hid (settings.key_injective same)
    simp [hid, hkey]

/-- Writing the texts of changes is recording the changes. -/
theorem writeAll_writesOf (settings : Settings) (entries : Std.ExtTreeMap String String)
    (changes : List Change) :
    writeAll entries (writesOf settings changes) = changes.foldl (record settings) entries := by
  rw [writeAll, writesOf, List.foldl_map]
  rfl

theorem client_setAll (connection : Unit) (writes : List (String × String)) :
    client.setAll connection writes = setAll writes := rfl

/-- A series of writes lands in part, and always from its start. -/
theorem setAll_entries (writes : List (String × String)) (cache : InProcess) :
    ∃ count, (setAll writes cache).2.entries = writeAll cache.entries (writes.take count) := by
  have hnothing : ∃ count, cache.entries = writeAll cache.entries (writes.take count) := ⟨0, rfl⟩
  rw [setAll]
  cases hguard : ensureOn cache with
  | mk allowed cache' =>
      have hsame := ensureOn_kept cache
      rw [hguard] at hsame
      obtain rfl : cache' = cache := hsame
      cases allowed with
      | error failure =>
          rw [Run.bind_of_error hguard]
          exact hnothing
      | ok =>
          rw [Run.bind_of_ok hguard, Run.get_bind_apply]
          cases cache'.breakAfter with
          | none => exact ⟨writes.length, by rw [List.take_length]; rfl⟩
          | some limit =>
              refine ⟨limit, ?_⟩
              dsimp only
              rw [Run.set_bind_apply]
              split <;> rfl

/-- What is told of an account is what its key has, read as an account. -/
theorem eq_of_load {state : State Unit InProcess} {id : AccountId} {answer : Option Account}
    (answered : ((backend client).load id state).1 = .ok answer) :
    state.2.entries[state.1.settings.key id]?.map (decode (state.1.settings.key id)) =
      answer.map .ok := by
  obtain ⟨_, _, hget, hread⟩ := Run.exists_of_bind_ok answered
  cases hget
  obtain ⟨connection, -, hread⟩ := connection_kept.exists_of_bind_ok hread
  obtain ⟨found, state', hrun, hfound⟩ := Run.exists_of_bind_ok hread
  rw [← client_get_answer (congrArg Prod.fst (run_eq_ok hrun).2)]
  cases found with
  | none =>
      rw [← Except.ok.inj hfound]
      rfl
  | some text =>
      obtain ⟨account, _, hdecode, haccount⟩ := Run.exists_of_bind_ok hfound
      have hread : decode (state.1.settings.key id) text = .ok account := congrArg Prod.fst hdecode
      rw [← Except.ok.inj haccount, Option.map_some, Option.map_some, hread]

theorem backend_settles :
    (backend client).Settles fun state => total state.1.settings state.2.entries := by
  refine .of_writes (fun id state => ?_) (fun {id state answer} answered => ?_)
    fun state changes id => ?_
  · exact load_kept (fun state => total state.1.settings state.2.entries)
      (fun connection key state => by rw [client_get_same]) id state
  · have hread := eq_of_load answered
    rw [total]
    cases hvalue : state.2.entries[state.1.settings.key id]? with
    | none =>
        rw [hvalue, Option.map_none, eq_comm, Option.map_eq_none_iff] at hread
        rw [hread]
        rfl
    | some text =>
        rw [hvalue, Option.map_some, eq_comm, Option.map_eq_some_iff] at hread
        obtain ⟨account, rfl, hdecode⟩ := hread
        simp only [← hdecode, Option.map_some, Option.getD_some]
  · obtain ⟨e, hrun⟩ | ⟨connection, hrun⟩ := flush_cases client changes state
    · rw [hrun]
      exact .inl rfl
    · obtain ⟨count, hentries⟩ := setAll_entries (writesOf state.1.settings changes) state.2
      have htaken : (writesOf state.1.settings changes).take count =
          writesOf state.1.settings (changes.take count) := List.map_take.symm
      rw [htaken, writeAll_writesOf] at hentries
      obtain hkept | ⟨change, hmem, hid, hwritten⟩ :=
        Change.foldl_cases (total state.1.settings) (total_record state.1.settings)
          state.2.entries (changes.take count) id
      · rw [hrun, client_setAll, hentries]
        exact .inl hkept
      · rw [hrun, client_setAll, hentries]
        exact .inr ⟨change, List.mem_of_mem_take hmem, hid, hwritten⟩

end InProcess

end Clearinghouse.Cache
