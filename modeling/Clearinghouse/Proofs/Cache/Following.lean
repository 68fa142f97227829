/-
# A cache follows a table

The texts of a cache in the same process come to a table whether or not a store is connected
and the cache is switched on. A series of writes that breaks leaves the writes before the
break, so the changes before some change have landed.
-/

import Clearinghouse.Proofs.Cache.Mirroring
import Clearinghouse.Proofs.Store.Following

namespace Clearinghouse.Cache.InProcess

/-- The texts of the cache under the keys of the store come to a table. -/
def Holds (state : State Unit InProcess) (table : Table) : Prop :=
  state.1.settings.layout.Denotes (fun key => state.2.entries[key]?) table

variable {state : State Unit InProcess} {table : Table}

/-- A series of writes lands, or breaks before one of its writes, or reaches no cache. -/
theorem setAll_cases (writes : List (String × String)) (cache : InProcess) :
    (setAll writes cache).1 = .ok () ∧
        (setAll writes cache).2.entries = writeAll cache.entries writes ∨
      ∃ failure, (setAll writes cache).1 = .error failure ∧
        ((setAll writes cache).2.entries = cache.entries ∨
          ∃ count < writes.length,
            (setAll writes cache).2.entries = writeAll cache.entries (writes.take count)) := by
  cases hoff : cache.isOff with
  | true =>
      rw [setAll_of_off hoff]
      exact .inr ⟨_, rfl, .inl rfl⟩
  | false =>
      rw [setAll_of_on hoff]
      by_cases hshort : cache.takes writes.length < writes.length
      · rw [if_pos hshort]
        exact .inr ⟨_, rfl, .inr ⟨_, hshort, rfl⟩⟩
      · rw [if_neg hshort, List.take_of_length_le (Nat.le_of_not_lt hshort)]
        exact .inl ⟨rfl, rfl⟩

/-- A cache that answers lists the keys of accounts with what they hold. -/
theorem entries_answer {settings : Settings} {cache : InProcess}
    {found : List (String × Option String)}
    (answered : (Cache.entries client settings () cache).1 = .ok found) :
    found = (accountKeys settings cache).map fun key => (key, cache.entries[key]?) := by
  cases hoff : cache.isOff with
  | true =>
      have hkeys : client.keys () settings.pattern cache = (.error .refused, cache) :=
        ensureOn_bind_of_off hoff _
      rw [Cache.entries, Run.bind_of_error hkeys] at answered
      cases answered
  | false =>
      rw [entries_apply hoff] at answered
      exact (Except.ok.inj answered).symm

/-- Writes of changes are recorded in the table. -/
theorem Holds.writeAll (holds : Holds state table) (changes : List Change) {cache : InProcess}
    (written : cache.entries = InProcess.writeAll state.2.entries
      (writesOf state.1.settings changes)) :
    Holds (state.1, cache) (table.recordAll changes) := by
  rw [Holds, written, writeAll_writesOf]
  exact Layout.Denotes.recordAll (fun entries k => entries[k]?)
    (getElem?_record state.1.settings) holds changes

/-- What is kept by every call but a flush. -/
theorem holds_of_kept {state' : State Unit InProcess}
    (kept : Run.Kept (fun state : State Unit InProcess => (state.1.settings, state.2.entries))
      state state') (holds : Holds state table) : Holds state' table := by
  obtain ⟨hsettings, hentries⟩ := Prod.mk.inj kept
  rwa [Holds, hsettings, hentries]

/-- To connect changes neither the settings nor the texts. -/
theorem connect_kept : Run.Along
    (Run.Kept fun state : State Unit InProcess => (state.1.settings, state.2.entries))
    (connect client) := by
  refine Run.Along.bind (fun state => Std.Refl.refl _) fun current => ?_
  refine Run.Along.bind ((run_kept ensureOn_kept).kept_of_id _) fun _ => ?_
  refine Run.Along.bind ((run_kept ensureOn_kept).kept_of_id _) fun _ => ?_
  exact fun state => rfl

theorem load_of_holds (holds : Holds state table) {id : AccountId} {answer : Option Account}
    (answered : ((backend client).load id state).1 = .ok answer) :
    answer = table.account? id := by
  have hread := eq_of_load answered
  rw [show state.2.entries[state.1.settings.key id]? = _ from holds.held id, Option.map_map,
    show decode (state.1.settings.key id) ∘ state.1.settings.layout.encode = Except.ok from
      funext (decode_encode _)] at hread
  exact ((Option.map_inj_right fun _ _ => Except.ok.inj).mp hread).symm

theorem loadAll_of_holds (holds : Holds state table) {listed : List Account}
    (answered : ((backend client).loadAll state).1 = .ok listed) :
    ∀ account ∈ listed, table[account.id]? = some account.balance := by
  obtain ⟨_, _, hget, answered⟩ := Run.exists_of_bind_ok answered
  cases hget
  obtain ⟨connection, -, answered⟩ := connection_kept.exists_of_bind_ok answered
  obtain ⟨found, state', hrun, answered⟩ := Run.exists_of_bind_ok answered
  obtain ⟨accounts, hlisting, hlisted⟩ := exists_listed holds
  have hfound : found = accounts.map fun account =>
      (state.1.settings.key account.id, some (encode account)) :=
    (entries_answer (congrArg Prod.fst (run_eq_ok hrun).2)).trans hlisting
  obtain ⟨read, _, hread, answered⟩ := Run.exists_of_bind_ok answered
  have hdecoded : decodeAll found = .ok read := congrArg Prod.fst hread
  rw [hfound, decodeAll_encode] at hdecoded
  rw [← Except.ok.inj answered, ← Except.ok.inj hdecoded]
  exact fun account hmem => (hlisted account).mp (List.mem_mergeSort.mp hmem)

theorem backend_follows : (backend client).Follows Holds where
  connect {state table} holds := .inl (holds_of_kept (connect_kept state) holds)
  disconnect holds := .inl holds
  load {state table} id holds := by
    have hkept : ((backend client).load id state).2 = state :=
      load_kept (fun state => state) (fun connection key state => by rw [client_get_same]) id state
    rwa [hkept]
  load_answer holds answered := load_of_holds holds answered
  loadAll {state table} holds := by
    have hkept : ((backend client).loadAll state).2 = state := loadAll_kept state
    rwa [hkept]
  loadAll_answer holds answered := loadAll_of_holds holds answered
  flush_done {state table changes} holds admits answered := by
    obtain ⟨e, hrun⟩ | ⟨connection, hrun⟩ := flush_cases client changes state
    · rw [hrun] at answered
      cases answered
    · rw [hrun, client_setAll] at answered ⊢
      obtain ⟨-, hwritten⟩ | ⟨failure, hfailed, -⟩ :=
        setAll_cases (writesOf state.1.settings changes) state.2
      · exact holds.writeAll changes hwritten
      · rw [hfailed] at answered
        cases answered
  flush_failed {state table changes e} holds admits failed := by
    obtain ⟨e, hrun⟩ | ⟨connection, hrun⟩ := flush_cases client changes state
    · rw [hrun]
      exact ⟨table, .untouched, holds⟩
    · rw [hrun, client_setAll] at failed ⊢
      obtain ⟨hdone, -⟩ | ⟨failure, -, huntouched | ⟨count, -, hwritten⟩⟩ :=
        setAll_cases (writesOf state.1.settings changes) state.2
      · rw [hdone] at failed
        cases failed
      · refine ⟨table, .untouched, ?_⟩
        rw [Holds, huntouched]
        exact holds
      · have htaken : (writesOf state.1.settings changes).take count =
            writesOf state.1.settings (changes.take count) := List.map_take.symm
        rw [htaken] at hwritten
        exact ⟨_, .recorded (List.take_append_drop count changes).symm,
          holds.writeAll (changes.take count) hwritten⟩

end Clearinghouse.Cache.InProcess
