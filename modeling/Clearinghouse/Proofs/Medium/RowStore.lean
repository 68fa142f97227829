/-
# What a database of rows tells of its failures
-/

import Clearinghouse.Medium.RowStore
import Clearinghouse.Proofs.Steps
import Clearinghouse.Proofs.Store.Settling

namespace Clearinghouse.RowStore

theorem checkId_kept (account : AccountId) : Run.Along (Run.Kept id) (checkId account) := by
  unfold checkId
  split
  · exact Run.Along.throw _
  · exact Run.Along.pure _

theorem rows_kept : Run.Along (Run.Kept id) rows := by
  intro state
  unfold rows
  rw [Run.get_bind_apply]
  dsimp only
  split
  · exact Run.Along.throw _ state
  split
  · exact Run.Along.pure _ state
  · cases state.2[Path.parse state.1.path]? with
    | none => exact Run.Along.throw _ state
    | some node =>
        cases node with
        | rows table => exact Run.Along.pure _ state
        | directory | file _ | keys _ _ => exact Run.Along.throw _ state

theorem load_kept (account : AccountId) : Run.Along (Run.Kept id) (backend.load account) :=
  Run.Along.bind (checkId_kept account) fun _ => Run.Along.bind rows_kept fun _ => Run.Along.pure _

theorem loadAll_kept : Run.Along (Run.Kept id) backend.loadAll :=
  rows_kept.bind fun _ => Run.Along.pure _

/-- A flush fails and writes nothing, or it writes all of its changes. -/
theorem flush_cases (changes : List Change) (state : State) :
    (∃ e, backend.flush changes state = (.error e, state)) ∨
      ∃ table, rows state = (.ok table, state) ∧
        backend.flush changes state = (.ok (), (setRows (table.recordAll changes) state).2) := by
  have hsame := rows_kept state
  dsimp only [backend]
  cases hrun : rows state with
  | mk found state' =>
      rw [hrun] at hsame
      obtain rfl : state' = state := hsame
      cases found with
      | error e =>
          rw [Run.bind_of_error hrun]
          exact .inl ⟨e, rfl⟩
      | ok table =>
          rw [Run.bind_of_ok hrun]
          cases changes.find? fun change => maxId < change.id.toNat with
          | some change => exact .inl ⟨outOfRange change.id, rfl⟩
          | none => exact .inr ⟨table, rfl, rfl⟩

/-- Rows in memory and in files are written together or not at all. -/
theorem backend_candid : backend.Candid fun state => (state.1.rows, state.2) where
  load_content account state := by
    have hkept : (backend.load account state).2 = state := load_kept account state
    rw [hkept]
  flush_content {state changes e} failed _ := by
    obtain ⟨e, hrun⟩ | ⟨table, -, hrun⟩ := flush_cases changes state
    · rw [hrun]
    · rw [hrun] at failed
      cases failed

/-- The rows of the database, whether or not a store is connected to it. -/
def table (state : State) : Table :=
  if state.1.path = inMemory then state.1.rows
  else match state.2[Path.parse state.1.path]? with
    | some (.rows table) => table
    | _ => ∅

/-- What is read of a database is its table. -/
theorem eq_table_of_rows {state : State} {found : Table} (answered : (rows state).1 = .ok found) :
    found = table state := by
  unfold rows at answered
  rw [Run.get_bind_apply] at answered
  dsimp only at answered
  unfold table
  split at answered
  · cases answered
  split at answered
  · next hmemory =>
      rw [if_pos hmemory]
      exact (Except.ok.inj answered).symm
  · next hfile =>
      rw [if_neg hfile]
      cases hnode : state.2[Path.parse state.1.path]? with
      | none =>
          rw [hnode] at answered
          cases answered
      | some node =>
          rw [hnode] at answered
          cases node with
          | rows table => exact (Except.ok.inj answered).symm
          | directory | file _ | keys _ _ => cases answered

theorem table_setRows (rows : Table) (state : State) : table (setRows rows state).2 = rows := by
  rw [setRows, Run.modify_apply, table]
  by_cases hmemory : state.1.path = inMemory <;> simp [hmemory]

theorem backend_settles : backend.Settles fun state => (table state).total := by
  refine .of_writes (fun id state => ?_) (fun {id state answer} answered => ?_)
    fun state changes id => ?_
  · have hsame : (backend.load id state).2 = state := load_kept id state
    rw [hsame]
  · obtain ⟨_, -, hread⟩ := (checkId_kept id).exists_of_bind_ok answered
    obtain ⟨found, _, hrun, hfound⟩ := Run.exists_of_bind_ok hread
    rw [← Except.ok.inj hfound, ← eq_table_of_rows (congrArg Prod.fst hrun)]
    exact found.total_of_account? id
  · obtain ⟨e, hrun⟩ | ⟨found, hrows, hrun⟩ := flush_cases changes state
    · rw [hrun]
      exact .inl rfl
    · rw [hrun, table_setRows, eq_table_of_rows (congrArg Prod.fst hrows)]
      exact (table state).total_recordAll_cases changes id

end Clearinghouse.RowStore
