/-
# Tables, trees and rows follow a table

The media that write all changes of a flush or none follow a table whatever state their store
is in: the table in memory and that of the rehearsals, the tree of keys at the path of its
store, whoever holds it, and the rows of a database. A tree stays where it is when its store
comes and goes. Rows in memory and the table in memory do not.
-/

import Clearinghouse.Proofs.Medium.Mirroring
import Clearinghouse.Proofs.Medium.Recording
import Clearinghouse.Proofs.Store.Following

namespace Clearinghouse

theorem Memory.backend_follows : Memory.backend.Follows fun m table => m = table where
  connect _ := .inr rfl
  disconnect _ := .inr rfl
  load _ shows := shows
  load_answer := by
    rintro m _ id answer rfl answered
    exact (Except.ok.inj answered).symm
  loadAll shows := shows
  loadAll_answer := by
    rintro m _ listed rfl answered account hmem
    rw [← Except.ok.inj answered] at hmem
    exact Table.mem_accounts.mp hmem
  flush_done := by
    rintro m _ changes rfl - -
    rfl
  flush_failed _ _ failed := by cases failed

/-- A medium that keeps a table follows it. -/
theorem Backend.Keeps.follows {S : Type} {b : Backend S} {table : S → Table}
    (keeps : b.Keeps (fun _ => True) table)
    (connect : ∀ m, table (b.connect m).2 = table m)
    (disconnect : ∀ m, table (b.disconnect m).2 = table m) :
    b.Follows fun m found => table m = found where
  connect shows := .inl ((connect _).trans shows)
  disconnect shows := .inl ((disconnect _).trans shows)
  load id shows := (keeps.load_table id trivial).trans shows
  load_answer shows answered := shows ▸ keeps.load_answer trivial answered
  loadAll shows := (keeps.loadAll_table trivial).trans shows
  loadAll_answer shows answered account hmem :=
    shows ▸ (keeps.loadAll_answer trivial answered account).mp hmem
  flush_done := by
    rintro m _ changes rfl admits answered
    exact keeps.flush_done trivial admits answered
  flush_failed := by
    rintro m _ changes e rfl admits failed
    exact ⟨_, .untouched, keeps.flush_failed trivial admits failed⟩

theorem Recording.backend_follows :
    Recording.backend.Follows fun m table => m.table = table := by
  have hmeets : ∀ (call : Recording.Call) (m : Recording.State),
      (Recording.meet call m).2.table = m.table := by
    intro call m
    rw [Recording.meet, Run.get_bind_apply]
    dsimp only
    rw [Run.set_bind_apply]
    split <;> rfl
  exact Recording.backend_keeps.follows (hmeets .connect) (hmeets .disconnect)

namespace KeyStore

/-- The tree at the store's path comes to a table. -/
def Holds (state : State) (table : Table) : Prop :=
  layout.Denotes (fun k => (treeOf state)[k]?) table

/-- A tree that is there is not made anew. -/
theorem treeOf_connect (state : State) : treeOf (connect state).2 = treeOf state := by
  obtain ⟨handle, files⟩ := state
  have hopened : ∀ (files : Files) (tree : KeyTree),
      treeOf (⟨handle.path, true⟩, files.insert (Path.parse handle.path) (.keys tree true)) =
        tree := by
    intro files tree
    simp [treeOf]
  rw [connect, Run.get_bind_apply]
  dsimp only
  cases hnode : files[Path.parse handle.path]? with
  | none =>
      dsimp only
      cases files.makeDirectories (Path.parse handle.path) with
      | none => rfl
      | some made => exact (hopened made ∅).trans (by simp [treeOf, hnode])
  | some node =>
      cases node with
      | keys tree isHeld =>
          cases isHeld with
          | false =>
              refine (hopened files tree).trans ?_
              simp [treeOf, hnode]
          | true => rfl
      | directory | file _ | rows _ =>
          dsimp only
          cases files.makeDirectories (Path.parse handle.path) with
          | none => rfl
          | some made => exact (hopened made ∅).trans (by simp [treeOf, hnode])

theorem treeOf_release (state : State) : treeOf (release state) = treeOf state := by
  obtain ⟨handle, files⟩ := state
  unfold release
  dsimp only
  split
  · split
    · next tree isHeld hfound => simp [treeOf, hfound]
    · rfl
  · rfl

theorem backend_follows : backend.Follows Holds where
  connect {state table} holds := by
    refine .inl ?_
    rw [Holds, backend_connect, treeOf_connect]
    exact holds
  disconnect {state table} holds := by
    refine .inl ?_
    rw [Holds, backend_disconnect, treeOf_release]
    exact holds
  load {state table} id holds := by
    have hkept : (backend.load id state).2 = state := load_kept id state
    rwa [hkept]
  load_answer {state table id answer} holds answered := by
    have hread := eq_of_load answered
    rw [show (treeOf state)[key id]? = _ from holds.held id, Option.map_map,
      show decode ∘ layout.encode = Except.ok from funext decode_encode] at hread
    exact ((Option.map_inj_right fun _ _ => Except.ok.inj).mp hread).symm
  loadAll {state table} holds := by
    obtain ⟨e, hrun⟩ | hrun := loadAll_cases state <;> rwa [hrun]
  loadAll_answer {state table listed} holds answered := by
    obtain ⟨e, hrun⟩ | hrun := loadAll_cases state
    · rw [hrun] at answered
      cases answered
    · rw [hrun, values_of_denotes holds, decodeAll_encode] at answered
      rw [← Except.ok.inj answered]
      exact fun account => Table.mem_accounts.mp
  flush_done {state table changes} holds admits answered := by
    obtain ⟨e, hrun⟩ | hrun := flush_cases changes state
    · rw [hrun] at answered
      cases answered
    · rw [Holds, hrun, treeOf_put]
      exact Layout.Denotes.recordAll (fun tree k => tree[k]?) getElem?_record holds changes
  flush_failed {state table changes e} holds admits failed := by
    obtain ⟨e, hrun⟩ | hrun := flush_cases changes state
    · rw [hrun]
      exact ⟨table, .untouched, holds⟩
    · rw [hrun] at failed
      cases failed

end KeyStore

namespace RowStore

/-- To make directories leaves what stands elsewhere where it is. -/
theorem getElem?_makeDirectoriesFrom {above : Path} {names : List String} {files made : Files}
    (makes : files.makeDirectoriesFrom above names = some made) (path : Path) :
    made[path]? = files[path]? ∨ files[path]? = none ∧ made[path]? = some .directory := by
  induction names generalizing above files with
  | nil =>
      cases makes
      exact .inl rfl
  | cons name names ih =>
      rw [Files.makeDirectoriesFrom] at makes
      split at makes
      · exact ih makes
      split at makes
      · cases makes
      · next hfree =>
          have hinsert : ∀ node, (files.insert (above ++ [name]) node)[path]? =
              if above ++ [name] = path then some node else files[path]? := by
            intro node
            simp [Std.ExtTreeMap.getElem?_insert]
          have hlater := ih makes
          rw [hinsert] at hlater
          split at hlater
          · next hpath =>
              rw [← hpath] at hlater ⊢
              obtain hkept | ⟨habsent, -⟩ := hlater
              · exact .inr ⟨hfree, hkept⟩
              · cases habsent
          · exact hlater

/-- Of a database in a file the rows are those of its node. -/
theorem table_of_file {path : String} (file : path ≠ inMemory) (isConnected : Bool) (rows : Table)
    (files : Files) :
    table (⟨path, isConnected, rows⟩, files) = match files[Path.parse path]? with
      | some (.rows rows) => rows
      | _ => ∅ := if_neg file

/-- Rows in a file are kept where they are, and those in memory are given up. -/
theorem table_connect (state : State) :
    table (connect state).2 = table state ∨ table (connect state).2 = ∅ := by
  obtain ⟨⟨path, isConnected, rows⟩, files⟩ := state
  rw [connect, Run.get_bind_apply]
  dsimp only
  split
  · next hmemory => exact .inr (if_pos hmemory)
  · next hfile =>
      refine .inl ?_
      cases hmakes : files.makeDirectories (parentOf path) with
      | none => rfl
      | some made =>
          have hkept : table (⟨path, isConnected, rows⟩, made) =
              table (⟨path, isConnected, rows⟩, files) := by
            rw [table_of_file hfile, table_of_file hfile]
            obtain hsame | ⟨habsent, hmade⟩ :=
              getElem?_makeDirectoriesFrom hmakes (Path.parse path)
            · rw [hsame]
            · rw [habsent, hmade]
          have hcreated : table (⟨path, true, ∅⟩, made.insert (Path.parse path) (.rows ∅)) = ∅ := by
            rw [table_of_file hfile]
            simp
          have hmade := table_of_file hfile isConnected rows made
          dsimp only
          rw [Run.set_bind_apply, ← hkept]
          cases hnode : made[Path.parse path]? with
          | none =>
              rw [hnode] at hmade
              dsimp only
              split
              · rfl
              · exact hcreated.trans hmade.symm
          | some node =>
              rw [hnode] at hmade
              cases node with
              | rows found =>
                  refine (table_of_file hfile true ∅ made).trans ?_
                  rw [hnode, hmade]
              | file content =>
                  cases content with
                  | nil => exact hcreated.trans hmade.symm
                  | cons byte rest => rfl
              | directory | keys _ _ => rfl

theorem table_release (state : State) :
    table (release state) = table state ∨ table (release state) = ∅ := by
  unfold table release
  split
  · exact .inr rfl
  · exact .inl rfl

/-- What a store reads of its rows is the table of the database. -/
theorem rows_cases (state : State) :
    (∃ e, rows state = (.error e, state)) ∨ rows state = (.ok (table state), state) := by
  have hkept : (rows state).2 = state := rows_kept state
  cases hanswer : (rows state).1 with
  | error e => exact .inl ⟨e, Prod.ext hanswer hkept⟩
  | ok found =>
      rw [eq_table_of_rows hanswer] at hanswer
      exact .inr (Prod.ext hanswer hkept)

theorem backend_follows : backend.Follows fun state found => table state = found where
  connect := by
    rintro state _ rfl
    exact table_connect state
  disconnect := by
    rintro state _ rfl
    exact table_release state
  load {state found} id shows := by
    have hkept : (backend.load id state).2 = state := load_kept id state
    rwa [hkept]
  load_answer := by
    rintro state _ id answer rfl answered
    obtain ⟨_, -, answered⟩ := (checkId_kept id).exists_of_bind_ok answered
    obtain ⟨found, later, hrows, answered⟩ := Run.exists_of_bind_ok answered
    rw [← Except.ok.inj answered, eq_table_of_rows (congrArg Prod.fst hrows)]
  loadAll {state found} shows := by
    obtain ⟨e, hrun⟩ | hrun := rows_cases state
    · rwa [show backend.loadAll state = _ from Run.bind_of_error hrun]
    · rwa [show backend.loadAll state = _ from Run.bind_of_ok hrun]
  loadAll_answer := by
    rintro state _ listed rfl answered account hmem
    obtain ⟨found, later, hrows, answered⟩ := Run.exists_of_bind_ok answered
    rw [← Except.ok.inj answered, eq_table_of_rows (congrArg Prod.fst hrows)] at hmem
    exact Table.mem_accounts.mp hmem
  flush_done := by
    rintro state _ changes rfl - answered
    obtain ⟨e, hrun⟩ | ⟨found, hrows, hrun⟩ := flush_cases changes state
    · rw [hrun] at answered
      cases answered
    · rw [hrun, table_setRows, eq_table_of_rows (congrArg Prod.fst hrows)]
  flush_failed := by
    rintro state _ changes e rfl - failed
    obtain ⟨e, hrun⟩ | ⟨found, hrows, hrun⟩ := flush_cases changes state
    · rw [hrun]
      exact ⟨_, .untouched, rfl⟩
    · rw [hrun] at failed
      cases failed

end RowStore

end Clearinghouse
