/-
# Trees of keys and databases in files are resumed

A tree of keys that a store has given up, and a database in a file that it has disconnected
from, is found by the next store as it was left. An account that could be read once can be read
from then on, as what is written can be read back and nothing is ever taken away.
-/

import Clearinghouse.Proofs.Medium.Reopening
import Clearinghouse.Proofs.Store.Resuming

namespace Clearinghouse

/-! ## Trees of keys -/

namespace KeyStore

/-- The store holds the tree at a path. -/
def HoldsAt (path : String) (state : State) : Prop :=
  state.1 = ⟨path, true⟩ ∧ ∃ tree, state.2[Path.parse path]? = some (.keys tree true)

/-- A tree has an account that can be read. -/
def Knows (tree : KeyTree) (id : AccountId) : Prop :=
  ∃ bytes account, tree[key id]? = some bytes ∧ decode bytes = .ok account

theorem knows_record {tree : KeyTree} {change : Change} {id : AccountId}
    (known : change.id = id ∨ Knows tree id) : Knows (record tree change) id := by
  by_cases hid : change.id = id
  · subst hid
    refine ⟨encode ⟨change.id, change.balance⟩, _, ?_, decode_encode _⟩
    rw [getElem?_record]
    exact if_pos rfl
  · obtain ⟨bytes, account, hentry, hread⟩ := known.resolve_left hid
    refine ⟨bytes, account, ?_, hread⟩
    rw [getElem?_record]
    exact (if_neg fun hkey => hid (key_injective hkey)).trans hentry

variable {path : String} {state : State}

section

variable (holds : HoldsAt path state)
include holds

theorem HoldsAt.tree_eq : tree state = (.ok (treeOf state), state) := by
  obtain ⟨hhandle, found, stands⟩ := holds
  have hpath : state.1.path = path := congrArg Handle.path hhandle
  rw [← hpath] at stands
  have hfound : treeOf state = found := by
    rw [treeOf, stands]
  rw [hfound]
  exact tree_of_held (congrArg Handle.isHeld hhandle) stands

theorem HoldsAt.has_iff (id : AccountId) : backend.Has state id ↔ Knows (treeOf state) id := by
  constructor
  · rintro ⟨account, answered⟩
    obtain ⟨bytes, hentry, hread⟩ := Option.map_eq_some_iff.mp (eq_of_load answered)
    exact ⟨bytes, account, hentry, hread⟩
  · rintro ⟨bytes, account, hentry, hread⟩
    have hload : find id state = _ := Run.bind_of_ok holds.tree_eq
    rw [Backend.Has, backend_load, hload, hentry]
    exact ⟨account, congrArg Prod.fst (Run.bind_of_ok (congrArg (·, state) hread))⟩

/-- Everything is written to the tree that is held. -/
theorem HoldsAt.flush_eq (changes : List Change) :
    ∃ later, backend.flush changes state = (.ok (), later) ∧ HoldsAt path later ∧
      treeOf later = changes.foldl record (treeOf state) := by
  obtain ⟨hhandle, -⟩ := id holds
  have hpath : state.1.path = path := congrArg Handle.path hhandle
  rw [backend_flush]
  refine ⟨_, Run.bind_of_ok holds.tree_eq, ⟨hhandle, changes.foldl record (treeOf state), ?_⟩,
    treeOf_put _ state⟩
  rw [← hpath]
  exact Std.ExtTreeMap.getElem?_insert_self

end

/-- A connection that succeeds holds the tree. -/
theorem holdsAt_of_connect (connected : (backend.connect state).1 = .ok ()) :
    HoldsAt state.1.path (backend.connect state).2 := by
  obtain ⟨⟨path, isHeld⟩, files⟩ := state
  have hholds : ∀ (files : Files) (tree : KeyTree),
      HoldsAt path (⟨path, true⟩, files.insert (Path.parse path) (.keys tree true)) :=
    fun files tree => ⟨rfl, tree, Std.ExtTreeMap.getElem?_insert_self⟩
  have hrun : connect (⟨path, isHeld⟩, files) = _ := Run.get_bind_apply _ _
  rw [backend_connect, hrun] at connected ⊢
  dsimp only at connected ⊢
  cases hnode : files[Path.parse path]? with
  | none =>
      rw [hnode] at connected
      dsimp only at connected ⊢
      cases hmade : files.makeDirectories (Path.parse path) with
      | none =>
          rw [hmade] at connected
          cases connected
      | some made => exact hholds made ∅
  | some node =>
      rw [hnode] at connected
      cases node with
      | keys tree isHeld =>
          cases isHeld with
          | false => exact hholds files tree
          | true => cases connected
      | directory | file _ | rows _ =>
          dsimp only at connected ⊢
          cases hmade : files.makeDirectories (Path.parse path) with
          | none =>
              rw [hmade] at connected
              cases connected
          | some made => exact hholds made ∅

/-- A tree that was given up is held again as it was. -/
theorem backend_resumes (path : String) :
    backend.Resumes (fun state => (⟨path, false⟩, (release state).2)) (HoldsAt path) where
  load account := (load_kept account).untouched
  loadAll := loadAll_kept.untouched
  flush changes state holds := by
    obtain ⟨later, hflush, hlater, hwritten⟩ := holds.flush_eq changes
    rw [hflush]
    refine ⟨hlater, fun account known => ?_⟩
    rw [hlater.has_iff, hwritten]
    exact Change.foldl_knows Knows knows_record (.inl ((holds.has_iff account).mp known))
  written {changes state} holds _ change named := by
    obtain ⟨later, hflush, hlater, hwritten⟩ := holds.flush_eq changes
    rw [hflush, hlater.has_iff, hwritten]
    exact Change.foldl_knows Knows knows_record (.inr ⟨change, named, rfl⟩)
  disconnect state := by rw [backend_disconnect]
  connect {state} holds := by
    obtain ⟨⟨path, isHeld⟩, files⟩ := state
    obtain ⟨⟨⟩, found, stands⟩ := holds
    have hreleased : release (⟨path, true⟩, files) =
        (⟨path, false⟩, files.insert (Path.parse path) (.keys found false)) := by
      have hstands : files[Path.parse path]? = some (.keys found true) := stands
      simp [release, hstands]
    have hkept : (files.insert (Path.parse path) (.keys found false)).insert (Path.parse path)
        (.keys found true) = files := by
      refine Std.ExtTreeMap.ext_getElem? fun place => ?_
      rw [Std.ExtTreeMap.getElem?_insert, Std.ExtTreeMap.getElem?_insert]
      by_cases hplace : Path.parse path = place
      · subst hplace
        simpa using stands.symm
      · simp [hplace]
    have hfree : (files.insert (Path.parse path) (.keys found false))[Path.parse path]? =
        some (.keys found false) := Std.ExtTreeMap.getElem?_insert_self
    rw [backend_disconnect, backend_connect, hreleased]
    refine (Run.get_bind_apply _ _).trans ?_
    dsimp only [release]
    rw [if_neg Bool.false_ne_true]
    dsimp only
    rw [hfree]
    dsimp only
    rw [hkept]
    rfl

end KeyStore

/-! ## Databases in files -/

namespace RowStore

/-- The store is connected to the database at a path, which is below its directories. -/
structure ConnectedTo (path : String) (state : State) : Prop where
  handle : state.1 = ⟨path, true, ∅⟩
  directories : state.2.HasDirectories (parentOf path)
  stands : ∃ found, state.2[Path.parse path]? = some (.rows found)

theorem knows_record {table : Table} {change : Change} {id : AccountId}
    (known : change.id = id ∨ table[id]?.isSome) : (table.record change)[id]?.isSome := by
  rw [Table.getElem?_record]
  split
  · rfl
  · next hid => exact known.resolve_left hid

variable {path : String} {state : State}

section

variable (file : path ≠ inMemory) (connected : ConnectedTo path state)
include file connected

theorem ConnectedTo.shows : Shows state (table state) := by
  obtain ⟨⟨_, _, _⟩, files⟩ := state
  obtain ⟨⟨⟩, -, found, stands⟩ := connected
  have hstands : files[Path.parse path]? = some (.rows found) := stands
  simp [Shows, rows, table, Run.get_bind_apply, file, hstands]

theorem ConnectedTo.has_iff (id : AccountId) :
    backend.Has state id ↔ Keepable id ∧ (table state)[id]?.isSome := by
  by_cases hkeepable : Keepable id
  · have hload : backend.load id state = (.ok ((table state).account? id), state) :=
      (Run.bind_of_ok (checkId_of_keepable hkeepable state)).trans
        (Run.bind_of_ok (connected.shows file))
    rw [Backend.Has, hload, Table.account?, and_iff_right hkeepable]
    cases (table state)[id]? <;> simp
  · have hrefused : checkId id state = (.error (outOfRange id), state) := by
      rw [checkId, if_pos (Nat.not_le.mp hkeepable)]
      rfl
    have hload : backend.load id state = _ := Run.bind_of_error hrefused
    rw [Backend.Has, hload]
    simp [hkeepable]

/-- A flush leaves everything as it is, or all changes are in the database. -/
theorem ConnectedTo.flush_cases (changes : List Change) :
    (∃ e, backend.flush changes state = (.error e, state)) ∨
      ∃ later, backend.flush changes state = (.ok (), later) ∧ ConnectedTo path later ∧
        table later = (table state).recordAll changes := by
  obtain hfailed | ⟨found, hrows, hdone⟩ := RowStore.flush_cases changes state
  · exact .inl hfailed
  obtain rfl : found = table state := eq_table_of_rows (congrArg Prod.fst hrows)
  refine .inr ⟨_, hdone, ?_, table_setRows _ state⟩
  have hset : (setRows ((table state).recordAll changes) state).2 =
      (state.1, state.2.insert (Path.parse path) (.rows ((table state).recordAll changes))) := by
    obtain ⟨⟨_, _, _⟩, files⟩ := state
    obtain ⟨⟨⟩, -, -⟩ := connected
    rw [setRows, Run.modify_apply]
    exact if_neg file
  rw [hset]
  exact ⟨connected.handle, connected.directories.insert not_prefix_parentOf _, _,
    Std.ExtTreeMap.getElem?_insert_self⟩

end

/-- There is a row for every change that was written. -/
theorem keepable_of_flush {changes : List Change}
    (written : (backend.flush changes state).1 = .ok ()) : ∀ change ∈ changes, Keepable change.id := by
  obtain ⟨found, _, -, hanswer⟩ := Run.exists_of_bind_ok written
  cases hfind : changes.find? fun change => maxId < change.id.toNat with
  | some change =>
      rw [hfind] at hanswer
      cases hanswer
  | none =>
      intro change hmem
      have hsmall := List.find?_eq_none.mp hfind change hmem
      simpa [Keepable] using hsmall

/-- A connection that succeeds leads to the database. -/
theorem connectedTo_of_connect (file : state.1.path ≠ inMemory)
    (connected : (backend.connect state).1 = .ok ()) :
    ConnectedTo state.1.path (backend.connect state).2 := by
  have hplaced := placed_connect connected
  obtain ⟨_, found, files, -, hconnect, hstands, -⟩ := exists_of_connect file connected
  rw [hconnect] at hplaced ⊢
  exact ⟨rfl, hplaced.2 file, found, hstands⟩

/-- A database in a file is found as it was left. -/
theorem backend_resumes (file : path ≠ inMemory) :
    backend.Resumes (fun state => (⟨path, false, ∅⟩, state.2)) (ConnectedTo path) where
  load account := (load_kept account).untouched
  loadAll := loadAll_kept.untouched
  flush changes state connected := by
    obtain ⟨e, hfailed⟩ | ⟨later, hdone, hlater, hwritten⟩ := connected.flush_cases file changes
    · rw [hfailed]
      exact ⟨connected, fun _ => id⟩
    · rw [hdone]
      refine ⟨hlater, fun account known => ?_⟩
      rw [hlater.has_iff file, hwritten]
      obtain ⟨hkeepable, hthere⟩ := (connected.has_iff file account).mp known
      exact ⟨hkeepable, Change.foldl_knows (fun table id => table[id]?.isSome) knows_record
        (.inl hthere)⟩
  written {changes state} connected answered change named := by
    have hkeepable := keepable_of_flush answered change named
    obtain ⟨e, hfailed⟩ | ⟨later, hdone, hlater, hwritten⟩ := connected.flush_cases file changes
    · rw [hfailed] at answered
      cases answered
    · rw [hdone, hlater.has_iff file, hwritten]
      exact ⟨hkeepable, Change.foldl_knows (fun table id => table[id]?.isSome) knows_record
        (.inr ⟨change, named, rfl⟩)⟩
  disconnect _ := rfl
  connect {state} connected := by
    obtain ⟨handle, files⟩ := state
    obtain ⟨rfl, directories, found, stands⟩ := connected
    have hdirectories : files.makeDirectories (parentOf path) = some files :=
      directories.makeDirectories
    have hstands : files[Path.parse path]? = some (.rows found) := stands
    refine (Run.get_bind_apply _ _).trans ?_
    have hrelease : (backend.disconnect (⟨path, true, ∅⟩, files)).2 = (⟨path, false, ∅⟩, files) := rfl
    rw [hrelease]
    dsimp only
    rw [if_neg file, hdirectories]
    dsimp only
    rw [Run.set_bind_apply, hstands]
    rfl

end RowStore

end Clearinghouse
