/-
# What a tree of keys tells of its failures

On a disk that may fail a batch is taken in as a whole or not at all, but it may be reported
as failed though it was taken in. On a disk that never fails nothing is written unless
everything is, and that is reported.
-/

import Clearinghouse.Medium.KeyStore
import Clearinghouse.Proofs.Medium.Bytes
import Clearinghouse.Proofs.Store.Settling

namespace Clearinghouse.KeyStore

theorem tree_kept : Run.Along (Run.Kept id) tree := by
  intro state
  unfold tree
  rw [Run.get_bind_apply]
  dsimp only
  split
  · cases state.2[Path.parse state.1.path]? with
    | none => exact Run.Along.throw _ state
    | some node =>
        cases node with
        | keys tree isHeld => exact Run.Along.pure _ state
        | directory | file _ | rows _ => exact Run.Along.throw _ state
  · exact Run.Along.throw _ state

/-- The tree at the store's path, whether or not the store holds it. -/
def treeOf (state : State) : KeyTree :=
  match state.2[Path.parse state.1.path]? with
  | some (.keys tree _) => tree
  | _ => ∅

theorem eq_treeOf_of_tree {state : State} {found : KeyTree}
    (answered : (tree state).1 = .ok found) : found = treeOf state := by
  unfold tree at answered
  rw [Run.get_bind_apply] at answered
  dsimp only at answered
  unfold treeOf
  split at answered
  · cases hnode : state.2[Path.parse state.1.path]? with
    | none =>
        rw [hnode] at answered
        cases answered
    | some node =>
        rw [hnode] at answered
        cases node with
        | keys tree isHeld => exact (Except.ok.inj answered).symm
        | directory | file _ | rows _ => cases answered
  · cases answered

/-- What a store reads of its tree is the tree at its path. -/
theorem tree_cases (state : State) :
    (∃ e, tree state = (.error e, state)) ∨ tree state = (.ok (treeOf state), state) := by
  have hkept : (tree state).2 = state := tree_kept state
  cases hanswer : (tree state).1 with
  | error e => exact .inl ⟨e, Prod.ext hanswer hkept⟩
  | ok found =>
      rw [eq_treeOf_of_tree hanswer] at hanswer
      exact .inr (Prod.ext hanswer hkept)

theorem find_kept (account : AccountId) : Run.Along (Run.Kept id) (find account) := by
  apply Run.Along.bind tree_kept
  intro tree
  cases tree[key account]? with
  | none => exact Run.Along.pure _
  | some bytes => exact Run.Along.bind (fun state => Std.Refl.refl state) fun _ => Run.Along.pure _

theorem list_kept : Run.Along (Run.Kept id) list :=
  tree_kept.bind fun _ _ => rfl

/-! ## The tree and its disk -/

section

variable {D : Type} {disk : Disk D} {changes : List Change} {state : State × D}

/-- A load asks nothing of the disk. -/
theorem backendOn_load_kept (disk : Disk D) (id : AccountId) (state : State × D) :
    ((backendOn disk).load id state).2.1 = state.1 :=
  find_kept id state.1

/-- A store that does not hold its tree asks nothing of the disk. -/
theorem backendOn_flush_of_error {e : StoreError} (failed : tree state.1 = (.error e, state.1)) :
    (backendOn disk).flush changes state = (.error e, state) := by
  have htree : onTree tree state = (.error e, state) := by
    rw [onTree, Run.onPart_apply, failed]
  exact Run.bind_of_error htree

/-- A batch is shown once the disk has taken it in, whether or not it becomes durable. -/
theorem backendOn_flush_of_ok {found : KeyTree} (held : tree state.1 = (.ok found, state.1)) :
    (backendOn disk).flush changes state =
      match disk.write state.2 with
      | (.error text, later) => (.error (.medium "failed to apply batch" text), (state.1, later))
      | (.ok (), later) =>
        ((disk.sync later).1.mapError (.medium "failed to flush accounts tree"),
          ((put (changes.foldl record found) state.1).2, (disk.sync later).2)) := by
  have htree : onTree tree state = (.ok found, state) := by
    rw [onTree, Run.onPart_apply, held]
  refine (Run.bind_of_ok htree).trans ?_
  have hwrite : onDisk "failed to apply batch" disk.write state =
      ((disk.write state.2).1.mapError (.medium "failed to apply batch"),
        (state.1, (disk.write state.2).2)) := by
    rw [onDisk, Run.onPart_apply, Run.adapt_apply]
  rcases hanswer : disk.write state.2 with ⟨answer, later⟩
  rw [hanswer] at hwrite
  cases answer with
  | error text => exact Run.bind_of_error hwrite
  | ok =>
      refine (Run.bind_of_ok hwrite).trans ?_
      rfl

/-- The tree is given up, whether or not what was written becomes durable. -/
theorem backendOn_disconnect_state (disk : Disk D) (state : State × D) :
    ((backendOn disk).disconnect state).2.1 = release state.1 := by
  have hrun : (backendOn disk).disconnect state =
      (if state.1.1.isHeld then onDisk "failed to flush sled database" disk.sync else pure ())
        (release state.1, state.2) := rfl
  rw [hrun]
  split <;> rfl

end

theorem backend_load (id : AccountId) : backend.load id = find id := rfl

theorem backend_loadAll : backend.loadAll = list := rfl

theorem backend_connect : backend.connect = connect := rfl

theorem backend_disconnect (state : State) :
    backend.disconnect state = (.ok (), release state) := by
  have hrun : backend.disconnect state =
      (((backendOn .sound).disconnect (state, ())).1, release state) :=
    Prod.ext rfl (backendOn_disconnect_state .sound (state, ()))
  have hanswer : ((backendOn .sound).disconnect (state, ())).1 =
      ((if state.1.isHeld then onDisk "failed to flush sled database" Disk.sound.sync else pure ())
        (release state, ())).1 := rfl
  rw [hrun, hanswer]
  split <;> rfl

theorem backend_flush (changes : List Change) :
    backend.flush changes = tree >>= fun found => put (changes.foldl record found) := by
  funext state
  have hrun : backend.flush changes state =
      (((backendOn .sound).flush changes (state, ())).1,
        ((backendOn .sound).flush changes (state, ())).2.1) := rfl
  obtain ⟨e, htree⟩ | htree := tree_cases state
  · rw [hrun, Run.bind_of_error htree, backendOn_flush_of_error htree]
  · rw [hrun, Run.bind_of_ok htree, backendOn_flush_of_ok htree]
    rfl

/-- Batches are atomic on a disk that makes durable whatever it takes in. -/
def Disk.Atomic {D : Type} (disk : Disk D) : Prop :=
  ∀ state, (disk.write state).1 = .ok () → (disk.sync (disk.write state).2).1 = .ok ()

/-- Where batches are atomic nothing is written unless everything is. -/
theorem backendOn_candid {D : Type} {disk : Disk D} (atomic : disk.Atomic) :
    (backendOn disk).Candid Prod.fst where
  load_content := backendOn_load_kept disk
  flush_content {state changes e} failed _ := by
    obtain ⟨e, htree⟩ | htree := tree_cases state.1
    · rw [backendOn_flush_of_error htree]
    · rw [backendOn_flush_of_ok htree] at failed ⊢
      have hatomic := atomic state.2
      rcases hwrite : disk.write state.2 with ⟨taken, later⟩
      rw [hwrite] at hatomic failed
      cases taken with
      | error text => rfl
      | ok =>
          dsimp only at hatomic failed
          rw [hatomic rfl] at failed
          cases failed

theorem load_kept (account : AccountId) : Run.Along (Run.Kept id) (backend.load account) :=
  find_kept account

theorem loadAll_kept : Run.Along (Run.Kept id) backend.loadAll := list_kept

/-- What an account of a tree holds; nothing if it has no value that can be read. -/
def total (tree : KeyTree) (id : AccountId) : Int :=
  match tree[key id]? with
  | none => 0
  | some bytes => match decode bytes with
    | .ok account => account.balance.toInt
    | .error _ => 0

/-- What a store holds after putting a tree is that tree. -/
theorem treeOf_put (updated : KeyTree) (state : State) :
    treeOf (put updated state).2 = updated := by
  have hput : (put updated state).2 =
      (state.1, state.2.insert (Path.parse state.1.path) (.keys updated true)) := rfl
  rw [hput]
  simp [treeOf]

/-- All changes are written to the tree, or the store does not hold it. -/
theorem flush_cases (changes : List Change) (state : State) :
    (∃ e, backend.flush changes state = (.error e, state)) ∨
      backend.flush changes state = put (changes.foldl record (treeOf state)) state := by
  rw [backend_flush]
  obtain ⟨e, hrun⟩ | hrun := tree_cases state
  · exact .inl ⟨e, Run.bind_of_error hrun⟩
  · exact .inr (Run.bind_of_ok hrun)

/-- All accounts are listed, or the store does not hold its tree. -/
theorem loadAll_cases (state : State) :
    (∃ e, backend.loadAll state = (.error e, state)) ∨
      backend.loadAll state = (decodeAll ((treeOf state).toList.map Prod.snd), state) := by
  rw [backend_loadAll, list]
  obtain ⟨e, hrun⟩ | hrun := tree_cases state
  · exact .inl ⟨e, Run.bind_of_error hrun⟩
  · exact .inr (Run.bind_of_ok hrun)

/-- What is told of an account is what its key has, read as an account. -/
theorem eq_of_load {state : State} {id : AccountId} {answer : Option Account}
    (answered : (backend.load id state).1 = .ok answer) :
    (treeOf state)[key id]?.map decode = answer.map .ok := by
  obtain ⟨found, hrun, hfound⟩ := tree_kept.exists_of_bind_ok answered
  rw [← eq_treeOf_of_tree (congrArg Prod.fst hrun)]
  cases hvalue : found[key id]? with
  | none =>
      simp only [hvalue] at hfound
      rw [← Except.ok.inj hfound]
      rfl
  | some bytes =>
      simp only [hvalue] at hfound
      obtain ⟨account, _, hdecode, hanswer⟩ := Run.exists_of_bind_ok hfound
      have hread : decode bytes = .ok account := congrArg Prod.fst hdecode
      rw [← Except.ok.inj hanswer, Option.map_some, Option.map_some, hread]

theorem total_record (tree : KeyTree) (change : Change) (id : AccountId) :
    total (record tree change) id =
      if change.id = id then change.balance.toInt else total tree id := by
  rw [total, record, Std.ExtTreeMap.getElem?_insert, total]
  by_cases hid : change.id = id
  · simp [hid, decode_encode]
  · have hkey : key change.id ≠ key id := fun same => hid (key_injective same)
    simp [hid, hkey]

theorem backend_settles : backend.Settles fun state => total (treeOf state) := by
  refine .of_writes (fun id state => ?_) (fun {id state answer} answered => ?_)
    fun state changes id => ?_
  · have hsame : (backend.load id state).2 = state := load_kept id state
    rw [hsame]
  · have hread := eq_of_load answered
    rw [total]
    cases hvalue : (treeOf state)[key id]? with
    | none =>
        rw [hvalue, Option.map_none, eq_comm, Option.map_eq_none_iff] at hread
        rw [hread]
        rfl
    | some bytes =>
        rw [hvalue, Option.map_some, eq_comm, Option.map_eq_some_iff] at hread
        obtain ⟨account, rfl, hdecode⟩ := hread
        simp only [← hdecode, Option.map_some, Option.getD_some]
  · obtain ⟨e, hrun⟩ | hrun := flush_cases changes state
    · rw [hrun]
      exact .inl rfl
    · rw [hrun, treeOf_put]
      exact Change.foldl_cases total total_record (treeOf state) changes id

end Clearinghouse.KeyStore
