/-
# Media that mirror a table

The table in memory is what other media are compared with. A tree of keys that a store holds
denotes a table, and a database of rows is one. A tree keeps accounts under all identifiers,
a database under those that a signed number can hold. None of them runs out of room.
-/

import Clearinghouse.Proofs.Medium.KeyStore
import Clearinghouse.Proofs.Medium.Layout
import Clearinghouse.Proofs.Medium.Ordering
import Clearinghouse.Proofs.Medium.RowStore
import Clearinghouse.Proofs.Store.Mirroring

namespace Clearinghouse

/-- Media that answer as a table does and never run out of room mirror it. -/
theorem Backend.Mirrors.of_answers {S : Type} {b : Backend S} {keeps : AccountId → Prop}
    {shows : S → Table → Prop} (load : ∀ {m table id}, shows m table → keeps id →
      (b.load id m).1 = .ok (table.account? id) ∧ shows (b.load id m).2 table)
    (loadAll : ∀ {m table}, shows m table → ∃ listed, (b.loadAll m).1 = .ok listed ∧
      (∀ account : Account, account ∈ listed ↔ table[account.id]? = some account.balance) ∧
      shows (b.loadAll m).2 table)
    (flush : ∀ {m table changes}, shows m table → table.Admits changes →
      (∀ change ∈ changes, keeps change.id) →
      (b.flush changes m).1 = .ok () ∧ shows (b.flush changes m).2 (table.recordAll changes)) :
    b.Mirrors keeps (fun _ => True) shows where
  connect _ := trivial
  load id := ⟨fun _ => trivial, fun hbefore _ => load hbefore.1 hbefore.2⟩
  loadAll := by
    refine ⟨fun _ => trivial, fun {m table} hshows _ => ?_⟩
    obtain ⟨listed, hanswer, hlisted, hkept⟩ := loadAll hshows
    rw [Run.map_apply, hanswer]
    exact ⟨congrArg Except.ok (Table.tabulate_eq_of_mem_iff hlisted), hkept⟩
  flush changes := ⟨fun _ => trivial, fun hbefore _ => flush hbefore.1 hbefore.2.1 hbefore.2.2⟩

namespace Memory

theorem backend_mirrors :
    backend.Mirrors (fun _ => True) (fun _ => True) fun m table => m = table := by
  refine .of_answers ?_ ?_ ?_
  · rintro m _ id rfl -
    exact ⟨rfl, rfl⟩
  · rintro m _ rfl
    exact ⟨m.accounts, rfl, fun _ => Table.mem_accounts, rfl⟩
  · rintro m _ changes rfl - -
    exact ⟨rfl, rfl⟩

end Memory

namespace KeyStore

/-- Accounts in a tree of keys. -/
def layout : Layout (List UInt8) (List UInt8) where
  key := key
  encode := encode
  key_injective _ _ same := key_injective same
  encode_injective account other same := by
    have hdecoded := decode_encode account
    rw [same, decode_encode] at hdecoded
    exact (Except.ok.inj hdecoded).symm

theorem getElem?_record (tree : KeyTree) (change : Change) (k : List UInt8) :
    (record tree change)[k]? =
      if layout.key change.id = k then some (layout.encode ⟨change.id, change.balance⟩)
      else tree[k]? := by
  rw [record, Std.ExtTreeMap.getElem?_insert]
  simp only [Std.compare_eq_iff_eq]
  rfl

/-- The store holds a tree that denotes the table. -/
def Shows (state : State) (table : Table) : Prop :=
  state.1.isHeld = true ∧ ∃ tree : KeyTree,
    state.2[Path.parse state.1.path]? = some (.keys tree true) ∧
      layout.Denotes (fun k => tree[k]?) table

theorem tree_of_held {state : State} (held : state.1.isHeld = true) {found : KeyTree}
    (stands : state.2[Path.parse state.1.path]? = some (.keys found true)) :
    tree state = (.ok found, state) := by
  unfold tree
  rw [Run.get_bind_apply]
  dsimp only
  rw [if_pos held, stands]
  rfl

/-- Values are read back one by one. -/
theorem decodeAll_encode (accounts : List Account) :
    decodeAll (accounts.map encode) = .ok accounts := by
  induction accounts with
  | nil => rfl
  | cons account rest ih =>
      rw [List.map_cons, decodeAll, decode_encode, ih]
      rfl

/-- A tree that comes to a table has its accounts in the order of the table. -/
theorem values_of_denotes {tree : KeyTree} {table : Table}
    (denotes : layout.Denotes (fun k => tree[k]?) table) :
    tree.toList.map Prod.snd = table.accounts.map encode := by
  obtain ⟨accounts, hfound, hlisted⟩ := denotes.exists_accounts tree.toList
    fun _ _ => Std.ExtTreeMap.mem_toList_iff_getElem?_eq_some
  have hordered := tree.ordered_keys_toList
  rw [← hfound, List.pairwise_map] at hordered
  have hascending : accounts.Pairwise fun first later => first.id < later.id := by
    apply hordered.imp
    intro first later before
    rwa [← key_lt_key_iff, ← compare_eq_lt_iff]
  rw [← Table.eq_accounts_of_ascending hascending hlisted, ← hfound, List.map_map]
  rfl

variable {state : State} {table : Table}

theorem load_of_shows (shows : Shows state table) (id : AccountId) :
    backend.load id state = (.ok (table.account? id), state) := by
  obtain ⟨held, found, stands, denotes⟩ := shows
  have hentry : found[key id]? = (table.account? id).map encode := denotes.held id
  rw [backend_load, find]
  apply (Run.bind_of_ok (tree_of_held held stands)).trans
  rw [hentry]
  cases table.account? id with
  | none => rfl
  | some account => exact Run.bind_of_ok (congrArg (·, state) (decode_encode account))

theorem loadAll_of_shows (shows : Shows state table) :
    backend.loadAll state = (.ok table.accounts, state) := by
  obtain ⟨held, found, stands, denotes⟩ := shows
  rw [backend_loadAll, list]
  apply (Run.bind_of_ok (tree_of_held held stands)).trans
  rw [values_of_denotes denotes, decodeAll_encode]
  rfl

/-- Changes are written to the tree as they are recorded in the table. -/
theorem flush_of_shows (shows : Shows state table) (changes : List Change) :
    ∃ later, backend.flush changes state = (.ok (), later) ∧
      Shows later (table.recordAll changes) := by
  obtain ⟨held, found, stands, denotes⟩ := shows
  rw [backend_flush]
  refine ⟨_, Run.bind_of_ok (tree_of_held held stands), held, changes.foldl record found,
    Std.ExtTreeMap.getElem?_insert_self, ?_⟩
  exact Layout.Denotes.recordAll (fun tree k => tree[k]?) getElem?_record denotes changes

theorem backend_mirrors : backend.Mirrors (fun _ => True) (fun _ => True) Shows := by
  refine .of_answers ?_ ?_ ?_
  · intro state table id shows _
    rw [load_of_shows shows]
    exact ⟨rfl, shows⟩
  · intro state table shows
    rw [loadAll_of_shows shows]
    exact ⟨table.accounts, rfl, fun _ => Table.mem_accounts, shows⟩
  · intro state table changes shows _ _
    obtain ⟨later, hflush, hlater⟩ := flush_of_shows shows changes
    rw [hflush]
    exact ⟨rfl, hlater⟩

end KeyStore

namespace RowStore

/-- The store is connected to a database with these rows. -/
def Shows (state : State) (table : Table) : Prop := rows state = (.ok table, state)

/-- An identifier that rows can be kept under. -/
def Keepable (id : AccountId) : Prop := id.toNat ≤ maxId

instance : DecidablePred Keepable := fun id => inferInstanceAs (Decidable (id.toNat ≤ maxId))

theorem checkId_of_keepable {id : AccountId} (keepable : Keepable id) (state : State) :
    checkId id state = (.ok (), state) := by
  rw [checkId, if_neg (Nat.not_lt.mpr keepable)]
  rfl

/-- Rows that were put in place of others are found. -/
theorem Shows.setRows {state : State} {table : Table} (shows : Shows state table)
    (later : Table) : Shows (setRows later state).2 later := by
  have hconnected : state.1.isConnected = true := by
    cases hconnected : state.1.isConnected with
    | true => rfl
    | false =>
        simp only [Shows, rows, Run.get_bind_apply, hconnected] at shows
        cases shows
  unfold Shows rows
  rw [RowStore.setRows, Run.modify_apply, Run.get_bind_apply]
  by_cases hmemory : state.1.path = inMemory <;> simp [hconnected, hmemory]

theorem backend_mirrors : backend.Mirrors Keepable (fun _ => True) Shows := by
  refine .of_answers ?_ ?_ ?_
  · intro state table id shows keepable
    have hload : backend.load id state = (.ok (table.account? id), state) :=
      (Run.bind_of_ok (checkId_of_keepable keepable state)).trans (Run.bind_of_ok shows)
    rw [hload]
    exact ⟨rfl, shows⟩
  · intro state table shows
    have hloadAll : backend.loadAll state = (.ok table.accounts, state) := Run.bind_of_ok shows
    rw [hloadAll]
    exact ⟨table.accounts, rfl, fun _ => Table.mem_accounts, shows⟩
  · intro state table changes shows _ keepable
    have hsmall : (changes.find? fun change => maxId < change.id.toNat) = none := by
      rw [List.find?_eq_none]
      intro change hmem
      have hkept : change.id.toNat ≤ maxId := keepable change hmem
      simpa using hkept
    have hflush : backend.flush changes state =
        (.ok (), (setRows (table.recordAll changes) state).2) := by
      refine (Run.bind_of_ok shows).trans ?_
      rw [hsmall]
      rfl
    rw [hflush]
    exact ⟨rfl, shows.setRows _⟩

end RowStore

end Clearinghouse
