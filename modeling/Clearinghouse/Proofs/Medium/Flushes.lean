/-
# What a tree of keys has after its flushes

A store that has its tree to itself may flush one batch of changes after the other. Of every
account the tree then has what the last change of that account says, under a key of its own,
and it lists the accounts that were changed in ascending order of identifier.
-/

import Clearinghouse.Proofs.Medium.Resuming

namespace Clearinghouse

/-! ## Tables that changes made -/

namespace Table

variable {id : AccountId}

theorem account?_recordAll_empty (changes : List Change) :
    ((∅ : Table).recordAll changes).account? id =
      (Change.last? changes id).map fun change => ⟨id, change.balance⟩ := by
  rw [account?, getElem?_recordAll, Std.ExtTreeMap.getElem?_empty, Option.or_none, Option.map_map]
  rfl

/-- Changes of an empty table make the accounts that they name. -/
theorem exists_mem_accounts_recordAll_iff (changes : List Change) :
    (∃ account ∈ ((∅ : Table).recordAll changes).accounts, account.id = id) ↔
      ∃ change ∈ changes, change.id = id := by
  simp only [mem_accounts, getElem?_recordAll, Std.ExtTreeMap.getElem?_empty, Option.or_none,
    Option.map_eq_some_iff]
  constructor
  · rintro ⟨account, ⟨change, hlast, -⟩, rfl⟩
    exact ⟨change, Change.of_last?_eq_some hlast⟩
  · rintro ⟨change, named, rfl⟩
    cases hlast : Change.last? changes change.id with
    | none => exact absurd rfl (Change.last?_eq_none_iff.mp hlast change named)
    | some last => exact ⟨⟨change.id, last.balance⟩, ⟨last, hlast, rfl⟩, rfl⟩

end Table

namespace KeyStore

/-! ## Batches of changes -/

variable {state : State} {table : Table}

/-- What a store shows is what the tree at its path comes to. -/
theorem Shows.holds (shows : Shows state table) : Holds state table := by
  obtain ⟨-, found, stands, denotes⟩ := shows
  have hfound : treeOf state = found := by
    rw [treeOf, stands]
  rwa [Holds, hfound]

/-- Batches that are flushed one after the other are recorded as one. -/
theorem flushes_of_shows (shows : Shows state table) (flushes : List (List Change)) :
    ∃ later, flushes.forM backend.flush state = (.ok (), later) ∧
      Shows later (table.recordAll flushes.flatten) := by
  induction flushes generalizing state table with
  | nil => exact ⟨state, rfl, shows⟩
  | cons changes rest ih =>
      obtain ⟨next, hflush, hnext⟩ := flush_of_shows shows changes
      obtain ⟨later, hrest, hlater⟩ := ih hnext
      refine ⟨later, (Run.bind_of_ok hflush).trans hrest, ?_⟩
      rwa [List.flatten_cons, Table.recordAll, List.foldl_append]

/-- A store whose tree was empty finds no accounts. -/
theorem shows_of_connect (connected : (backend.connect state).1 = .ok ())
    (blank : treeOf state = ∅) : Shows (backend.connect state).2 ∅ := by
  obtain ⟨hhandle, found, hstands⟩ := holdsAt_of_connect connected
  have hpath : (backend.connect state).2.1.path = state.1.path := by rw [hhandle]
  rw [← hpath] at hstands
  have hfound : found = ∅ := by
    have hopened : treeOf (backend.connect state).2 = ∅ := (treeOf_connect state).trans blank
    rwa [treeOf, hstands] at hopened
  refine ⟨congrArg Handle.isHeld hhandle, found, hstands, ?_⟩
  rw [hfound]
  exact Layout.denotes_empty fun _ => Std.ExtTreeMap.getElem?_empty

/-- Keys stand in the order of the identifiers, and an account is read back from the bytes that
are written for it. So a store that found its tree empty and has flushed any batches of changes
has, under the key of every account, the bytes of the last change of it. It reads the account
as this change left it, or finds none if there was none, and lists each account that was
changed once, in ascending order. -/
theorem last_changes_are_read_in_order :
    (∀ first second : AccountId, key first < key second ↔ first < second) ∧
      (∀ account : Account, decode (encode account) = .ok account) ∧
      ∀ {state : State}, (backend.connect state).1 = .ok () → treeOf state = ∅ →
        ∀ flushes : List (List Change), ∃ later,
          flushes.forM backend.flush (backend.connect state).2 = (.ok (), later) ∧
          (∀ id, (treeOf later)[key id]? = (Change.last? flushes.flatten id).map
            fun change => encode ⟨id, change.balance⟩) ∧
          (∀ id, backend.load id later = (.ok ((Change.last? flushes.flatten id).map
            fun change => ⟨id, change.balance⟩), later)) ∧
          ∃ accounts, backend.loadAll later = (.ok accounts, later) ∧
            (accounts.Pairwise fun first second => first.id < second.id) ∧
            (∀ id, (∃ account ∈ accounts, account.id = id) ↔
              ∃ change ∈ flushes.flatten, change.id = id) ∧
            ∀ account ∈ accounts, backend.load account.id later = (.ok (some account), later) := by
  refine ⟨key_lt_key_iff, decode_encode, ?_⟩
  intro state connected blank flushes
  obtain ⟨later, hflushes, hshows⟩ := flushes_of_shows (shows_of_connect connected blank) flushes
  have hload : ∀ id, backend.load id later = (.ok ((Change.last? flushes.flatten id).map
      fun change => ⟨id, change.balance⟩), later) := by
    intro id
    rw [load_of_shows hshows, Table.account?_recordAll_empty]
  have hentry : ∀ id, (treeOf later)[key id]? = (Change.last? flushes.flatten id).map
      fun change => encode ⟨id, change.balance⟩ := by
    intro id
    apply (hshows.holds.held id).trans
    rw [Table.account?_recordAll_empty, Option.map_map]
    rfl
  have hread : ∀ account ∈ ((∅ : Table).recordAll flushes.flatten).accounts,
      backend.load account.id later = (.ok (some account), later) := by
    intro account listed
    rw [load_of_shows hshows, Table.account?, Table.mem_accounts.mp listed]
    rfl
  exact ⟨later, hflushes, hentry, hload, _, loadAll_of_shows hshows, Table.accounts_ascending _,
    fun id => Table.exists_mem_accounts_recordAll_iff flushes.flatten, hread⟩

/-- Three batches, one of them empty. The account that was made first comes between the others
and is left as its second change has it. -/
theorem three_batches_are_read_in_order :
    let state : State := (⟨"data/bank", false⟩, ∅)
    let flushes : List (List Change) :=
      [[⟨300, none, 1⟩, ⟨2, none, 5⟩], [], [⟨70000, none, 9⟩, ⟨300, some 1, -7⟩]]
    (backend.connect state).1 = .ok () ∧ treeOf state = ∅ ∧ ∃ later accounts,
      flushes.forM backend.flush (backend.connect state).2 = (.ok (), later) ∧
      backend.load 300 later = (.ok (some ⟨300, -7⟩), later) ∧
      backend.load 1 later = (.ok none, later) ∧
      backend.loadAll later = (.ok accounts, later) ∧
      (accounts.Pairwise fun first second => first.id < second.id) ∧
      ∀ id, (∃ account ∈ accounts, account.id = id) ↔ id = 300 ∨ id = 2 ∨ id = 70000 := by
  intro state flushes
  have hconnected : (backend.connect state).1 = .ok () := by decide +kernel
  have hblank : treeOf state = ∅ := rfl
  obtain ⟨later, hflushes, -, hload, accounts, hloadAll, hascending, hlisted, -⟩ :=
    last_changes_are_read_in_order.2.2 hconnected hblank flushes
  refine ⟨hconnected, hblank, later, accounts, hflushes, hload 300, hload 1, hloadAll,
    hascending, fun id => ?_⟩
  have hchanged : (∃ change ∈ flushes.flatten, change.id = id) ↔
      300 = id ∨ 2 = id ∨ 70000 = id ∨ 300 = id := by simp [flushes]
  rw [hlisted, hchanged]
  grind

end KeyStore

end Clearinghouse
