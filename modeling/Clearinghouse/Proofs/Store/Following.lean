/-
# Media that follow a table

Not every medium writes all changes of a flush or none, or says truly which of the two it was.
Of a medium that may break off it can still be asked that what it then shows is a table in
which the first changes were recorded, none or all of them maybe, and of the next one at most
its account was opened with nothing on it. Nor does every medium list all of its accounts; it
can still be asked that those it lists are there.
-/

import Clearinghouse.Proofs.Store.Calls

namespace Clearinghouse

namespace Table

/-- The table after a flush that failed. The first changes were recorded, from none of them to
all, and of the next one at most the account was opened. -/
inductive BrokenOff (table : Table) (changes : List Change) : Table → Prop
  | recorded {first last : List Change} (split : changes = first ++ last) :
      BrokenOff table changes (table.recordAll first)
  | opened {first last : List Change} {change : Change}
      (split : changes = first ++ change :: last) :
      BrokenOff table changes ((table.recordAll first).insert change.id 0)

variable {table later : Table} {id : AccountId} {balance : Balance} {changes : List Change}

/-- After changes an account has the balance it had or one that a change writes. -/
theorem getElem?_recordAll_cases (table : Table) (changes : List Change) (id : AccountId) :
    (table.recordAll changes)[id]? = table[id]? ∨
      ∃ change ∈ changes, change.id = id ∧
        (table.recordAll changes)[id]? = some change.balance := by
  rw [getElem?_recordAll]
  cases hlast : Change.last? changes id with
  | none => exact .inl rfl
  | some change =>
      obtain ⟨hmem, hid⟩ := Change.of_last?_eq_some hlast
      exact .inr ⟨change, hmem, hid, rfl⟩

theorem BrokenOff.untouched : table.BrokenOff changes table :=
  .recorded (List.nil_append changes).symm

/-- All changes may be there though the flush was reported as failed. -/
theorem BrokenOff.whole : table.BrokenOff changes (table.recordAll changes) :=
  .recorded (List.append_nil changes).symm

/-- A flush that failed left an account as it was, wrote a change to it or opened it. -/
theorem BrokenOff.getElem?_cases (broken : table.BrokenOff changes later) (id : AccountId) :
    later[id]? = table[id]? ∨ later[id]? = some 0 ∨
      ∃ change ∈ changes, change.id = id ∧ later[id]? = some change.balance := by
  have hrecorded : ∀ {first last : List Change}, changes = first ++ last →
      (table.recordAll first)[id]? = table[id]? ∨ (table.recordAll first)[id]? = some 0 ∨
        ∃ change ∈ changes, change.id = id ∧
          (table.recordAll first)[id]? = some change.balance := by
    intro first last split
    obtain hkept | ⟨done, hmem, hwritten⟩ := getElem?_recordAll_cases table first id
    · exact .inl hkept
    · exact .inr (.inr ⟨done, split ▸ List.mem_append_left _ hmem, hwritten⟩)
  cases broken with
  | recorded split => exact hrecorded split
  | @opened first last change split =>
      rw [Std.ExtTreeMap.getElem?_insert]
      split
      · exact .inr (.inl rfl)
      · exact hrecorded split

/-- Of a single change that failed nothing was recorded, or all, or its account was opened. -/
theorem BrokenOff.of_singleton {change : Change} (broken : table.BrokenOff [change] later) :
    later = table ∨ later = table.recordAll [change] ∨ later = table.insert change.id 0 := by
  cases broken with
  | @recorded first last split =>
      obtain ⟨rfl, -⟩ | ⟨rfl, -⟩ := List.append_eq_singleton_iff.mp split.symm
      · exact .inl rfl
      · exact .inr (.inl rfl)
  | @opened first last other split =>
      obtain ⟨rfl, hlast⟩ | ⟨-, hlast⟩ := List.append_eq_singleton_iff.mp split.symm
      · obtain ⟨rfl, -⟩ := List.cons.inj hlast
        exact .inr (.inr rfl)
      · cases hlast

theorem Admits.of_append {first last : List Change} (admits : table.Admits (first ++ last)) :
    table.Admits first where
  ascending := (List.pairwise_append.mp admits.ascending).1
  observed change hmem := admits.observed change (List.mem_append_left last hmem)

/-- What a table is made from holds the balances that it holds. -/
theorem exists_mem_of_tabulate {accounts : List Account}
    (held : (Store.tabulate accounts)[id]? = some balance) : ⟨id, balance⟩ ∈ accounts := by
  rw [tabulate_eq_recordAll] at held
  obtain hkept | ⟨change, hmem, rfl, hwritten⟩ := getElem?_recordAll_cases ∅
    (accounts.map fun account => ⟨account.id, none, account.balance⟩) id
  · rw [hkept, Std.ExtTreeMap.getElem?_empty] at held
    cases held
  · obtain ⟨account, haccount, rfl⟩ := List.mem_map.mp hmem
    rw [hwritten] at held
    cases held
    exact haccount

end Table

/-- A medium follows a table. It lists none but the accounts of the table, though perhaps not
all of them, it may come back empty when a store takes hold of it or lets go, and any call may
fail. -/
structure Backend.Follows {S : Type} (b : Backend S) (shows : S → Table → Prop) : Prop where
  connect : ∀ {m table}, shows m table →
    shows (b.connect m).2 table ∨ shows (b.connect m).2 ∅
  disconnect : ∀ {m table}, shows m table →
    shows (b.disconnect m).2 table ∨ shows (b.disconnect m).2 ∅
  load : ∀ {m table} (id : AccountId), shows m table → shows (b.load id m).2 table
  load_answer : ∀ {m table id answer}, shows m table → (b.load id m).1 = .ok answer →
    answer = table.account? id
  loadAll : ∀ {m table}, shows m table → shows (b.loadAll m).2 table
  loadAll_answer : ∀ {m table listed}, shows m table → (b.loadAll m).1 = .ok listed →
    ∀ account ∈ listed, table[account.id]? = some account.balance
  flush_done : ∀ {m table changes}, shows m table → table.Admits changes →
    (b.flush changes m).1 = .ok () → shows (b.flush changes m).2 (table.recordAll changes)
  flush_failed : ∀ {m table changes e}, shows m table → table.Admits changes →
    (b.flush changes m).1 = .error e →
    ∃ later, table.BrokenOff changes later ∧ shows (b.flush changes m).2 later

end Clearinghouse
