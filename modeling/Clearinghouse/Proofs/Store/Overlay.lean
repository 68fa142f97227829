/-
# A transaction laid over the committed accounts

The staged accounts of a transaction are a lazily filled part of a full working
copy: laid over the committed table they show what the transaction sees. Two
facts about every entry make the overlay as good as the copy. An entry remembers
the committed balance, and an entry that was only read still holds it. Then the
changes handed down by a commit turn the committed table into the working copy.
-/

import Clearinghouse.Proofs.Tables

namespace Clearinghouse

namespace Table

/-- Changes are admissible for a table if they ascend strictly by identifier and
each of them was staged against the balance that the table holds. -/
structure Admits (table : Table) (changes : List Change) : Prop where
  ascending : changes.Pairwise fun first later => first.id < later.id
  observed : ∀ change ∈ changes, change.observed = table[change.id]?

/-- A single change is admissible if it was staged against the table. -/
theorem admits_singleton {table : Table} {change : Change}
    (observed : change.observed = table[change.id]?) : table.Admits [change] where
  ascending := List.pairwise_singleton _ _
  observed := by
    intro other hmem
    rwa [List.mem_singleton.mp hmem]

/-- Once the first change is recorded the others are still admissible. -/
theorem Admits.rest {table : Table} {change : Change} {rest : List Change}
    (admits : table.Admits (change :: rest)) : (table.record change).Admits rest where
  ascending := (List.pairwise_cons.mp admits.ascending).2
  observed := by
    intro later hmem
    have hother : change.id ≠ later.id :=
      UInt64.ne_of_lt ((List.pairwise_cons.mp admits.ascending).1 later hmem)
    rw [getElem?_record, if_neg hother]
    exact admits.observed later (List.mem_cons_of_mem change hmem)

end Table

namespace Staging

/-- What a transaction sees: its staged accounts over the committed ones. -/
def onto (staging : Staging) (table : Table) : Table :=
  staging.foldl (fun table id entry => table.insert id entry.balance) table

/-- The entries of a transaction are true to the committed table. -/
structure Faithful (staging : Staging) (table : Table) : Prop where
  /-- An entry remembers the committed balance, or that there is none. -/
  observed : ∀ {id : AccountId} {entry : Staged}, staging[id]? = some entry →
    entry.observed = table[id]?
  /-- An entry that was not written holds the committed balance. -/
  unwritten : ∀ {id : AccountId} {entry : Staged}, staging[id]? = some entry →
    entry.written = false → table[id]? = some entry.balance

variable {staging : Staging} {table : Table} {id : AccountId}

/-- The overlay as changes that write every entry. -/
private theorem onto_eq_recordAll :
    staging.onto table =
      table.recordAll (staging.toList.map fun (id, entry) =>
        ⟨id, entry.observed, entry.balance⟩) := by
  rw [onto, Std.ExtTreeMap.foldl_eq_foldl_toList, Table.recordAll, List.foldl_map]
  rfl

/-- A transaction sees an account as it is staged, and else as it is committed. -/
theorem getElem?_onto :
    (staging.onto table)[id]? = (staging[id]?.map (·.balance)).or table[id]? := by
  rw [onto_eq_recordAll]
  cases hid : staging[id]? with
  | none =>
      rw [Table.getElem?_recordAll_of_forall_ne]
      · simp
      · simp only [List.forall_mem_map]
        rintro ⟨other, entry⟩ hmem rfl
        simp [Std.ExtTreeMap.mem_toList_iff_getElem?_eq_some.mp hmem] at hid
  | some entry =>
      have hmem : (id, entry) ∈ staging.toList :=
        Std.ExtTreeMap.mem_toList_iff_getElem?_eq_some.mpr hid
      refine Table.getElem?_recordAll_of_agree ⟨id, entry.observed, entry.balance⟩
        (List.mem_map.mpr ⟨(id, entry), hmem, rfl⟩) ?_
      simp only [List.forall_mem_map]
      rintro ⟨other, later⟩ hlater rfl
      have hother := Std.ExtTreeMap.mem_toList_iff_getElem?_eq_some.mp hlater
      rw [Option.some_inj.mp (hother.symm.trans hid)]

@[simp]
theorem onto_empty : (∅ : Staging).onto table = table :=
  Std.ExtTreeMap.ext_getElem? fun id => by simp [getElem?_onto]

theorem faithful_empty : (∅ : Staging).Faithful table where
  observed := by simp
  unwritten := by simp

/-- To copy a committed account that is not staged yet changes nothing of what the
transaction sees. -/
theorem onto_insert_read {balance : Balance} (absent : staging[id]? = none)
    (committed : table[id]? = some balance) :
    onto (staging.insert id ⟨some balance, balance, false⟩) table = staging.onto table := by
  apply Std.ExtTreeMap.ext_getElem?
  intro other
  by_cases hid : id = other
  · subst other
    simp [getElem?_onto, absent, committed]
  · simp [getElem?_onto, Std.ExtTreeMap.getElem?_insert, hid]

theorem Faithful.insert_read {balance : Balance} (faithful : staging.Faithful table)
    (committed : table[id]? = some balance) :
    Faithful (staging.insert id ⟨some balance, balance, false⟩) table where
  observed := by
    intro other entry hentry
    by_cases hid : id = other
    · subst other
      obtain rfl : _ = entry := by simpa using hentry
      exact committed.symm
    · exact faithful.observed (by simpa [Std.ExtTreeMap.getElem?_insert, hid] using hentry)
  unwritten := by
    intro other entry hentry
    by_cases hid : id = other
    · subst other
      obtain rfl : _ = entry := by simpa using hentry
      exact fun _ => committed
    · exact faithful.unwritten (by simpa [Std.ExtTreeMap.getElem?_insert, hid] using hentry)

/-- The entry of an account after a write keeps the balance first observed. -/
theorem write_eq_insert (observed : Option Balance) (balance : Balance) :
    staging.write id observed balance =
      staging.insert id
        ⟨(staging[id]?.map (·.observed)).getD observed, balance, true⟩ := by
  unfold write
  cases staging[id]? <;> rfl

/-- After a write the transaction sees the balance written. -/
theorem onto_write (observed : Option Balance) (balance : Balance) :
    (staging.write id observed balance).onto table = (staging.onto table).insert id balance := by
  apply Std.ExtTreeMap.ext_getElem?
  intro other
  rw [write_eq_insert]
  by_cases hid : id = other
  · subst other
    simp [getElem?_onto]
  · simp [getElem?_onto, Std.ExtTreeMap.getElem?_insert, hid]

/-- A write against what the transaction sees keeps the overlay faithful: what is
seen of an account without an entry is its committed balance. -/
theorem Faithful.write (faithful : staging.Faithful table) (balance : Balance) :
    (staging.write id (staging.onto table)[id]? balance).Faithful table where
  observed := by
    intro other entry hentry
    rw [write_eq_insert] at hentry
    by_cases hid : id = other
    · subst other
      obtain rfl : _ = entry := by simpa using hentry
      cases hstaged : staging[id]? with
      | none => simp [getElem?_onto, hstaged]
      | some entry => simpa using faithful.observed hstaged
    · exact faithful.observed (by simpa [Std.ExtTreeMap.getElem?_insert, hid] using hentry)
  unwritten := by
    intro other entry hentry hunwritten
    rw [write_eq_insert] at hentry
    by_cases hid : id = other
    · subst other
      obtain rfl : _ = entry := by simpa using hentry
      cases hunwritten
    · exact faithful.unwritten
        (by simpa [Std.ExtTreeMap.getElem?_insert, hid] using hentry) hunwritten

/-- A commit hands down exactly the written entries. -/
theorem mem_changes {change : Change} :
    change ∈ staging.changes ↔ ∃ entry, staging[change.id]? = some entry ∧
      entry.written = true ∧ change = ⟨change.id, entry.observed, entry.balance⟩ := by
  simp only [changes, List.mem_filterMap, Prod.exists,
    Std.ExtTreeMap.mem_toList_iff_getElem?_eq_some, Option.ite_none_right_eq_some,
    Option.some_inj]
  constructor
  · rintro ⟨id, entry, hentry, hwritten, rfl⟩
    exact ⟨entry, hentry, hwritten, rfl⟩
  · rintro ⟨entry, hentry, hwritten, heq⟩
    exact ⟨change.id, entry, hentry, hwritten, heq.symm⟩

theorem changes_ascending (staging : Staging) :
    staging.changes.Pairwise fun first later => first.id < later.id := by
  rw [changes, List.pairwise_filterMap]
  apply staging.ordered_keys_toList.imp
  rintro ⟨first, _⟩ ⟨later, _⟩ hless change hchange change' hchange'
  simp only [Option.ite_none_right_eq_some, Option.some_inj] at hchange hchange'
  obtain ⟨-, rfl⟩ := hchange
  obtain ⟨-, rfl⟩ := hchange'
  exact Std.compare_eq_lt.mp hless

/-- What a commit hands down is admissible for the committed table. -/
theorem Faithful.admits_changes (faithful : staging.Faithful table) :
    table.Admits staging.changes where
  ascending := staging.changes_ascending
  observed := by
    intro change hmem
    obtain ⟨entry, hentry, -, heq⟩ := mem_changes.mp hmem
    rw [heq]
    exact faithful.observed hentry

/-- The changes of a commit turn the committed table into what the transaction
saw. -/
theorem Faithful.recordAll_changes (faithful : staging.Faithful table) :
    table.recordAll staging.changes = staging.onto table := by
  apply Std.ExtTreeMap.ext_getElem?
  intro id
  rw [getElem?_onto]
  -- Only a written entry has a change; an entry that was only read is harmless
  -- because it still holds the committed balance.
  by_cases hnamed : ∃ change ∈ staging.changes, change.id = id
  · obtain ⟨change, hmem, rfl⟩ := hnamed
    obtain ⟨entry, hentry, -, heq⟩ := mem_changes.mp hmem
    rw [Table.getElem?_recordAll_of_agree change hmem, hentry, heq]
    · rfl
    · intro other hother hsame
      obtain ⟨later, hlater, -, hother'⟩ := mem_changes.mp hother
      rw [hsame, hentry] at hlater
      rw [heq, hother', Option.some_inj.mp hlater]
  · rw [Table.getElem?_recordAll_of_forall_ne fun change hmem hid => hnamed ⟨change, hmem, hid⟩]
    cases hentry : staging[id]? with
    | none => rfl
    | some entry =>
        cases hwritten : entry.written with
        | true =>
            exact absurd ⟨⟨id, entry.observed, entry.balance⟩,
              mem_changes.mpr ⟨entry, hentry, hwritten, rfl⟩, rfl⟩ hnamed
        | false => simpa using faithful.unwritten hentry hwritten

/-- Without a change to hand down the transaction sees the committed table. -/
theorem Faithful.onto_of_changes_eq_nil (faithful : staging.Faithful table)
    (unchanged : staging.changes = []) : staging.onto table = table := by
  rw [← faithful.recordAll_changes, unchanged, Table.recordAll_nil]

end Staging

end Clearinghouse
