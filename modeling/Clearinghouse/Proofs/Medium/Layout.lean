/-
# Accounts as values under keys

Some media know nothing of accounts: they keep values under keys. A layout says what the key
of an account is and what is written under it. Entries denote a table if the value of every
account is found under its key and nothing else is there. To record a change in the entries
is then to record it in the table, and a list of all entries is one of all accounts.
-/

import Clearinghouse.Proofs.Tables
import Mathlib.Data.Set.List

namespace Clearinghouse

/-- Where an account is kept and how it is written. Keys tell accounts apart, and so do
values. -/
structure Layout (K V : Type) where
  key : AccountId → K
  encode : Account → V
  key_injective : Function.Injective key
  encode_injective : Function.Injective encode

namespace Layout

variable {K V M : Type} {layout : Layout K V} {entries : K → Option V} {table : Table}

/-- The entries hold the accounts of a table and nothing else. -/
structure Denotes (layout : Layout K V) (entries : K → Option V) (table : Table) : Prop where
  held : ∀ id, entries (layout.key id) = (table.account? id).map layout.encode
  keyed : ∀ {k v}, entries k = some v → ∃ id, k = layout.key id

theorem denotes_empty (absent : ∀ k, entries k = none) : layout.Denotes entries ∅ where
  held id := by
    rw [absent, Table.account?]
    simp
  keyed {k v} hentry := by
    rw [absent] at hentry
    cases hentry

/-- Every entry is the value of an account under its key. -/
theorem Denotes.eq_some_iff (denotes : layout.Denotes entries table) {k : K} {v : V} :
    entries k = some v ↔ ∃ account : Account, layout.key account.id = k ∧
      layout.encode account = v ∧ table[account.id]? = some account.balance := by
  constructor
  · intro hentry
    obtain ⟨id, rfl⟩ := denotes.keyed hentry
    rw [denotes.held, Table.account?, Option.map_map, Option.map_eq_some_iff] at hentry
    obtain ⟨balance, hbalance, rfl⟩ := hentry
    exact ⟨⟨id, balance⟩, rfl, rfl, hbalance⟩
  · rintro ⟨⟨id, balance⟩, rfl, rfl, hbalance⟩
    rw [denotes.held, Table.account?, hbalance]
    rfl

/-- Changes that are written under their keys one after the other are recorded in the
table. -/
theorem Denotes.recordAll (entriesOf : M → K → Option V) {record : M → Change → M}
    [DecidableEq K] (records : ∀ m change k, entriesOf (record m change) k =
      if layout.key change.id = k then some (layout.encode ⟨change.id, change.balance⟩)
      else entriesOf m k) {m : M} (denotes : layout.Denotes (entriesOf m) table)
    (changes : List Change) :
    layout.Denotes (entriesOf (changes.foldl record m)) (table.recordAll changes) := by
  induction changes generalizing m table with
  | nil => exact denotes
  | cons change rest ih =>
      rw [List.foldl_cons, Table.recordAll_cons]
      apply ih
      constructor
      · intro id
        rw [records, Table.account?, Table.getElem?_record]
        by_cases hid : change.id = id
        · subst hid
          rw [if_pos rfl, if_pos rfl]
          rfl
        · rw [if_neg fun hkey => hid (layout.key_injective hkey), if_neg hid, denotes.held]
          rfl
      · intro k v hentry
        rw [records] at hentry
        split at hentry
        · next hkey => exact ⟨change.id, hkey.symm⟩
        · exact denotes.keyed hentry

/-- A list of all entries is one of all accounts with their keys and values. -/
theorem Denotes.exists_accounts (denotes : layout.Denotes entries table) (found : List (K × V))
    (complete : ∀ k v, (k, v) ∈ found ↔ entries k = some v) :
    ∃ accounts : List Account,
      accounts.map (fun account => (layout.key account.id, layout.encode account)) = found ∧
      ∀ account : Account, account ∈ accounts ↔ table[account.id]? = some account.balance := by
  have hrange : found ∈ Set.range
      (List.map fun account : Account => (layout.key account.id, layout.encode account)) := by
    rw [Set.range_list_map]
    rintro ⟨k, v⟩ hmem
    obtain ⟨account, rfl, rfl, -⟩ := denotes.eq_some_iff.mp ((complete k v).mp hmem)
    exact ⟨account, rfl⟩
  obtain ⟨accounts, hfound⟩ := hrange
  refine ⟨accounts, hfound, fun account => ?_⟩
  have hlisted : account ∈ accounts ↔
      (layout.key account.id, layout.encode account) ∈ found := by
    rw [← hfound, List.mem_map]
    constructor
    · exact fun hmem => ⟨account, hmem, rfl⟩
    · rintro ⟨other, hmem, hsame⟩
      rwa [← layout.encode_injective (congrArg Prod.snd hsame)]
  rw [hlisted, complete, denotes.eq_some_iff]
  constructor
  · rintro ⟨other, -, hsame, hheld⟩
    rwa [← layout.encode_injective hsame]
  · exact fun hheld => ⟨account, rfl, rfl, hheld⟩

end Layout

end Clearinghouse
