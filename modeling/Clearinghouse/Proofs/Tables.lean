/-
# What a table holds after changes

A list of changes is written one after the other, so of two changes of one
account the later one would win. Lists that a store hands down name every
account once; for them the table after all changes can be read off the list. The
accounts of a table, or any table built from a list of accounts, are told by
their entries alone.
-/

import Clearinghouse.Medium.Table
import Clearinghouse.Store.Basic

namespace Clearinghouse

/-- Where changes are recorded one after the other, an account holds what it held or what
a change writes. -/
theorem Change.foldl_cases {M : Type} {record : M → Change → M} (total : M → AccountId → Int)
    (total_record : ∀ m change id, total (record m change) id =
      if change.id = id then change.balance.toInt else total m id)
    (m : M) (changes : List Change) (id : AccountId) :
    total (changes.foldl record m) id = total m id ∨
      ∃ change ∈ changes, change.id = id ∧
        total (changes.foldl record m) id = change.balance.toInt := by
  induction changes generalizing m with
  | nil => exact .inl rfl
  | cons first rest ih =>
      rw [List.foldl_cons]
      obtain hkept | ⟨change, hmem, hid, hwritten⟩ := ih (record m first)
      · rw [hkept, total_record]
        split
        · next hid => exact .inr ⟨first, List.mem_cons_self, hid, rfl⟩
        · exact .inl rfl
      · exact .inr ⟨change, List.mem_cons_of_mem first hmem, hid, hwritten⟩

/-- The last of some changes that names an account. -/
def Change.last? (changes : List Change) (id : AccountId) : Option Change :=
  changes.reverse.find? (·.id = id)

theorem Change.last?_cons (change : Change) (rest : List Change) (id : AccountId) :
    last? (change :: rest) id =
      (last? rest id).or (if change.id = id then some change else none) := by
  rw [last?, List.reverse_cons, List.find?_append, List.find?_singleton, last?]
  simp only [decide_eq_true_eq]

theorem Change.last?_eq_none_iff {changes : List Change} {id : AccountId} :
    last? changes id = none ↔ ∀ change ∈ changes, change.id ≠ id := by
  simp [last?]

theorem Change.of_last?_eq_some {changes : List Change} {id : AccountId} {change : Change}
    (found : last? changes id = some change) : change ∈ changes ∧ change.id = id :=
  ⟨List.mem_reverse.mp (List.mem_of_find?_eq_some found), by simpa using List.find?_some found⟩

namespace Table

variable {table : Table} {id : AccountId}

@[simp]
theorem getElem?_record (change : Change) :
    (table.record change)[id]? = if change.id = id then some change.balance else table[id]? := by
  simp [record, Std.ExtTreeMap.getElem?_insert]

@[simp]
theorem recordAll_nil : table.recordAll [] = table := rfl

@[simp]
theorem recordAll_cons (change : Change) (rest : List Change) :
    table.recordAll (change :: rest) = (table.record change).recordAll rest := rfl

/-- After changes an account has the balance that the last change of it says, and the one it
had before if there was none. -/
theorem getElem?_recordAll (changes : List Change) :
    (table.recordAll changes)[id]? =
      ((Change.last? changes id).map (·.balance)).or table[id]? := by
  induction changes generalizing table with
  | nil => rfl
  | cons change rest ih =>
      rw [recordAll_cons, ih, getElem?_record, Change.last?_cons, Option.map_or, Option.or_assoc]
      split <;> rfl

/-- An account that no change names keeps its balance. -/
theorem getElem?_recordAll_of_forall_ne {changes : List Change}
    (absent : ∀ change ∈ changes, change.id ≠ id) :
    (table.recordAll changes)[id]? = table[id]? := by
  rw [getElem?_recordAll, Change.last?_eq_none_iff.mpr absent]
  rfl

/-- Where the changes that name an account agree on its balance, the account has
that balance after them. -/
theorem getElem?_recordAll_of_agree {changes : List Change} (change : Change)
    (named : change ∈ changes)
    (agree : ∀ other ∈ changes, other.id = change.id → other.balance = change.balance) :
    (table.recordAll changes)[change.id]? = some change.balance := by
  rw [getElem?_recordAll]
  cases hlast : Change.last? changes change.id with
  | none => exact absurd rfl (Change.last?_eq_none_iff.mp hlast change named)
  | some other =>
      obtain ⟨hmem, hid⟩ := Change.of_last?_eq_some hlast
      exact congrArg some (agree other hmem hid)

/-- What an account of a table holds; nothing if it does not exist. -/
def total (table : Table) (id : AccountId) : Int := (table[id]?.map (·.toInt)).getD 0

theorem total_of_account? (table : Table) (id : AccountId) :
    table.total id = ((table.account? id).map fun account => account.balance.toInt).getD 0 := by
  rw [total, account?, Option.map_map]
  rfl

theorem total_recordAll_cases (table : Table) (changes : List Change) (id : AccountId) :
    (table.recordAll changes).total id = table.total id ∨
      ∃ change ∈ changes, change.id = id ∧
        (table.recordAll changes).total id = change.balance.toInt := by
  refine Change.foldl_cases total (fun table change id => ?_) table changes id
  rw [total, getElem?_record, total]
  split <;> rfl

/-- An account is listed exactly if the table has its balance. -/
theorem mem_accounts {account : Account} :
    account ∈ table.accounts ↔ table[account.id]? = some account.balance := by
  obtain ⟨id, balance⟩ := account
  simp [accounts, Std.ExtTreeMap.mem_toList_iff_getElem?_eq_some]

/-- The accounts of a table ascend strictly by identifier. -/
theorem accounts_ascending (table : Table) :
    table.accounts.Pairwise fun first later => first.id < later.id := by
  rw [accounts, List.pairwise_map]
  exact table.ordered_keys_toList.imp fun h => Std.compare_eq_lt.mp h

/-- To enter accounts in a table by identifier is to write each of them. -/
theorem tabulate_eq_recordAll (accounts : List Account) :
    Store.tabulate accounts =
      (∅ : Table).recordAll (accounts.map fun account => ⟨account.id, none, account.balance⟩) := by
  rw [Store.tabulate, recordAll, List.foldl_map]
  rfl

/-- A list that holds the accounts of a table, in whatever order and however
often, is entered as that table. -/
theorem tabulate_eq_of_mem_iff {accounts : List Account}
    (listed : ∀ account : Account,
      account ∈ accounts ↔ table[account.id]? = some account.balance) :
    Store.tabulate accounts = table := by
  rw [tabulate_eq_recordAll]
  apply Std.ExtTreeMap.ext_getElem?
  intro id
  cases hid : table[id]? with
  | none =>
      rw [getElem?_recordAll_of_forall_ne, Std.ExtTreeMap.getElem?_empty]
      simp only [List.forall_mem_map]
      rintro account hmem rfl
      have hheld := (listed account).mp hmem
      simp [hid] at hheld
  | some balance =>
      have hmem : (⟨id, balance⟩ : Account) ∈ accounts := (listed ⟨id, balance⟩).mpr hid
      refine getElem?_recordAll_of_agree ⟨id, none, balance⟩ (List.mem_map_of_mem hmem) ?_
      simp only [List.forall_mem_map]
      rintro other hother rfl
      have hheld := (listed other).mp hother
      exact Option.some_inj.mp (hheld.symm.trans hid)

end Table

end Clearinghouse
