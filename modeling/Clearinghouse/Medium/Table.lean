/-
# Accounts in a table

The committed accounts of a medium that keeps them as they are: a table from
identifiers to balances, in order of identifier. A change writes the balance it
carries, whatever the table held before.
-/

import Clearinghouse.Store.Backend
import Std.Data.ExtTreeMap

namespace Clearinghouse

/-- Balances by identifier. -/
abbrev Table := Std.ExtTreeMap AccountId Balance

namespace Table

/-- The table after one change. -/
def record (table : Table) (change : Change) : Table := table.insert change.id change.balance

/-- The table after a list of changes. -/
def recordAll (table : Table) (changes : List Change) : Table := changes.foldl record table

/-- The account under an identifier. -/
def account? (table : Table) (id : AccountId) : Option Account :=
  table[id]?.map fun balance => ⟨id, balance⟩

/-- The accounts in ascending order of identifier. -/
def accounts (table : Table) : List Account := table.toList.map fun (id, balance) => ⟨id, balance⟩

end Table

end Clearinghouse
