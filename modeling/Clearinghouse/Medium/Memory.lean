/-
# Accounts in memory

The simplest medium: a table that is empty whenever a store takes hold of it or
lets go of it.
-/

import Clearinghouse.Medium.Table

namespace Clearinghouse.Memory

/-- The medium of a table in memory. -/
def backend : Backend Table where
  name := "memory"
  guarantee := .atomic
  connect := set (∅ : Table)
  disconnect := set (∅ : Table)
  load id := return (← get).account? id
  loadAll := return (← get).accounts
  flush changes := modify (·.recordAll changes)

end Clearinghouse.Memory
