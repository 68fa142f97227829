/-
# The medium in memory serves

No call of the medium in memory fails, so a store over it does what the rules
for tables say and nothing else.
-/

import Clearinghouse.Medium.Memory
import Clearinghouse.Proofs.Steps
import Clearinghouse.Proofs.Store.Settling

namespace Clearinghouse.Memory

theorem backend_serves : backend.Serves (fun _ => True) id where
  load_sound _ _ := trivial
  load_table _ _ := rfl
  load_answer _ hanswer := (Except.ok.inj hanswer).symm
  loadAll_sound _ := trivial
  loadAll_table _ := rfl
  loadAll_answer _ hanswer account := by
    rw [← Except.ok.inj hanswer]
    exact Table.mem_accounts
  flush_sound _ _ := trivial
  flush_done _ _ _ := rfl
  flush_failed _ _ hanswer := by cases hanswer
  load_answers id _ := ⟨_, rfl⟩
  flush_answers _ _ := rfl

theorem backend_candid : backend.Candid id where
  load_content _ _ := rfl
  flush_content failed _ := by cases failed

theorem backend_settles : backend.Settles Table.total := by
  refine .of_writes (fun _ _ => rfl) (fun {id m answer} answered => ?_) Table.total_recordAll_cases
  rw [← Except.ok.inj answered]
  exact m.total_of_account? id

end Clearinghouse.Memory
