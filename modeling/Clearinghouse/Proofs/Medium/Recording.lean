/-
# The medium for rehearsals keeps one table

Whatever failure is armed, a call of the rehearsal medium either does what it
should or fails and changes nothing but what is armed.
-/

import Clearinghouse.Medium.Recording
import Clearinghouse.Proofs.Steps
import Clearinghouse.Proofs.Store.Settling

namespace Clearinghouse.Recording

variable {α : Type}

/-- What an injected failure of a call reports. -/
def injected (call : Call) : StoreError := .medium call.name "injected failure"

/-- Before the call proper, the armed failure lets it pass or makes it fail. -/
theorem meet_bind_cases (call : Call) (act : Step State α) (m : State) :
    ∃ fault, (meet call >>= fun _ => act) m = act { m with fault } ∨
      (meet call >>= fun _ => act) m = (.error (injected call), { m with fault }) := by
  refine ⟨(Fault.meet call m.fault).2, ?_⟩
  by_cases hmet : (Fault.meet call m.fault).1.isSome = true
  · have hrun : meet call m = (.error (injected call), { m with
        fault := (Fault.meet call m.fault).2 }) := by
      simp only [meet, Run.get_bind_apply, Run.set_bind_apply, hmet, if_true, Run.throw_apply,
        injected]
    exact .inr (Run.bind_of_error hrun)
  · have hrun : meet call m = (.ok (), { m with fault := (Fault.meet call m.fault).2 }) := by
      simp only [meet, Run.get_bind_apply, Run.set_bind_apply, hmet]
      rfl
    exact .inl (Run.bind_of_ok hrun)

/-- A load shows the account or fails. -/
theorem load_cases (id : AccountId) (m : State) :
    ∃ fault, backend.load id m = (.ok (m.table.account? id), { m with fault }) ∨
      backend.load id m = (.error (injected .load), { m with fault }) :=
  meet_bind_cases .load (do return (← get).table.account? id) m

/-- Listing shows the table or fails. -/
theorem loadAll_cases (m : State) :
    ∃ fault, backend.loadAll m = (.ok m.table.accounts, { m with fault }) ∨
      backend.loadAll m = (.error (injected .loadAll), { m with fault }) :=
  meet_bind_cases .loadAll (do return (← get).table.accounts) m

/-- A flush writes its changes and logs them, or fails. -/
theorem flush_cases (changes : List Change) (m : State) :
    ∃ fault, backend.flush changes m =
        (.ok (), ⟨m.table.recordAll changes, m.log ++ [changes], fault⟩) ∨
      backend.flush changes m = (.error (injected .flush), { m with fault }) :=
  meet_bind_cases .flush (modify fun state : State => { state with
    table := state.table.recordAll changes
    log := state.log ++ [changes] }) m

/-- The medium keeps its table, whatever failure is armed. -/
theorem backend_keeps : backend.Keeps (fun _ => True) State.table where
  load_sound _ _ := trivial
  load_table id _ := by
    obtain ⟨fault, hrun | hrun⟩ := load_cases id _ <;> rw [hrun]
  load_answer {m id answer} _ hanswer := by
    obtain ⟨fault, hrun | hrun⟩ := load_cases id m
    · rw [hrun] at hanswer
      exact (Except.ok.inj hanswer).symm
    · rw [hrun] at hanswer
      cases hanswer
  loadAll_sound _ := trivial
  loadAll_table _ := by
    obtain ⟨fault, hrun | hrun⟩ := loadAll_cases _ <;> rw [hrun]
  loadAll_answer {m accounts} _ hanswer account := by
    obtain ⟨fault, hrun | hrun⟩ := loadAll_cases m
    · rw [hrun] at hanswer
      rw [← Except.ok.inj hanswer]
      exact Table.mem_accounts
    · rw [hrun] at hanswer
      cases hanswer
  flush_sound _ _ := trivial
  flush_done {m changes} _ _ hanswer := by
    obtain ⟨fault, hrun | hrun⟩ := flush_cases changes m
    · rw [hrun]
    · rw [hrun] at hanswer
      cases hanswer
  flush_failed {m changes e} _ _ hanswer := by
    obtain ⟨fault, hrun | hrun⟩ := flush_cases changes m
    · rw [hrun] at hanswer
      cases hanswer
    · rw [hrun]
  connect_sound _ := trivial
  disconnect_sound _ := trivial

theorem backend_candid : backend.Candid fun m => (m.table, m.log) where
  load_content id m := by
    obtain ⟨fault, hrun | hrun⟩ := load_cases id m <;> rw [hrun]
  flush_content {m changes e} failed _ := by
    obtain ⟨fault, hrun | hrun⟩ := flush_cases changes m
    · rw [hrun] at failed
      cases failed
    · rw [hrun]

theorem backend_settles : backend.Settles fun m => m.table.total := by
  refine .of_writes (fun id m => ?_) (fun {id m answer} answered => ?_) fun m changes id => ?_
  · obtain ⟨fault, hrun | hrun⟩ := load_cases id m <;> rw [hrun]
  · obtain ⟨fault, hrun | hrun⟩ := load_cases id m
    · rw [hrun] at answered
      rw [← Except.ok.inj answered]
      exact m.table.total_of_account? id
    · rw [hrun] at answered
      cases answered
  · obtain ⟨fault, hrun | hrun⟩ := flush_cases changes m
    · rw [hrun]
      exact m.table.total_recordAll_cases changes id
    · rw [hrun]
      exact .inl rfl

end Clearinghouse.Recording
