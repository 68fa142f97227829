/-
# What a failed batch leaves behind

Whatever fails while a batch is processed, the transaction it opened has ended
when it returns. What the medium holds then hangs on the commit alone, because
everything before it only reads. A rejected batch has only read, or it came to
its commit and the flush of what was staged failed. So if a medium tells the
truth about its flushes, a rejected batch tells the truth about the medium:
nothing has changed unless the rejection says that changes landed in part.
-/

import Clearinghouse.Proofs.Batch.Phases

namespace Clearinghouse.Batch

variable {S C : Type} {b : Backend S} {content : S → C} {keys : KeyRegistry} {policy : Policy}
  {s : Store S} {tx : Transaction}

theorem commit_staging (opened : s.initialized = true) :
    (Store.commit b s).2.staging = none := by
  cases hstaging : s.staging with
  | none => rwa [Store.commit_of_idle opened hstaging]
  | some staging =>
      rw [Store.commit_of_staging opened hstaging]
      split <;> rfl

/-- A commit that fails has failed in the flush of what was staged. -/
theorem exists_flush_of_commit (opened : s.initialized = true) {e : StoreError}
    (failed : (Store.commit b s).1 = .error e) :
    ∃ staging, s.staging = some staging ∧
      b.flush staging.changes s.medium = (.error e, (Store.commit b s).2.medium) := by
  cases hstaging : s.staging with
  | none =>
      rw [Store.commit_of_idle opened hstaging] at failed
      cases failed
  | some staging =>
      refine ⟨staging, rfl, ?_⟩
      rw [Store.commit_of_staging opened hstaging] at failed ⊢
      by_cases hchanges : staging.changes = []
      · rw [if_pos hchanges] at failed
        cases failed
      · rw [if_neg hchanges] at failed ⊢
        exact Prod.ext failed rfl

variable (b keys policy) in
/-- A batch ends before its commit, having only read, or the operations that passed were
applied and it ends with the commit. -/
theorem run_cases (idle : s.staging = none) (tx : Transaction) :
    (∃ rejection s', run b keys policy tx s = (.error rejection, s') ∧
        s'.staging = none ∧ b.OnlyRead s.medium s'.medium) ∨
      ∃ found s₁ result mid, screen b keys policy 0 tx.operations s = (.ok found, s₁) ∧
        Store.Reads b s s₁ ∧ s₁.initialized = true ∧
        applyAll b policy found.1 (Store.begun s₁) = (.ok result, mid) ∧
        Store.Within b (Store.begun s₁) mid ∧
        run b keys policy tx s =
          (((Store.commit b mid).1.mapError fun e => .ofBatch (.storage e)).map
            fun _ => (result.1, found.2 ++ result.2), (Store.commit b mid).2) := by
  by_cases hempty : tx.operations = []
  · exact .inl ⟨_, s, run_of_empty idle hempty, idle, .refl⟩
  rw [run_of_nonempty idle hempty]
  have hreads := screen_reads b keys policy 0 tx.operations s
  cases hscreen : screen b keys policy 0 tx.operations s with
  | mk answer s₁ =>
      rw [hscreen] at hreads
      have hidle : s₁.staging = none := by
        simpa [Store.inTransaction, idle] using hreads.inTransaction
      cases answer with
      | error rejection =>
          rw [Run.bind_of_error hscreen]
          exact .inl ⟨rejection, s₁, rfl, hidle, hreads.read⟩
      | ok found =>
          rw [Run.bind_of_ok hscreen]
          by_cases hopened : s₁.initialized = true
          · rw [Run.bind_of_ok (wholly_begin_of_idle hopened hidle)]
            have hbegun : (Store.begun s₁).initialized = true := hopened
            obtain ⟨result, mid, hrun, hwithin⟩ | ⟨rejection, s', hrun, hended, hread⟩ :=
              applyAll_ends b policy hbegun rfl found.1
            · rw [Run.bind_of_ok hrun, wholly_commit_bind_apply]
              exact .inr ⟨found, s₁, result, mid, rfl, hreads, hopened, hrun, hwithin, rfl⟩
            · rw [Run.bind_of_error hrun]
              exact .inl ⟨rejection, s', rfl, hended, hreads.read.trans hread⟩
          · have hbegin : wholly (Check.ofStep Store.begin) s₁ =
                (.error (.ofBatch (.storage .notInitialized)), s₁) := by
              rw [wholly_ofStep_apply, Store.begin,
                Store.ensureInitialized_bind_of_closed (by simpa using hopened)]
              rfl
            rw [Run.bind_of_error hbegin]
            exact .inl ⟨_, s₁, rfl, hidle, hreads.read⟩

/-- Processing a batch comes to its commit. By then so many operations count as applied, and the
others are going to be reported. -/
inductive ComesToCommit (b : Backend S) (keys : KeyRegistry) (policy : Policy) (tx : Transaction)
    (s : Store S) : Nat × List Rejection → Store S → Prop
  | intro {found : List (Nat × Operation) × List Rejection} {s₁ s₂ s' : Store S}
      {result : Nat × List Rejection}
      (screened : screen b keys policy 0 tx.operations s = (.ok found, s₁))
      (begun : Store.begin s₁ = (.ok (), s₂))
      (applied : applyAll b policy found.1 s₂ = (.ok result, s')) :
      ComesToCommit b keys policy tx s (result.1, found.2 ++ result.2) s'

variable (b keys policy) in
/-- A batch ends before its commit, having only read, or it ends with the commit
of a store that has only been read. -/
theorem run_ends (idle : s.staging = none) (tx : Transaction) :
    (∃ rejection s', run b keys policy tx s = (.error rejection, s') ∧
        s'.staging = none ∧ b.OnlyRead s.medium s'.medium) ∨
      ∃ mid result, ComesToCommit b keys policy tx s result mid ∧ mid.initialized = true ∧
        b.OnlyRead s.medium mid.medium ∧
        run b keys policy tx s =
          (((Store.commit b mid).1.mapError fun e => .ofBatch (.storage e)).map fun _ => result,
            (Store.commit b mid).2) := by
  obtain hbefore | ⟨found, s₁, result, mid, hscreen, hreads, hopened, happly, hwithin, hrun⟩ :=
    run_cases b keys policy idle tx
  · exact .inl hbefore
  · have hidle : s₁.staging = none := by simpa [Store.inTransaction, idle] using hreads.inTransaction
    exact .inr ⟨mid, _, .intro hscreen (Store.begin_of_idle hopened hidle) happly,
      hwithin.initialized.trans hopened, hreads.read.trans hwithin.read, hrun⟩

/-- However a batch ends, its transaction has ended. -/
theorem process_staging (idle : s.staging = none) (tx : Transaction) :
    (process b keys policy tx s).2.staging = none := by
  rw [process_apply]
  obtain ⟨rejection, s', hrun, hended, -⟩ | ⟨mid, result, -, hopened, -, hrun⟩ :=
    run_ends b keys policy idle tx
  · rw [hrun]
    exact hended
  · rw [hrun]
    exact commit_staging hopened

/-- A batch that is rejected has only read, or it came to its commit and the flush of what was
staged failed. -/
theorem process_of_rejected (idle : s.staging = none) {rejection : Rejection}
    (rejected : (process b keys policy tx s).1 = .rejected rejection) :
    b.OnlyRead s.medium (process b keys policy tx s).2.medium ∨
      ∃ mid result staging e, ComesToCommit b keys policy tx s result mid ∧
        mid.staging = some staging ∧ b.OnlyRead s.medium mid.medium ∧
        rejection.reason = .storage e ∧
        b.flush staging.changes mid.medium =
          (.error e, (process b keys policy tx s).2.medium) := by
  rw [process_apply] at rejected ⊢
  obtain ⟨_, s', hrun, -, hread⟩ | ⟨mid, result, hcommits, hopened, hread, hrun⟩ :=
    run_ends b keys policy idle tx
  · rw [hrun]
    exact .inl hread
  · rw [hrun] at rejected ⊢
    cases hanswer : (Store.commit b mid).1 with
    | ok =>
        rw [hanswer] at rejected
        cases rejected
    | error e =>
        rw [hanswer] at rejected
        cases rejected
        obtain ⟨staging, hstaging, hflush⟩ := exists_flush_of_commit hopened hanswer
        exact .inr ⟨mid, result, staging, e, hcommits, hstaging, hread, rfl, hflush⟩

/-- If a batch over a candid medium was rejected without word of a partial commit, the medium
holds what it held. -/
theorem process_of_candid (candid : b.Candid content) (idle : s.staging = none)
    {rejection : Rejection} (rejected : (process b keys policy tx s).1 = .rejected rejection)
    (whole : ∀ e, rejection.reason = .storage e → ¬ e.IsPartialCommit) :
    content (process b keys policy tx s).2.medium = content s.medium := by
  obtain hread | ⟨mid, result, staging, e, -, -, hread, hreason, hflush⟩ :=
    process_of_rejected idle rejected
  · exact hread.eq_of_load candid.load_content
  · have hkept := candid.flush_content (congrArg Prod.fst hflush) (whole e hreason)
    rw [hflush] at hkept
    exact hkept.trans (hread.eq_of_load candid.load_content)

/-! ## Faults end the batch -/

/-- Processing a batch comes to an operation: the screening has let it pass, the
transaction has begun, and the operations before it were applied or left out. -/
inductive ComesTo (b : Backend S) (keys : KeyRegistry) (policy : Policy) (tx : Transaction)
    (s : Store S) (op : Operation) (s' : Store S) : Prop
  | intro {found : List (Nat × Operation) × List Rejection} {s₁ s₂ : Store S}
      {before after : List (Nat × Operation)} {index : Nat} {result : Nat × List Rejection}
      (screened : screen b keys policy 0 tx.operations s = (.ok found, s₁))
      (begun : Store.begin s₁ = (.ok (), s₂))
      (listed : found.1 = before ++ (index, op) :: after)
      (applied : applyAll b policy before s₂ = (.ok result, s'))

/-- Processing a batch meets a refusal, in any of the steps it is made of. -/
inductive Meets (b : Backend S) (keys : KeyRegistry) (policy : Policy) (tx : Transaction)
    (s : Store S) : Refusal → Prop
  | check {found : List (Nat × Operation) × List Rejection} {s₁ s₂ : Store S}
      {before after : List Operation} {op : Operation} {reason : Refusal}
      (listed : tx.operations = before ++ op :: after)
      (screened : screen b keys policy 0 before s = (.ok found, s₁))
      (refused : checkOperation b keys op s₁ = (.error reason, s₂)) :
      Meets b keys policy tx s reason
  | begin {found : List (Nat × Operation) × List Rejection} {s₁ s₂ : Store S} {e : StoreError}
      (screened : screen b keys policy 0 tx.operations s = (.ok found, s₁))
      (failed : Store.begin s₁ = (.error e, s₂)) : Meets b keys policy tx s (.storage e)
  | debit {s₁ s₂ : Store S} {op : Operation} {e : StoreError}
      (comes : ComesTo b keys policy tx s op s₁)
      (failed : Store.update b op.sender (-op.amount) s₁ = (.error e, s₂)) :
      Meets b keys policy tx s (.storage e)
  | credit {s₁ s₂ s₃ : Store S} {op : Operation} {e : StoreError}
      (comes : ComesTo b keys policy tx s op s₁)
      (debited : Store.update b op.sender (-op.amount) s₁ = (.ok (), s₂))
      (failed : Store.update b op.receiver op.amount s₂ = (.error e, s₃)) :
      Meets b keys policy tx s (.storage e)
  | commit {found : List (Nat × Operation) × List Rejection} {s₁ s₂ s₃ s₄ : Store S}
      {result : Nat × List Rejection} {e : StoreError}
      (screened : screen b keys policy 0 tx.operations s = (.ok found, s₁))
      (begun : Store.begin s₁ = (.ok (), s₂))
      (applied : applyAll b policy found.1 s₂ = (.ok result, s₃))
      (failed : Store.commit b s₃ = (.error e, s₄)) : Meets b keys policy tx s (.storage e)

theorem leavesOut_of_fault {reason : Refusal} (fault : reason.isDomain = false) :
    leavesOut policy reason = false := by
  rw [leavesOut, fault, Bool.and_false]

theorem wholly_ofStep_of_error {α : Type} {act : Step (Store S) α} {s' : Store S} {e : StoreError}
    (failed : act s = (.error e, s')) :
    wholly (Check.ofStep act) s = (.error (.ofBatch (.storage e)), s') := by
  rw [wholly_ofStep_apply, failed]
  rfl

theorem wholly_ofStep_of_ok {α : Type} {act : Step (Store S) α} {s' : Store S} {a : α}
    (done : act s = (.ok a, s')) : wholly (Check.ofStep act) s = (.ok a, s') := by
  rw [wholly_ofStep_apply, done]
  rfl

/-- An operation whose application fails for a fault ends the batch. -/
theorem run_of_fault (idle : s.staging = none) {op : Operation} {s₁ s₂ : Store S} {e : StoreError}
    (comes : ComesTo b keys policy tx s op s₁) (failed : apply b op s₁ = (.error e, s₂))
    (fault : (Refusal.storage e).isDomain = false) :
    ∃ index s', run b keys policy tx s = (.error ⟨index, .storage e⟩, s') := by
  cases comes with
  | @intro found mid mid' before after index result screened begun listed applied =>
      have hnonempty : tx.operations ≠ [] := by
        intro hempty
        rw [hempty] at screened
        cases screened
        simp at listed
      have hrefused : applyAll b policy found.1 mid' =
          (.error (.ofOperation index (.storage e)), (Store.rollback s₂).2) := by
        rw [listed, applyAll_append applied, Run.map_apply,
          applyAll_cons_of_failed failed (leavesOut_of_fault fault)]
        rfl
      rw [run_of_nonempty idle hnonempty, Run.bind_of_ok screened,
        Run.bind_of_ok (wholly_ofStep_of_ok begun), Run.bind_of_error hrefused]
      exact ⟨some index, _, rfl⟩

/-- Inside the transaction an operation that passed its check moves an amount. -/
theorem ComesTo.facts {op : Operation} {s' : Store S} (comes : ComesTo b keys policy tx s op s') :
    s'.initialized = true ∧ s'.inTransaction = true ∧ 0 < op.amount := by
  cases comes with
  | @intro found mid mid' before after index result screened begun listed applied =>
      obtain ⟨hopened, -, rfl⟩ := Store.begin_eq_ok begun
      have hbegun : (Store.begun mid).initialized = true := hopened
      obtain ⟨_, _, hrun, hwithin⟩ | ⟨_, _, hrun, -⟩ :=
        applyAll_ends b policy hbegun rfl before
      · cases applied.symm.trans hrun
        have hmem : (index, op) ∈ found.1 := by simp [listed]
        have hshape := checkShape_eq_ok_iff.mp (checkShape_of_mem_screen screened hmem)
        exact ⟨hwithin.initialized.trans hbegun, hwithin.inTransaction, hshape.2.2.1⟩
      · cases applied.symm.trans hrun

/-- Under either policy a fault in any step rejects the batch for that reason. -/
theorem process_of_meets (idle : s.staging = none) (nonempty : tx.operations ≠ [])
    {reason : Refusal} (meets : Meets b keys policy tx s reason)
    (fault : reason.isDomain = false) :
    ∃ index, (process b keys policy tx s).1 = .rejected ⟨index, reason⟩ := by
  suffices hrun : ∃ index s', run b keys policy tx s = (.error ⟨index, reason⟩, s') by
    obtain ⟨index, s', hrun⟩ := hrun
    refine ⟨index, ?_⟩
    rw [process_apply, hrun]
    rfl
  cases meets with
  | @check found s₁ s₂ before after op _ listed screened refused =>
      have hrefused : screen b keys policy 0 tx.operations s =
          (.error (.ofOperation (0 + before.length) reason), s₂) := by
        rw [listed, screen_append screened, Run.map_apply,
          screen_cons_of_refused refused (leavesOut_of_fault fault)]
        rfl
      rw [run_of_nonempty idle nonempty, Run.bind_of_error hrefused]
      exact ⟨_, _, rfl⟩
  | begin screened failed =>
      rw [run_of_nonempty idle nonempty, Run.bind_of_ok screened,
        Run.bind_of_error (wholly_ofStep_of_error failed)]
      exact ⟨none, _, rfl⟩
  | debit comes failed => exact run_of_fault idle comes (apply_of_debit_failed failed) fault
  | credit comes debited failed =>
      obtain ⟨hopened, htransaction, hpositive⟩ := comes.facts
      obtain ⟨final, -, happly⟩ :=
        apply_of_credit_failed hopened htransaction hpositive debited failed
      exact run_of_fault idle comes happly fault
  | commit screened begun applied failed =>
      rw [run_of_nonempty idle nonempty, Run.bind_of_ok screened,
        Run.bind_of_ok (wholly_ofStep_of_ok begun), Run.bind_of_ok applied,
        Run.bind_of_error (wholly_ofStep_of_error failed)]
      exact ⟨none, _, rfl⟩

end Clearinghouse.Batch
