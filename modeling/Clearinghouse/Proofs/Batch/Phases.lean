/-
# Following a batch through its phases

A batch is screened, then applied inside a transaction, then committed. For each
phase this module says how a list of operations is worked off one operation at a
time, and that until the commit the medium is only asked for accounts. Nothing
is assumed of the medium here, and its calls may fail.
-/

import Clearinghouse.Batch.Processor
import Clearinghouse.Proofs.Balances
import Clearinghouse.Proofs.Store.Transactions

namespace Clearinghouse.Batch

variable {S α β : Type} {b : Backend S} {keys : KeyRegistry} {policy : Policy}

section

variable {s s' : Store S} {index : Nat} {op : Operation} {reason : Refusal} {e : StoreError}

theorem attempt_bind_apply (check : Check S α) (next : Except Refusal α → Phase S β) (s : S) :
    (attempt check >>= next) s = next (check s).1 (check s).2 := rfl

theorem decided_apply {ε : Type} {decision answer : Except ε α} (decides : decision = answer)
    (s : S) : (decided decision : ExceptT ε (StateM S) α) s = (answer, s) := by
  rw [decides]
  rfl

/-- A step whose failure rejects the whole batch. -/
theorem wholly_ofStep_apply (act : Step S α) (s : S) :
    wholly (Check.ofStep act) s =
      ((act s).1.mapError fun e => .ofBatch (.storage e), (act s).2) := by
  change (((act s).1.mapError Refusal.storage).mapError Rejection.ofBatch, (act s).2) = _
  cases (act s).1 <;> rfl

/-! ## One operation after the other -/

/-- An operation that passes is listed before those that pass after it. -/
theorem screen_cons_of_passed (passed : checkOperation b keys op s = (.ok (), s'))
    (ops : List Operation) :
    screen b keys policy index (op :: ops) s =
      ((fun found => ((index, op) :: found.1, found.2)) <$>
        screen b keys policy (index + 1) ops) s' := by
  rw [screen, attempt_bind_apply, passed, ← bind_pure_comp]

/-- An operation that is left out is reported before those left out after it. -/
theorem screen_cons_of_left_out (refused : checkOperation b keys op s = (.error reason, s'))
    (leaves : leavesOut policy reason = true) (ops : List Operation) :
    screen b keys policy index (op :: ops) s =
      ((fun found => (found.1, .ofOperation index reason :: found.2)) <$>
        screen b keys policy (index + 1) ops) s' := by
  rw [screen, attempt_bind_apply, refused, ← bind_pure_comp]
  simp only [leaves, if_true]

/-- An operation that is refused and not left out ends the screening. -/
theorem screen_cons_of_refused (refused : checkOperation b keys op s = (.error reason, s'))
    (stays : leavesOut policy reason = false) (ops : List Operation) :
    screen b keys policy index (op :: ops) s = (.error (.ofOperation index reason), s') := by
  rw [screen, attempt_bind_apply, refused]
  simp only [stays]
  rfl

/-- Where a screening goes through, its first operation passed or was left out. -/
theorem screen_cons_cases {s : Store S} {ops : List Operation}
    {found : List (Nat × Operation) × List Rejection}
    (screened : screen b keys policy index (op :: ops) s = (.ok found, s')) :
    (∃ mid later, checkOperation b keys op s = (.ok (), mid) ∧
      screen b keys policy (index + 1) ops mid = (.ok later, s') ∧
      found = ((index, op) :: later.1, later.2)) ∨
    ∃ reason mid later, checkOperation b keys op s = (.error reason, mid) ∧
      leavesOut policy reason = true ∧
      screen b keys policy (index + 1) ops mid = (.ok later, s') ∧
      found = (later.1, .ofOperation index reason :: later.2) := by
  cases hrun : checkOperation b keys op s with
  | mk answer mid =>
      cases answer with
      | ok =>
          rw [screen_cons_of_passed hrun] at screened
          obtain ⟨later, hlater, rfl⟩ := Run.map_eq_ok_iff.mp screened
          exact .inl ⟨mid, later, rfl, hlater, rfl⟩
      | error reason =>
          cases hleaves : leavesOut policy reason with
          | true =>
              rw [screen_cons_of_left_out hrun hleaves] at screened
              obtain ⟨later, hlater, rfl⟩ := Run.map_eq_ok_iff.mp screened
              exact .inr ⟨reason, mid, later, rfl, hleaves, hlater, rfl⟩
          | false =>
              rw [screen_cons_of_refused hrun hleaves] at screened
              cases screened

/-- An operation that is applied counts. -/
theorem applyAll_cons_of_done (done : apply b op s = (.ok (), s')) (ops : List (Nat × Operation)) :
    applyAll b policy ((index, op) :: ops) s =
      ((fun result => (result.1 + 1, result.2)) <$> applyAll b policy ops) s' := by
  rw [applyAll, attempt_bind_apply, Check.ofStep, Run.adapt_apply, done, ← bind_pure_comp]
  rfl

/-- An operation that fails and is left out is reported before those left out after
it. -/
theorem applyAll_cons_of_left_out (failed : apply b op s = (.error e, s'))
    (leaves : leavesOut policy (.storage e) = true) (ops : List (Nat × Operation)) :
    applyAll b policy ((index, op) :: ops) s =
      ((fun result => (result.1, .ofOperation index (.storage e) :: result.2)) <$>
        applyAll b policy ops) s' := by
  have hrenamed : (Except.error e : Except StoreError Unit).mapError Refusal.storage =
      .error (.storage e) := rfl
  rw [applyAll, attempt_bind_apply, Check.ofStep, Run.adapt_apply, failed, ← bind_pure_comp]
  simp only [hrenamed, leaves, if_true]

/-- An operation that fails and is not left out ends the transaction. -/
theorem applyAll_cons_of_failed (failed : apply b op s = (.error e, s'))
    (stays : leavesOut policy (.storage e) = false) (ops : List (Nat × Operation)) :
    applyAll b policy ((index, op) :: ops) s =
      (.error (.ofOperation index (.storage e)), (Store.rollback s').2) := by
  have hrenamed : (Except.error e : Except StoreError Unit).mapError Refusal.storage =
      .error (.storage e) := rfl
  rw [applyAll, attempt_bind_apply, Check.ofStep, Run.adapt_apply, failed]
  simp only [hrenamed, stays]
  rfl

/-- Where operations are applied to the last, the first of them was applied or left out. -/
theorem applyAll_cons_cases {s : Store S} {ops : List (Nat × Operation)}
    {result : Nat × List Rejection}
    (applied : applyAll b policy ((index, op) :: ops) s = (.ok result, s')) :
    (∃ mid later, apply b op s = (.ok (), mid) ∧
      applyAll b policy ops mid = (.ok later, s') ∧ result = (later.1 + 1, later.2)) ∨
    ∃ e mid later, apply b op s = (.error e, mid) ∧ leavesOut policy (.storage e) = true ∧
      applyAll b policy ops mid = (.ok later, s') ∧
      result = (later.1, .ofOperation index (.storage e) :: later.2) := by
  cases hrun : apply b op s with
  | mk answer mid =>
      cases answer with
      | ok =>
          rw [applyAll_cons_of_done hrun] at applied
          obtain ⟨later, hlater, rfl⟩ := Run.map_eq_ok_iff.mp applied
          exact .inl ⟨mid, later, rfl, hlater, rfl⟩
      | error e =>
          cases hleaves : leavesOut policy (.storage e) with
          | true =>
              rw [applyAll_cons_of_left_out hrun hleaves] at applied
              obtain ⟨later, hlater, rfl⟩ := Run.map_eq_ok_iff.mp applied
              exact .inr ⟨e, mid, later, rfl, hleaves, hlater, rfl⟩
          | false =>
              rw [applyAll_cons_of_failed hrun hleaves] at applied
              cases applied

end

/-! ## Shapes -/

theorem checkShape_eq_ok_iff {op : Operation} :
    op.checkShape = .ok () ↔
      op.sender ≠ 0 ∧ op.receiver ≠ 0 ∧ 0 < op.amount ∧ op.signature ≠ [] := by
  unfold Operation.checkShape
  split
  · next hsender => simp [hsender]
  split
  · next hreceiver => simp [hreceiver]
  split
  · next hamount => simp [Int64.not_lt.mpr hamount]
  split
  · next hsignature => simp [List.isEmpty_iff.mp hsignature]
  · next hsender hreceiver hamount hsignature =>
      have hsigned : op.signature ≠ [] := fun hnil => hsignature (List.isEmpty_iff.mpr hnil)
      exact ⟨fun _ => ⟨hsender, hreceiver, Int64.not_le.mp hamount, hsigned⟩, fun _ => rfl⟩

theorem isDomain_of_misshapen {op : Operation} {reason : Refusal}
    (misshapen : op.checkShape = .error reason) : reason.isDomain = true := by
  unfold Operation.checkShape at misshapen
  split at misshapen
  · cases misshapen
    rfl
  split at misshapen
  · cases misshapen
    rfl
  split at misshapen
  · cases misshapen
    rfl
  split at misshapen
  · cases misshapen
    rfl
  · cases misshapen

/-- An operation of the wrong shape is refused before anything is asked for. -/
theorem checkOperation_of_misshapen {s : Store S} {op : Operation} {reason : Refusal}
    (misshapen : op.checkShape = .error reason) :
    checkOperation b keys op s = (.error reason, s) := by
  rw [checkOperation, Run.bind_of_error (decided_apply misshapen s)]

theorem checkOperation_of_unknown {s : Store S} {op : Operation} (shaped : op.checkShape = .ok ())
    (unknown : keys[op.sender]? = none) :
    checkOperation b keys op s = (.error (.unknownSigner op.sender), s) := by
  rw [checkOperation, Run.bind_of_ok (decided_apply shaped s), unknown]
  rfl

theorem checkOperation_of_forged {s : Store S} {op : Operation} {key : Signature.PublicKey}
    (shaped : op.checkShape = .ok ()) (registered : keys[op.sender]? = some key)
    (forged : key.verify op.message op.signature = false) :
    checkOperation b keys op s = (.error .invalidSignature, s) := by
  rw [checkOperation, Run.bind_of_ok (decided_apply shaped s), registered]
  simp only [forged]
  rfl

/-- A signed operation of the right shape is measured against the balance that its
sender can spend. -/
theorem checkOperation_of_signed {s : Store S} {op : Operation} {key : Signature.PublicKey}
    (shaped : op.checkShape = .ok ()) (registered : keys[op.sender]? = some key)
    (signed : key.verify op.message op.signature = true) :
    checkOperation b keys op s =
      (do
        let balance ← spendable b op.sender
        if balance < op.amount then
          throw (.insufficientBalance balance op.amount) : Check (Store S) Unit) s := by
  rw [checkOperation, Run.bind_of_ok (decided_apply shaped s), registered]
  simp only [signed, if_true]

/-- Operations that pass have the right shape. -/
theorem checkShape_of_mem_screen {s s' : Store S} {index : Nat} {ops : List Operation}
    {found : List (Nat × Operation) × List Rejection}
    (screened : screen b keys policy index ops s = (.ok found, s')) {entry : Nat × Operation}
    (passed : entry ∈ found.1) : entry.2.checkShape = .ok () := by
  induction ops generalizing index s found with
  | nil =>
      cases screened
      cases passed
  | cons op ops ih =>
      obtain ⟨mid, later, hpassed, hlater, rfl⟩ | ⟨reason, mid, later, -, -, hlater, rfl⟩ :=
        screen_cons_cases screened
      · rcases List.mem_cons.mp passed with rfl | hmem
        · cases hshape : op.checkShape with
          | ok => rfl
          | error reason =>
              rw [checkOperation_of_misshapen hshape] at hpassed
              cases hpassed
        · exact ih hlater hmem
      · exact ih hlater passed

/-! ## The operations before and those after -/

section

variable {s s' : Store S}

/-- After some operations were screened, the rest are screened in turn. -/
theorem screen_append {index : Nat} {before : List Operation}
    {found : List (Nat × Operation) × List Rejection}
    (screened : screen b keys policy index before s = (.ok found, s')) (rest : List Operation) :
    screen b keys policy index (before ++ rest) s =
      ((fun later => (found.1 ++ later.1, found.2 ++ later.2)) <$>
        screen b keys policy (index + before.length) rest) s' := by
  induction before generalizing index s found with
  | nil =>
      cases screened
      exact (congrFun (id_map (screen b keys policy index rest)) _).symm
  | cons op before ih =>
      have hlast : index + (op :: before).length = index + 1 + before.length := by
        rw [List.length_cons]
        omega
      rw [List.cons_append, hlast]
      obtain ⟨mid, earlier, hpassed, hearlier, rfl⟩ |
        ⟨reason, mid, earlier, hrefused, hleaves, hearlier, rfl⟩ := screen_cons_cases screened
      · rw [screen_cons_of_passed hpassed]
        exact Run.map_of_map (ih hearlier) _
      · rw [screen_cons_of_left_out hrefused hleaves]
        exact Run.map_of_map (ih hearlier) _

/-- After some operations were applied, the rest are applied in turn. -/
theorem applyAll_append {before : List (Nat × Operation)} {result : Nat × List Rejection}
    (applied : applyAll b policy before s = (.ok result, s')) (rest : List (Nat × Operation)) :
    applyAll b policy (before ++ rest) s =
      ((fun later => (result.1 + later.1, result.2 ++ later.2)) <$> applyAll b policy rest) s' := by
  induction before generalizing s result with
  | nil =>
      cases applied
      have hself : (fun later : Nat × List Rejection => (0 + later.1, [] ++ later.2)) = id := by
        funext later
        rw [Nat.zero_add]
        rfl
      rw [hself, id_map]
      rfl
  | cons entry before ih =>
      obtain ⟨index, op⟩ := entry
      rw [List.cons_append]
      obtain ⟨mid, earlier, hdone, hearlier, rfl⟩ |
        ⟨e, mid, earlier, hfailed, hleaves, hearlier, rfl⟩ := applyAll_cons_cases applied
      · rw [applyAll_cons_of_done hdone]
        have hcount : ∀ later : Nat × List Rejection,
            (earlier.1 + later.1 + 1, earlier.2 ++ later.2) =
              (earlier.1 + 1 + later.1, earlier.2 ++ later.2) := by
          intro later
          rw [Nat.add_right_comm]
        rw [← funext hcount]
        exact Run.map_of_map (ih hearlier) _
      · rw [applyAll_cons_of_left_out hfailed hleaves]
        exact Run.map_of_map (ih hearlier) _

end

/-! ## Asking for accounts only -/

theorem spendable_reads (id : AccountId) : Run.Along (Store.Reads b) (spendable b id) := by
  intro s
  have hread := Store.getBalance_reads (b := b) id s
  rw [spendable]
  split
  · next hrun => rwa [hrun] at hread
  · next hrun => rwa [hrun] at hread
  · next hrun => rwa [hrun] at hread

theorem checkOperation_reads (op : Operation) :
    Run.Along (Store.Reads b) (checkOperation b keys op) := by
  rw [checkOperation]
  have hdecided : Run.Along (Store.Reads b) (decided op.checkShape : Check (Store S) Unit) :=
    fun s => Std.Refl.refl s
  apply Run.Along.bind hdecided
  intro _
  split
  · exact Run.Along.throw _
  · have hcovered : ∀ balance : Balance, Run.Along (Store.Reads b)
        (if balance < op.amount then throw (.insufficientBalance balance op.amount)
          else pure () : Check (Store S) Unit) := by
      intro balance
      split
      · exact Run.Along.throw _
      · exact Run.Along.pure _
    dsimp only
    split
    · exact Run.Along.bind (spendable_reads op.sender) hcovered
    · exact Run.Along.bind (Run.Along.throw _) fun _ =>
        Run.Along.bind (spendable_reads op.sender) hcovered

variable (b keys policy) in
theorem screen_reads (index : Nat) (ops : List Operation) :
    Run.Along (Store.Reads b) (screen b keys policy index ops) := by
  induction ops generalizing index with
  | nil => exact Run.Along.pure _
  | cons op ops ih =>
      rw [screen]
      apply Run.Along.bind (checkOperation_reads op).lift
      intro answer
      cases answer with
      | ok => exact Run.Along.bind (ih (index + 1)) fun _ => Run.Along.pure _
      | error reason =>
          dsimp only
          split
          · exact Run.Along.bind (ih (index + 1)) fun _ => Run.Along.pure _
          · exact Run.Along.throw _

theorem apply_during (op : Operation) : Run.Along (Store.During b) (apply b op) := by
  rw [apply]
  apply Run.Along.bind (Store.update_during op.sender (-op.amount))
  intro _
  apply Run.Along.bind (Store.update_during op.receiver op.amount).lift
  intro answer
  cases answer with
  | ok => exact Run.Along.pure _
  | error e =>
      exact Run.Along.bind (Store.update_during op.sender op.amount) fun _ => Run.Along.throw _

section

variable {s s' s'' : Store S} {op : Operation} {e : StoreError}

theorem apply_of_done (debited : Store.update b op.sender (-op.amount) s = (.ok (), s'))
    (credited : Store.update b op.receiver op.amount s' = (.ok (), s'')) :
    apply b op s = (.ok (), s'') := by
  rw [apply, Run.bind_of_ok debited, Run.lift_bind_apply, ExceptT.run, credited]
  rfl

theorem apply_of_debit_failed
    (failed : Store.update b op.sender (-op.amount) s = (.error e, s')) :
    apply b op s = (.error e, s') := by
  rw [apply, Run.bind_of_error failed]

/-- A credit that fails is what the operation reports: taking back the debit moves
an account that is staged, and so cannot fail. -/
theorem apply_of_credit_failed (opened : s.initialized = true)
    (transaction : s.inTransaction = true) (positive : 0 < op.amount)
    (debited : Store.update b op.sender (-op.amount) s = (.ok (), s'))
    (failed : Store.update b op.receiver op.amount s' = (.error e, s'')) :
    ∃ final, Store.update b op.sender op.amount s'' = (.ok (), final) ∧
      apply b op s = (.error e, final) := by
  obtain ⟨_, _, hrun, -⟩ | ⟨_, entry, hrun, hwithin, hstaged, hmoved⟩ :=
    Store.update_stages (b := b) opened transaction op.sender (-op.amount)
  · cases debited.symm.trans hrun
  cases debited.symm.trans hrun
  have hopened : s'.initialized = true := hwithin.initialized.trans opened
  have htransaction : s'.inTransaction = true := hwithin.inTransaction.trans transaction
  obtain ⟨_, _, hrun, -⟩ | ⟨_, _, hrun, hreads⟩ :=
    (Store.update_stages (b := b) hopened htransaction op.receiver op.amount).symm
  · cases failed.symm.trans hrun
  cases failed.symm.trans hrun
  have hamount : 0 < op.amount.toInt := Int64.lt_iff_toInt_lt.mp positive
  rcases hmoved with ⟨hnegative, -⟩ | ⟨balance, hdebited, hremains⟩
  · exact absurd hnegative (Balance.not_pos_neg_of_pos positive)
  have hrestored : entry.balance.add? op.amount = some balance :=
    Balance.add?_of_debited positive hdebited
  have hnonnegative : ¬ balance < 0 := by
    have hsum := Balance.add?_eq_some_iff.mp hrestored
    rw [Int64.lt_iff_toInt_lt, Int64.toInt_zero] at hremains ⊢
    omega
  obtain ⟨final, hfinal, -⟩ := Store.update_of_staged (b := b)
    (hreads.initialized.trans hopened) (hreads.inTransaction.trans htransaction)
    (hreads.kept hstaged) hrestored hnonnegative
  refine ⟨final, hfinal, ?_⟩
  rw [apply, Run.bind_of_ok debited, Run.lift_bind_apply, ExceptT.run, failed]
  dsimp only
  rw [Run.bind_of_ok hfinal, Run.throw_apply]

/-- An operation fails with its debit, or it fails with its credit and takes back its debit, or
both go through. -/
theorem apply_cases (opened : s.initialized = true) (transaction : s.inTransaction = true)
    (positive : 0 < op.amount) :
    (∃ e final, Store.update b op.sender (-op.amount) s = (.error e, final) ∧
        apply b op s = (.error e, final)) ∨
      (∃ e debited refused final, Store.update b op.sender (-op.amount) s = (.ok (), debited) ∧
        Store.update b op.receiver op.amount debited = (.error e, refused) ∧
        Store.update b op.sender op.amount refused = (.ok (), final) ∧
        apply b op s = (.error e, final)) ∨
      ∃ debited final, Store.update b op.sender (-op.amount) s = (.ok (), debited) ∧
        Store.update b op.receiver op.amount debited = (.ok (), final) ∧
        apply b op s = (.ok (), final) := by
  rcases hdebit : Store.update b op.sender (-op.amount) s with ⟨answer, debited⟩
  cases answer with
  | error e => exact .inl ⟨e, debited, rfl, apply_of_debit_failed hdebit⟩
  | ok =>
      rcases hcredit : Store.update b op.receiver op.amount debited with ⟨answer, final⟩
      cases answer with
      | error e =>
          obtain ⟨restored, hrefund, happly⟩ :=
            apply_of_credit_failed opened transaction positive hdebit hcredit
          exact .inr (.inl ⟨e, debited, final, restored, rfl, hcredit, hrefund, happly⟩)
      | ok => exact .inr (.inr ⟨debited, final, rfl, hcredit, apply_of_done hdebit hcredit⟩)

variable (b policy) in
/-- Operations are applied inside the transaction, or the transaction has ended.
In either case the medium was asked for accounts only. -/
theorem applyAll_ends (opened : s.initialized = true) (transaction : s.inTransaction = true)
    (ops : List (Nat × Operation)) :
    (∃ result s', applyAll b policy ops s = (.ok result, s') ∧ Store.Within b s s') ∨
      ∃ rejection s', applyAll b policy ops s = (.error rejection, s') ∧
        s'.staging = none ∧ b.OnlyRead s.medium s'.medium := by
  induction ops generalizing s with
  | nil => exact .inl ⟨_, s, rfl, Std.Refl.refl s⟩
  | cons entry ops ih =>
      obtain ⟨index, op⟩ := entry
      have hstep := apply_during (b := b) op s transaction
      cases hrun : apply b op s with
      | mk answer s' =>
          rw [hrun] at hstep
          have hopened : s'.initialized = true := hstep.initialized.trans opened
          -- The rest of the operations may only lead further from where this one led.
          have hrest : ∀ count : Nat × List Rejection → Nat × List Rejection,
              (∃ result s'', (count <$> applyAll b policy ops) s' = (.ok result, s'') ∧
                Store.Within b s s'') ∨
              ∃ rejection s'', (count <$> applyAll b policy ops) s' = (.error rejection, s'') ∧
                s''.staging = none ∧ b.OnlyRead s.medium s''.medium := by
            intro count
            rw [Run.map_apply]
            obtain ⟨result, s'', hrun, hwithin⟩ | ⟨rejection, s'', hrun, hended, hread⟩ :=
              ih hopened (hstep.inTransaction.trans transaction)
            · rw [hrun]
              exact .inl ⟨_, s'', rfl, IsTrans.trans _ _ _ hstep hwithin⟩
            · rw [hrun]
              exact .inr ⟨rejection, s'', rfl, hended, hstep.read.trans hread⟩
          cases answer with
          | ok =>
              rw [applyAll_cons_of_done hrun]
              exact hrest _
          | error e =>
              cases hleaves : leavesOut policy (.storage e) with
              | true =>
                  rw [applyAll_cons_of_left_out hrun hleaves]
                  exact hrest _
              | false =>
                  rw [applyAll_cons_of_failed hrun hleaves, Store.rollback_apply hopened]
                  exact .inr ⟨_, _, rfl, rfl, hstep.read⟩

end

/-! ## The operations applied and those left out -/

/-- Operations worked off one after the other, each from where the one before it led: those that
were applied, and those that failed and were left out, with their failures. -/
inductive WorkedOff (b : Backend S) : List (Nat × Operation) →
    List ((Nat × Operation) × StoreError) → Store S → Store S → Prop
  | nil {s : Store S} : WorkedOff b [] [] s s
  | done {entry : Nat × Operation} {done : List (Nat × Operation)}
      {left : List ((Nat × Operation) × StoreError)} {s mid s' : Store S}
      (applied : apply b entry.2 s = (.ok (), mid)) (rest : WorkedOff b done left mid s') :
      WorkedOff b (entry :: done) left s s'
  | left {entry : Nat × Operation} {e : StoreError} {done : List (Nat × Operation)}
      {left : List ((Nat × Operation) × StoreError)} {s mid s' : Store S}
      (failed : apply b entry.2 s = (.error e, mid)) (rest : WorkedOff b done left mid s') :
      WorkedOff b done ((entry, e) :: left) s s'

/-- What holds of all operations that are worked off holds of one that failed and of the rest. -/
theorem forall_mem_of_failed {holds : Nat × Operation → Prop} {entry : Nat × Operation}
    {e : StoreError} {done : List (Nat × Operation)}
    {left : List ((Nat × Operation) × StoreError)}
    (all : ∀ other ∈ done ++ ((entry, e) :: left).map (·.1), holds other) :
    holds entry ∧ ∀ other ∈ done ++ left.map (·.1), holds other := by
  rw [List.map_cons] at all
  apply List.forall_mem_cons.mp
  intro other hmem
  exact all other (List.perm_middle.mem_iff.mpr hmem)

/-- The operations that are applied, as far as it comes to them. -/
def appliedOf (b : Backend S) (policy : Policy) :
    List (Nat × Operation) → Store S → List (Nat × Operation)
  | [], _ => []
  | entry :: ops, s =>
    match apply b entry.2 s with
    | (.ok (), s') => entry :: appliedOf b policy ops s'
    | (.error e, s') => if leavesOut policy (.storage e) then appliedOf b policy ops s' else []

/-- Where operations are applied to the last, each of them was applied and counted, or left out
and reported with its failure. -/
theorem applyAll_worksOff {s s' : Store S} {ops : List (Nat × Operation)}
    {result : Nat × List Rejection} (applied : applyAll b policy ops s = (.ok result, s')) :
    ∃ left, WorkedOff b (appliedOf b policy ops s) left s s' ∧
      (appliedOf b policy ops s ++ left.map (·.1)).Perm ops ∧
      (appliedOf b policy ops s).Sublist ops ∧
      result = ((appliedOf b policy ops s).length,
        left.map fun failure => .ofOperation failure.1.1 (.storage failure.2)) := by
  induction ops generalizing s result with
  | nil =>
      cases applied
      exact ⟨[], .nil, .nil, .slnil, rfl⟩
  | cons entry ops ih =>
      obtain ⟨mid, later, hdone, hlater, rfl⟩ | ⟨e, mid, later, hfailed, hleaves, hlater, rfl⟩ :=
        applyAll_cons_cases applied
      · have happlied : appliedOf b policy (entry :: ops) s = entry :: appliedOf b policy ops mid := by
          rw [appliedOf, hdone]
        obtain ⟨left, hworked, hparts, hsublist, rfl⟩ := ih hlater
        rw [happlied]
        exact ⟨left, .done hdone hworked, hparts.cons _, hsublist.cons_cons _, rfl⟩
      · have happlied : appliedOf b policy (entry :: ops) s = appliedOf b policy ops mid := by
          rw [appliedOf, hfailed]
          exact if_pos hleaves
        obtain ⟨left, hworked, hparts, hsublist, rfl⟩ := ih hlater
        rw [happlied]
        exact ⟨(entry, e) :: left, .left hfailed hworked,
          List.perm_middle.trans (hparts.cons _), hsublist.cons _, rfl⟩

/-! ## From one phase to the next -/

/-- What is reported of a batch that ran. -/
def report : Except Rejection (Nat × List Rejection) → Outcome
  | .ok (applied, skipped) => .committed applied skipped
  | .error rejection => .rejected rejection

section

variable {s : Store S} {tx : Transaction}

theorem process_apply (tx : Transaction) (s : Store S) :
    process b keys policy tx s =
      (report (run b keys policy tx s).1, (run b keys policy tx s).2) := by
  rw [process]
  generalize run b keys policy tx = act
  simp only [bind, StateT.bind, ExceptT.run]
  rcases act s with ⟨answer, s'⟩
  cases answer <;> rfl

/-- Nothing happens inside a transaction that someone else left open. -/
theorem process_of_transaction (transaction : s.inTransaction = true) (tx : Transaction) :
    process b keys policy tx s =
      (.rejected (.ofBatch (.storage .transactionAlreadyOpen)), s) := by
  have hguard : ensureNoTransaction s =
      (.error (.ofBatch (.storage .transactionAlreadyOpen)), s) := by
    rw [ensureNoTransaction, Run.get_bind_apply, if_pos transaction]
    rfl
  rw [process_apply, run, Run.bind_of_error hguard]
  rfl

theorem ensureNoTransaction_of_idle (idle : s.staging = none) :
    ensureNoTransaction s = (.ok (), s) := by
  rw [ensureNoTransaction, Run.get_bind_apply]
  simp [Store.inTransaction, idle]

theorem run_of_empty (idle : s.staging = none) (empty : tx.operations = []) :
    run b keys policy tx s = (.error (.ofBatch .emptyTransaction), s) := by
  rw [run, Run.bind_of_ok (ensureNoTransaction_of_idle idle)]
  simp only [empty, List.isEmpty_nil, if_true]
  rfl

theorem wholly_begin_of_idle (opened : s.initialized = true) (idle : s.staging = none) :
    wholly (Check.ofStep Store.begin) s = (.ok (), Store.begun s) := by
  rw [wholly_ofStep_apply, Store.begin_of_idle opened idle]
  rfl

/-- The commit of a batch is that of the store, with the batch's own answer. -/
theorem wholly_commit_bind_apply (result : Nat × List Rejection) :
    (wholly (Check.ofStep (Store.commit b)) >>= fun _ => pure result) s =
      (((Store.commit b s).1.mapError fun e => .ofBatch (.storage e)).map fun _ => result,
        (Store.commit b s).2) := by
  rw [bind_pure_comp (fun _ => result), Run.map_apply, wholly_ofStep_apply]

/-- The phases of a batch that has operations. -/
theorem run_of_nonempty (idle : s.staging = none) (nonempty : tx.operations ≠ []) :
    run b keys policy tx s =
      (do
        let found ← screen b keys policy 0 tx.operations
        wholly (Check.ofStep Store.begin)
        let result ← applyAll b policy found.1
        wholly (Check.ofStep (Store.commit b))
        return (result.1, found.2 ++ result.2) : Phase (Store S) (Nat × List Rejection)) s := by
  have hlisted : tx.operations.isEmpty = false := by simpa using nonempty
  rw [run, Run.bind_of_ok (ensureNoTransaction_of_idle idle)]
  simp only [hlisted]
  rfl

end

end Clearinghouse.Batch
