/-
# Admission and delivery

A transaction can be checked for admission before it is delivered. Both look for
the same defects, in a different order: admission asks for the shape of every
operation before it asks for a signature or a balance, and delivery asks
everything of one operation before it turns to the next. What admission refuses,
a delivery of which every part counts refuses too. The two name the same cause
unless a defect of another kind stands before the first operation of the wrong
shape.
-/

import Clearinghouse.Proofs.Batch.AllOrNothing

namespace Clearinghouse

namespace Operation

/-- What is wrong with the shape of an operation, if anything. -/
def shapeDefect? (op : Operation) : Option Refusal :=
  match op.checkShape with
  | .ok () => none
  | .error reason => some reason

/-- What is wrong with an operation on its own, given the committed accounts. -/
def defect? (keys : KeyRegistry) (table : Table) (op : Operation) : Option Refusal :=
  op.shapeDefect?.or <|
    match keys[op.sender]? with
    | none => some (.unknownSigner op.sender)
    | some key =>
      if key.verify op.message op.signature = true then
        let balance := table[op.sender]?.getD 0
        if balance < op.amount then some (.insufficientBalance balance op.amount) else none
      else some .invalidSignature

theorem shapeDefect?_eq_none_iff {op : Operation} :
    op.shapeDefect? = none ↔ op.checkShape = .ok () := by
  unfold shapeDefect?
  cases op.checkShape <;> simp

/-- A defect of the shape comes before any other. -/
theorem defect?_of_misshapen {op : Operation} {reason : Refusal}
    (misshapen : op.shapeDefect? = some reason) (keys : KeyRegistry) (table : Table) :
    op.defect? keys table = some reason := by
  rw [defect?, misshapen, Option.some_or]

end Operation

namespace Batch

/-- A check passes unless there is something to report. -/
def verdict {ε : Type} : Option ε → Except ε Unit
  | none => .ok ()
  | some e => .error e

/-- The first operation of a list with a defect, as a rejection; `index` is the
position of the first operation of the list. -/
def firstDefect? (defect? : Operation → Option Refusal) (index : Nat) :
    List Operation → Option Rejection
  | [] => none
  | op :: ops =>
    match defect? op with
    | some reason => some (.ofOperation index reason)
    | none => firstDefect? defect? (index + 1) ops

/-- The first operation with a defect has the right shape, and a later one has
not. -/
inductive Overtaken (keys : KeyRegistry) (table : Table) : List Operation → Prop
  | here {op later : Operation} {ops : List Operation} (shaped : op.shapeDefect? = none)
      (defective : op.defect? keys table ≠ none) (listed : later ∈ ops)
      (misshapen : later.shapeDefect? ≠ none) : Overtaken keys table (op :: ops)
  | later {op : Operation} {ops : List Operation} (passes : op.defect? keys table = none)
      (overtaken : Overtaken keys table ops) : Overtaken keys table (op :: ops)

section

variable {defect? : Operation → Option Refusal} {index : Nat} {ops : List Operation}

theorem firstDefect?_cons_of_some {op : Operation} {reason : Refusal}
    (defective : defect? op = some reason) (ops : List Operation) :
    firstDefect? defect? index (op :: ops) = some (.ofOperation index reason) := by
  rw [firstDefect?, defective]

theorem firstDefect?_cons_of_none {op : Operation} (passes : defect? op = none)
    (ops : List Operation) :
    firstDefect? defect? index (op :: ops) = firstDefect? defect? (index + 1) ops := by
  rw [firstDefect?, passes]

/-- A rejection names an operation that was looked at, by its position. -/
theorem exists_of_firstDefect? {rejection : Rejection}
    (found : firstDefect? defect? index ops = some rejection) :
    ∃ op ∈ ops, ∃ position reason, index ≤ position ∧ defect? op = some reason ∧
      rejection = .ofOperation position reason := by
  induction ops generalizing index with
  | nil => cases found
  | cons op ops ih =>
      cases hop : defect? op with
      | some reason =>
          rw [firstDefect?_cons_of_some hop] at found
          cases found
          exact ⟨op, List.mem_cons_self, index, reason, Nat.le_refl index, hop, rfl⟩
      | none =>
          rw [firstDefect?_cons_of_none hop] at found
          obtain ⟨later, hlisted, position, reason, hposition, hdefect, hnamed⟩ := ih found
          exact ⟨later, List.mem_cons_of_mem op hlisted, position, reason,
            Nat.le_of_succ_le hposition, hdefect, hnamed⟩

theorem firstDefect?_eq_none_iff :
    firstDefect? defect? index ops = none ↔ ∀ op ∈ ops, defect? op = none := by
  induction ops generalizing index with
  | nil => exact ⟨fun _ => nofun, fun _ => rfl⟩
  | cons op ops ih =>
      cases hop : defect? op with
      | some reason => simp [firstDefect?_cons_of_some hop, hop]
      | none => simp [firstDefect?_cons_of_none hop, ih, hop]

/-- Only an operation of the wrong shape is overtaken. -/
theorem Overtaken.exists_misshapen {keys : KeyRegistry} {table : Table}
    (overtaken : Overtaken keys table ops) : ∃ op ∈ ops, op.shapeDefect? ≠ none := by
  induction overtaken with
  | here _ _ listed misshapen => exact ⟨_, List.mem_cons_of_mem _ listed, misshapen⟩
  | later _ _ ih =>
      obtain ⟨op, hlisted, hmisshapen⟩ := ih
      exact ⟨op, List.mem_cons_of_mem _ hlisted, hmisshapen⟩

/-- The first defect of a shape and the first defect of any kind are one unless the
former is overtaken. -/
theorem firstDefect?_eq_iff {keys : KeyRegistry} {table : Table} {misshapen first : Rejection}
    (hshape : firstDefect? Operation.shapeDefect? index ops = some misshapen)
    (hfirst : firstDefect? (Operation.defect? keys table) index ops = some first) :
    first = misshapen ↔ ¬ Overtaken keys table ops := by
  induction ops generalizing index with
  | nil => cases hshape
  | cons op ops ih =>
      cases hop : op.shapeDefect? with
      | some reason =>
          have hdefect := Operation.defect?_of_misshapen hop keys table
          rw [firstDefect?_cons_of_some hop] at hshape
          rw [firstDefect?_cons_of_some hdefect] at hfirst
          have hsame : first = misshapen := Option.some_inj.mp (hfirst.symm.trans hshape)
          refine ⟨fun _ hovertaken => ?_, fun _ => hsame⟩
          cases hovertaken with
          | here shaped => cases hop.symm.trans shaped
          | later passes => cases hdefect.symm.trans passes
      | none =>
          rw [firstDefect?_cons_of_none hop] at hshape
          cases hdefect : op.defect? keys table with
          | some reason =>
              rw [firstDefect?_cons_of_some hdefect] at hfirst
              obtain ⟨later, hlisted, position, _, hposition, hmisshapen, rfl⟩ :=
                exists_of_firstDefect? hshape
              cases hfirst
              constructor
              · intro hsame
                cases hsame
                exact absurd hposition (Nat.not_succ_le_self index)
              · intro hnot
                exact absurd (.here hop (by simp [hdefect]) hlisted (by simp [hmisshapen])) hnot
          | none =>
              rw [firstDefect?_cons_of_none hdefect] at hfirst
              rw [ih hshape hfirst]
              constructor
              · rintro hnot (⟨-, hdefective, -⟩ | ⟨-, hovertaken⟩)
                · exact hdefective hdefect
                · exact hnot hovertaken
              · exact fun hnot hovertaken => hnot (.later hdefect hovertaken)

end

theorem checkShapesFrom_eq (index : Nat) (ops : List Operation) :
    Transaction.checkShapesFrom index ops =
      verdict (firstDefect? Operation.shapeDefect? index ops) := by
  induction ops generalizing index with
  | nil => rfl
  | cons op ops ih =>
      rw [Transaction.checkShapesFrom, firstDefect?, Operation.shapeDefect?]
      cases op.checkShape with
      | error reason => rfl
      | ok => exact ih (index + 1)

section

variable {S : Type} {b : Backend S} {sound : S → Prop} {table : S → Table} {s : Store S}

/-- Over a medium that serves, the check of an operation reports its defect. -/
theorem checkOperation_eq (serves : b.Serves sound table) (coherent : s.Coherent sound table)
    (opened : s.initialized = true) (keys : KeyRegistry) (op : Operation) :
    ∃ s', checkOperation b keys op s = (verdict (op.defect? keys (s.visible table)), s') ∧
      Store.Reaches sound table s (s.visible table) s' := by
  cases hshape : op.checkShape with
  | error reason =>
      refine ⟨s, ?_, coherent.reaches_self⟩
      have hmisshapen : op.shapeDefect? = some reason := by rw [Operation.shapeDefect?, hshape]
      rw [checkOperation_of_misshapen hshape, Operation.defect?_of_misshapen hmisshapen]
      rfl
  | ok =>
      have hshaped : op.shapeDefect? = none := Operation.shapeDefect?_eq_none_iff.mpr hshape
      rw [Operation.defect?, hshaped, Option.none_or]
      cases hkey : keys[op.sender]? with
      | none => exact ⟨s, checkOperation_of_unknown hshape hkey, coherent.reaches_self⟩
      | some key =>
          cases hverify : key.verify op.message op.signature with
          | false =>
              refine ⟨s, ?_, coherent.reaches_self⟩
              rw [checkOperation_of_forged hshape hkey hverify]
              simp only [hverify]
              rfl
          | true =>
              obtain ⟨s', hspendable, hreached⟩ :=
                spendable_of_serves serves coherent opened op.sender
              refine ⟨s', ?_, hreached⟩
              rw [checkOperation_of_signed hshape hkey hverify, Run.bind_of_ok hspendable]
              by_cases hshort : (s.visible table)[op.sender]?.getD 0 < op.amount
              · simp only [hverify, hshort, if_true]
                rfl
              · simp only [hverify, hshort, if_true, if_false]
                rfl

/-- Checking operations one after the other reports the first defect. -/
theorem checkFrom_eq (serves : b.Serves sound table) (coherent : s.Coherent sound table)
    (opened : s.initialized = true) (keys : KeyRegistry) (index : Nat) (ops : List Operation) :
    (checkFrom b keys index ops s).1 =
      verdict (firstDefect? (Operation.defect? keys (s.visible table)) index ops) := by
  induction ops generalizing s index with
  | nil => rfl
  | cons op ops ih =>
      obtain ⟨mid, hrun, hreached⟩ := checkOperation_eq serves coherent opened keys op
      have hadapt : ExceptT.adapt (Rejection.ofOperation index) (checkOperation b keys op) s =
          ((checkOperation b keys op s).1.mapError _, (checkOperation b keys op s).2) := rfl
      rw [hrun] at hadapt
      rw [checkFrom]
      cases hdefect : op.defect? keys (s.visible table) with
      | some reason =>
          rw [hdefect] at hadapt
          rw [Run.bind_of_error hadapt, firstDefect?_cons_of_some hdefect]
          rfl
      | none =>
          rw [hdefect] at hadapt
          rw [Run.bind_of_ok hadapt, firstDefect?_cons_of_none hdefect,
            ih hreached.coherent (hreached.initialized.trans opened), hreached.visible]

/-- Where every part counts, the screening ends at the first defect. -/
theorem screen_of_defect (serves : b.Serves sound table) (coherent : s.Coherent sound table)
    (opened : s.initialized = true) {keys : KeyRegistry} {index : Nat} {ops : List Operation}
    {first : Rejection}
    (found : firstDefect? (Operation.defect? keys (s.visible table)) index ops = some first) :
    (screen b keys .allOrNothing index ops s).1 = .error first := by
  induction ops generalizing s index with
  | nil => cases found
  | cons op ops ih =>
      obtain ⟨mid, hrun, hreached⟩ := checkOperation_eq serves coherent opened keys op
      cases hdefect : op.defect? keys (s.visible table) with
      | some reason =>
          rw [hdefect] at hrun
          rw [firstDefect?_cons_of_some hdefect] at found
          cases found
          rw [screen_cons_of_refused hrun (leavesOut_allOrNothing reason)]
      | none =>
          rw [hdefect] at hrun
          rw [firstDefect?_cons_of_none hdefect, ← hreached.visible] at found
          rw [screen_cons_of_passed hrun, Run.map_apply,
            ih hreached.coherent (hreached.initialized.trans opened) found]
          rfl

/-- Admission reports the first defect of a shape, and if there is none the first
defect of any kind. -/
theorem check_eq (serves : b.Serves sound table) (opened : s.initialized = true)
    (idle : s.staging = none) (ready : sound s.medium) (keys : KeyRegistry) {tx : Transaction}
    (nonempty : tx.operations ≠ []) :
    (check b keys tx s).1 =
      verdict ((firstDefect? Operation.shapeDefect? 0 tx.operations).or
        (firstDefect? (Operation.defect? keys (table s.medium)) 0 tx.operations)) := by
  have hshapes : tx.checkShape =
      verdict (firstDefect? Operation.shapeDefect? 0 tx.operations) := by
    rw [Transaction.checkShape, if_neg (by simpa using nonempty), checkShapesFrom_eq]
  have hdecided := decided_apply hshapes s
  rw [check, Run.bind_of_ok (ensureNoTransaction_of_idle idle)]
  cases hmisshapen : firstDefect? Operation.shapeDefect? 0 tx.operations with
  | some rejection =>
      rw [hmisshapen] at hdecided
      rw [Run.bind_of_error hdecided]
      rfl
  | none =>
      rw [hmisshapen] at hdecided
      rw [Run.bind_of_ok hdecided, Option.none_or,
        checkFrom_eq serves (.of_idle ready idle) opened, Store.visible_of_idle table idle]

/-- Delivery reports the first defect of any kind. -/
theorem process_of_defect (serves : b.Serves sound table) (opened : s.initialized = true)
    (idle : s.staging = none) (ready : sound s.medium) {keys : KeyRegistry} {tx : Transaction}
    {first : Rejection}
    (found : firstDefect? (Operation.defect? keys (table s.medium)) 0 tx.operations = some first) :
    (process b keys .allOrNothing tx s).1 = .rejected first := by
  have hnonempty : tx.operations ≠ [] := by
    intro hempty
    rw [hempty] at found
    cases found
  rw [← Store.visible_of_idle table idle] at found
  have hscreen := screen_of_defect serves (.of_idle ready idle) opened found
  rw [process_apply, run_of_nonempty idle hnonempty]
  cases hrun : screen b keys .allOrNothing 0 tx.operations s with
  | mk answer s' =>
      rw [hrun] at hscreen
      cases hscreen
      rw [Run.bind_of_error hrun]
      rfl

/-- What admission refuses, delivery refuses. The rejection is the same exactly if
no operation of the wrong shape is overtaken by another defect. -/
theorem process_of_check_refused (serves : b.Serves sound table) (opened : s.initialized = true)
    (idle : s.staging = none) (ready : sound s.medium) (keys : KeyRegistry) (tx : Transaction)
    {rejection : Rejection} (refused : (check b keys tx s).1 = .error rejection) :
    ∃ first, (process b keys .allOrNothing tx s).1 = .rejected first ∧
      (first = rejection ↔ ¬ Overtaken keys (table s.medium) tx.operations) := by
  by_cases hempty : tx.operations = []
  · have hshape : tx.checkShape = .error (.ofBatch .emptyTransaction) := by
      rw [Transaction.checkShape, hempty]
      rfl
    rw [check, Run.bind_of_ok (ensureNoTransaction_of_idle idle),
      Run.bind_of_error (decided_apply hshape s)] at refused
    cases refused
    refine ⟨.ofBatch .emptyTransaction, ?_, ⟨fun _ => ?_, fun _ => rfl⟩⟩
    · rw [process_apply, run_of_empty idle hempty]
      rfl
    · rw [hempty]
      exact nofun
  rw [check_eq serves opened idle ready keys hempty] at refused
  cases hfirst : firstDefect? (Operation.defect? keys (table s.medium)) 0 tx.operations with
  | none =>
      have hshaped : firstDefect? Operation.shapeDefect? 0 tx.operations = none := by
        rw [firstDefect?_eq_none_iff] at hfirst ⊢
        intro op hmem
        have hop := hfirst op hmem
        rw [Operation.defect?, Option.or_eq_none_iff] at hop
        exact hop.1
      rw [hfirst, hshaped] at refused
      cases refused
  | some first =>
      refine ⟨first, process_of_defect serves opened idle ready hfirst, ?_⟩
      rw [hfirst] at refused
      cases hshape : firstDefect? Operation.shapeDefect? 0 tx.operations with
      | some misshapen =>
          rw [hshape] at refused
          cases refused
          exact firstDefect?_eq_iff hshape hfirst
      | none =>
          rw [hshape] at refused
          cases refused
          refine ⟨fun _ hovertaken => ?_, fun _ => rfl⟩
          obtain ⟨op, hlisted, hmisshapen⟩ := hovertaken.exists_misshapen
          exact hmisshapen (firstDefect?_eq_none_iff.mp hshape op hlisted)

/-- A transfer of a stranger overtakes one of nothing at all. -/
theorem memory_refuses_another :
    let tx : Transaction := ⟨[⟨1, 2, 5, [1]⟩, ⟨1, 2, 0, [1]⟩]⟩
    let s : Store Table := ⟨∅, true, none⟩
    ∃ first, (process Memory.backend ∅ .allOrNothing tx s).1 = .rejected first ∧
      first ≠ ⟨some 1, .invalidAmount 0⟩ := by
  intro tx s
  have hrefused : (check Memory.backend ∅ tx s).1 = .error ⟨some 1, .invalidAmount 0⟩ := rfl
  obtain ⟨first, hprocess, hsame⟩ :=
    process_of_check_refused Memory.backend_serves rfl rfl trivial ∅ tx hrefused
  have hovertaken : Overtaken ∅ s.medium tx.operations :=
    .here rfl (by decide +kernel) List.mem_cons_self (by decide +kernel)
  exact ⟨first, hprocess, fun heq => hsame.mp heq hovertaken⟩

/-- Admission refuses the transfer of nothing, delivery the stranger before it. -/
theorem memory_refusals_differ :
    let tx : Transaction := ⟨[⟨1, 2, 5, [1]⟩, ⟨1, 2, 0, [1]⟩]⟩
    let s : Store Table := ⟨∅, true, none⟩
    ¬ ∀ rejection, (check Memory.backend ∅ tx s).1 = .error rejection →
      (process Memory.backend ∅ .allOrNothing tx s).1 = .rejected rejection := by
  intro tx s hagree
  have hprocess : (process Memory.backend ∅ .allOrNothing tx s).1 =
      .rejected ⟨some 0, .unknownSigner 1⟩ := by
    decide +kernel
  cases hprocess.symm.trans (hagree ⟨some 1, .invalidAmount 0⟩ rfl)

end

end Batch

end Clearinghouse
