/-
# A batch over a medium that serves

Without failures of the medium a batch is a matter of what accounts hold. The
check of one operation, its application and the commit come to a law on holdings
each; the two phases come to the same laws for lists. An operation is refused by
a rule here or not at all.
-/

import Clearinghouse.Proofs.Batch.Failure
import Clearinghouse.Proofs.Batch.Transfer

namespace Clearinghouse.Batch

variable {S : Type} {b : Backend S} {sound : S → Prop} {table : S → Table} {keys : KeyRegistry}
  {policy : Policy}

section

variable {s : Store S} {op : Operation}

/-! ## One operation -/

theorem spendable_of_serves (serves : b.Serves sound table) (coherent : s.Coherent sound table)
    (opened : s.initialized = true) (id : AccountId) :
    ∃ s', spendable b id s = (.ok ((s.visible table)[id]?.getD 0), s') ∧
      Store.Reaches sound table s (s.visible table) s' := by
  obtain ⟨hanswer, hreached⟩ :=
    (Store.getAccount_ends serves.toShows coherent opened id).of_never
      fun _ => serves.load_ne_error id coherent.medium
  cases hfound : (s.visible table)[id]? with
  | none =>
      have hfind : Table.find id (s.visible table) =
          (.error (.accountNotFound id), s.visible table) := by
        simp only [Table.find, hfound]
      rw [hfind] at hanswer hreached
      refine ⟨_, ?_, hreached⟩
      rw [spendable, Store.getBalance_apply, hanswer]
      rfl
  | some balance =>
      have hfind : Table.find id (s.visible table) = (.ok ⟨id, balance⟩, s.visible table) := by
        simp only [Table.find, hfound]
      rw [hfind] at hanswer hreached
      refine ⟨_, ?_, hreached⟩
      rw [spendable, Store.getBalance_apply, hanswer]
      rfl

theorem total_eq_toInt_getD (t : Table) (id : AccountId) :
    t.holdings.total id = (t[id]?.getD 0).toInt := by
  rw [Holdings.total, Table.holdings]
  cases t[id]? <;> rfl

/-- Over a medium that serves, the check of an operation lets exactly the eligible
ones pass, and refuses the others by a rule. -/
theorem checkOperation_of_serves (serves : b.Serves sound table)
    (coherent : s.Coherent sound table) (opened : s.initialized = true) (keys : KeyRegistry)
    (op : Operation) :
    ∃ answer s', checkOperation b keys op s = (answer, s') ∧
      Store.Reaches sound table s (s.visible table) s' ∧
      (answer = .ok () ↔ Eligible keys (s.visible table).holdings op) ∧
      ∀ reason, answer = .error reason → reason.isDomain = true := by
  cases hshape : op.checkShape with
  | error reason =>
      refine ⟨_, s, checkOperation_of_misshapen hshape, coherent.reaches_self, ⟨nofun, ?_⟩, ?_⟩
      · intro heligible
        have hshaped := checkShape_eq_ok_iff.mpr
          ⟨heligible.sender, heligible.receiver, heligible.positive, heligible.signature⟩
        cases hshaped.symm.trans hshape
      · rintro _ ⟨rfl⟩
        exact isDomain_of_misshapen hshape
  | ok =>
      obtain ⟨hsender, hreceiver, hamount, hsignature⟩ := checkShape_eq_ok_iff.mp hshape
      cases hkey : keys[op.sender]? with
      | none =>
          refine ⟨_, s, checkOperation_of_unknown hshape hkey, coherent.reaches_self,
            ⟨nofun, ?_⟩, ?_⟩
          · intro heligible
            have hsigned := heligible.signed
            rw [hkey] at hsigned
            cases hsigned
          · rintro _ ⟨rfl⟩
            rfl
      | some key =>
          cases hverify : key.verify op.message op.signature with
          | false =>
              refine ⟨_, s, checkOperation_of_forged hshape hkey hverify, coherent.reaches_self,
                ⟨nofun, ?_⟩, ?_⟩
              · intro heligible
                have hsigned := heligible.signed
                rw [hkey, Option.any_some, hverify] at hsigned
                cases hsigned
              · rintro _ ⟨rfl⟩
                rfl
          | true =>
              obtain ⟨s', hspendable, hreached⟩ :=
                spendable_of_serves serves coherent opened op.sender
              have hrun := checkOperation_of_signed (b := b) (s := s) hshape hkey hverify
              rw [Run.bind_of_ok hspendable] at hrun
              have htotal := total_eq_toInt_getD (s.visible table) op.sender
              by_cases hshort : (s.visible table)[op.sender]?.getD 0 < op.amount
              · rw [if_pos hshort] at hrun
                refine ⟨_, s', hrun, hreached, ⟨nofun, ?_⟩, ?_⟩
                · intro heligible
                  have hcovered := heligible.covered
                  rw [Int64.lt_iff_toInt_lt] at hshort
                  omega
                · rintro _ ⟨rfl⟩
                  rfl
              · rw [if_neg hshort] at hrun
                refine ⟨_, s', hrun, hreached, ⟨fun _ => ?_, fun _ => rfl⟩, nofun⟩
                rw [Int64.lt_iff_toInt_lt] at hshort
                rw [Int64.lt_iff_toInt_lt, Int64.toInt_zero] at hamount
                refine ⟨hsender, hreceiver, hamount, hsignature, ?_, by omega⟩
                rw [hkey, Option.any_some, hverify]

/-- Over a medium that serves, a transfer ends as the rule for tables says. -/
theorem apply_of_serves (serves : b.Serves sound table) (coherent : s.Coherent sound table)
    (opened : s.initialized = true) (transaction : s.inTransaction = true)
    (positive : 0 < op.amount) :
    (apply b op s).1 = (Table.transfer op (s.visible table)).1 ∧
      Store.Reaches sound table s (Table.transfer op (s.visible table)).2 (apply b op s).2 := by
  apply (apply_ends serves.toShows coherent opened transaction positive).of_never
  rintro e ⟨id, m, hready, hfailed⟩
  exact serves.load_ne_error id hready hfailed

/-- The sums alone decide whether a transfer is applied. -/
theorem apply_of_carries (serves : b.Serves sound table) (coherent : s.Coherent sound table)
    (opened : s.initialized = true) (transaction : s.inTransaction = true)
    (positive : 0 < op.amount) (carries : (s.visible table).holdings.Carries op) :
    ∃ s' after, apply b op s = (.ok (), s') ∧ Store.Reaches sound table s after s' ∧
      after.holdings = (s.visible table).holdings.transfer op := by
  obtain ⟨hanswer, hreached⟩ := apply_of_serves serves coherent opened transaction positive
  obtain ⟨after, htransfer, hafter⟩ := Table.transfer_of_carries positive carries
  rw [htransfer] at hanswer hreached
  exact ⟨(apply b op s).2, after, Prod.ext hanswer rfl, hreached, hafter⟩

theorem apply_of_not_carries (serves : b.Serves sound table) (coherent : s.Coherent sound table)
    (opened : s.initialized = true) (transaction : s.inTransaction = true)
    (positive : 0 < op.amount) (stuck : ¬ (s.visible table).holdings.Carries op) :
    ∃ e s', apply b op s = (.error e, s') ∧ e.isDomain = true ∧
      Store.Reaches sound table s (s.visible table) s' := by
  obtain ⟨hanswer, hreached⟩ := apply_of_serves serves coherent opened transaction positive
  obtain ⟨e, htransfer, hdomain⟩ := Table.transfer_of_not_carries positive stuck
  rw [htransfer] at hanswer hreached
  exact ⟨e, (apply b op s).2, Prod.ext hanswer rfl, hdomain, hreached⟩

/-- Over a medium that serves, a commit makes what the transaction showed the
committed accounts. -/
theorem commit_of_serves (serves : b.Serves sound table) (coherent : s.Coherent sound table)
    (opened : s.initialized = true) :
    ∃ s', Store.commit b s = (.ok (), s') ∧ s'.staging = none ∧
      table s'.medium = s.visible table := by
  have hnever : ∀ e, ¬ ∃ changes, changes ≠ [] ∧ (table s.medium).Admits changes ∧
      (b.flush changes s.medium).1 = .error e := by
    rintro e ⟨changes, -, hadmits, hfailed⟩
    cases hfailed.symm.trans (serves.flush_answers coherent.medium hadmits)
  obtain ⟨hanswer, hreached⟩ := (Store.commit_ends serves.toBooks coherent opened).of_never hnever
  exact ⟨(Store.commit b s).2, Prod.ext hanswer rfl, commit_staging opened, hreached.committed⟩

end

/-! ## Lists of operations -/

theorem leavesOut_allOrNothing (reason : Refusal) : leavesOut .allOrNothing reason = false := rfl

theorem leavesOut_skipFailed (reason : Refusal) :
    leavesOut .skipFailed reason = reason.isDomain := rfl

section

variable {s : Store S} {ops : List Operation} {entries : List (Nat × Operation)}

/-- Eligible operations all pass. -/
theorem screen_of_eligible (serves : b.Serves sound table) (coherent : s.Coherent sound table)
    (opened : s.initialized = true) (index : Nat)
    (eligible : ∀ op ∈ ops, Eligible keys (s.visible table).holdings op) :
    ∃ s', screen b keys policy index ops s = (.ok (Holdings.numbered index ops, []), s') ∧
      Store.Reaches sound table s (s.visible table) s' := by
  induction ops generalizing s index with
  | nil => exact ⟨s, rfl, coherent.reaches_self⟩
  | cons op ops ih =>
      obtain ⟨answer, mid, hrun, hreached, hpasses, -⟩ :=
        checkOperation_of_serves serves coherent opened keys op
      rw [hpasses.mpr (eligible op List.mem_cons_self)] at hrun
      have hrest : ∀ later ∈ ops, Eligible keys (mid.visible table).holdings later := by
        rw [hreached.visible]
        exact fun later hmem => eligible later (List.mem_cons_of_mem op hmem)
      obtain ⟨s', hscreen, hlast⟩ :=
        ih hreached.coherent (hreached.initialized.trans opened) (index + 1) hrest
      rw [hreached.visible] at hlast
      refine ⟨s', ?_, hreached.trans hlast⟩
      rw [screen_cons_of_passed hrun, Run.map_apply, hscreen]
      rfl

/-- The first operation that is not eligible rejects a batch of which every part
counts. -/
theorem screen_of_not_eligible (serves : b.Serves sound table) (coherent : s.Coherent sound table)
    (opened : s.initialized = true) (index : Nat) {before after : List Operation} {op : Operation}
    (eligible : ∀ earlier ∈ before, Eligible keys (s.visible table).holdings earlier)
    (unfit : ¬ Eligible keys (s.visible table).holdings op) :
    ∃ reason s', screen b keys .allOrNothing index (before ++ op :: after) s =
        (.error (.ofOperation (index + before.length) reason), s') ∧
      Store.Reaches sound table s (s.visible table) s' ∧ reason.isDomain = true := by
  obtain ⟨mid, hbefore, hreached⟩ :=
    screen_of_eligible serves coherent opened index eligible
  obtain ⟨answer, s', hrun, hlast, hpasses, hdomain⟩ := checkOperation_of_serves serves
    hreached.coherent (hreached.initialized.trans opened) keys op
  rw [hreached.visible] at hlast hpasses
  cases answer with
  | ok => exact absurd (hpasses.mp rfl) unfit
  | error reason =>
      refine ⟨reason, s', ?_, hreached.trans hlast, hdomain reason rfl⟩
      rw [screen_append hbefore, Run.map_apply,
        screen_cons_of_refused hrun (leavesOut_allOrNothing reason)]
      rfl

/-- A batch that leaves out what fails keeps exactly the eligible operations. -/
theorem screen_skipFailed (serves : b.Serves sound table) (coherent : s.Coherent sound table)
    (opened : s.initialized = true) (keys : KeyRegistry) (index : Nat) (ops : List Operation) :
    ∃ skipped s', screen b keys .skipFailed index ops s =
        (.ok ((Holdings.numbered index ops).filter
          (Eligible keys (s.visible table).holdings ·.2), skipped), s') ∧
      Store.Reaches sound table s (s.visible table) s' ∧
      skipped.map (·.index) = ((Holdings.numbered index ops).filter
        (¬ Eligible keys (s.visible table).holdings ·.2)).map (some ·.1) ∧
      ∀ rejection ∈ skipped, rejection.reason.isDomain = true := by
  induction ops generalizing s index with
  | nil => exact ⟨[], s, rfl, coherent.reaches_self, rfl, nofun⟩
  | cons op ops ih =>
      obtain ⟨answer, mid, hrun, hreached, hpasses, hdomain⟩ :=
        checkOperation_of_serves serves coherent opened keys op
      obtain ⟨skipped, s', hscreen, hlast, hskipped, hreasons⟩ :=
        ih hreached.coherent (hreached.initialized.trans opened) (index + 1)
      rw [hreached.visible] at hscreen hlast hskipped
      rw [Holdings.numbered]
      cases answer with
      | ok =>
          have heligible := hpasses.mp rfl
          refine ⟨skipped, s', ?_, hreached.trans hlast, ?_, hreasons⟩
          · rw [screen_cons_of_passed hrun, Run.map_apply, hscreen,
              List.filter_cons_of_pos (by simpa using heligible)]
            rfl
          · rw [hskipped, List.filter_cons_of_neg (by simpa using heligible)]
      | error reason =>
          have hunfit : ¬ Eligible keys (s.visible table).holdings op :=
            fun heligible => by cases hpasses.mpr heligible
          have hleaves : leavesOut .skipFailed reason = true :=
            (leavesOut_skipFailed reason).trans (hdomain reason rfl)
          refine ⟨.ofOperation index reason :: skipped, s', ?_, hreached.trans hlast, ?_, ?_⟩
          · rw [screen_cons_of_left_out hrun hleaves, Run.map_apply, hscreen,
              List.filter_cons_of_neg (by simpa using hunfit)]
            rfl
          · rw [List.filter_cons_of_pos (by simpa using hunfit), List.map_cons, List.map_cons,
              hskipped]
            rfl
          · intro rejection hmem
            rcases List.mem_cons.mp hmem with rfl | hmem
            · exact hleaves
            · exact hreasons rejection hmem

/-- Transfers that can all be carried out are all applied. -/
theorem applyAll_of_carriesAll (serves : b.Serves sound table) (coherent : s.Coherent sound table)
    (opened : s.initialized = true) (transaction : s.inTransaction = true)
    (positive : ∀ entry ∈ entries, 0 < entry.2.amount)
    (carries : (s.visible table).holdings.CarriesAll (entries.map (·.2))) :
    ∃ s' after, applyAll b policy entries s = (.ok (entries.length, []), s') ∧
      Store.Reaches sound table s after s' ∧
      after.holdings = (s.visible table).holdings.transferAll (entries.map (·.2)) := by
  induction entries generalizing s with
  | nil => exact ⟨s, s.visible table, rfl, coherent.reaches_self, rfl⟩
  | cons entry entries ih =>
      obtain ⟨index, op⟩ := entry
      obtain ⟨hop, hrest⟩ := carries
      obtain ⟨mid, moved, hrun, hreached, hmoved⟩ := apply_of_carries serves coherent opened
        transaction (positive (index, op) List.mem_cons_self) hop
      have hseen : (mid.visible table).holdings = (s.visible table).holdings.transfer op := by
        rw [hreached.visible, hmoved]
      obtain ⟨s', after, happly, hlast, hafter⟩ := ih hreached.coherent
        (hreached.initialized.trans opened) (hreached.inTransaction.trans transaction)
        (fun later hmem => positive later (List.mem_cons_of_mem _ hmem)) (hseen ▸ hrest)
      refine ⟨s', after, ?_, hreached.trans hlast, ?_⟩
      · rw [applyAll_cons_of_done hrun, Run.map_apply, happly]
        rfl
      · rw [hafter, hseen, List.map_cons]
        rfl

/-- The first transfer that cannot be carried out rejects a batch of which every
part counts. -/
theorem applyAll_of_not_carries (serves : b.Serves sound table) (coherent : s.Coherent sound table)
    (opened : s.initialized = true) (transaction : s.inTransaction = true)
    {before after : List (Nat × Operation)} {index : Nat} {op : Operation}
    (positive : ∀ entry ∈ before, 0 < entry.2.amount)
    (carries : (s.visible table).holdings.CarriesAll (before.map (·.2))) (moves : 0 < op.amount)
    (stuck : ¬ ((s.visible table).holdings.transferAll (before.map (·.2))).Carries op) :
    ∃ reason s', applyAll b .allOrNothing (before ++ (index, op) :: after) s =
        (.error (.ofOperation index reason), s') ∧
      table s'.medium = table s.medium ∧ reason.isDomain = true := by
  obtain ⟨mid, moved, hbefore, hreached, hmoved⟩ :=
    applyAll_of_carriesAll serves coherent opened transaction
      positive carries
  have hopened : mid.initialized = true := hreached.initialized.trans opened
  have htransaction : mid.inTransaction = true := hreached.inTransaction.trans transaction
  rw [← hmoved, ← hreached.visible] at stuck
  obtain ⟨e, last, hrun, hdomain, hlast⟩ :=
    apply_of_not_carries serves hreached.coherent hopened htransaction moves stuck
  refine ⟨.storage e, Store.dropped last, ?_, ?_, hdomain⟩
  · rw [applyAll_append hbefore, Run.map_apply,
      applyAll_cons_of_failed hrun (leavesOut_allOrNothing _),
      Store.rollback_apply (hlast.initialized.trans hopened)]
    rfl
  · have hcommitted := (hreached.trans hlast).committed
    rw [if_pos transaction] at hcommitted
    exact hcommitted

/-- A batch that leaves out what fails applies exactly the transfers that can be
carried out on what was applied before them. -/
theorem applyAll_skipFailed (serves : b.Serves sound table) (coherent : s.Coherent sound table)
    (opened : s.initialized = true) (transaction : s.inTransaction = true)
    (positive : ∀ entry ∈ entries, 0 < entry.2.amount) :
    ∃ failed s' after, applyAll b .skipFailed entries s =
        (.ok (((s.visible table).holdings.applicable entries).length, failed), s') ∧
      Store.Reaches sound table s after s' ∧
      after.holdings = (s.visible table).holdings.transferAll
        (((s.visible table).holdings.applicable entries).map (·.2)) ∧
      failed.map (·.index) =
        ((s.visible table).holdings.inapplicable entries).map (some ·.1) ∧
      ∀ rejection ∈ failed, rejection.reason.isDomain = true := by
  induction entries generalizing s with
  | nil => exact ⟨[], s, s.visible table, rfl, coherent.reaches_self, rfl, rfl, nofun⟩
  | cons entry entries ih =>
      obtain ⟨index, op⟩ := entry
      have hmoves : 0 < op.amount := positive (index, op) List.mem_cons_self
      have hlater : ∀ later ∈ entries, 0 < later.2.amount :=
        fun later hmem => positive later (List.mem_cons_of_mem _ hmem)
      rw [Holdings.applicable, Holdings.inapplicable]
      by_cases hcarries : (s.visible table).holdings.Carries op
      · obtain ⟨mid, moved, hrun, hreached, hmoved⟩ :=
          apply_of_carries serves coherent opened transaction hmoves hcarries
        obtain ⟨failed, s', after, happly, hlast, hafter, hfailed, hreasons⟩ :=
          ih hreached.coherent (hreached.initialized.trans opened)
            (hreached.inTransaction.trans transaction) hlater
        rw [hreached.visible, hmoved] at happly hafter hfailed
        rw [if_pos hcarries, if_pos hcarries]
        refine ⟨failed, s', after, ?_, hreached.trans hlast, hafter, hfailed, hreasons⟩
        rw [applyAll_cons_of_done hrun, Run.map_apply, happly]
        rfl
      · obtain ⟨e, mid, hrun, hdomain, hreached⟩ :=
          apply_of_not_carries serves coherent opened transaction hmoves hcarries
        have hleaves : leavesOut .skipFailed (.storage e) = true :=
          (leavesOut_skipFailed (.storage e)).trans hdomain
        obtain ⟨failed, s', after, happly, hlast, hafter, hfailed, hreasons⟩ :=
          ih hreached.coherent (hreached.initialized.trans opened)
            (hreached.inTransaction.trans transaction) hlater
        rw [hreached.visible] at happly hafter hfailed
        rw [if_neg hcarries, if_neg hcarries]
        refine ⟨.ofOperation index (.storage e) :: failed, s', after, ?_, hreached.trans hlast,
          hafter, ?_, ?_⟩
        · rw [applyAll_cons_of_left_out hrun hleaves, Run.map_apply, happly]
          rfl
        · rw [List.map_cons, List.map_cons, hfailed]
          rfl
        · intro rejection hmem
          rcases List.mem_cons.mp hmem with rfl | hmem
          · exact hdomain
          · exact hreasons rejection hmem

end

end Clearinghouse.Batch
