/-
# A batch that leaves out what fails

Such a batch always commits, if the medium does not fail. It applies the part of
it that can be applied: of the eligible operations, in order, those whose
transfers can be carried out on what was applied before. Everything else is
reported once, and has no effect. Applied on its own as a whole, that part has the
same effect; and where the whole batch could commit, nothing is left out.
-/

import Clearinghouse.Proofs.Batch.AllOrNothing

namespace Clearinghouse

namespace Holdings

/-- The operations of a batch that are eligible, and those that are not. -/
def fit (h : Holdings) (keys : KeyRegistry) (ops : List Operation) : List (Nat × Operation) :=
  (numbered 0 ops).filter (Eligible keys h ·.2)

def unfit (h : Holdings) (keys : KeyRegistry) (ops : List Operation) : List (Nat × Operation) :=
  (numbered 0 ops).filter (¬ Eligible keys h ·.2)

/-- The operations of a batch that go through. -/
def applied (h : Holdings) (keys : KeyRegistry) (ops : List Operation) : List (Nat × Operation) :=
  h.applicable (h.fit keys ops)

/-- The eligible operations that do not go through. -/
def failed (h : Holdings) (keys : KeyRegistry) (ops : List Operation) : List (Nat × Operation) :=
  h.inapplicable (h.fit keys ops)

variable {h : Holdings} {keys : KeyRegistry} {ops : List Operation}

/-- Every operation of a batch goes through, fails, or is not eligible. -/
theorem parts_perm (h : Holdings) (keys : KeyRegistry) (ops : List Operation) :
    (h.applied keys ops ++ (h.unfit keys ops ++ h.failed keys ops)).Perm (numbered 0 ops) := by
  have hfit : (h.applied keys ops ++ h.failed keys ops).Perm (h.fit keys ops) :=
    applicable_append_perm h (h.fit keys ops)
  have hall : (h.fit keys ops ++ h.unfit keys ops).Perm (numbered 0 ops) := by
    rw [fit, unfit]
    simp only [decide_not]
    exact List.filter_append_perm _ _
  have hswap : (h.applied keys ops ++ (h.unfit keys ops ++ h.failed keys ops)).Perm
      (h.applied keys ops ++ h.failed keys ops ++ h.unfit keys ops) := by
    rw [List.append_assoc]
    exact List.perm_append_comm.append_left _
  exact hswap.trans ((hfit.append_right _).trans hall)

/-- Parts of a batch keep the order of its operations. -/
theorem ascending_of_sublist {part : List (Nat × Operation)}
    (sublist : part.Sublist (numbered 0 ops)) : (part.map (·.1)).Pairwise (· < ·) := by
  have hnumbers : (part.map (·.1)).Sublist (List.range' 0 ops.length) := by
    rw [← map_fst_numbered 0 ops]
    exact sublist.map _
  exact (List.pairwise_lt_range' 1).sublist hnumbers

theorem eligible_of_mem_applied {entry : Nat × Operation} (mem : entry ∈ h.applied keys ops) :
    Eligible keys h entry.2 := by
  have hfit : entry ∈ h.fit keys ops := (applicable_sublist h _).subset mem
  exact of_decide_eq_true (List.mem_filter.mp hfit).2

end Holdings

/-- What a batch that commits in part reports of the operations it left out. -/
structure Reports (h : Holdings) (keys : KeyRegistry) (ops : List Operation)
    (skipped : List Rejection) : Prop where
  /-- First those that are not eligible, and then those that did not go through. -/
  listed : skipped.map (·.index) = (h.unfit keys ops ++ h.failed keys ops).map (some ·.1)
  unfit_ascending : ((h.unfit keys ops).map (·.1)).Pairwise (· < ·)
  failed_ascending : ((h.failed keys ops).map (·.1)).Pairwise (· < ·)
  /-- Every operation that was not applied is reported, and no other. -/
  covers : ∀ index, some index ∈ skipped.map (·.index) ↔
    index < ops.length ∧ index ∉ (h.applied keys ops).map (·.1)
  once : (skipped.map (·.index)).Nodup
  domain : ∀ rejection ∈ skipped, rejection.reason.isDomain = true

theorem reports_of_listed {h : Holdings} {keys : KeyRegistry} {ops : List Operation}
    {skipped : List Rejection}
    (listed : skipped.map (·.index) = (h.unfit keys ops ++ h.failed keys ops).map (some ·.1))
    (domain : ∀ rejection ∈ skipped, rejection.reason.isDomain = true) :
    Reports h keys ops skipped := by
  have hnumbers : ((h.applied keys ops).map (·.1) ++
      (h.unfit keys ops ++ h.failed keys ops).map (·.1)).Perm (List.range' 0 ops.length) := by
    rw [← List.map_append, ← Holdings.map_fst_numbered 0 ops]
    exact (Holdings.parts_perm h keys ops).map _
  have hsome : skipped.map (·.index) =
      ((h.unfit keys ops ++ h.failed keys ops).map (·.1)).map some := by
    rw [listed, List.map_map]
    rfl
  have hdistinct := hnumbers.nodup_iff.mpr (List.nodup_range' 1)
  rw [List.nodup_append] at hdistinct
  obtain ⟨-, honce, hapart⟩ := hdistinct
  refine ⟨listed, ?_, ?_, ?_, ?_, domain⟩
  · exact Holdings.ascending_of_sublist List.filter_sublist
  · exact Holdings.ascending_of_sublist
      ((Holdings.inapplicable_sublist h _).trans List.filter_sublist)
  · intro index
    have hmem := hnumbers.mem_iff (a := index)
    rw [List.mem_append, List.mem_range'_1] at hmem
    rw [hsome, List.mem_map]
    constructor
    · rintro ⟨other, hother, ⟨⟩⟩
      have hbound := hmem.mp (.inr hother)
      exact ⟨by omega, fun happlied => hapart index happlied index hother rfl⟩
    · rintro ⟨hbound, hleft⟩
      exact ⟨index, (hmem.mpr ⟨Nat.zero_le index, by omega⟩).resolve_left hleft, rfl⟩
  · rw [hsome, List.Nodup, List.pairwise_map]
    exact honce.imp fun hne heq => hne (Option.some.inj heq)

theorem Table.holdings_injective {t t' : Table} (same : t.holdings = t'.holdings) : t = t' := by
  apply Std.ExtTreeMap.ext_getElem?
  intro id
  have hid : t[id]?.map (·.toInt) = t'[id]?.map (·.toInt) := congrFun same id
  cases h : t[id]? <;> cases h' : t'[id]? <;> simp_all [Int64.toInt_inj]

namespace Batch

variable {S : Type} {b : Backend S} {sound : S → Prop} {table : S → Table} {keys : KeyRegistry}
  {s : Store S} {tx : Transaction}

theorem run_skipFailed (serves : b.Serves sound table) (keys : KeyRegistry)
    (opened : s.initialized = true) (idle : s.staging = none) (ready : sound s.medium)
    (nonempty : tx.operations ≠ []) :
    ∃ skipped s', run b keys .skipFailed tx s =
        (.ok (((table s.medium).holdings.applied keys tx.operations).length, skipped), s') ∧
      Reports (table s.medium).holdings keys tx.operations skipped ∧ s'.staging = none ∧
      (table s'.medium).holdings = (table s.medium).holdings.transferAll
        (((table s.medium).holdings.applied keys tx.operations).map (·.2)) := by
  have hcoherent : s.Coherent sound table := Store.Coherent.of_idle ready idle
  obtain ⟨unfit, mid, hscreen, hreached, hunfit, hunfitDomain⟩ :=
    screen_skipFailed serves hcoherent opened keys 0 tx.operations
  obtain ⟨hbegin, hbegun, hshows⟩ := begin_of_screened opened idle hreached
  have hopened : (Store.begun mid).initialized = true := hreached.initialized.trans opened
  rw [Store.visible_of_idle table idle] at hscreen hunfit
  have hpositive : ∀ entry ∈ (table s.medium).holdings.fit keys tx.operations,
      0 < entry.2.amount := fun entry hmem =>
    (of_decide_eq_true (List.mem_filter.mp hmem).2 : Eligible keys _ entry.2).positive
  obtain ⟨failed, last, after, happly, hlast, hafter, hfailed, hfailedDomain⟩ :=
    applyAll_skipFailed serves hbegun hopened rfl hpositive
  rw [hshows] at happly hafter hfailed
  obtain ⟨s', hfinish, hended, htable⟩ := finish_of_serves serves hlast.coherent
    (hlast.initialized.trans hopened) (_, unfit ++ failed)
  refine ⟨unfit ++ failed, s', ?_, ?_, hended, ?_⟩
  · rw [run_of_nonempty idle nonempty, Run.bind_of_ok hscreen, Run.bind_of_ok hbegin]
    exact (Run.bind_of_ok happly).trans hfinish
  · apply reports_of_listed
    · rw [List.map_append, hunfit, hfailed, List.map_append]
      rfl
    · intro rejection hmem
      rcases List.mem_append.mp hmem with hmem | hmem
      · exact hunfitDomain rejection hmem
      · exact hfailedDomain rejection hmem
  · rw [htable, hlast.visible, hafter]
    rfl

/-- A batch that leaves out what fails always commits. It applies the operations that
go through, reports every other one once, and has the effect of the former alone:
as a batch of which every part counts they commit to the same accounts. A batch
that would commit as a whole does so here. -/
theorem process_skipFailed (serves : b.Serves sound table) (keys : KeyRegistry)
    (opened : s.initialized = true) (idle : s.staging = none) (ready : sound s.medium)
    (nonempty : tx.operations ≠ []) :
    let run := process b keys .skipFailed tx s
    let holds := (table s.medium).holdings
    let applied := holds.applied keys tx.operations
    let alone := process b keys .allOrNothing ⟨applied.map (·.2)⟩ s
    let whole := process b keys .allOrNothing tx s
    (∀ op, (checkOperation b keys op s).1 = .ok () ↔ Eligible keys holds op) ∧
    (∃ skipped, run.1 = .committed applied.length skipped ∧
      Reports holds keys tx.operations skipped) ∧
    (table run.2.medium).holdings = holds.transferAll (applied.map (·.2)) ∧
    run.2.staging = none ∧
    (applied ≠ [] → alone.1 = .committed applied.length [] ∧
      table alone.2.medium = table run.2.medium) ∧
    (whole.1.isCommitted = true → run.1 = whole.1 ∧
      table run.2.medium = table whole.2.medium) := by
  intro run holds applied alone whole
  have hcoherent : s.Coherent sound table := Store.Coherent.of_idle ready idle
  obtain ⟨skipped, s', hrun, hreports, hended, hholdings⟩ :=
    run_skipFailed serves keys opened idle ready nonempty
  have hprocess : run = (.committed applied.length skipped, s') := by
    change process b keys .skipFailed tx s = _
    rw [process_apply, hrun]
    rfl
  refine ⟨?_, ⟨skipped, ?_, hreports⟩, ?_, ?_, ?_, ?_⟩
  · intro op
    obtain ⟨answer, last, hcheck, -, hpasses, -⟩ :=
      checkOperation_of_serves serves hcoherent opened keys op
    rw [hcheck, hpasses, Store.visible_of_idle table idle]
  · rw [hprocess]
  · rw [hprocess]
    exact hholdings
  · rw [hprocess]
    exact hended
  · intro happlied
    have hadmits : holds.AdmitsAll keys (applied.map (·.2)) := by
      refine ⟨?_, Holdings.carriesAll_applicable holds _⟩
      intro op hmem
      obtain ⟨entry, hentry, rfl⟩ := List.mem_map.mp hmem
      exact Holdings.eligible_of_mem_applied hentry
    have hlisted : (⟨applied.map (·.2)⟩ : Transaction).operations ≠ [] :=
      fun hnil => happlied (List.map_eq_nil_iff.mp hnil)
    obtain ⟨last, halone, -, hnet⟩ := process_of_admits serves opened idle ready hlisted hadmits
    have hrun : alone = (.committed (applied.map (·.2)).length [], last) := halone
    rw [hrun, hprocess]
    refine ⟨?_, Table.holdings_injective ?_⟩
    · rw [List.length_map]
    · rw [hnet, hholdings, Holdings.transferAll_eq_net]
  · intro hcommitted
    by_cases hadmits : holds.AdmitsAll keys tx.operations
    · obtain ⟨last, hwhole, -, hnet⟩ := process_of_admits serves opened idle ready nonempty hadmits
      obtain ⟨last', hskip, -, hnet'⟩ := process_of_admits serves opened idle ready nonempty hadmits
      have hwhole : whole = (.committed tx.operations.length [], last) := hwhole
      have hskip : run = (.committed tx.operations.length [], last') := hskip
      rw [hskip, hwhole]
      exact ⟨rfl, Table.holdings_injective (hnet'.trans hnet.symm)⟩
    · obtain ⟨index, reason, last, hwhole, -⟩ :=
        process_of_not_admits serves opened idle ready nonempty hadmits
      have hwhole : whole = (.rejected ⟨some index, reason⟩, last) := hwhole
      rw [hwhole] at hcommitted
      cases hcommitted

/-- Of three transfers the first goes through, the second finds too little left, and
the third has no sender. -/
theorem memory_skipFailed :
    let key : Signature.PublicKey := ⟨1 :: List.replicate 31 0, Signature.Point.zero⟩
    let signature : List UInt8 := (1 :: List.replicate 31 0) ++ List.replicate 32 0
    let keys : KeyRegistry := (∅ : KeyRegistry).insert 1 key
    let tx : Transaction := ⟨[⟨1, 2, 8, signature⟩, ⟨1, 2, 7, signature⟩, ⟨0, 2, 1, signature⟩]⟩
    let s : Store Table := ⟨(∅ : Table).insert 1 10, true, none⟩
    ∃ skipped, (process Memory.backend keys .skipFailed tx s).1 = .committed 1 skipped ∧
      skipped.map (·.index) = [some 2, some 1] := by
  intro key signature keys tx s
  have hopened : s.initialized = true := rfl
  have hnonempty : tx.operations ≠ [] := List.cons_ne_nil _ _
  obtain ⟨-, ⟨skipped, hcommitted, hreports⟩, -⟩ :=
    process_skipFailed Memory.backend_serves keys hopened rfl trivial hnonempty
  have hparts : (s.medium.holdings.applied keys tx.operations).length = 1 ∧
      (s.medium.holdings.unfit keys tx.operations ++
        s.medium.holdings.failed keys tx.operations).map (some ·.1) = [some 2, some 1] := by
    decide +kernel
  exact ⟨skipped, hparts.1 ▸ hcommitted, hreports.listed.trans hparts.2⟩

end Batch

end Clearinghouse
