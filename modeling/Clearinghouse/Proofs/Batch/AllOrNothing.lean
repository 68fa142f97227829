/-
# A batch of which every part counts

Whether such a batch commits can be read off what accounts hold before it: every
operation must be eligible on its own, and the transfers must be carried out one
after the other. Then the batch moves every account by what it received less what
it sent. Otherwise it is rejected at the first operation in the way, and the
medium was only read.
-/

import Clearinghouse.Proofs.Batch.Serving
import Clearinghouse.Proofs.Medium.Memory

namespace Clearinghouse

/-- What accounts hold admits all of a batch. -/
structure Holdings.AdmitsAll (h : Holdings) (keys : KeyRegistry) (ops : List Operation) :
    Prop where
  eligible : ∀ op ∈ ops, Eligible keys h op
  carries : h.CarriesAll ops

/-- The first operation that is in the way of a batch has this position: the first
that is not eligible, or, if all are, the first whose transfer cannot be carried
out. -/
def Holdings.Obstacle (h : Holdings) (keys : KeyRegistry) (ops : List Operation) (index : Nat) :
    Prop :=
  ∃ before op after, ops = before ++ op :: after ∧ before.length = index ∧
    ((∀ earlier ∈ before, Eligible keys h earlier) ∧ ¬ Eligible keys h op ∨
      (∀ any ∈ ops, Eligible keys h any) ∧ h.CarriesAll before ∧
        ¬ (h.transferAll before).Carries op)

/-- Elements of a list that do not all have a property have a first one that does
not. -/
theorem exists_first_of_not_forall {ops : List Operation} {P : Operation → Prop}
    [DecidablePred P] (fails : ¬ ∀ op ∈ ops, P op) :
    ∃ before op after, ops = before ++ op :: after ∧ (∀ earlier ∈ before, P earlier) ∧ ¬ P op := by
  cases hfind : ops.find? (fun op => !decide (P op)) with
  | none =>
      apply absurd _ fails
      intro op hmem
      simpa using List.find?_eq_none.mp hfind op hmem
  | some op =>
      obtain ⟨hop, before, after, hsplit, hbefore⟩ := List.find?_eq_some_iff_append.mp hfind
      refine ⟨before, op, after, hsplit, fun earlier hmem => ?_, ?_⟩
      · simpa using hbefore earlier hmem
      · simpa using hop

namespace Batch

variable {S : Type} {b : Backend S} {sound : S → Prop} {table : S → Table} {keys : KeyRegistry}
  {policy : Policy} {s : Store S} {tx : Transaction}

/-- The screening changes neither the committed accounts nor that no transaction is
open. -/
theorem idle_of_screened {mid : Store S} (idle : s.staging = none)
    (reached : Store.Reaches sound table s (s.visible table) mid) :
    mid.staging = none ∧ table mid.medium = table s.medium := by
  have hidle : mid.staging = none := by
    simpa [Store.inTransaction, idle] using reached.inTransaction
  refine ⟨hidle, ?_⟩
  rw [← Store.visible_of_idle table hidle, reached.visible, Store.visible_of_idle table idle]

/-- After the screening a transaction begins that shows the committed accounts. -/
theorem begin_of_screened {mid : Store S} (opened : s.initialized = true)
    (idle : s.staging = none)
    (reached : Store.Reaches sound table s (s.visible table) mid) :
    wholly (Check.ofStep Store.begin) mid = (.ok (), Store.begun mid) ∧
      (Store.begun mid).Coherent sound table ∧
      (Store.begun mid).visible table = table s.medium := by
  obtain ⟨hidle, hmedium⟩ := idle_of_screened idle reached
  exact ⟨wholly_begin_of_idle (reached.initialized.trans opened) hidle, reached.coherent.begun,
    (Store.visible_begun table mid).trans hmedium⟩

/-- The commit of a batch over a medium that serves. -/
theorem finish_of_serves (serves : b.Serves sound table) (coherent : s.Coherent sound table)
    (opened : s.initialized = true) (result : Nat × List Rejection) :
    ∃ s', (wholly (Check.ofStep (Store.commit b)) >>= fun _ => pure result) s = (.ok result, s') ∧
      s'.staging = none ∧ table s'.medium = s.visible table := by
  obtain ⟨s', hrun, hended, htable⟩ := commit_of_serves serves coherent opened
  refine ⟨s', ?_, hended, htable⟩
  rw [wholly_commit_bind_apply, hrun]
  rfl

/-- Under either policy an admitted batch commits as a whole. -/
theorem run_of_admits (serves : b.Serves sound table) (opened : s.initialized = true)
    (idle : s.staging = none) (ready : sound s.medium) (nonempty : tx.operations ≠ [])
    (admits : (table s.medium).holdings.AdmitsAll keys tx.operations) :
    ∃ s', run b keys policy tx s = (.ok (tx.operations.length, []), s') ∧ s'.staging = none ∧
      (table s'.medium).holdings = (table s.medium).holdings.net tx.operations := by
  have hcoherent : s.Coherent sound table := Store.Coherent.of_idle ready idle
  have hseen := Store.visible_of_idle table idle
  obtain ⟨mid, hscreen, hreached⟩ := screen_of_eligible serves hcoherent opened 0
    (hseen ▸ admits.eligible)
  obtain ⟨hbegin, hbegun, hshows⟩ := begin_of_screened opened idle hreached
  have hopened : (Store.begun mid).initialized = true := hreached.initialized.trans opened
  have hpositive : ∀ entry ∈ Holdings.numbered 0 tx.operations, 0 < entry.2.amount :=
    fun entry hmem => (admits.eligible _ (Holdings.mem_of_mem_numbered hmem)).positive
  have hlisted := Holdings.map_snd_numbered 0 tx.operations
  have hcarries : ((Store.begun mid).visible table).holdings.CarriesAll
      ((Holdings.numbered 0 tx.operations).map (·.2)) := by
    rw [hshows, hlisted]
    exact admits.carries
  obtain ⟨last, after, happly, hlast, hafter⟩ :=
    applyAll_of_carriesAll serves hbegun hopened rfl hpositive hcarries
  obtain ⟨s', hfinish, hended, htable⟩ := finish_of_serves serves hlast.coherent
    (hlast.initialized.trans hopened) (tx.operations.length, [])
  refine ⟨s', ?_, hended, ?_⟩
  · have hcount : (Holdings.numbered 0 tx.operations).length = tx.operations.length := by
      rw [← List.length_map, hlisted]
    rw [run_of_nonempty idle nonempty, Run.bind_of_ok hscreen, Run.bind_of_ok hbegin,
      Run.bind_of_ok happly, hcount]
    exact hfinish
  · rw [htable, hlast.visible, hafter, hshows, hlisted, Holdings.transferAll_eq_net]

/-- A batch that is not admitted is rejected at its obstacle. -/
theorem run_of_not_admits (serves : b.Serves sound table) (opened : s.initialized = true)
    (idle : s.staging = none) (ready : sound s.medium) (nonempty : tx.operations ≠ [])
    (refused : ¬ (table s.medium).holdings.AdmitsAll keys tx.operations) :
    ∃ index reason s', run b keys .allOrNothing tx s = (.error ⟨some index, reason⟩, s') ∧
      (table s.medium).holdings.Obstacle keys tx.operations index ∧ reason.isDomain = true ∧
      table s'.medium = table s.medium ∧ b.OnlyRead s.medium s'.medium ∧ s'.staging = none := by
  have hcoherent : s.Coherent sound table := Store.Coherent.of_idle ready idle
  have hseen := Store.visible_of_idle table idle
  have hreads := screen_reads b keys .allOrNothing 0 tx.operations s
  rw [run_of_nonempty idle nonempty]
  by_cases heligible : ∀ op ∈ tx.operations, Eligible keys (table s.medium).holdings op
  · obtain ⟨mid, hscreen, hreached⟩ :=
      screen_of_eligible serves hcoherent opened 0 (hseen ▸ heligible)
    obtain ⟨-, hmedium⟩ := idle_of_screened idle hreached
    obtain ⟨hbegin, hbegun, hshows⟩ := begin_of_screened opened idle hreached
    have hopened : (Store.begun mid).initialized = true := hreached.initialized.trans opened
    obtain ⟨before, op, after, hsplit, hbefore, hstuck⟩ :=
      Holdings.exists_first_of_not_carriesAll fun hcarries => refused ⟨heligible, hcarries⟩
    have hnumbered : Holdings.numbered 0 tx.operations = Holdings.numbered 0 before ++
        (before.length, op) :: Holdings.numbered (before.length + 1) after := by
      rw [hsplit, Holdings.numbered_append, Nat.zero_add, Holdings.numbered]
    have hpositive : ∀ entry ∈ Holdings.numbered 0 before, 0 < entry.2.amount := by
      intro entry hmem
      have hlisted : entry.2 ∈ tx.operations := by
        rw [hsplit]
        exact List.mem_append_left _ (Holdings.mem_of_mem_numbered hmem)
      exact (heligible entry.2 hlisted).positive
    have hmoves : 0 < op.amount := (heligible op (by simp [hsplit])).positive
    obtain ⟨reason, s', happly, htable, hdomain⟩ := applyAll_of_not_carries serves hbegun hopened rfl
      hpositive (by rwa [hshows, Holdings.map_snd_numbered]) hmoves
      (by rwa [hshows, Holdings.map_snd_numbered])
    rw [← hnumbered] at happly
    rw [hscreen] at hreads
    obtain ⟨_, _, hrun, -⟩ | ⟨_, _, hrun, hended, hread⟩ :=
      applyAll_ends b .allOrNothing hopened rfl (Holdings.numbered 0 tx.operations)
    · cases happly.symm.trans hrun
    cases happly.symm.trans hrun
    refine ⟨before.length, reason, s', ?_, ?_, hdomain, htable.trans hmedium,
      hreads.read.trans hread, hended⟩
    · rw [Run.bind_of_ok hscreen, Run.bind_of_ok hbegin, Run.bind_of_error happly]
      rfl
    · exact ⟨before, op, after, hsplit, rfl, .inr ⟨heligible, hbefore, hstuck⟩⟩
  · obtain ⟨before, op, after, hsplit, hbefore, hunfit⟩ := exists_first_of_not_forall heligible
    obtain ⟨reason, mid, hscreen, hreached, hdomain⟩ := screen_of_not_eligible serves hcoherent
      opened 0 (hseen ▸ hbefore) (hseen ▸ hunfit)
    rw [← hsplit] at hscreen
    rw [hscreen] at hreads
    obtain ⟨hidle, hmedium⟩ := idle_of_screened idle hreached
    refine ⟨before.length, reason, mid, ?_, ?_, hdomain, hmedium, hreads.read, hidle⟩
    · rw [Run.bind_of_error hscreen, Nat.zero_add]
      rfl
    · exact ⟨before, op, after, hsplit, rfl, .inl ⟨hbefore, hunfit⟩⟩

theorem process_of_admits (serves : b.Serves sound table) (opened : s.initialized = true)
    (idle : s.staging = none) (ready : sound s.medium) (nonempty : tx.operations ≠ [])
    (admits : (table s.medium).holdings.AdmitsAll keys tx.operations) :
    ∃ s', process b keys policy tx s = (.committed tx.operations.length [], s') ∧
      s'.staging = none ∧
      (table s'.medium).holdings = (table s.medium).holdings.net tx.operations := by
  obtain ⟨s', hrun, hended, hholdings⟩ :=
    run_of_admits serves opened idle ready nonempty admits
  refine ⟨s', ?_, hended, hholdings⟩
  rw [process_apply, hrun]
  rfl

theorem process_of_not_admits (serves : b.Serves sound table) (opened : s.initialized = true)
    (idle : s.staging = none) (ready : sound s.medium) (nonempty : tx.operations ≠ [])
    (refused : ¬ (table s.medium).holdings.AdmitsAll keys tx.operations) :
    ∃ index reason s', process b keys .allOrNothing tx s = (.rejected ⟨some index, reason⟩, s') ∧
      (table s.medium).holdings.Obstacle keys tx.operations index ∧ reason.isDomain = true ∧
      table s'.medium = table s.medium ∧ b.OnlyRead s.medium s'.medium ∧ s'.staging = none := by
  obtain ⟨index, reason, s', hrun, hrest⟩ :=
    run_of_not_admits serves opened idle ready nonempty refused
  refine ⟨index, reason, s', ?_, hrest⟩
  rw [process_apply, hrun]
  rfl

/-- A batch of which every part counts commits exactly if what accounts hold admits
it, and then every account is moved by what it received less what it sent.
Otherwise it is rejected at its obstacle: the committed accounts are the same, the
medium was asked for accounts only, and no transaction is open. -/
theorem process_allOrNothing (serves : b.Serves sound table) (keys : KeyRegistry)
    (opened : s.initialized = true) (idle : s.staging = none) (ready : sound s.medium)
    (nonempty : tx.operations ≠ []) :
    let run := process b keys .allOrNothing tx s
    let holds := (table s.medium).holdings
    (run.1 = .committed tx.operations.length [] ↔ holds.AdmitsAll keys tx.operations) ∧
    (holds.AdmitsAll keys tx.operations →
      (table run.2.medium).holdings = holds.net tx.operations ∧ run.2.staging = none) ∧
    (¬ holds.AdmitsAll keys tx.operations →
      (∃ index reason, run.1 = .rejected ⟨some index, reason⟩ ∧
        holds.Obstacle keys tx.operations index ∧ reason.isDomain = true) ∧
      table run.2.medium = table s.medium ∧ b.OnlyRead s.medium run.2.medium ∧
      run.2.staging = none) := by
  intro run holds
  by_cases hadmits : holds.AdmitsAll keys tx.operations
  · obtain ⟨s', hprocess, hended, hholdings⟩ :=
      process_of_admits serves opened idle ready nonempty hadmits
    have hrun : run = (.committed tx.operations.length [], s') := hprocess
    rw [hrun]
    exact ⟨⟨fun _ => hadmits, fun _ => rfl⟩, fun _ => ⟨hholdings, hended⟩,
      fun hrefused => absurd hadmits hrefused⟩
  · obtain ⟨index, reason, s', hprocess, hobstacle, hdomain, hrest⟩ :=
      process_of_not_admits serves opened idle ready nonempty hadmits
    have hrun : run = (.rejected ⟨some index, reason⟩, s') := hprocess
    rw [hrun]
    exact ⟨⟨nofun, fun hadmitted => absurd hadmitted hadmits⟩,
      fun hadmitted => absurd hadmitted hadmits,
      fun _ => ⟨⟨index, reason, rfl, hobstacle, hdomain⟩, hrest⟩⟩

/-- Two accounts that pay each other. The neutral point signs everything. -/
theorem memory_allOrNothing :
    let key : Signature.PublicKey := ⟨1 :: List.replicate 31 0, Signature.Point.zero⟩
    let signature : List UInt8 := (1 :: List.replicate 31 0) ++ List.replicate 32 0
    let keys : KeyRegistry := ((∅ : KeyRegistry).insert 1 key).insert 2 key
    let tx : Transaction := ⟨[⟨1, 2, 8, signature⟩, ⟨2, 1, 3, signature⟩]⟩
    let s : Store Table := ⟨((∅ : Table).insert 1 10).insert 2 3, true, none⟩
    (process Memory.backend keys .allOrNothing tx s).1 = .committed 2 [] := by
  intro key signature keys tx s
  have hadmits : s.medium.holdings.AdmitsAll keys tx.operations :=
    ⟨by decide +kernel, by decide +kernel, by decide +kernel, trivial⟩
  exact (process_allOrNothing Memory.backend_serves keys rfl rfl trivial
    (List.cons_ne_nil _ _)).1.mpr hadmits

end Batch

end Clearinghouse
