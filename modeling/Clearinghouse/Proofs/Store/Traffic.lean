/-
# What a store hands to its medium

What a store hands to its medium follows from the operations, their answers and what is
committed. Outside of transactions each operation that passes its checks hands over one
change. A commit hands over one list, with the last balance of every account that an operation
of the transaction wrote. Nothing else hands over anything. This holds of any medium that
nobody else writes to, whichever of its calls fail, and however much of a flush lands.
-/

import Clearinghouse.Proofs.Store.Journal
import Clearinghouse.Proofs.Store.Unflushed

namespace Clearinghouse

/-- An answer in another form is a failure only if it was one before. -/
theorem Run.eq_error_of_map_eq_error {ε α β : Type} {answer : Except ε α} {form : α → β} {e : ε}
    (failed : answer.map form = .error e) : answer = .error e := by
  cases answer with
  | ok a => cases failed
  | error e' => exact congrArg _ (Except.error.inj failed)

namespace Store

variable {S : Type}

/-- What a store is to hand to its medium in an operation. -/
def traffic (b : Backend S) (table : S → Table) (op : Op) (s : Store S) (unflushed : Unflushed) :
    List (List Change) :=
  let committed := table s.medium
  match unflushed with
  | some written =>
    if op = .commit ∧ ¬ written.isEmpty then
      [written.toList.map fun (id, balance) => ⟨id, committed[id]?, balance⟩]
    else []
  | none =>
    match op.target? with
    | none => []
    | some id =>
      if s.initialized ∧ (b.load id s.medium).1.isOk ∧ op.Allowed committed[id]? then
        [[⟨id, committed[id]?, op.outcome committed[id]?⟩]]
      else []

section

variable {b : Backend S} {sound : S → Prop} {table : S → Table} {unflushed : Unflushed}
  {s : Store S} {op : Op} {id : AccountId}

/-! ## What is handed over -/

variable (b) in
/-- Reading is not entered in the journal. -/
theorem reading_journal :
    Reading b.journaled (MediumAlong (Run.Kept (Prod.snd : S × List Flush → List Flush))) :=
  carries_mediumAlong.reading (fun _ _ => rfl) fun _ => rfl

/-- An operation that neither writes an account nor commits hands over nothing. -/
theorem flushes_of_untargeted (untargeted : op.target? = none) (stays : op ≠ .commit) :
    flushes b op s = [] := by
  refine (reading_journal b).perform_along ?_ ?_ (fun _ => start_along fun _ => rfl)
    (fun _ => close_along fun _ => rfl) (fun _ => begin_along) (fun h => absurd h stays)
    (fun _ => rollback_along) s.withJournal
  · rintro id balance rfl
    cases untargeted
  · rintro id delta rfl
    cases untargeted

/-- What an operation hands over is as it should be, and if the operation fails although it
handed something over, then because that was not taken. -/
def HandsOver (b : Backend S) (table : S → Table) (op : Op) (s : Store S) (unflushed : Unflushed) :
    Prop :=
  (flushes b op s).map (·.changes) = traffic b table op s unflushed ∧
    ∀ e, (perform b op s).1 = .error e → ∀ flush ∈ flushes b op s, flush.answer = .error e

theorem HandsOver.of_nil (nothing : flushes b op s = []) (due : traffic b table op s unflushed = []) :
    HandsOver b table op s unflushed := by
  refine ⟨by rw [nothing, due, List.map_nil], fun e _ flush hmem => ?_⟩
  rw [nothing] at hmem
  cases hmem

theorem traffic_some (written : Table) : traffic b table op s (some written) =
    if op = .commit ∧ ¬ written.isEmpty then
      [written.toList.map fun (id, balance) => ⟨id, (table s.medium)[id]?, balance⟩]
    else [] := rfl

theorem traffic_none (target : op.target? = some id) : traffic b table op s none =
    if s.initialized ∧ (b.load id s.medium).1.isOk ∧ op.Allowed (table s.medium)[id]? then
      [[⟨id, (table s.medium)[id]?, op.outcome (table s.medium)[id]?⟩]]
    else [] := by
  simp only [traffic, target]

theorem traffic_of_untargeted (untargeted : op.target? = none) (stays : op ≠ .commit) :
    traffic b table op s unflushed = [] := by
  unfold traffic
  cases unflushed with
  | none => simp only [untargeted]
  | some written => exact if_neg fun h => stays h.1

theorem staysInside_of_target (target : op.target? = some id) : op.StaysInside := by
  rcases Op.target?_eq_some_iff.mp target with ⟨balance, rfl⟩ | ⟨delta, rfl⟩ <;> trivial

/-- Inside a transaction only a commit hands over anything. -/
theorem flushes_of_staging {staging : Staging} (opened : s.initialized = true)
    (transaction : s.staging = some staging) (inside : op.StaysInside) : flushes b op s = [] := by
  have hinside := perform_inside (b := b.journaled)
    (R := Run.Kept (Prod.snd : S × List Flush → List Flush)) (fun _ _ => rfl) (fun _ => rfl) inside
  have htransaction : s.withJournal.inTransaction = true := by
    rw [inTransaction, withJournal, transaction]
    rfl
  exact (hinside s.withJournal opened htransaction).1

/-- A closed store hands over nothing. -/
theorem handsOver_of_closed (tallies : Tallies sound table unflushed s)
    (closed : s.initialized = false) (waits : op ≠ .start) : HandsOver b table op s unflushed := by
  apply HandsOver.of_nil
  · rw [flushes, perform_of_closed (s := s.withJournal) closed waits]
    rfl
  · rw [tallies.idle closed]
    cases htarget : op.target? with
    | none => simp only [traffic, htarget]
    | some id =>
        rw [traffic_none htarget, closed]
        exact if_neg fun h => Bool.false_ne_true h.1

/-- An operation that writes an account outside of transactions hands it over, if the account
can be looked at and the checks are passed. -/
theorem handsOver_of_idle (holds : b.Holds sound table) (ready : sound s.medium)
    (opened : s.initialized = true) (idle : s.staging = none) (target : op.target? = some id) :
    HandsOver b table op s none := by
  obtain ⟨hanswer, -⟩ := perform_journaled b op s
  have hopened : s.withJournal.initialized = true := opened
  have hidle : s.withJournal.staging = none := idle
  have hfound : ∀ answer, (b.load id s.medium).1 = .ok answer →
      answer.map (·.balance) = (table s.medium)[id]? := by
    intro answer hload
    rw [holds.load_answer ready hload]
    simp [Table.account?, Function.comp_def]
  rw [HandsOver, traffic_none target]
  obtain ⟨hrefused, e, hrun⟩ | ⟨answer, hload, hallowed, hrun⟩ :=
    perform_of_idle (b := b.journaled) hopened hidle target
  · have hnothing : flushes b op s = [] := by
      rw [flushes, hrun]
      rfl
    rw [hnothing, if_neg]
    · exact ⟨rfl, fun _ _ _ hmem => by cases hmem⟩
    · rintro ⟨-, hanswers, hallowed⟩
      cases hload : (b.load id s.medium).1 with
      | error e =>
          rw [hload] at hanswers
          cases hanswers
      | ok answer =>
          rw [← hfound answer hload] at hallowed
          exact hrefused answer hload hallowed
  · have hload : (b.load id s.medium).1 = .ok answer := hload
    rw [hfound answer hload] at hallowed hrun
    have hflushes : flushes b op s =
        [⟨[⟨id, (table s.medium)[id]?, op.outcome (table s.medium)[id]?⟩],
          (b.flush [⟨id, (table s.medium)[id]?, op.outcome (table s.medium)[id]?⟩]
            (loaded b id s).medium).1⟩] := by
      rw [flushes, hrun, Run.map_apply]
      rfl
    rw [hflushes, hload, if_pos ⟨opened, rfl, hallowed⟩, ← hanswer, hrun, Run.map_apply]
    refine ⟨rfl, fun e hfailed flush hmem => ?_⟩
    rw [List.mem_singleton.mp hmem]
    exact Run.eq_error_of_map_eq_error hfailed

/-- A commit hands over what the transaction wrote, if it wrote anything. -/
theorem handsOver_commit (tallies : Tallies sound table unflushed s)
    (opened : s.initialized = true) : HandsOver b table .commit s unflushed := by
  obtain ⟨hanswer, -⟩ := perform_journaled b .commit s
  have hopened : s.withJournal.initialized = true := opened
  cases hstaging : s.staging with
  | none =>
      apply HandsOver.of_nil
      · have hidle : s.withJournal.staging = none := hstaging
        rw [flushes, perform, Run.map_apply, commit_of_idle hopened hidle]
        rfl
      · rw [tallies.tally, hstaging]
        rfl
  | some staging =>
      have htransaction : s.withJournal.staging = some staging := hstaging
      have hfaithful := tallies.staged hstaging
      have hcommit := commit_of_staging (b := b.journaled) hopened htransaction
      rw [tallies.tally, hstaging, Option.map_some]
      by_cases hchanges : staging.changes = []
      · have hempty := hfaithful.changes_eq_nil_iff.mp hchanges
        apply HandsOver.of_nil
        · rw [flushes, perform, Run.map_apply, hcommit, if_pos hchanges]
          rfl
        · exact if_neg fun h => h.2 hempty
      · have hwritten : ¬ staging.written.isEmpty := fun h =>
          hchanges (hfaithful.changes_eq_nil_iff.mpr h)
        rw [if_neg hchanges] at hcommit
        have hflushes : flushes b .commit s =
            [⟨staging.changes, (b.flush staging.changes s.medium).1⟩] := by
          rw [flushes, perform, Run.map_apply, hcommit]
          rfl
        refine ⟨?_, fun e hfailed flush hmem => ?_⟩
        · rw [hflushes, traffic_some, if_pos ⟨rfl, hwritten⟩, ← hfaithful.changes_eq]
          rfl
        · rw [← hanswer, perform, Run.map_apply, hcommit] at hfailed
          rw [hflushes, List.mem_singleton] at hmem
          rw [hmem]
          exact Run.eq_error_of_map_eq_error hfailed

/-- Every operation hands over what it should. -/
theorem Tallies.handsOver (holds : b.Holds sound table) (tallies : Tallies sound table unflushed s)
    (op : Op) : HandsOver b table op s unflushed := by
  have hquiet : op.target? = none → op ≠ .commit → HandsOver b table op s unflushed :=
    fun huntargeted hstays => .of_nil (flushes_of_untargeted huntargeted hstays)
      (traffic_of_untargeted huntargeted hstays)
  by_cases hstart : op = .start
  · subst hstart
    exact hquiet rfl (by simp)
  cases hopened : s.initialized with
  | false => exact handsOver_of_closed tallies hopened hstart
  | true =>
      by_cases hcommit : op = .commit
      · subst hcommit
        exact handsOver_commit tallies hopened
      cases htarget : op.target? with
      | none => exact hquiet htarget hcommit
      | some id =>
          cases hstaging : s.staging with
          | none =>
              have hnone : unflushed = none := by rw [tallies.tally, hstaging, Option.map_none]
              rw [hnone]
              exact handsOver_of_idle holds tallies.medium hopened hstaging htarget
          | some staging =>
              apply HandsOver.of_nil
              · exact flushes_of_staging hopened hstaging (staysInside_of_target htarget)
              · rw [tallies.tally, hstaging]
                exact if_neg fun h => hcommit h.1

/-- What is to be handed over is never an empty list. It ascends by account, and each change
was made against the balance that is committed. -/
theorem wellFormed_of_mem_traffic {changes : List Change}
    (due : changes ∈ traffic b table op s unflushed) :
    changes ≠ [] ∧ (table s.medium).Admits changes := by
  cases unflushed with
  | some written =>
      rw [traffic_some] at due
      split at due
      · next hwritten =>
          obtain rfl := List.mem_singleton.mp due
          refine ⟨fun hnothing => hwritten.2 ?_, ?_, ?_⟩
          · rw [← Std.ExtTreeMap.isEmpty_toList, List.map_eq_nil_iff.mp hnothing]
            rfl
          · rw [List.pairwise_map]
            exact written.ordered_keys_toList.imp fun h => Std.compare_eq_lt.mp h
          · intro change hmem
            obtain ⟨⟨id, balance⟩, -, rfl⟩ := List.mem_map.mp hmem
            rfl
      · cases due
  | none =>
      cases htarget : op.target? with
      | none => simp [traffic, htarget] at due
      | some id =>
          rw [traffic_none htarget] at due
          split at due
          · obtain rfl := List.mem_singleton.mp due
            exact ⟨List.cons_ne_nil _ _, Table.admits_singleton rfl⟩
          · cases due

theorem course_fst (ops : List Op) (start : Store S × Unflushed) :
    (course b table ops start).1 = ops.foldl (fun s op => (perform b op s).2) start.1 := by
  induction ops generalizing start with
  | nil => rfl
  | cons op rest ih => exact ih _

/-- What a store hands to its medium is exact. In any run, whichever calls of the medium fail,
each operation hands over what follows from the operations before it, their answers and what is
committed at that moment. No list is empty, and each ascends by account. An operation that
fails has handed over nothing, unless it is what it handed over that was not taken. -/
theorem traffic_is_exact (holds : b.Holds sound table) {m : S} (found : sound m) (ops : List Op)
    (op : Op) :
    let s := ops.foldl (fun s op => (perform b op s).2) (.new m)
    (flushes b op s).map (·.changes) = traffic b table op s (course b table ops (.new m, none)).2 ∧
      (∀ flush ∈ flushes b op s, flush.changes ≠ [] ∧
        flush.changes.Pairwise (fun first later => first.id < later.id) ∧
        ∀ change ∈ flush.changes, change.observed = (table s.medium)[change.id]?) ∧
      ∀ e, (perform b op s).1 = .error e → ∀ flush ∈ flushes b op s, flush.answer = .error e := by
  intro s
  have hs : (course b table ops (.new m, none)).1 = s := course_fst ops (.new m, none)
  have hnew : Tallies sound table none (Store.new m) := .of_idle found rfl
  have htallies := course_tallies holds ops hnew
  rw [hs] at htallies
  obtain ⟨hexact, hfailures⟩ := htallies.handsOver holds op
  refine ⟨hexact, fun flush hmem => ?_, hfailures⟩
  have hdue : flush.changes ∈ traffic b table op s (course b table ops (.new m, none)).2 := by
    rw [← hexact]
    exact List.mem_map_of_mem hmem
  obtain ⟨hnonempty, hadmits⟩ := wellFormed_of_mem_traffic hdue
  exact ⟨hnonempty, hadmits.ascending, hadmits.observed⟩

end

/-- A transaction that reads one account, moves it, fails to overdraw it, creates another and
fails to debit a third. -/
def movedAndCreated : List Op :=
  [.start, .create 1 100, .begin, .getBalance 1, .update 1 (-30), .update 1 (-100), .create 2 5,
    .update 3 (-1)]

/-- The medium of a rehearsal that is to fail at the second flush, which is that of the
commit. -/
theorem recording_traffic_is_exact :
    let m : Recording.State := ⟨∅, [], some ⟨.flush, 1, ()⟩⟩
    let s := movedAndCreated.foldl (fun s op => (perform Recording.backend op s).2) (.new m)
    (Recording.backend.Holds (fun _ => True) Recording.State.table ∧
      (flushes Recording.backend .commit s).map (·.changes) =
        traffic Recording.backend Recording.State.table .commit s
          (course Recording.backend Recording.State.table movedAndCreated (.new m, none)).2 ∧
      (flushes Recording.backend .commit s).map (·.changes) =
        [[⟨1, some 100, 70⟩, ⟨2, none, 5⟩]]) ∧
    (perform Recording.backend .commit s).1 = .error (Recording.injected .flush) :=
  ⟨⟨Recording.backend_keeps.holds,
    (traffic_is_exact Recording.backend_keeps.holds trivial movedAndCreated .commit).1,
    by decide +kernel⟩, by decide +kernel⟩

end Store

end Clearinghouse
