/-
# A transaction that is rolled back was never there

A store that is inside a transaction only looks at the medium it shares with others. If
looking leaves nothing behind on the medium, then the others cannot tell the store from one
that did not begin the transaction at all, neither while it is open nor after it has been
rolled back or dropped by a close. The store itself may tell, for its connection may
remember what it has looked at; what the others see of a connection is a view of it.
-/

import Clearinghouse.Proofs.Store.Company

namespace Clearinghouse

variable {ι H M V : Type}

/-- What can be seen of the medium behind a connection: the shared medium, and a view of
the connection. -/
def Backend.seen (view : H → V) (m : H × M) : V × M := (view m.1, m.2)

/-- Looking at accounts leaves the shared medium as it is and keeps the view of the
connection. Every other call does the same behind connections with the same view. -/
structure Backend.LooksOnly (b : Backend (H × M)) (view : H → V) : Prop where
  load : ∀ id, Run.Along (Run.Kept (Backend.seen view)) (b.load id)
  loadAll : Run.Along (Run.Kept (Backend.seen view)) b.loadAll
  parallels : b.Parallels b fun m n => Backend.seen view m = Backend.seen view n

/-- A medium that looking at accounts does not change at all. -/
theorem Backend.LooksOnly.of_kept {b : Backend (H × M)}
    (load : ∀ account, Run.Along (Run.Kept id) (b.load account))
    (loadAll : Run.Along (Run.Kept id) b.loadAll) : b.LooksOnly (id : H → H) where
  load account := (load account).kept_of_id _
  loadAll := loadAll.kept_of_id _
  parallels := by
    have hself : ∀ {α : Type} (act : Step (H × M) α),
        Run.Parallel (fun m n => Backend.seen id m = Backend.seen id n) act act := by
      intro α act
      refine Run.Parallel.intro fun {m n} same => ?_
      obtain rfl : m = n := same
      exact ⟨rfl, rfl⟩
    exact
      { connect := hself _
        disconnect := hself _
        load := fun _ => hself _
        loadAll := fun same => ((hself _).agrees same trivial).2
        flush := fun _ => hself _ }

namespace Company

/-- Two companies that differ at most in what a store has staged and in what is not seen of
its connection. -/
structure Apart (view : H → V) (a : ι) (first second : Company ι H M) : Prop where
  shared : first.shared = second.shared
  others : ∀ i, i ≠ a → first.member i = second.member i
  view : view (first.member a).medium = view (second.member a).medium
  initialized : (first.member a).initialized = (second.member a).initialized

/-- In one of two companies a store is inside a transaction that it has not begun in the
other. -/
structure Ahead (view : H → V) (a : ι) (first second : Company ι H M) : Prop
    extends Apart view a first second where
  opened : (first.member a).initialized = true
  transaction : (first.member a).inTransaction = true
  idle : (second.member a).staging = none

/-- Two companies in which a store has the same transaction. -/
structure Level (view : H → V) (a : ι) (first second : Company ι H M) : Prop
    extends Apart view a first second where
  staging : (first.member a).staging = (second.member a).staging

section

variable {view : H → V} {a i : ι} {first second : Company ι H M}

theorem Level.refl (view : H → V) (a : ι) (company : Company ι H M) :
    Level view a company company :=
  ⟨⟨rfl, fun _ _ => rfl, rfl, rfl⟩, rfl⟩

theorem Apart.store_of_ne (apart : Apart view a first second) (other : i ≠ a) :
    first.store i = second.store i := by
  rw [store, store, apart.others i other, apart.shared]

theorem Apart.disturbed (apart : Apart view a first second) (disturb : M → M) :
    Apart view a { first with shared := disturb first.shared }
      { second with shared := disturb second.shared } :=
  ⟨congrArg disturb apart.shared, apart.others, apart.view, apart.initialized⟩

theorem Apart.seen (apart : Apart view a first second) :
    Backend.seen view (first.store a).medium = Backend.seen view (second.store a).medium :=
  Prod.ext apart.view apart.shared

theorem Ahead.of_apart (apart : Apart view a first second) {s t : Store H}
    (before : first.member a = s ∧ second.member a = t) (opened : s.initialized = true)
    (transaction : s.inTransaction = true) (idle : t.staging = none) :
    Ahead view a first second := by
  obtain ⟨rfl, rfl⟩ := before
  exact ⟨apart, opened, transaction, idle⟩

end

variable [DecidableEq ι]

/-- What the others in a company are answered through a history. -/
def othersAnswers (b : Backend (H × M)) (a : ι) (history : List (Event ι M))
    (company : Company ι H M) : List (ι × Except StoreError Store.Answer) :=
  (answers b history company).filter (·.1 ≠ a)

/-- To all stores but one, one history looks like another: they are answered the same, and
the medium comes to be the same. -/
structure SameToOthers (b : Backend (H × M)) (a : ι) (company : Company ι H M)
    (history other : List (Event ι M)) : Prop where
  answers : othersAnswers b a history company = othersAnswers b a other company
  shared : (final b history company).shared = (final b other company).shared

/-- The events that are not by a store. -/
def without (a : ι) (history : List (Event ι M)) : List (Event ι M) :=
  history.filter fun event => !event.isBy a

section

variable {b : Backend (H × M)} {view : H → V} {a i : ι} {first second : Company ι H M}

theorem othersAnswers_append (former later : List (Event ι M)) (company : Company ι H M) :
    othersAnswers b a (former ++ later) company =
      othersAnswers b a former company ++ othersAnswers b a later (final b former company) := by
  rw [othersAnswers, answers_append, List.filter_append, othersAnswers, othersAnswers]

theorem othersAnswers_cons (event : Event ι M) (rest : List (Event ι M))
    (company : Company ι H M) :
    othersAnswers b a (event :: rest) company =
      (event.answer? b company).toList.filter (·.1 ≠ a) ++
        othersAnswers b a rest (event.after b company) := by
  rw [othersAnswers, answers, List.filter_append, othersAnswers]

/-- What a store is answered, the others do not hear. -/
theorem othersAnswers_own (op : Store.Op) (rest : List (Event ι M)) (company : Company ι H M) :
    othersAnswers b a (.turn a op :: rest) company =
      othersAnswers b a rest (company.put a (Store.perform b op (company.store a)).2) := by
  rw [othersAnswers_cons]
  simp [Event.answer?, Event.after]

/-- Another store takes the same turn in both companies. -/
theorem Apart.put_of_ne (apart : Apart view a first second) (other : i ≠ a)
    (s : Store (H × M)) : Apart view a (first.put i s) (second.put i s) where
  shared := rfl
  others j hj := by
    by_cases hi : j = i
    · subst hi
      rw [member_put_self, member_put_self]
    · rw [member_put_of_ne hi, member_put_of_ne hi, apart.others j hj]
  view := by
    rw [member_put_of_ne other.symm, member_put_of_ne other.symm]
    exact apart.view
  initialized := by
    rw [member_put_of_ne other.symm, member_put_of_ne other.symm]
    exact apart.initialized

/-- The store takes a turn in either company, after which its media look the same. -/
theorem Apart.put_self (apart : Apart view a first second) {s t : Store (H × M)}
    (same : Backend.seen view s.medium = Backend.seen view t.medium)
    (initialized : s.initialized = t.initialized) :
    Apart view a (first.put a s) (second.put a t) where
  shared := (Prod.mk.inj same).2
  others i other := by
    rw [member_put_of_ne other, member_put_of_ne other, apart.others i other]
  view := by
    rw [member_put_self, member_put_self]
    exact (Prod.mk.inj same).1
  initialized := by
    rw [member_put_self, member_put_self]
    exact initialized

/-- The store alone takes a turn that leaves what is seen of its medium. -/
theorem Apart.put_left (apart : Apart view a first second) {s : Store (H × M)}
    (same : Backend.seen view s.medium = Backend.seen view (first.store a).medium)
    (initialized : s.initialized = (first.store a).initialized) :
    Apart view a (first.put a s) second where
  shared := (Prod.mk.inj same).2.trans apart.shared
  others i other := by
    rw [member_put_of_ne other]
    exact apart.others i other
  view := by
    rw [member_put_self]
    exact (Prod.mk.inj same).1.trans apart.view
  initialized := by
    rw [member_put_self]
    exact initialized.trans apart.initialized

/-! ## While the transaction is open -/

variable (view) in
/-- Beginning a transaction is the first step ahead. -/
theorem ahead_of_begin {company : Company ι H M}
    (begins : (Store.perform b .begin (company.store a)).1 = .ok .done) :
    Ahead view a (Event.after b (.turn a .begin) company) company := by
  obtain ⟨hopened, hidle, hrun⟩ := Store.perform_begin_eq_ok begins
  have hafter : Event.after b (.turn a .begin) company =
      company.put a (Store.begun (company.store a)) := by
    rw [Event.after, hrun]
  rw [hafter]
  refine ⟨(Level.refl view a company).toApart.put_left rfl rfl, ?_, ?_, hidle⟩
  · rw [member_put_self]
    exact hopened
  · rw [member_put_self]
    rfl

/-- What the store does inside its transaction leaves it ahead. -/
theorem Ahead.inside (looks : b.LooksOnly view) (ahead : Ahead view a first second)
    {op : Store.Op} (inside : op.StaysInside) :
    Ahead view a (Event.after b (.turn a op) first) second := by
  obtain ⟨hseen, hopened, htransaction⟩ :=
    Store.perform_inside looks.load looks.loadAll inside (first.store a) ahead.opened
      ahead.transaction
  refine ⟨ahead.toApart.put_left hseen (hopened.trans ahead.opened.symm), ?_, ?_, ahead.idle⟩
  · rw [Event.after, member_put_self]
    exact hopened
  · rw [Event.after, member_put_self]
    exact htransaction

/-- Nothing else tells the companies apart. -/
theorem Ahead.other (ahead : Ahead view a first second) {event : Event ι M}
    (other : event.isBy a = false) :
    event.answer? b first = event.answer? b second ∧
      Ahead view a (event.after b first) (event.after b second) := by
  cases event with
  | disturbance disturb =>
      exact ⟨rfl, ahead.toApart.disturbed disturb, ahead.opened, ahead.transaction, ahead.idle⟩
  | turn i op =>
      have hother : i ≠ a := by simpa [Event.isBy] using other
      have hmembers : ∀ (company : Company ι H M) (s : Store (H × M)),
          (company.put i s).member a = company.member a :=
        fun company s => member_put_of_ne hother.symm company s
      have hstore := ahead.toApart.store_of_ne hother
      rw [Event.answer?, Event.answer?, Event.after, Event.after, hstore]
      exact ⟨rfl, .of_apart (ahead.toApart.put_of_ne hother _)
        ⟨hmembers first _, hmembers second _⟩ ahead.opened ahead.transaction ahead.idle⟩

/-- While the transaction is open the others are answered as if it were not. -/
theorem Ahead.through (looks : b.LooksOnly view) {inside : List (Event ι M)}
    (stays : ∀ op, .turn a op ∈ inside → op.StaysInside) (ahead : Ahead view a first second) :
    othersAnswers b a inside first = othersAnswers b a (without a inside) second ∧
      Ahead view a (final b inside first) (final b (without a inside) second) := by
  induction inside generalizing first second with
  | nil => exact ⟨rfl, ahead⟩
  | cons event rest ih =>
      have hstays : ∀ op, .turn a op ∈ rest → op.StaysInside :=
        fun op hmem => stays op (List.mem_cons_of_mem event hmem)
      cases hby : event.isBy a with
      | true =>
          obtain ⟨op, rfl⟩ : ∃ op, event = .turn a op := by
            cases event with
            | turn i op =>
                have hi : i = a := by simpa [Event.isBy] using hby
                exact ⟨op, by rw [hi]⟩
            | disturbance disturb => cases hby
          have hskip : without a (.turn a op :: rest) = without a rest := by
            simp [without, Event.isBy]
          rw [hskip, othersAnswers_own, final_cons]
          exact ih hstays (ahead.inside looks (stays op List.mem_cons_self))
      | false =>
          obtain ⟨hanswer, hlater⟩ := ahead.other (b := b) hby
          have hkeep : without a (event :: rest) = event :: without a rest := by
            simp [without, hby]
          obtain ⟨hrest, hend⟩ := ih hstays hlater
          rw [hkeep, othersAnswers_cons, othersAnswers_cons, hanswer, hrest]
          exact ⟨rfl, hend⟩

/-! ## Once the transaction has ended -/

/-- A rollback catches up. -/
theorem Ahead.rolledBack (ahead : Ahead view a first second) :
    Level view a (Event.after b (.turn a .rollback) first) second := by
  have hopened : (first.store a).initialized = true := ahead.opened
  have hrun : (Store.perform b .rollback (first.store a)).2 = Store.dropped (first.store a) := by
    rw [Store.perform, Run.map_apply, Store.rollback_apply hopened]
  rw [Event.after, hrun]
  refine ⟨ahead.toApart.put_left rfl rfl, ?_⟩
  rw [member_put_self, ahead.idle]
  rfl

/-- A close catches up with a close. -/
theorem Ahead.closed (looks : b.LooksOnly view) (ahead : Ahead view a first second) :
    Level view a (Event.after b (.turn a .close) first)
      (Event.after b (.turn a .close) second) := by
  have hdropped : ∀ {S : Type} (b : Backend S) (s : Store S), s.initialized = true →
      Store.perform b .close s = Store.perform b .close (Store.dropped s) := by
    intro S b s opened
    have hopened : (Store.dropped s).initialized = true := opened
    rw [Store.perform, Run.map_apply, Run.map_apply, Store.close,
      Store.ensureInitialized_bind opened, Store.ensureInitialized_bind hopened]
    rfl
  have hpaired : Store.Paired (fun m n => Backend.seen view m = Backend.seen view n)
      (Store.dropped (first.store a)) (Store.dropped (second.store a)) :=
    ⟨ahead.toApart.seen, ahead.initialized, rfl⟩
  have hopened : (second.store a).initialized = true := ahead.initialized.symm.trans ahead.opened
  have hlater := Store.perform_paired looks.parallels .close hpaired
  rw [← hdropped b _ ahead.opened, ← hdropped b _ hopened] at hlater
  refine ⟨ahead.toApart.put_self hlater.medium hlater.initialized, ?_⟩
  rw [Event.after, member_put_self, Event.after, member_put_self]
  exact hlater.staging

/-- From then on nobody but the store itself can tell the companies apart. -/
theorem Level.after (looks : b.LooksOnly view) (level : Level view a first second)
    (event : Event ι M) :
    (event.answer? b first).toList.filter (·.1 ≠ a) =
        (event.answer? b second).toList.filter (·.1 ≠ a) ∧
      Level view a (event.after b first) (event.after b second) := by
  cases event with
  | disturbance disturb => exact ⟨rfl, level.toApart.disturbed disturb, level.staging⟩
  | turn i op =>
      by_cases hi : i = a
      · subst hi
        have hpaired : Store.Paired (fun m n => Backend.seen view m = Backend.seen view n)
            (first.store i) (second.store i) :=
          ⟨level.toApart.seen, level.initialized, level.staging⟩
        have hlater := Store.perform_paired looks.parallels op hpaired
        refine ⟨by simp [Event.answer?],
          level.toApart.put_self hlater.medium hlater.initialized, ?_⟩
        rw [Event.after, member_put_self, Event.after, member_put_self]
        exact hlater.staging
      · have hstore := level.toApart.store_of_ne hi
        rw [Event.answer?, Event.answer?, Event.after, Event.after, hstore]
        refine ⟨rfl, level.toApart.put_of_ne hi _, ?_⟩
        rw [member_put_of_ne (Ne.symm hi), member_put_of_ne (Ne.symm hi)]
        exact level.staging

theorem Level.through (looks : b.LooksOnly view) (level : Level view a first second)
    (history : List (Event ι M)) :
    othersAnswers b a history first = othersAnswers b a history second ∧
      Level view a (final b history first) (final b history second) := by
  induction history generalizing first second with
  | nil => exact ⟨rfl, level⟩
  | cons event rest ih =>
      obtain ⟨hanswer, hlater⟩ := level.after looks event
      obtain ⟨hrest, hend⟩ := ih hlater
      rw [othersAnswers_cons, othersAnswers_cons, hanswer, hrest]
      exact ⟨rfl, hend⟩

/-- Histories that have come level go on to look the same. -/
theorem Level.sameToOthers (looks : b.LooksOnly view) {company : Company ι H M}
    {former former' : List (Event ι M)}
    (heard : othersAnswers b a former company = othersAnswers b a former' company)
    (level : Level view a (final b former company) (final b former' company))
    (later : List (Event ι M)) :
    SameToOthers b a company (former ++ later) (former' ++ later) := by
  obtain ⟨hanswers, hlevel⟩ := level.through looks later
  constructor
  · rw [othersAnswers_append, othersAnswers_append, heard, hanswers]
  · rw [final_append, final_append, hlevel.shared]

theorem othersAnswers_append_own (history : List (Event ι M)) (op : Store.Op)
    (company : Company ι H M) :
    othersAnswers b a (history ++ [.turn a op]) company = othersAnswers b a history company := by
  rw [othersAnswers_append, othersAnswers_own]
  exact List.append_nil _

/-- To the others a history with a transaction that is still open, or that has ended in a
rollback or a close, looks like the history without it. -/
theorem sameToOthers_without (looks : b.LooksOnly view) {company : Company ι H M}
    {before inside : List (Event ι M)}
    (begins : (Store.perform b .begin ((final b before company).store a)).1 = .ok .done)
    (stays : ∀ op, .turn a op ∈ inside → op.StaysInside) (later : List (Event ι M)) :
    SameToOthers b a company (before ++ .turn a .begin :: inside) (before ++ without a inside) ∧
      SameToOthers b a company (before ++ .turn a .begin :: inside ++ .turn a .rollback :: later)
        (before ++ without a inside ++ later) ∧
      SameToOthers b a company (before ++ .turn a .begin :: inside ++ .turn a .close :: later)
        (before ++ without a inside ++ .turn a .close :: later) := by
  obtain ⟨hanswers, hahead⟩ := (ahead_of_begin view begins).through looks stays
  have hheard : othersAnswers b a (before ++ .turn a .begin :: inside) company =
      othersAnswers b a (before ++ without a inside) company := by
    rw [othersAnswers_append, othersAnswers_append, othersAnswers_own, ← hanswers]
    rfl
  rw [← final_cons, ← final_append, ← final_append] at hahead
  generalize before ++ .turn a .begin :: inside = opened at hheard hahead
  generalize before ++ without a inside = omitted at hheard hahead
  have hsplit : ∀ (former : List (Event ι M)) (op : Store.Op),
      former ++ .turn a op :: later = (former ++ [.turn a op]) ++ later := fun former op =>
    (List.append_cons ..)
  refine ⟨⟨hheard, hahead.shared⟩, ?_, ?_⟩
  · rw [hsplit]
    refine Level.sameToOthers looks ((othersAnswers_append_own ..).trans hheard) ?_ later
    rw [final_append]
    exact hahead.rolledBack
  · rw [hsplit, hsplit]
    refine Level.sameToOthers looks ?_ ?_ later
    · rw [othersAnswers_append_own, othersAnswers_append_own, hheard]
    · rw [final_append, final_append]
      exact hahead.closed looks

end

end Company

end Clearinghouse
