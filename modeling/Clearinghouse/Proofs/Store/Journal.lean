/-
# What was flushed, and what came of it

A medium can be given a journal of the flushes it is asked for and of their answers. The
journal shows nothing to anyone: operations are answered as without it. It says which changes
count as booked: all of a flush that succeeded, those before the reported number of one that
landed in part, and none of any other. A medium keeps to its journal if accounts hold what
the booked changes come to.
-/

import Mathlib.Algebra.Ring.Int.Defs
import Clearinghouse.Proofs.Store.Company

namespace Clearinghouse

/-- A flush that a medium was asked for, and its answer. -/
structure Flush where
  changes : List Change
  answer : Except StoreError Unit

namespace Flush

/-- The changes of a flush that its answer says have landed. -/
def booked (flush : Flush) : List Change :=
  match flush.answer with
  | .ok () => flush.changes
  | .error (.partialCommit _ (some applied) _ _) => flush.changes.take applied
  | .error _ => []

/-- Nothing is booked that was not flushed. -/
theorem booked_sublist (flush : Flush) : flush.booked.Sublist flush.changes := by
  unfold booked
  split
  · exact .refl _
  · exact List.take_sublist _ _
  · exact List.nil_sublist _

end Flush

/-- What the changes about an account come to. -/
def movedBy (changes : List Change) (id : AccountId) : Int :=
  ((changes.filter (·.id = id)).map Change.delta).sum

/-- What was booked on an account through a journal. -/
def bookedOn (journal : List Flush) (id : AccountId) : Int :=
  movedBy (journal.flatMap Flush.booked) id

theorem movedBy_append (first later : List Change) (id : AccountId) :
    movedBy (first ++ later) id = movedBy first id + movedBy later id := by
  rw [movedBy, List.filter_append, List.map_append, List.sum_append, movedBy, movedBy]

@[simp]
theorem bookedOn_nil (id : AccountId) : bookedOn [] id = 0 := rfl

theorem bookedOn_append (first later : List Flush) (id : AccountId) :
    bookedOn (first ++ later) id = bookedOn first id + bookedOn later id := by
  rw [bookedOn, List.flatMap_append, movedBy_append, bookedOn, bookedOn]

theorem bookedOn_singleton (flush : Flush) (id : AccountId) :
    bookedOn [flush] id = movedBy flush.booked id := by
  rw [bookedOn, List.flatMap_singleton]

variable {S : Type}

/-- A call of a medium beside a journal, which stays as it is. -/
def Step.besideJournal {α : Type} (act : Step S α) : Step (S × List Flush) α :=
  Step.onPart Prod.fst (fun m state => (m, state.2)) act

/-- A medium with a journal. -/
def Backend.journaled (b : Backend S) : Backend (S × List Flush) where
  name := b.name
  guarantee := b.guarantee
  connect := b.connect.besideJournal
  disconnect := b.disconnect.besideJournal
  load id := (b.load id).besideJournal
  loadAll := b.loadAll.besideJournal
  flush changes := fun (m, journal) =>
    ((b.flush changes m).1, ((b.flush changes m).2, journal ++ [⟨changes, (b.flush changes m).1⟩]))

/-- A medium answers with a journal as without. -/
theorem Backend.journaled_parallels (b : Backend S) :
    b.journaled.Parallels b fun m n => m.1 = n := by
  have hbeside : ∀ {α : Type} (act : Step S α),
      Run.Parallel (fun (m : S × List Flush) n => m.1 = n) act.besideJournal act := by
    intro α act
    refine Run.Parallel.intro fun {m n} same => ?_
    subst same
    exact ⟨rfl, rfl⟩
  exact
    { connect := hbeside _
      disconnect := hbeside _
      load := fun _ => hbeside _
      loadAll := fun same => ((hbeside _).agrees same trivial).2
      flush := fun changes => Run.Parallel.intro fun {m n} same => by
        subst same
        exact ⟨rfl, rfl⟩ }

/-- What accounts hold is moved by a flush as its answer says, and by no other call. -/
structure Backend.KeepsToJournal (b : Backend S) (total : S → AccountId → Int) : Prop where
  connect : Run.Along (Run.Kept total) b.connect
  disconnect : Run.Along (Run.Kept total) b.disconnect
  load : ∀ id, Run.Along (Run.Kept total) (b.load id)
  loadAll : Run.Along (Run.Kept total) b.loadAll
  flush : ∀ changes m id, total (b.flush changes m).2 id =
    total m id + movedBy (Flush.mk changes (b.flush changes m).1).booked id

namespace Store

variable {b : Backend S}

/-- A store whose medium has a journal with nothing in it yet. -/
def withJournal (s : Store S) : Store (S × List Flush) :=
  ⟨(s.medium, []), s.initialized, s.staging⟩

/-- The flushes that an operation asks for. -/
def flushes (b : Backend S) (op : Op) (s : Store S) : List Flush :=
  (perform b.journaled op s.withJournal).2.medium.2

/-- Nobody sees the journal. -/
theorem perform_journaled (b : Backend S) (op : Op) (s : Store S) :
    (perform b.journaled op s.withJournal).1 = (perform b op s).1 ∧
      Paired (fun m n => m.1 = n) (perform b.journaled op s.withJournal).2 (perform b op s).2 := by
  have hpaired : Paired (fun m n => m.1 = n) s.withJournal s := ⟨rfl, rfl, rfl⟩
  by_cases hlisting : op = .accounts
  · subst hlisting
    have hlists : Run.Parallel (fun m n => m.1 = n) b.journaled.loadAll b.loadAll :=
      Run.Parallel.intro fun {m n} same => by
        subst same
        exact ⟨rfl, rfl⟩
    exact ((accounts_parallel hlists).map _).agrees hpaired trivial
  · exact (perform_parallel b.journaled_parallels hlisting).agrees hpaired trivial

/-- From one state of a medium with a journal to another, what accounts hold was moved by
what was booked since. -/
def MovedByJournal (total : S → AccountId → Int) (m m' : S × List Flush) : Prop :=
  ∃ later, m'.2 = m.2 ++ later ∧ ∀ id, total m'.1 id = total m.1 id + bookedOn later id

instance (total : S → AccountId → Int) : IsPreorder (S × List Flush) (MovedByJournal total) where
  refl m := ⟨[], (List.append_nil _).symm, fun id => (Int.add_zero _).symm⟩
  trans m m' m'' := by
    rintro ⟨first, hfirst, hmoved⟩ ⟨second, hsecond, hfurther⟩
    refine ⟨first ++ second, by rw [hsecond, hfirst, List.append_assoc], fun id => ?_⟩
    rw [hfurther, hmoved, bookedOn_append, Int.add_assoc]

/-- Through an operation accounts are moved by what is booked, and not otherwise. -/
theorem total_perform {total : S → AccountId → Int} (keeps : b.KeepsToJournal total) (op : Op)
    (s : Store S) (id : AccountId) :
    total (perform b op s).2.medium id = total s.medium id + bookedOn (flushes b op s) id := by
  have hstill : ∀ {α : Type} {act : Step S α}, Run.Along (Run.Kept total) act →
      Run.Along (MovedByJournal total) act.besideJournal := by
    intro α act kept m
    refine ⟨[], (List.append_nil _).symm, fun id => ?_⟩
    rw [bookedOn_nil, Int.add_zero]
    exact congrFun (kept m.1) id
  have hrespects : b.journaled.Respects (MovedByJournal total) :=
    { connect := hstill keeps.connect
      disconnect := hstill keeps.disconnect
      load := fun id => hstill (keeps.load id)
      loadAll := hstill keeps.loadAll
      flush := fun changes m => ⟨_, rfl, fun id => by
        rw [bookedOn_singleton]
        exact keeps.flush changes m.1 id⟩ }
  obtain ⟨later, hlater, hmoved⟩ := perform_along hrespects op s.withJournal
  have hmedium : (perform b.journaled op s.withJournal).2.medium.1 = (perform b op s).2.medium :=
    (perform_journaled b op s).2.medium
  have hflushes : flushes b op s = later := hlater.trans (List.nil_append later)
  rw [hflushes, ← hmedium]
  exact hmoved id

end Store

namespace Company

variable {ι H M : Type} [DecidableEq ι] {b : Backend (H × M)}

/-- The flushes that an event asks for. -/
def Event.flushes (b : Backend (H × M)) : Event ι M → Company ι H M → List Flush
  | .turn i op, company => Store.flushes b op (company.store i)
  | .disturbance _, _ => []

/-- All flushes that any of the stores asks for through a history. -/
def journal (b : Backend (H × M)) : List (Event ι M) → Company ι H M → List Flush
  | [], _ => []
  | event :: rest, company => event.flushes b company ++ journal b rest (event.after b company)

/-- Through a history accounts are moved by what any of the stores has booked. -/
theorem total_final (total : M → AccountId → Int) (keeps : b.KeepsToJournal fun m => total m.2)
    {history : List (Event ι M)}
    (disturbed : ∀ disturb, .disturbance disturb ∈ history → ∀ m, total (disturb m) = total m)
    (company : Company ι H M) (id : AccountId) :
    total (final b history company).shared id =
      total company.shared id + bookedOn (journal b history company) id := by
  induction history generalizing company with
  | nil => exact (Int.add_zero _).symm
  | cons event rest ih =>
      have hrest := ih (fun disturb hmem => disturbed disturb (List.mem_cons_of_mem _ hmem))
        (event.after b company)
      have hevent : total (event.after b company).shared id =
          total company.shared id + bookedOn (event.flushes b company) id := by
        cases event with
        | turn i op => exact Store.total_perform keeps op (company.store i) id
        | disturbance disturb =>
            rw [Event.flushes, bookedOn_nil, Int.add_zero]
            exact congrFun (disturbed disturb List.mem_cons_self company.shared) id
      rw [final_cons, hrest, hevent, journal, bookedOn_append, Int.add_assoc]

end Company

end Clearinghouse
