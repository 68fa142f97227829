/-
# Someone watches a medium

A store reaches its medium through calls, and someone may watch the calls and take notes. The
notes show nothing to anyone: a store does the same as without them, through its operations
and through whole batches. So they can say, next to a history, what the store has come across
in its course.
-/

import Clearinghouse.Proofs.Batch.Along
import Clearinghouse.Proofs.Batch.Mirroring

namespace Clearinghouse

/-- What is noted of the calls of a medium, from the state that a call found and the one that it
left. -/
structure Watcher (S N : Type) where
  connect : S → S → N → N
  load : AccountId → S → S → N → N
  flush : List Change → S → S → N → N

variable {S N α : Type}

/-- A call of a medium of which a note is taken. -/
def Step.noted (note : S → S → N → N) (act : Step S α) : Step (S × N) α := fun (m, notes) =>
  ((act m).1, ((act m).2, note m (act m).2 notes))

/-- A medium that is watched. -/
def Backend.watched (b : Backend S) (watcher : Watcher S N) : Backend (S × N) where
  name := b.name
  guarantee := b.guarantee
  connect := b.connect.noted watcher.connect
  disconnect := b.disconnect.noted fun _ _ notes => notes
  load id := (b.load id).noted (watcher.load id)
  loadAll := b.loadAll.noted fun _ _ notes => notes
  flush changes := (b.flush changes).noted (watcher.flush changes)

/-- A store whose medium is watched. -/
def Store.withNotes (s : Store S) (notes : N) : Store (S × N) :=
  ⟨(s.medium, notes), s.initialized, s.staging⟩

theorem Run.Parallel.noted (note : S → S → N → N) (act : Step S α) :
    Run.Parallel (fun (m : S × N) n => m.1 = n) (act.noted note) act := by
  refine Run.Parallel.intro fun {m n} same => ?_
  subst same
  exact ⟨rfl, rfl⟩

/-- A medium answers as if nobody watched it. -/
theorem Backend.watched_parallels (b : Backend S) (watcher : Watcher S N) :
    (b.watched watcher).Parallels b fun m n => m.1 = n where
  connect := .noted _ _
  disconnect := .noted (fun _ _ notes => notes) _
  load _ := .noted _ _
  loadAll same := ((Run.Parallel.noted (fun _ _ notes => notes) _).agrees same trivial).2
  flush _ := .noted _ _

namespace Batch

/-- What a store is put to: an operation, or a batch that it processes or checks. -/
inductive Act
  | operation (op : Store.Op)
  | process (keys : KeyRegistry) (policy : Policy) (tx : Transaction)
  | check (keys : KeyRegistry) (tx : Transaction)

namespace Act

/-- The store afterwards. -/
def after (b : Backend S) : Act → Store S → Store S
  | operation op, s => (Store.perform b op s).2
  | process keys policy tx, s => (Batch.process b keys policy tx s).2
  | check keys tx, s => (Batch.check b keys tx s).2

/-- The notes afterwards. -/
def notes (b : Backend S) (watcher : Watcher S N) (act : Act) (s : Store S) (notes : N) : N :=
  (act.after (b.watched watcher) (s.withNotes notes)).medium.2

/-- A store goes on as if nobody watched its medium. -/
theorem after_watched (b : Backend S) (watcher : Watcher S N) (act : Act) (s : Store S)
    (notes : N) : act.after (b.watched watcher) (s.withNotes notes) =
      (act.after b s).withNotes (act.notes b watcher s notes) := by
  have hinStep := Store.inStep_of_parallels (b.watched_parallels watcher)
  have hpaired : Store.Paired (fun m n => m.1 = n) (s.withNotes notes) s := ⟨rfl, rfl, rfl⟩
  have hafter : Store.Paired (fun m n => m.1 = n)
      (act.after (b.watched watcher) (s.withNotes notes)) (act.after b s) := by
    cases act with
    | operation op =>
        by_cases hlisting : op = .accounts
        · subst hlisting
          have hlists : Run.Parallel (fun (m : S × N) n => m.1 = n) (b.watched watcher).loadAll
              b.loadAll := .noted (fun _ _ notes => notes) _
          exact (((Store.accounts_parallel hlists).map _).agrees hpaired trivial).2
        · exact ((Store.perform_parallel (b.watched_parallels watcher) hlisting).agrees hpaired
            trivial).2
    | process keys policy tx =>
        exact ((Batch.process_alike hinStep keys policy fun _ _ => ⟨trivial, trivial⟩).agrees
          hpaired trivial).2
    | check keys tx =>
        exact ((Batch.check_alike hinStep keys fun _ _ => ⟨trivial, trivial⟩).agrees hpaired
          trivial).2
  rw [Store.withNotes, Store.mk.injEq]
  exact ⟨Prod.ext hafter.medium rfl, hafter.initialized, hafter.staging⟩

variable {b : Backend S} {R : Store S → Store S → Prop} [IsPreorder (Store S) R]

/-- What operations and batches go along, everything goes along that a store is put to. -/
theorem after_along (working : Working b R) (performs : ∀ op, Run.Along R (Store.perform b op))
    (act : Act) (s : Store S) : R s (act.after b s) := by
  cases act with
  | operation op => exact performs op s
  | process keys policy tx => exact process_along working tx s
  | check keys tx => exact check_along (fun op _ => working.getBalance_along op.sender) s

end Act

/-- What every call of a medium respects, a batch respects. -/
theorem working_medium {R : S → S → Prop} [IsPreorder S R] {b : Backend S}
    (respects : b.Respects R) : Working b (Store.MediumAlong R) where
  toReading := Store.carries_mediumAlong.reading respects.load respects.loadAll
  update := (Store.carries_mediumAlong.access respects.load respects.loadAll
    fun s changes _ => respects.flush changes s.medium).update_along
  begin := Store.begin_along
  commit := Store.commit_along Store.carries_mediumAlong respects.flush
    fun s => Std.Refl.refl s.medium
  rollback := Store.rollback_along

end Batch

end Clearinghouse
