/-
# Several stores over one medium

Stores that share a medium take turns. Each of them has its own connection, life cycle and
transaction; the medium is one. A history says which store performs which operation, and when
the medium is disturbed from outside: a failure is armed, or someone else writes to it.
-/

import Clearinghouse.Proofs.Store.Calls
import Mathlib.Logic.Function.Basic

namespace Clearinghouse

/-- Stores that share a medium `M`. What a store has to itself on the side of the medium is
its connection, of type `H`. -/
structure Company (ι H M : Type) where
  member : ι → Store H
  shared : M

namespace Company

/-- What happens in a company: a store takes its turn with an operation, or the medium is
disturbed. -/
inductive Event (ι M : Type)
  | turn (member : ι) (op : Store.Op)
  | disturbance (disturb : M → M)

variable {ι H M : Type}

/-- Stores that have not taken hold of the medium yet. -/
def opening (connections : ι → H) (shared : M) : Company ι H M :=
  ⟨fun i => .new (connections i), shared⟩

/-- One of the stores, as it stands before the medium. -/
def store (company : Company ι H M) (i : ι) : Store (H × M) :=
  ⟨((company.member i).medium, company.shared), (company.member i).initialized,
    (company.member i).staging⟩

variable [DecidableEq ι]

/-- The company once one of its stores has become `s`. -/
def put (company : Company ι H M) (i : ι) (s : Store (H × M)) : Company ι H M :=
  ⟨Function.update company.member i ⟨s.medium.1, s.initialized, s.staging⟩, s.medium.2⟩

/-- The store performs the event. -/
def Event.isBy (a : ι) : Event ι M → Bool
  | .turn i _ => i = a
  | .disturbance _ => false

section

variable (b : Backend (H × M))

/-- The company after an event. -/
def Event.after : Event ι M → Company ι H M → Company ι H M
  | .turn i op, company => company.put i (Store.perform b op (company.store i)).2
  | .disturbance disturb, company => { company with shared := disturb company.shared }

/-- What a store is answered in an event. -/
def Event.answer? : Event ι M → Company ι H M → Option (ι × Except StoreError Store.Answer)
  | .turn i op, company => some (i, (Store.perform b op (company.store i)).1)
  | .disturbance _, _ => none

/-- The company after a history. -/
def final (history : List (Event ι M)) (company : Company ι H M) : Company ι H M :=
  history.foldl (fun company event => event.after b company) company

/-- What the stores are answered through a history. -/
def answers : List (Event ι M) → Company ι H M → List (ι × Except StoreError Store.Answer)
  | [], _ => []
  | event :: rest, company =>
    (event.answer? b company).toList ++ answers rest (event.after b company)

end

variable {b : Backend (H × M)} {company : Company ι H M}

theorem final_cons (event : Event ι M) (rest : List (Event ι M)) (company : Company ι H M) :
    final b (event :: rest) company = final b rest (event.after b company) := rfl

theorem final_append (first later : List (Event ι M)) (company : Company ι H M) :
    final b (first ++ later) company = final b later (final b first company) :=
  List.foldl_append

theorem answers_append (first later : List (Event ι M)) (company : Company ι H M) :
    answers b (first ++ later) company =
      answers b first company ++ answers b later (final b first company) := by
  induction first generalizing company with
  | nil => rfl
  | cons event rest ih => rw [List.cons_append, answers, answers, ih, List.append_assoc]; rfl

theorem member_put_self (company : Company ι H M) (i : ι) (s : Store (H × M)) :
    (company.put i s).member i = ⟨s.medium.1, s.initialized, s.staging⟩ :=
  Function.update_self ..

theorem member_put_of_ne {i j : ι} (other : j ≠ i) (company : Company ι H M)
    (s : Store (H × M)) : (company.put i s).member j = company.member j :=
  Function.update_of_ne other ..

theorem store_put_self (company : Company ι H M) (i : ι) (s : Store (H × M)) :
    (company.put i s).store i = s := by
  rw [store, member_put_self]
  rfl

/-- To the other stores only the medium is new. -/
theorem store_put_of_ne {i j : ι} (other : j ≠ i) (company : Company ι H M)
    (s : Store (H × M)) : (company.put i s).store j =
      { company.store j with medium := ((company.store j).medium.1, s.medium.2) } := by
  rw [store, member_put_of_ne other]
  rfl

/-- To a store an event is a turn of its own, or at most a new medium. -/
theorem store_after (event : Event ι M) (company : Company ι H M) (a : ι) :
    (∃ op, event = .turn a op ∧
        (event.after b company).store a = (Store.perform b op (company.store a)).2) ∨
      (∀ op, event ≠ .turn a op) ∧ ∃ shared, (event.after b company).store a =
        { company.store a with medium := ((company.store a).medium.1, shared) } := by
  cases event with
  | turn i op =>
      by_cases hown : i = a
      · subst hown
        exact .inl ⟨op, rfl, store_put_self ..⟩
      · exact .inr ⟨fun op' h => hown (Event.turn.inj h).1, _,
          store_put_of_ne (Ne.symm hown) company (Store.perform b op (company.store i)).2⟩
  | disturbance disturb => exact .inr ⟨(fun op h => nomatch h), disturb company.shared, rfl⟩

/-! ## Taking turns -/

/-- Stores take turns, and nothing disturbs the medium. -/
def turns (schedule : List (ι × Store.Op)) : List (Event ι M) :=
  schedule.map fun (i, op) => .turn i op

theorem answers_turns_cons (i : ι) (op : Store.Op) (rest : List (ι × Store.Op)) :
    answers b (turns ((i, op) :: rest)) company =
      (i, (Store.perform b op (company.store i)).1) ::
        answers b (turns rest) (company.put i (Store.perform b op (company.store i)).2) := rfl

end Company

end Clearinghouse
