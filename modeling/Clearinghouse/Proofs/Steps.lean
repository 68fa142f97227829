/-
# Running steps

Steps of a medium, checks of an operation and phases of a batch are one kind of
computation: each takes a state, answers or fails, and leaves a state behind in
either case. This module says what sequencing does to a run, so that later
proofs follow a run from one part to the next. A relation that every part
respects is respected by the whole, whatever the parts answer.
-/

import Clearinghouse.Store.Error
import Mathlib.Order.Defs.Unbundled

namespace Clearinghouse.Run

variable {ε ε' S T α β : Type}

/-- After an answer the run goes on with what the answer asks for. -/
theorem bind_of_ok {first : ExceptT ε (StateM S) α} {next : α → ExceptT ε (StateM S) β}
    {s s' : S} {a : α} (answered : first s = (.ok a, s')) :
    (first >>= next) s = next a s' := by
  simp only [bind, ExceptT.bind, ExceptT.mk, StateT.bind, answered, ExceptT.bindCont]

/-- A failure ends the run where it happened. -/
theorem bind_of_error {first : ExceptT ε (StateM S) α} {next : α → ExceptT ε (StateM S) β}
    {s s' : S} {e : ε} (failed : first s = (.error e, s')) :
    (first >>= next) s = (.error e, s') := by
  simp only [bind, ExceptT.bind, ExceptT.mk, StateT.bind, failed, ExceptT.bindCont]
  rfl

/-- A run that answers had an answer from each of its parts. -/
theorem exists_of_bind_ok {first : ExceptT ε (StateM S) α} {next : α → ExceptT ε (StateM S) β}
    {s : S} {result : β} (answered : ((first >>= next) s).1 = .ok result) :
    ∃ a s', first s = (.ok a, s') ∧ (next a s').1 = .ok result := by
  cases hrun : first s with
  | mk answer s' =>
      cases answer with
      | ok a =>
          rw [bind_of_ok hrun] at answered
          exact ⟨a, s', rfl, answered⟩
      | error e =>
          rw [bind_of_error hrun] at answered
          cases answered

@[simp]
theorem pure_apply (a : α) (s : S) : (pure a : ExceptT ε (StateM S) α) s = (.ok a, s) := rfl

@[simp]
theorem throw_apply (e : ε) (s : S) :
    (throw e : ExceptT ε (StateM S) α) s = (.error e, s) := rfl

@[simp]
theorem modify_apply (f : S → S) (s : S) :
    (modify f : ExceptT ε (StateM S) Unit) s = (.ok (), f s) := rfl

/-- Asking for the state passes the state on. -/
@[simp]
theorem get_bind_apply (next : S → ExceptT ε (StateM S) β) (s : S) :
    ((get : ExceptT ε (StateM S) S) >>= next) s = next s s := rfl

/-- What was changed before, the rest of the run finds. -/
@[simp]
theorem modify_bind_apply (f : S → S) (next : Unit → ExceptT ε (StateM S) β) (s : S) :
    ((modify f : ExceptT ε (StateM S) Unit) >>= next) s = next () (f s) := rfl

@[simp]
theorem set_bind_apply (s s' : S) (next : Unit → ExceptT ε (StateM S) β) :
    ((set s' : ExceptT ε (StateM S) Unit) >>= next) s = next () s' := rfl

/-- A failure that is handed on as an answer does not end the run. -/
@[simp]
theorem lift_bind_apply (act : StateM S α) (next : α → ExceptT ε (StateM S) β) (s : S) :
    (ExceptT.lift act >>= next) s = next (act s).1 (act s).2 := rfl

/-- Renaming a failure changes nothing else. -/
@[simp]
theorem adapt_apply (act : ExceptT ε (StateM S) α) (rename : ε → ε') (s : S) :
    (act.adapt rename) s = ((act s).1.mapError rename, (act s).2) := rfl

/-- Putting an answer into another form changes nothing else. -/
@[simp]
theorem map_apply (f : α → β) (act : ExceptT ε (StateM S) α) (s : S) :
    (f <$> act) s = ((act s).1.map f, (act s).2) := by
  change (ExceptT.map f act) s = _
  cases hrun : act s with
  | mk answer s' =>
      cases answer <;>
        simp only [ExceptT.map, ExceptT.mk, bind, StateT.bind, hrun] <;> rfl

theorem map_eq_ok_iff {f : α → β} {act : ExceptT ε (StateM S) α} {s s' : S} {result : β} :
    (f <$> act) s = (.ok result, s') ↔ ∃ a, act s = (.ok a, s') ∧ f a = result := by
  rw [map_apply]
  cases act s with
  | mk answer s'' =>
      cases answer with
      | ok a =>
          constructor
          · rintro ⟨⟩
            exact ⟨a, rfl, rfl⟩
          · rintro ⟨_, ⟨⟩, rfl⟩
            rfl
      | error e =>
          constructor
          · rintro ⟨⟩
          · rintro ⟨_, ⟨⟩, _⟩

/-- Forms that an answer is put into one after the other are one form. -/
theorem map_of_map {γ : Type} {whole : ExceptT ε (StateM S) β} {rest : ExceptT ε (StateM S) α}
    {form : α → β} {s s' : S} (runs : whole s = (form <$> rest) s') (later : β → γ) :
    (later <$> whole) s = ((later ∘ form) <$> rest) s' := by
  rw [map_apply, runs, map_apply, map_apply]
  cases (rest s').1 <;> rfl

/-- A step on a part answers as it does on the part alone, and changes that part
only. -/
@[simp]
theorem onPart_apply (get : S → T) (set : T → S → S) (act : Step T α) (s : S) :
    Step.onPart get set act s = ((act (get s)).1, set (act (get s)).2 s) := rfl

/-- Whatever it answers, a computation takes every state to a related one. -/
def Along (R : S → S → Prop) (act : ExceptT ε (StateM S) α) : Prop := ∀ s, R s (act s).2

theorem Along.pure {R : S → S → Prop} [Std.Refl R] (a : α) :
    Along R (Pure.pure a : ExceptT ε (StateM S) α) := fun s => Std.Refl.refl s

theorem Along.throw {R : S → S → Prop} [Std.Refl R] (e : ε) :
    Along R (MonadExcept.throw e : ExceptT ε (StateM S) α) := fun s => Std.Refl.refl s

/-- Handing a failure on as an answer takes the same way. -/
theorem Along.lift {R : S → S → Prop} {act : ExceptT ε' (StateM S) α} (hact : Along R act) :
    Along R (ExceptT.lift act.run : ExceptT ε (StateM S) (Except ε' α)) := hact

/-- A run stays along a relation if both of its parts do. -/
theorem Along.bind {R : S → S → Prop} [IsTrans S R] {first : ExceptT ε (StateM S) α}
    {next : α → ExceptT ε (StateM S) β} (hfirst : Along R first)
    (hnext : ∀ a, Along R (next a)) : Along R (first >>= next) := by
  intro s
  cases hrun : first s with
  | mk answer s' =>
      have hstep : R s s' := by simpa only [hrun] using hfirst s
      cases answer with
      | ok a =>
          rw [bind_of_ok hrun]
          exact IsTrans.trans _ _ _ hstep (hnext a s')
      | error e =>
          rw [bind_of_error hrun]
          exact hstep

/-- Some part of the state, or something read off it, is the same afterwards. -/
def Kept {C : Type} (content : S → C) (s s' : S) : Prop := content s' = content s

instance {C : Type} (content : S → C) : Std.Refl (Kept content) := ⟨fun _ => rfl⟩

instance {C : Type} (content : S → C) : IsTrans S (Kept content) :=
  ⟨fun _ _ _ first second => second.trans first⟩

instance {C : Type} (content : S → C) : IsPreorder S (Kept content) := {}

/-- What holds of the state holds of it afterwards. -/
def Preserved (holds : S → Prop) (s s' : S) : Prop := holds s → holds s'

instance (holds : S → Prop) : IsPreorder S (Preserved holds) where
  refl _ := id
  trans _ _ _ first second := second ∘ first

/-- What leaves the whole state alone leaves every part of it alone. -/
theorem Along.kept_of_id {C : Type} {act : ExceptT ε (StateM S) α} (hact : Along (Kept id) act)
    (content : S → C) : Along (Kept content) act := fun s => congrArg content (hact s)

/-- What comes after a part that leaves the state alone answers as from the start. -/
theorem Along.exists_of_bind_ok {first : ExceptT ε (StateM S) α}
    {next : α → ExceptT ε (StateM S) β} {s : S} {result : β} (kept : Along (Kept id) first)
    (answered : ((first >>= next) s).1 = .ok result) :
    ∃ a, first s = (.ok a, s) ∧ (next a s).1 = .ok result := by
  obtain ⟨a, s', hrun, hnext⟩ := Run.exists_of_bind_ok answered
  have hkept := kept s
  rw [hrun] at hkept
  obtain rfl : s' = s := hkept
  exact ⟨a, hrun, hnext⟩

end Clearinghouse.Run
