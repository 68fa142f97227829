/-
# Two runs side by side

One computation may run over states of two kinds, say over two media. The runs agree if,
from related states, they give one answer and lead to related states again. The first of
the two may have room for so much and no more. Then it is only asked to agree as long as
it stays within its bounds, and it must not come back to them once it has left them: so a
run that ends within bounds was within them all the time.
-/

import Clearinghouse.Proofs.Steps

namespace Clearinghouse.Run

variable {ε ε' S T α β : Type}

/-- Two runs agree from states related by `before`: they answer the same, and `after` says
for the answer how the states are related that they leave behind. -/
structure Agrees (within : S → Prop) (before : S → T → Prop) (act : S → α × S) (act' : T → α × T)
    (after : α → S → T → Prop) : Prop where
  earlier : ∀ {s}, within (act s).2 → within s
  agrees : ∀ {s t}, before s t → within (act s).2 →
    (act s).1 = (act' t).1 ∧ after (act s).1 (act s).2 (act' t).2

/-- Two runs agree and keep the states related. -/
def Alike (within : S → Prop) (related : S → T → Prop) (act : S → α × S) (act' : T → α × T) :
    Prop :=
  Agrees within related act act' fun _ => related

section

variable {within : S → Prop} {before related : S → T → Prop}

/-- Less may be asked of the states left behind, and more of those before. -/
theorem Agrees.imp {before' : S → T → Prop} {act : S → α × S} {act' : T → α × T}
    {after after' : α → S → T → Prop} (agrees : Agrees within before act act' after)
    (stronger : ∀ {s t}, before' s t → before s t)
    (weaker : ∀ {a s t}, after a s t → after' a s t) : Agrees within before' act act' after' where
  earlier := agrees.earlier
  agrees hbefore hwithin :=
    have hagrees := agrees.agrees (stronger hbefore) hwithin
    ⟨hagrees.1, weaker hagrees.2⟩

/-- What only reads the states answers the same. -/
theorem Alike.of_read {act : S → α × S} {act' : T → α × T} (kept : ∀ s, (act s).2 = s)
    (kept' : ∀ t, (act' t).2 = t) (same : ∀ {s t}, related s t → (act s).1 = (act' t).1) :
    Alike within related act act' where
  earlier {s} hwithin := by rwa [kept] at hwithin
  agrees {s t} hrelated _ := by
    rw [kept, kept']
    exact ⟨same hrelated, hrelated⟩

theorem Alike.pure (a : α) :
    Alike within related (Pure.pure a : ExceptT ε (StateM S) α)
      (Pure.pure a : ExceptT ε (StateM T) α) :=
  .of_read (fun _ => rfl) (fun _ => rfl) fun _ => rfl

theorem Alike.throw (e : ε) :
    Alike within related (MonadExcept.throw e : ExceptT ε (StateM S) α)
      (MonadExcept.throw e : ExceptT ε (StateM T) α) :=
  .of_read (fun _ => rfl) (fun _ => rfl) fun _ => rfl

/-- What follows an answer that the first part can give may count on how the states are
related by then. A failure ends both runs. -/
theorem Agrees.bind {first : ExceptT ε (StateM S) α} {first' : ExceptT ε (StateM T) α}
    {next : α → ExceptT ε (StateM S) β} {next' : α → ExceptT ε (StateM T) β}
    {mid : Except ε α → S → T → Prop} {after : Except ε β → S → T → Prop}
    (hfirst : Agrees within before first first' mid)
    (hnext : ∀ {s a}, (first s).1 = .ok a → Agrees within (mid (.ok a)) (next a) (next' a) after)
    (failed : ∀ {e s t}, mid (.error e) s t → after (.error e) s t) :
    Agrees within before (first >>= next : ExceptT ε (StateM S) β)
      (first' >>= next' : ExceptT ε (StateM T) β) after where
  earlier {s} hwithin := by
    apply hfirst.earlier
    cases hrun : first s with
    | mk answer mid =>
        cases answer with
        | ok a =>
            rw [bind_of_ok hrun] at hwithin
            exact (hnext (congrArg Prod.fst hrun)).earlier hwithin
        | error e =>
            rw [bind_of_error hrun] at hwithin
            exact hwithin
  agrees {s t} hbefore hwithin := by
    cases hrun : first s with
    | mk answer s' =>
        cases hrun' : first' t with
        | mk answer' t' =>
            have hstep : within s' → answer = answer' ∧ mid answer s' t' := by
              intro hs'
              have hagrees := hfirst.agrees hbefore (by rwa [hrun])
              rwa [hrun, hrun'] at hagrees
            cases answer with
            | ok a =>
                have hagrees := hnext (congrArg Prod.fst hrun)
                rw [bind_of_ok hrun] at hwithin ⊢
                obtain ⟨rfl, hmid⟩ := hstep (hagrees.earlier hwithin)
                rw [bind_of_ok hrun']
                exact hagrees.agrees hmid hwithin
            | error e =>
                rw [bind_of_error hrun] at hwithin ⊢
                obtain ⟨rfl, hmid⟩ := hstep hwithin
                rw [bind_of_error hrun']
                exact ⟨rfl, failed hmid⟩

theorem Alike.bind {first : ExceptT ε (StateM S) α} {first' : ExceptT ε (StateM T) α}
    {next : α → ExceptT ε (StateM S) β} {next' : α → ExceptT ε (StateM T) β}
    (hfirst : Alike within related first first')
    (hnext : ∀ a, Alike within related (next a) (next' a)) :
    Alike within related (first >>= next : ExceptT ε (StateM S) β)
      (first' >>= next' : ExceptT ε (StateM T) β) :=
  Agrees.bind hfirst (fun {_ a} _ => hnext a) fun hrelated => hrelated

/-- A computation that asks for the state only to choose how to go on. -/
theorem Alike.branch {test : S → Bool} {test' : T → Bool}
    {yes no : ExceptT ε (StateM S) α} {yes' no' : ExceptT ε (StateM T) α}
    (same : ∀ {s t}, related s t → test s = test' t) (hyes : Alike within related yes yes')
    (hno : Alike within related no no') :
    Alike within related
      (get >>= fun s => if test s = true then yes else no : ExceptT ε (StateM S) α)
      (get >>= fun t => if test' t = true then yes' else no' : ExceptT ε (StateM T) α) where
  earlier {s} hwithin := by
    rw [get_bind_apply] at hwithin
    split at hwithin
    · exact hyes.earlier hwithin
    · exact hno.earlier hwithin
  agrees {s t} hrelated hwithin := by
    have hsame := same hrelated
    rw [get_bind_apply] at hwithin
    rw [get_bind_apply, get_bind_apply, ← hsame]
    by_cases htest : test s = true
    · rw [if_pos htest] at hwithin
      rw [if_pos htest, if_pos htest]
      exact hyes.agrees hrelated hwithin
    · rw [if_neg htest] at hwithin
      rw [if_neg htest, if_neg htest]
      exact hno.agrees hrelated hwithin

/-- Both runs are refused, or both go on. -/
theorem Alike.refuse {refused : Prop} [Decidable refused] (e : ε)
    {rest : Unit → ExceptT ε (StateM S) α} {rest' : Unit → ExceptT ε (StateM T) α}
    (hrest : Alike within related (rest ()) (rest' ())) :
    Alike within related
      (if refused then MonadExcept.throw e >>= rest else rest () : ExceptT ε (StateM S) α)
      (if refused then MonadExcept.throw e >>= rest' else rest' () : ExceptT ε (StateM T) α) := by
  split
  · exact (Alike.throw e).bind fun _ => hrest
  · exact hrest

/-- Putting the answer into another form changes nothing else. -/
theorem Alike.form {act : S → α × S} {act' : T → α × T} (halike : Alike within related act act')
    (form : α → β) :
    Alike within related (fun s => (form (act s).1, (act s).2))
      fun t => (form (act' t).1, (act' t).2) where
  earlier := halike.earlier
  agrees hrelated hwithin :=
    have hagrees := halike.agrees hrelated hwithin
    ⟨congrArg form hagrees.1, hagrees.2⟩

/-- Handing a failure on as an answer takes the same way. -/
theorem Alike.lift {act : ExceptT ε' (StateM S) α} {act' : ExceptT ε' (StateM T) α}
    (halike : Alike within related act act') :
    Alike within related (ExceptT.lift act.run : ExceptT ε (StateM S) (Except ε' α))
      (ExceptT.lift act'.run : ExceptT ε (StateM T) (Except ε' α)) :=
  halike.form (Except.ok : Except ε' α → Except ε (Except ε' α))

theorem Alike.adapt {act : ExceptT ε (StateM S) α} {act' : ExceptT ε (StateM T) α}
    (halike : Alike within related act act') (rename : ε → ε') :
    Alike within related (act.adapt rename) (act'.adapt rename) :=
  halike.form (Except.mapError rename)

theorem Alike.map {act : ExceptT ε (StateM S) α} {act' : ExceptT ε (StateM T) α}
    (halike : Alike within related act act') (form : α → β) :
    Alike within related (form <$> act : ExceptT ε (StateM S) β)
      (form <$> act' : ExceptT ε (StateM T) β) := by
  have hform := halike.form (Except.map form)
  refine ⟨fun {s} => ?_, fun {s t} => ?_⟩
  · rw [map_apply]
    exact hform.earlier
  · rw [map_apply, map_apply]
    exact hform.agrees

theorem Alike.give (a : α) :
    Alike within related (Pure.pure a : StateM S α) (Pure.pure a : StateM T α) :=
  .of_read (fun _ => rfl) (fun _ => rfl) fun _ => rfl

/-- Computations that cannot fail agree in a row if they agree one by one. -/
theorem Alike.andThen {first : StateM S α} {first' : StateM T α} {next : α → StateM S β}
    {next' : α → StateM T β} (hfirst : Alike within related first first')
    (hnext : ∀ a, Alike within related (next a) (next' a)) :
    Alike within related (first >>= next : StateM S β) (first' >>= next' : StateM T β) where
  earlier hwithin := hfirst.earlier ((hnext _).earlier hwithin)
  agrees {s t} hrelated hwithin := by
    have hwithin' : within (next (first s).1 (first s).2).2 := hwithin
    obtain ⟨hanswer, hrelated'⟩ := hfirst.agrees hrelated ((hnext _).earlier hwithin')
    change (next (first s).1 (first s).2).1 = (next' (first' t).1 (first' t).2).1 ∧
      related (next (first s).1 (first s).2).2 (next' (first' t).1 (first' t).2).2
    rw [← hanswer]
    exact (hnext _).agrees hrelated' hwithin'

/-- So does a whole list of them. -/
theorem Alike.mapM {step : α → StateM S β} {step' : α → StateM T β} {items : List α}
    (halike : ∀ item ∈ items, Alike within related (step item) (step' item)) :
    Alike within related (items.mapM step) (items.mapM step') := by
  induction items with
  | nil => exact .give []
  | cons item rest ih =>
      have hrest := ih fun later hmem => halike later (List.mem_cons_of_mem item hmem)
      rw [List.mapM_cons, List.mapM_cons]
      refine (halike item List.mem_cons_self).andThen fun answer => ?_
      exact hrest.form (answer :: ·)

end

end Clearinghouse.Run
