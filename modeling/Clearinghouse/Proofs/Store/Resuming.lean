/-
# Media that are resumed

A medium may be let go of and taken hold of again by a new store, which finds everything as it
was. While it is held, asking it for accounts leaves it alone, and what is flushed stays on it.
So an account that can be read once can be read from then on.
-/

import Clearinghouse.Proofs.Store.Steady

namespace Clearinghouse

/-- Where changes are recorded one after the other, an account is known that was known before
or that a change names. -/
theorem Change.foldl_knows {M : Type} {record : M → Change → M} (knows : M → AccountId → Prop)
    (knows_record : ∀ {m change id}, change.id = id ∨ knows m id → knows (record m change) id)
    {m : M} {changes : List Change} {id : AccountId}
    (known : knows m id ∨ ∃ change ∈ changes, change.id = id) :
    knows (changes.foldl record m) id := by
  induction changes generalizing m with
  | nil =>
      obtain hknown | ⟨change, hmem, -⟩ := known
      · exact hknown
      · cases hmem
  | cons first rest ih =>
      rw [List.foldl_cons]
      apply ih
      obtain hknown | ⟨change, hmem, hid⟩ := known
      · exact .inl (knows_record (.inr hknown))
      · obtain rfl | hlater := List.mem_cons.mp hmem
        · exact .inl (knows_record (.inl hid))
        · exact .inr ⟨change, hlater, hid⟩

variable {S : Type}

namespace Backend

variable {b : Backend S} {held : S → Prop}

/-- The medium has an account that can be read. -/
def Has (b : Backend S) (m : S) (id : AccountId) : Prop :=
  ∃ account, (b.load id m).1 = .ok (some account)

/-- A medium that is held is still held, and still has the accounts that it had. -/
def GoesOn (b : Backend S) (held : S → Prop) (m m' : S) : Prop :=
  held m → held m' ∧ ∀ id, b.Has m id → b.Has m' id

instance (b : Backend S) (held : S → Prop) : IsPreorder S (b.GoesOn held) where
  refl _ hheld := ⟨hheld, fun _ => id⟩
  trans _ _ _ first second hheld := by
    obtain ⟨hmid, hfirst⟩ := first hheld
    obtain ⟨hlater, hsecond⟩ := second hmid
    exact ⟨hlater, fun id => hsecond id ∘ hfirst id⟩

/-- While the medium is held, asking it for accounts leaves it alone, and flushing goes on.
What a flush has written can be read. Once the medium was let go of, a new store takes hold of
it just as it was. -/
structure Resumes (b : Backend S) (renew : S → S) (held : S → Prop) : Prop where
  load : ∀ id, Run.Along (Run.Untouched held) (b.load id)
  loadAll : Run.Along (Run.Untouched held) b.loadAll
  flush : ∀ changes, Run.Along (b.GoesOn held) (b.flush changes)
  written : ∀ {changes : List Change} {m : S}, held m → (b.flush changes m).1 = .ok () →
    ∀ change ∈ changes, b.Has (b.flush changes m).2 change.id
  disconnect : ∀ {m : S}, held m → (b.disconnect m).1 = .ok ()
  connect : ∀ {m : S}, held m → b.connect (renew (b.disconnect m).2) = (.ok (), m)

theorem goesOn_of_untouched {α : Type} {act : Step S α}
    (untouched : Run.Along (Run.Untouched held) act) : Run.Along (b.GoesOn held) act := by
  intro m hheld
  rw [untouched m hheld]
  exact ⟨hheld, fun _ => id⟩

end Backend

namespace Store

variable {b : Backend S} {renew : S → S} {held : S → Prop} {s : Store S}

/-- An open store without a transaction stays so, and its medium goes along. -/
def IdleAlong (R : S → S → Prop) (s s' : Store S) : Prop :=
  s.initialized = true → s.staging = none →
    s'.initialized = true ∧ s'.staging = none ∧ R s.medium s'.medium

/-- An open store stays open, and its medium goes along. -/
def OpenAlong (R : S → S → Prop) (s s' : Store S) : Prop :=
  s.initialized = true → s'.initialized = true ∧ R s.medium s'.medium

section

variable {R : S → S → Prop} [IsPreorder S R]

instance : IsPreorder (Store S) (IdleAlong R) where
  refl s opened idle := ⟨opened, idle, Std.Refl.refl s.medium⟩
  trans s s' s'' first second opened idle := by
    obtain ⟨hopened, hidle, hfirst⟩ := first opened idle
    obtain ⟨hopened', hidle', hsecond⟩ := second hopened hidle
    exact ⟨hopened', hidle', IsTrans.trans _ _ _ hfirst hsecond⟩

instance : IsPreorder (Store S) (OpenAlong R) where
  refl s opened := ⟨opened, Std.Refl.refl s.medium⟩
  trans s s' s'' first second opened := by
    obtain ⟨hopened, hfirst⟩ := first opened
    obtain ⟨hopened', hsecond⟩ := second hopened
    exact ⟨hopened', IsTrans.trans _ _ _ hfirst hsecond⟩

omit [IsPreorder S R] in
theorem carries_idleAlong : Carries R (IdleAlong R) where
  medium along opened idle := ⟨opened, idle, along⟩
  staged {s} _ transaction _ idle := by
    rw [inTransaction, idle] at transaction
    cases transaction

theorem carries_openAlong : Carries R (OpenAlong R) where
  medium along opened := ⟨opened, along⟩
  staged {s} _ _ opened := ⟨opened, Std.Refl.refl s.medium⟩

section

variable (load : ∀ id, Run.Along R (b.load id)) (loadAll : Run.Along R b.loadAll)
  (flush : ∀ changes, Run.Along R (b.flush changes))
include load loadAll flush

theorem access_idleAlong : Access b (IdleAlong R) :=
  carries_idleAlong.access load loadAll
    fun s changes _ opened idle => ⟨opened, idle, flush changes s.medium⟩

theorem access_openAlong : Access b (OpenAlong R) :=
  carries_openAlong.access load loadAll
    fun s changes _ opened => ⟨opened, flush changes s.medium⟩

end

end

section

variable (resumes : b.Resumes renew held)
include resumes

theorem access_idle : Access b (IdleAlong (b.GoesOn held)) :=
  access_idleAlong (fun id => Backend.goesOn_of_untouched (resumes.load id))
    (Backend.goesOn_of_untouched resumes.loadAll) resumes.flush

theorem loaded_of_held (hheld : held s.medium) (id : AccountId) : loaded b id s = s := by
  rw [loaded, resumes.load id s.medium hheld]

variable (opened : s.initialized = true) (idle : s.staging = none) (hheld : held s.medium)
include opened idle hheld

omit opened in
/-- A balance that was written outside of a transaction can be read. -/
theorem has_of_write {id : AccountId} {observed : Option Balance} {balance : Balance}
    (answered : (write b id observed balance s).1 = .ok ()) :
    b.Has (write b id observed balance s).2.medium id := by
  rw [write_apply, idle] at answered ⊢
  exact resumes.written hheld answered ⟨id, observed, balance⟩ (List.mem_singleton_self _)

/-- An account that was created is there. -/
theorem has_of_create {id : AccountId} {balance : Balance}
    (answered : (create b id balance s).1 = .ok ()) :
    b.Has (create b id balance s).2.medium id := by
  rw [create, ensureInitialized_bind opened] at answered ⊢
  obtain ⟨found, s', hpeek, hrest⟩ := Run.exists_of_bind_ok answered
  obtain rfl : s' = s := by
    rw [peek_of_idle idle, loaded_of_held resumes hheld] at hpeek
    exact (congrArg Prod.snd hpeek).symm
  rw [Run.bind_of_ok hpeek]
  cases found with
  | none => exact has_of_write resumes idle hheld hrest
  | some balance => cases hrest

/-- So is one that was credited. -/
theorem has_of_update {id : AccountId} {delta : Balance}
    (answered : (update b id delta s).1 = .ok ()) :
    b.Has (update b id delta s).2.medium id := by
  rw [update, ensureInitialized_bind opened] at answered ⊢
  obtain ⟨found, s', hobserve, hrest⟩ := Run.exists_of_bind_ok answered
  obtain rfl : s' = s := by
    rw [observe_of_idle idle, loaded_of_held resumes hheld] at hobserve
    exact (congrArg Prod.snd hobserve).symm
  rw [Run.bind_of_ok hobserve]
  cases found with
  | none =>
      dsimp only at hrest ⊢
      split at hrest
      · next hpositive =>
          rw [if_pos hpositive]
          exact has_of_write resumes idle hheld hrest
      · cases hrest
  | some balance =>
      dsimp only at hrest ⊢
      cases hsum : balance.add? delta with
      | none =>
          rw [hsum] at hrest
          cases hrest
      | some sum =>
          rw [hsum] at hrest
          dsimp only at hrest ⊢
          split at hrest
          · cases hrest
          · next hnonneg =>
              rw [if_neg hnonneg]
              exact has_of_write resumes idle hheld hrest

/-- Whether an account exists is asked of the medium alone. -/
theorem contains_of_idle (id : AccountId) :
    contains b id s = ((b.load id s.medium).1.map (·.isSome), s) := by
  have hpeek : peek b id s = ((b.load id s.medium).1.map (·.map (·.balance)), s) := by
    rw [peek_of_idle idle, loaded_of_held resumes hheld]
  rw [contains, ensureInitialized_bind opened]
  cases hload : (b.load id s.medium).1 with
  | error e =>
      rw [hload] at hpeek
      exact Run.bind_of_error hpeek
  | ok found =>
      rw [hload] at hpeek
      rw [Run.bind_of_ok hpeek]
      cases found <;> rfl

end

end Store

end Clearinghouse
