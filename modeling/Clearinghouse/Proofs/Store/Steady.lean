/-
# Media that are not changed by being asked

While a medium is calm, asking it for accounts leaves it as it is, and whatever else is done
to it, it stays calm. Every medium but a ledger is of this kind, as long as it was not told to
fail.
-/

import Clearinghouse.Proofs.Store.Calls

namespace Clearinghouse

namespace Run

variable {ε S α : Type} {calm : S → Prop}

/-- A state of some kind is left as it is. -/
def Untouched (calm : S → Prop) (s s' : S) : Prop := calm s → s' = s

instance (calm : S → Prop) : IsPreorder S (Untouched calm) where
  refl _ _ := rfl
  trans s s' s'' first second hcalm := by
    obtain rfl : s' = s := first hcalm
    exact second hcalm

theorem Along.untouched {act : ExceptT ε (StateM S) α} (kept : Along (Kept id) act) :
    Along (Untouched calm) act := fun s _ => kept s

theorem Along.preserved {act : ExceptT ε (StateM S) α} (untouched : Along (Untouched calm) act) :
    Along (Preserved calm) act := fun s hcalm => (untouched s hcalm).symm ▸ hcalm

end Run

namespace Backend

variable {S : Type} {b : Backend S} {calm : S → Prop}

/-- As long as a medium is calm, asking it for accounts leaves it as it is, and it stays
calm. -/
structure Steady (b : Backend S) (calm : S → Prop) : Prop where
  connect : Run.Along (Run.Preserved calm) b.connect
  disconnect : Run.Along (Run.Preserved calm) b.disconnect
  load : ∀ id, Run.Along (Run.Untouched calm) (b.load id)
  loadAll : Run.Along (Run.Untouched calm) b.loadAll
  flush : ∀ changes, Run.Along (Run.Preserved calm) (b.flush changes)

/-- A medium that is never changed by being asked. -/
theorem steady_of_kept (load : ∀ account, Run.Along (Run.Kept id) (b.load account))
    (loadAll : Run.Along (Run.Kept id) b.loadAll) : b.Steady fun _ => True where
  connect _ _ := trivial
  disconnect _ _ := trivial
  load account := (load account).untouched
  loadAll := loadAll.untouched
  flush _ _ _ := trivial

theorem Steady.parallels (steady : b.Steady calm) :
    b.Parallels b fun m m' => m = m' ∧ calm m := by
  have hself : ∀ {α : Type} {act : Step S α}, Run.Along (Run.Preserved calm) act →
      Run.Parallel (fun m m' => m = m' ∧ calm m) act act := by
    intro α act preserved
    refine Run.Parallel.intro fun {m m'} same => ?_
    obtain ⟨rfl, hcalm⟩ := same
    exact ⟨rfl, rfl, preserved m hcalm⟩
  exact
    { connect := hself steady.connect
      disconnect := hself steady.disconnect
      load := fun id => hself (steady.load id).preserved
      loadAll := fun same => ((hself steady.loadAll.preserved).agrees same trivial).2
      flush := fun changes => hself (steady.flush changes) }

end Backend

end Clearinghouse
