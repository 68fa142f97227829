/-
# What is asked of a medium

A store can be reasoned about without knowing its medium, as long as the medium
keeps one table of committed accounts: reading shows the table and leaves it
alone, and a flush writes all of its changes or none. Any call may fail. The
states in which a medium behaves so are called sound; which states these are is
the medium's own affair. A medium serves if, moreover, no call fails while it is
in such a state. Of a medium that may break off in the middle of a flush one can
still ask that it says so.
-/

import Clearinghouse.Proofs.Store.Overlay
import Mathlib.Logic.Relation

namespace Clearinghouse

/-- The failure says that changes landed in part. -/
def StoreError.IsPartialCommit (e : StoreError) : Prop :=
  ∃ medium applied total message, e = .partialCommit medium applied total message

theorem StoreError.not_isPartialCommit_medium (context message : String) :
    ¬ (StoreError.medium context message).IsPartialCommit := by
  rintro ⟨_, _, _, _, hpartial⟩
  cases hpartial

namespace Backend

variable {S : Type}

/-- Reading a sound medium shows one table. Whether or not the reading succeeds,
the medium stays sound and the table stays as it is. -/
structure Shows (b : Backend S) (sound : S → Prop) (table : S → Table) : Prop where
  load_sound : ∀ {m : S} (id : AccountId), sound m → sound (b.load id m).2
  load_table : ∀ {m : S} (id : AccountId), sound m → table (b.load id m).2 = table m
  load_answer : ∀ {m : S} {id : AccountId} {answer : Option Account}, sound m →
    (b.load id m).1 = .ok answer → answer = (table m).account? id
  loadAll_sound : ∀ {m : S}, sound m → sound (b.loadAll m).2
  loadAll_table : ∀ {m : S}, sound m → table (b.loadAll m).2 = table m
  /-- The accounts may be listed in any order. -/
  loadAll_answer : ∀ {m : S} {accounts : List Account}, sound m →
    (b.loadAll m).1 = .ok accounts →
    ∀ account : Account, account ∈ accounts ↔ (table m)[account.id]? = some account.balance

/-- A flush of admissible changes writes them all, or fails and leaves the table
as it is. -/
structure Books (b : Backend S) (sound : S → Prop) (table : S → Table) : Prop where
  flush_sound : ∀ {m : S} {changes : List Change}, sound m → (table m).Admits changes →
    sound (b.flush changes m).2
  flush_done : ∀ {m : S} {changes : List Change}, sound m → (table m).Admits changes →
    (b.flush changes m).1 = .ok () → table (b.flush changes m).2 = (table m).recordAll changes
  flush_failed : ∀ {m : S} {changes : List Change} {e : StoreError}, sound m →
    (table m).Admits changes → (b.flush changes m).1 = .error e →
    table (b.flush changes m).2 = table m

/-- A medium that keeps one table over its whole life. What it finds when it is
connected is the table of the session. -/
structure Keeps (b : Backend S) (sound : S → Prop) (table : S → Table) : Prop
    extends b.Shows sound table, b.Books sound table where
  connect_sound : ∀ {m : S}, sound m → sound (b.connect m).2
  disconnect_sound : ∀ {m : S}, sound m → sound (b.disconnect m).2

/-- A medium that keeps one table and does not fail. -/
structure Serves (b : Backend S) (sound : S → Prop) (table : S → Table) : Prop
    extends b.Shows sound table, b.Books sound table where
  load_answers : ∀ {m : S} (id : AccountId), sound m → ∃ answer, (b.load id m).1 = .ok answer
  flush_answers : ∀ {m : S} {changes : List Change}, sound m → (table m).Admits changes →
    (b.flush changes m).1 = .ok ()

theorem Serves.load_ne_error {b : Backend S} {sound : S → Prop} {table : S → Table}
    (serves : b.Serves sound table) {m : S} {e : StoreError} (id : AccountId) (ready : sound m) :
    (b.load id m).1 ≠ .error e := by
  intro hfailed
  obtain ⟨answer, hanswer⟩ := serves.load_answers id ready
  cases hanswer.symm.trans hfailed

/-- A medium that tells the truth about what it holds. Reading changes nothing,
and neither does a flush that fails without saying that it landed in part. -/
structure Candid {C : Type} (b : Backend S) (content : S → C) : Prop where
  load_content : ∀ (id : AccountId) (m : S), content (b.load id m).2 = content m
  flush_content : ∀ {m : S} {changes : List Change} {e : StoreError},
    (b.flush changes m).1 = .error e → ¬ e.IsPartialCommit →
      content (b.flush changes m).2 = content m

theorem Candid.map {C C' : Type} {b : Backend S} {content : S → C} (candid : b.Candid content)
    (part : C → C') : b.Candid fun m => part (content m) where
  load_content id m := congrArg part (candid.load_content id m)
  flush_content failed whole := congrArg part (candid.flush_content failed whole)

/-- A medium that was only looked at for accounts: none but reading calls lead
from one of its states to the other. -/
def OnlyRead (b : Backend S) : S → S → Prop :=
  Relation.ReflTransGen fun m m' => ∃ id, m' = (b.load id m).2

theorem onlyRead_load (b : Backend S) (id : AccountId) (m : S) : b.OnlyRead m (b.load id m).2 :=
  .single ⟨id, rfl⟩

/-- Whatever a load leaves alone, reading leaves alone. -/
theorem OnlyRead.eq_of_load {b : Backend S} {C : Type} {content : S → C}
    (kept : ∀ (id : AccountId) (m : S), content (b.load id m).2 = content m) {m m' : S}
    (read : b.OnlyRead m m') : content m' = content m := by
  induction read with
  | refl => rfl
  | tail _ hload ih =>
      obtain ⟨id, rfl⟩ := hload
      rw [kept, ih]

end Backend

end Clearinghouse
