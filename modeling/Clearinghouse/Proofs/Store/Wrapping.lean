/-
# Media around other media

A medium may stand around another one and hand on the calls that it receives. A call may then
fail before it is handed on, and where it writes or lets go it may also be reported as failed
after it was carried out. What is known of the accounts of the medium inside is then known of
those of the medium around it.
-/

import Clearinghouse.Proofs.Store.Drafting
import Clearinghouse.Proofs.Store.Following

namespace Clearinghouse.Backend

variable {S T : Type} {outer : Backend T} {b : Backend S} {inner : T → S}

/-- A call was handed on, and answered and left the medium as the call inside did, or it failed
before that. -/
def HandedOn {α : Type} (inner : T → S) (m : T) (around : Except StoreError α × T)
    (inside : Except StoreError α × S) : Prop :=
  around.1 = inside.1 ∧ inner around.2 = inside.2 ∨
    (∃ e, around.1 = .error e) ∧ inner around.2 = inner m

/-- A medium around another one. -/
structure Wraps (outer : Backend T) (b : Backend S) (inner : T → S) : Prop where
  connect : ∀ m, inner (outer.connect m).2 = (b.connect (inner m)).2 ∨
    inner (outer.connect m).2 = inner m
  disconnect : ∀ m, inner (outer.disconnect m).2 = (b.disconnect (inner m)).2 ∨
    inner (outer.disconnect m).2 = inner m
  load : ∀ id m, HandedOn inner m (outer.load id m) (b.load id (inner m))
  loadAll : ∀ m, HandedOn inner m (outer.loadAll m) (b.loadAll (inner m))
  /-- A flush may be carried out and fail all the same. -/
  flush : ∀ changes m,
    HandedOn inner m (outer.flush changes m) (b.flush changes (inner m)) ∨
      (∃ e, (outer.flush changes m).1 = .error e) ∧ (b.flush changes (inner m)).1 = .ok () ∧
        inner (outer.flush changes m).2 = (b.flush changes (inner m)).2

section

variable {α : Type} {m : T} {around : Except StoreError α × T} {inside : Except StoreError α × S}

theorem HandedOn.state (handed : HandedOn inner m around inside) :
    inner around.2 = inside.2 ∨ inner around.2 = inner m :=
  handed.imp And.right And.right

/-- A call that answers was handed on. -/
theorem HandedOn.of_ok (handed : HandedOn inner m around inside) {a : α}
    (answered : around.1 = .ok a) : inside.1 = .ok a ∧ inner around.2 = inside.2 := by
  obtain ⟨hanswer, hstate⟩ | ⟨⟨e, hfailed⟩, -⟩ := handed
  · exact ⟨hanswer.symm.trans answered, hstate⟩
  · cases hfailed.symm.trans answered

/-- What the call inside keeps, the call around it keeps. -/
theorem HandedOn.kept {C : Type} (handed : HandedOn inner m around inside) {content : S → C}
    (kept : content inside.2 = content (inner m)) :
    content (inner around.2) = content (inner m) := by
  obtain hstate | hstate := handed.state
  · rw [hstate, kept]
  · rw [hstate]

end

namespace Wraps

variable (wraps : outer.Wraps b inner)
include wraps

theorem flush_state (changes : List Change) (m : T) :
    inner (outer.flush changes m).2 = (b.flush changes (inner m)).2 ∨
      inner (outer.flush changes m).2 = inner m := by
  obtain hhanded | ⟨-, -, hstate⟩ := wraps.flush changes m
  · exact hhanded.state
  · exact .inl hstate

/-- A flush that succeeds was carried out. -/
theorem flush_of_ok {changes : List Change} {m : T} (done : (outer.flush changes m).1 = .ok ()) :
    (b.flush changes (inner m)).1 = .ok () ∧
      inner (outer.flush changes m).2 = (b.flush changes (inner m)).2 := by
  obtain hhanded | ⟨⟨e, hfailed⟩, -⟩ := wraps.flush changes m
  · exact hhanded.of_ok done
  · cases hfailed.symm.trans done

/-- To read around a medium is to read the medium, or nothing. -/
theorem onlyRead {m m' : T} (read : outer.OnlyRead m m') : b.OnlyRead (inner m) (inner m') := by
  induction read with
  | refl => exact .refl
  | @tail mid last _ step ih =>
      obtain ⟨id, rfl⟩ := step
      obtain hstate | hstate := (wraps.load id mid).state
      · rw [hstate]
        exact ih.trans (b.onlyRead_load id (inner mid))
      · rwa [hstate]

/-- What is remembered from around a medium the medium itself told. -/
theorem recalls {m : T} {id : AccountId} {observed : Option Balance}
    (recalls : outer.Recalls m id observed) : b.Recalls (inner m) id observed := by
  obtain ⟨earlier, answer, hread, hload, hobserved⟩ := recalls
  exact ⟨inner earlier, answer, wraps.onlyRead hread, ((wraps.load id earlier).of_ok hload).1,
    hobserved⟩

/-- A medium around a candid one is candid if no flush fails that was carried out. -/
theorem candid {C : Type} {content : S → C} (candid : b.Candid content)
    (prompt : ∀ changes m, HandedOn inner m (outer.flush changes m) (b.flush changes (inner m))) :
    outer.Candid fun m => content (inner m) where
  load_content id m := (wraps.load id m).kept (candid.load_content id (inner m))
  flush_content {m changes e} failed whole := by
    obtain ⟨hanswer, hstate⟩ | ⟨-, hstate⟩ := prompt changes m
    · rw [hstate]
      exact candid.flush_content (hanswer.symm.trans failed) whole
    · rw [hstate]

theorem settles {total : S → AccountId → Int} (settles : b.Settles total) :
    outer.Settles fun m => total (inner m) where
  load_total id m := (wraps.load id m).kept (settles.load_total id (inner m))
  flush_total {m changes} ascending recalls id := by
    obtain hstate | hstate := wraps.flush_state changes m
    · rw [hstate]
      exact settles.flush_total ascending
        (fun change hmem => wraps.recalls (recalls change hmem)) id
    · rw [hstate]
      exact .inl rfl

theorem tells {holdings : S → Holdings} (tells : b.Tells holdings) :
    outer.Tells fun m => holdings (inner m) where
  load_holdings id m := (wraps.load id m).kept (tells.load_holdings id (inner m))
  load_answer {id m _} answered := tells.load_answer ((wraps.load id m).of_ok answered).1

theorem fulfils {holdings : S → Holdings} (fulfils : b.Fulfils holdings) :
    outer.Fulfils fun m => holdings (inner m) where
  load_content id m := (wraps.load id m).kept (fulfils.load_content id (inner m))
  loadAll_holdings m := (wraps.loadAll m).kept (fulfils.loadAll_holdings (inner m))
  load_found {m id account} answered := fulfils.load_found ((wraps.load id m).of_ok answered).1
  flush_done {m changes} ascending recalls done := by
    obtain ⟨hdone, hstate⟩ := wraps.flush_of_ok done
    rw [hstate]
    exact fulfils.flush_done ascending
      (fun change hmem => wraps.recalls (recalls change hmem)) hdone
  flush_failed {m changes e} ascending recalls failed whole := by
    have hrecalls : ∀ change ∈ changes, b.Recalls (inner m) change.id change.observed :=
      fun change hmem => wraps.recalls (recalls change hmem)
    obtain (⟨hanswer, hstate⟩ | ⟨-, hstate⟩) | ⟨-, hdone, hstate⟩ := wraps.flush changes m
    · rw [hstate]
      exact fulfils.flush_failed ascending hrecalls (hanswer.symm.trans failed) whole
    · exact .inl (congrArg holdings hstate)
    · rw [hstate]
      exact .inr (fulfils.flush_done ascending hrecalls hdone)

theorem follows {shows : S → Table → Prop} (follows : b.Follows shows) :
    outer.Follows fun m table => shows (inner m) table where
  connect {m table} hshows := by
    obtain hstate | hstate := wraps.connect m
    · rw [hstate]
      exact follows.connect hshows
    · rw [hstate]
      exact .inl hshows
  disconnect {m table} hshows := by
    obtain hstate | hstate := wraps.disconnect m
    · rw [hstate]
      exact follows.disconnect hshows
    · rw [hstate]
      exact .inl hshows
  load {m table} id hshows := by
    obtain hstate | hstate := (wraps.load id m).state
    · rw [hstate]
      exact follows.load id hshows
    · rwa [hstate]
  load_answer {m table id answer} hshows answered :=
    follows.load_answer hshows ((wraps.load id m).of_ok answered).1
  loadAll {m table} hshows := by
    obtain hstate | hstate := (wraps.loadAll m).state
    · rw [hstate]
      exact follows.loadAll hshows
    · rwa [hstate]
  loadAll_answer {m table listed} hshows answered :=
    follows.loadAll_answer hshows ((wraps.loadAll m).of_ok answered).1
  flush_done {m table changes} hshows admits answered := by
    obtain ⟨hdone, hstate⟩ := wraps.flush_of_ok answered
    rw [hstate]
    exact follows.flush_done hshows admits hdone
  flush_failed {m table changes e} hshows admits answered := by
    obtain (⟨hanswer, hstate⟩ | ⟨-, hstate⟩) | ⟨-, hdone, hstate⟩ := wraps.flush changes m
    · rw [hstate]
      exact follows.flush_failed hshows admits (hanswer.symm.trans answered)
    · rw [hstate]
      exact ⟨table, .untouched, hshows⟩
    · rw [hstate]
      exact ⟨_, .whole, follows.flush_done hshows admits hdone⟩

end Wraps

end Clearinghouse.Backend
