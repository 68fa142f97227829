/-
# What a commit may do to what accounts hold

A commit may break off half way, so one cannot say which of its changes landed. One
can still ask that every account either holds what it held or has moved by exactly the
difference between what its change writes and what it was found to hold. For this to
make sense the changes must have been staged against something that the medium said,
with nothing but reading since; the entries of a transaction are. How far a transaction
would move an account is then a matter of its entries alone, and each operation moves it
by what the operation says, or not at all.
-/

import Clearinghouse.Proofs.Balances
import Clearinghouse.Proofs.Store.Transactions

namespace Clearinghouse

namespace Backend

variable {S : Type} {b : Backend S}

/-- What a load told of an account, where the medium was only read since. -/
def Recalls (b : Backend S) (m : S) (id : AccountId) (observed : Option Balance) : Prop :=
  ∃ earlier answer, b.OnlyRead earlier m ∧ (b.load id earlier).1 = .ok answer ∧
    observed = answer.map (·.balance)

theorem Recalls.later {m m' : S} {id : AccountId} {observed : Option Balance}
    (recalls : b.Recalls m id observed) (read : b.OnlyRead m m') : b.Recalls m' id observed := by
  obtain ⟨earlier, answer, hread, hload, hobserved⟩ := recalls
  exact ⟨earlier, answer, hread.trans read, hload, hobserved⟩

theorem recalls_load {m : S} {id : AccountId} {answer : Option Account}
    (answered : (b.load id m).1 = .ok answer) :
    b.Recalls (b.load id m).2 id (answer.map (·.balance)) :=
  ⟨m, answer, b.onlyRead_load id m, answered, rfl⟩

/-- A medium that moves accounts by the changes it is handed and in no other way,
however its calls end. `total` is what each account holds, where one that does not exist
holds nothing. -/
structure Settles (b : Backend S) (total : S → AccountId → Int) : Prop where
  load_total : ∀ (id : AccountId) (m : S), total (b.load id m).2 = total m
  flush_total : ∀ {m : S} {changes : List Change},
    (changes.Pairwise fun first later => first.id < later.id) →
    (∀ change ∈ changes, b.Recalls m change.id change.observed) → ∀ id : AccountId,
      total (b.flush changes m).2 id = total m id ∨
        ∃ change ∈ changes, change.id = id ∧
          total (b.flush changes m).2 id = total m id + change.delta

/-- A medium that shows what its accounts hold, and whose flush puts the balance of a
change in the place of what was there or leaves it. -/
theorem Settles.of_writes {total : S → AccountId → Int}
    (load_total : ∀ (id : AccountId) (m : S), total (b.load id m).2 = total m)
    (load_answer : ∀ {id : AccountId} {m : S} {answer : Option Account},
      (b.load id m).1 = .ok answer →
      total m id = (answer.map fun account => account.balance.toInt).getD 0)
    (flush_writes : ∀ (m : S) (changes : List Change) (id : AccountId),
      total (b.flush changes m).2 id = total m id ∨
        ∃ change ∈ changes, change.id = id ∧
          total (b.flush changes m).2 id = change.balance.toInt) :
    b.Settles total where
  load_total := load_total
  flush_total {m changes} _ recalls id := by
    obtain hkept | ⟨change, hmem, hid, hwritten⟩ := flush_writes m changes id
    · exact .inl hkept
    · refine .inr ⟨change, hmem, hid, ?_⟩
      obtain ⟨earlier, answer, hread, hload, hobserved⟩ := recalls change hmem
      have hbase : total m id = change.base := by
        rw [hread.eq_of_load load_total, ← hid, load_answer hload, Change.base, hobserved]
        cases answer <;> rfl
      rw [hwritten, hbase, Change.delta]
      omega

end Backend

namespace Store

variable {S : Type} {b : Backend S}

/-- How far the open transaction would move an account. -/
def pending (s : Store S) (id : AccountId) : Int :=
  match s.staged? id with
  | some entry => (Change.mk id entry.observed entry.balance).delta
  | none => 0

/-- Every entry of the transaction remembers what the medium told of its account. -/
def Recalled (b : Backend S) (s : Store S) : Prop :=
  ∀ {id : AccountId} {entry : Staged}, s.staged? id = some entry →
    b.Recalls s.medium id entry.observed

/-- Within its transaction a store came to move accounts by that much more. -/
structure Drifts (b : Backend S) (s : Store S) (moved : AccountId → Int) (s' : Store S) : Prop
    extends Within b s s' where
  recalled : s'.Recalled b
  pending : ∀ id, s'.pending id = s.pending id + moved id

/-- A movement of one account. -/
def movedOne (id : AccountId) (delta : Int) : AccountId → Int := fun other =>
  if id = other then delta else 0

/-- What observing an account told, and what was staged of it thereby. -/
inductive Observed (b : Backend S) (s : Store S) (id : AccountId) : Option Balance → Prop
  | absent (unstaged : s.staged? id = none) (recalls : b.Recalls s.medium id none) :
      Observed b s id none
  | present {entry : Staged} (staged : s.staged? id = some entry) :
      Observed b s id (some entry.balance)

variable {s s' s'' : Store S} {id : AccountId} {moved further : AccountId → Int}

theorem Drifts.refl (recalled : s.Recalled b) : Drifts b s (fun _ => 0) s where
  toWithin := Std.Refl.refl s
  recalled := recalled
  pending _ := (Int.add_zero _).symm

theorem Drifts.trans (first : Drifts b s moved s') (second : Drifts b s' further s'') :
    Drifts b s (fun id => moved id + further id) s'' where
  toWithin := IsTrans.trans _ _ _ first.toWithin second.toWithin
  recalled := second.recalled
  pending id := by rw [second.pending, first.pending, Int.add_assoc]

/-- Reading first moves nothing. -/
theorem Drifts.of_still (first : Drifts b s (fun _ => 0) s') (second : Drifts b s' further s'') :
    Drifts b s further s'' where
  toWithin := (first.trans second).toWithin
  recalled := second.recalled
  pending id := by rw [(first.trans second).pending, Int.zero_add]

theorem Drifts.loaded (recalled : s.Recalled b) (id : AccountId) :
    Drifts b s (fun _ => 0) (loaded b id s) where
  toWithin := (loaded_reads id s).toWithin
  recalled := fun hstaged => (recalled hstaged).later (b.onlyRead_load id s.medium)
  pending _ := (Int.add_zero _).symm

/-- Copying what the medium told moves nothing. -/
theorem Drifts.copied (recalled : s.Recalled b) (unstaged : s.staged? id = none)
    {balance : Balance} (recalls : b.Recalls s.medium id (some balance)) :
    Drifts b s (fun _ => 0) (copied id balance s) := by
  obtain ⟨medium, initialized, staging⟩ := s
  cases staging with
  | none => exact .refl recalled
  | some staging =>
      have hstaged : ∀ other, (Store.copied id balance
          ⟨medium, initialized, some staging⟩).staged? other =
          if id = other then some ⟨some balance, balance, false⟩ else staging[other]? :=
        staged?_insert medium initialized staging id _
      refine ⟨(copied_reads unstaged balance).toWithin, fun {other entry} hentry => ?_,
        fun other => ?_⟩
      · rw [hstaged] at hentry
        split at hentry
        · next hid =>
            cases hentry
            exact hid ▸ recalls
        · exact recalled hentry
      · rw [Int.add_zero, Store.pending, hstaged, Store.pending]
        by_cases hid : id = other
        · subst hid
          rw [if_pos rfl, unstaged]
          exact Int.sub_self _
        · rw [if_neg hid]
          rfl

/-- Observing an account moves nothing, and tells what the transaction holds of it. -/
theorem observe_drifts (transaction : s.inTransaction = true) (recalled : s.Recalled b)
    (id : AccountId) :
    Drifts b s (fun _ => 0) (observe b id s).2 ∧
      ∀ found, (observe b id s).1 = .ok found → Observed b (observe b id s).2 id found := by
  rw [observe_apply]
  cases hstaged : s.staged? id with
  | some entry =>
      refine ⟨.refl recalled, ?_⟩
      rintro _ ⟨rfl⟩
      exact .present hstaged
  | none =>
      have hloaded := Drifts.loaded recalled id
      have hunstaged : (loaded b id s).staged? id = none := hstaged
      dsimp only
      cases hanswer : (b.load id s.medium).1 with
      | error e => exact ⟨hloaded, nofun⟩
      | ok answer =>
          have hrecalls := Backend.recalls_load hanswer
          cases answer with
          | none =>
              refine ⟨hloaded, ?_⟩
              rintro _ ⟨rfl⟩
              exact .absent hunstaged hrecalls
          | some account =>
              refine ⟨hloaded.of_still (.copied hloaded.recalled hunstaged hrecalls), ?_⟩
              rintro _ ⟨rfl⟩
              have hopened : (loaded b id s).inTransaction = true := transaction
              obtain ⟨staging, hstaging⟩ := Option.isSome_iff_exists.mp hopened
              have hcopied : (copied id account.balance (loaded b id s)).staged? id =
                  some ⟨some account.balance, account.balance, false⟩ := by
                simp [copied, staged?, hstaging]
              exact .present hcopied

/-- Inside a transaction writing a balance moves the account by the difference from what
was observed. -/
theorem write_drifts (transaction : s.inTransaction = true) (recalled : s.Recalled b)
    {found : Option Balance} (observed : Observed b s id found) {balance : Balance} {delta : Int}
    (moves : balance.toInt = (found.map (·.toInt)).getD 0 + delta) :
    ∃ s', write b id found balance s = (.ok (), s') ∧ Drifts b s (movedOne id delta) s' := by
  obtain ⟨staging, hstaging⟩ := Option.isSome_iff_exists.mp transaction
  rw [write, Run.get_bind_apply]
  simp only [hstaging, Run.modify_apply, Staging.write_eq_insert]
  have hentry := staged?_of_staging hstaging
  have hwritten : ∀ (written : Staged) (other : AccountId),
      (Store.mk s.medium s.initialized (some (staging.insert id written))).staged? other =
        if id = other then some written else s.staged? other := by
    intro written other
    rw [staged?_insert, hentry]
  refine ⟨_, rfl, ⟨.refl, rfl, transaction.symm⟩, fun {other entry} hstaged => ?_, fun other => ?_⟩
  · rw [hwritten] at hstaged
    split at hstaged
    · next hid =>
        cases hstaged
        subst hid
        rw [← hentry]
        cases observed with
        | absent unstaged recalls =>
            rw [unstaged]
            exact recalls
        | present staged =>
            have hrecalls := recalled staged
            rw [staged]
            exact hrecalls
    · exact recalled hstaged
  · rw [pending, hwritten, movedOne, pending]
    by_cases hid : id = other
    · subst hid
      rw [if_pos rfl, if_pos rfl, ← hentry]
      cases observed with
      | absent unstaged _ =>
          rw [unstaged]
          simp only [Option.map_none, Option.getD_none, Int.zero_add] at moves ⊢
          simp [Change.delta, Change.base, moves]
      | @present entry staged =>
          rw [staged]
          simp only [Option.map_some, Option.getD_some, Change.delta] at moves ⊢
          rw [moves]
          simp only [Change.base]
          omega
    · rw [if_neg hid, if_neg hid, Int.add_zero]

/-- Inside a transaction an update moves its account, or fails and moves nothing. -/
theorem update_drifts (opened : s.initialized = true) (transaction : s.inTransaction = true)
    (recalled : s.Recalled b) (id : AccountId) (delta : Balance) :
    (∃ e s', update b id delta s = (.error e, s') ∧ Drifts b s (fun _ => 0) s') ∨
      ∃ s', update b id delta s = (.ok (), s') ∧ Drifts b s (movedOne id delta.toInt) s' := by
  obtain ⟨hstill, hfound⟩ := observe_drifts transaction recalled id
  obtain ⟨e, hrun⟩ | ⟨found, balance, hanswer, hrun, -, hexact, -⟩ :=
    update_cases (b := b) opened id delta
  · exact .inl ⟨e, _, hrun, hstill⟩
  · obtain ⟨s', hwrite, hdrifts⟩ := write_drifts (hstill.inTransaction.trans transaction)
      hstill.recalled (hfound found hanswer) hexact
    exact .inr ⟨s', hrun.trans hwrite, hstill.of_still hdrifts⟩

/-- A transaction that has just begun moves nothing. -/
theorem begun_recalled (s : Store S) : (begun s).Recalled b := by
  intro id entry hstaged
  simp [begun, staged?] at hstaged

theorem pending_begun (s : Store S) (id : AccountId) : (begun s).pending id = 0 := by
  simp [pending, begun, staged?]

/-- A commit moves an account by what the transaction comes to, or leaves it. -/
theorem commit_total {total : S → AccountId → Int} (settles : b.Settles total)
    (opened : s.initialized = true) (recalled : s.Recalled b) (id : AccountId) :
    total (commit b s).2.medium id = total s.medium id ∨
      total (commit b s).2.medium id = total s.medium id + s.pending id := by
  cases hstaging : s.staging with
  | none =>
      rw [commit_of_idle opened hstaging]
      exact .inl rfl
  | some staging =>
      have hentry := staged?_of_staging hstaging
      rw [commit_of_staging opened hstaging]
      split
      · exact .inl rfl
      · have hrecalls : ∀ change ∈ staging.changes,
            b.Recalls s.medium change.id change.observed := by
          intro change hmem
          obtain ⟨entry, hfound, -, heq⟩ := Staging.mem_changes.mp hmem
          have hrecalls := recalled ((hentry change.id).trans hfound)
          rwa [heq]
        obtain hkept | ⟨change, hmem, rfl, hmoved⟩ :=
          settles.flush_total staging.changes_ascending hrecalls id
        · exact .inl hkept
        · obtain ⟨entry, hfound, -, heq⟩ := Staging.mem_changes.mp hmem
          have hpending : s.pending change.id = change.delta := by
            rw [pending, hentry, hfound]
            exact congrArg Change.delta heq.symm
          rw [hpending]
          exact .inr hmoved

end Store

end Clearinghouse
