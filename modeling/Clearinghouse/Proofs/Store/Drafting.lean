/-
# The open transaction as a draft

A transaction can be read as a draft of what accounts hold once it is committed. Every staged
account moves by the difference between what is staged and what the medium told of it, over
exact integers, and no other account is touched. An update moves one account in the draft, or
fails and leaves the draft as it was. A medium that carries out what it is handed turns the
draft into what its accounts hold, though it may report that as a failure.
-/

import Clearinghouse.Proofs.Batch.Holdings
import Clearinghouse.Proofs.Store.Mirroring
import Clearinghouse.Proofs.Store.Settling

namespace Clearinghouse

/-- Where changes are recorded one after the other, each in an account of its own, the
accounts that they name hold what they write, and no other is touched. -/
theorem Change.foldl_writes {M : Type} {record : M → Change → M} (holdings : M → Holdings)
    (holdings_record : ∀ m change id, holdings (record m change) id =
      if change.id = id then some change.balance.toInt else holdings m id)
    (m : M) {changes : List Change}
    (ascending : changes.Pairwise fun first later => first.id < later.id) (id : AccountId) :
    (∀ change ∈ changes, change.id = id →
      holdings (changes.foldl record m) id = some change.balance.toInt) ∧
    ((∀ change ∈ changes, change.id ≠ id) →
      holdings (changes.foldl record m) id = holdings m id) := by
  induction changes generalizing m with
  | nil => exact ⟨nofun, fun _ => rfl⟩
  | cons first rest ih =>
      obtain ⟨hfirst, hrest⟩ := List.pairwise_cons.mp ascending
      obtain ⟨hnamed, hothers⟩ := ih (record m first) hrest
      rw [List.foldl_cons]
      refine ⟨fun change hmem hid => ?_, fun habsent => ?_⟩
      · rcases List.mem_cons.mp hmem with rfl | hlater
        · rw [hothers fun later hlater hsame =>
            UInt64.ne_of_lt (hfirst later hlater) (hid.trans hsame.symm), holdings_record,
            if_pos hid]
        · exact hnamed change hlater hid
      · rw [hothers fun change hmem => habsent change (List.mem_cons_of_mem first hmem),
          holdings_record, if_neg (habsent first List.mem_cons_self)]

/-- Every account that is named by a change has moved by what the change says, and is there; no
other account was touched. -/
def Holdings.MovedBy (h : Holdings) (changes : List Change) (h' : Holdings) : Prop :=
  ∀ id, (∀ change ∈ changes, change.id = id → h' id = some (h.total id + change.delta)) ∧
    ((∀ change ∈ changes, change.id ≠ id) → h' id = h id)

namespace Backend

variable {S : Type} {b : Backend S} {holdings : S → Holdings}

/-- A medium that tells what its accounts hold, whenever a load succeeds. No load changes what
an account holds, and any of them may fail. -/
structure Tells (b : Backend S) (holdings : S → Holdings) : Prop where
  load_holdings : ∀ (id : AccountId) (m : S), holdings (b.load id m).2 = holdings m
  load_answer : ∀ {id m answer}, (b.load id m).1 = .ok answer →
    holdings m id = answer.map (·.balance.toInt)

/-- A medium that carries out what it is handed. A flush that succeeds moves the accounts by its
changes; one that fails without word of a partial commit has moved them all the same or changed
nothing. -/
structure Fulfils (b : Backend S) (holdings : S → Holdings) : Prop where
  load_content : ∀ (id : AccountId) (m : S), holdings (b.load id m).2 = holdings m
  loadAll_holdings : Run.Along (Run.Kept holdings) b.loadAll
  load_found : ∀ {m id account}, (b.load id m).1 = .ok (some account) → (holdings m id).isSome
  flush_done : ∀ {m changes}, (changes.Pairwise fun first later => first.id < later.id) →
    (∀ change ∈ changes, b.Recalls m change.id change.observed) →
    (b.flush changes m).1 = .ok () → (holdings m).MovedBy changes (holdings (b.flush changes m).2)
  flush_failed : ∀ {m changes e}, (changes.Pairwise fun first later => first.id < later.id) →
    (∀ change ∈ changes, b.Recalls m change.id change.observed) →
    (b.flush changes m).1 = .error e → ¬ e.IsPartialCommit →
    holdings (b.flush changes m).2 = holdings m ∨
      (holdings m).MovedBy changes (holdings (b.flush changes m).2)

/-- A medium that shows what its accounts hold, and whose flush puts the balances of the
changes in the place of what was there. -/
theorem Fulfils.of_writes (tells : b.Tells holdings) (candid : b.Candid holdings)
    (loadAll_holdings : Run.Along (Run.Kept holdings) b.loadAll)
    (flush_writes : ∀ {m changes}, (changes.Pairwise fun first later => first.id < later.id) →
      (b.flush changes m).1 = .ok () → ∀ id,
        (∀ change ∈ changes, change.id = id →
          holdings (b.flush changes m).2 id = some change.balance.toInt) ∧
        ((∀ change ∈ changes, change.id ≠ id) →
          holdings (b.flush changes m).2 id = holdings m id)) : b.Fulfils holdings where
  load_content := tells.load_holdings
  loadAll_holdings := loadAll_holdings
  load_found answered := by rw [tells.load_answer answered]; rfl
  flush_failed _ _ failed whole := .inl (candid.flush_content failed whole)
  flush_done {m changes} ascending recalls done id := by
    obtain ⟨hnamed, hothers⟩ := flush_writes ascending done id
    refine ⟨fun change hmem hid => ?_, hothers⟩
    obtain ⟨earlier, answer, hread, hload, hobserved⟩ := recalls change hmem
    have hbase : (holdings m).total id = change.base := by
      rw [Holdings.total, hread.eq_of_load tells.load_holdings, ← hid, tells.load_answer hload,
        Change.base, hobserved]
      cases answer <;> rfl
    rw [hnamed change hmem hid, hbase, Change.delta]
    congr 1
    omega

/-- An account that the medium told of is there. -/
theorem Fulfils.isSome_of_recalls (fulfils : b.Fulfils holdings) {m : S} {id : AccountId}
    {balance : Balance} (recalls : b.Recalls m id (some balance)) : (holdings m id).isSome := by
  obtain ⟨earlier, answer, hread, hload, hobserved⟩ := recalls
  obtain ⟨account, rfl, -⟩ := Option.map_eq_some_iff.mp hobserved.symm
  rw [hread.eq_of_load fulfils.load_content]
  exact fulfils.load_found hload

end Backend

namespace Store

variable {S : Type} {b : Backend S} {holdings : S → Holdings}

/-- What accounts hold once the transaction is committed, if they hold `h` before. -/
def draft (s : Store S) (h : Holdings) : Holdings := fun id =>
  match s.staged? id with
  | some entry => some (h.total id + (Change.mk id entry.observed entry.balance).delta)
  | none => h id

/-- Every entry of the transaction remembers what the medium told of its account, and an
entry that was only read still has it. -/
structure Sincere (b : Backend S) (s : Store S) : Prop where
  recalled : s.Recalled b
  unwritten : ∀ {id : AccountId} {entry : Staged}, s.staged? id = some entry →
    entry.written = false → entry.observed = some entry.balance

/-- Within its transaction a store came to another draft. -/
structure Drafts (b : Backend S) (h : Holdings) (s : Store S) (drafted : Holdings)
    (s' : Store S) : Prop extends Within b s s' where
  sincere : s'.Sincere b
  draft : s'.draft h = drafted

variable {h drafted further : Holdings} {s s' s'' : Store S} {id : AccountId}

theorem Drafts.refl (sincere : s.Sincere b) : Drafts b h s (s.draft h) s where
  toWithin := Std.Refl.refl s
  sincere := sincere
  draft := rfl

theorem Drafts.trans (first : Drafts b h s drafted s') (second : Drafts b h s' further s'') :
    Drafts b h s further s'' where
  toWithin := IsTrans.trans _ _ _ first.toWithin second.toWithin
  sincere := second.sincere
  draft := second.draft

theorem Drafts.base (drafts : Drafts b h s drafted s') (fulfils : b.Fulfils holdings)
    (base : holdings s.medium = h) : holdings s'.medium = h :=
  (drafts.read.eq_of_load fulfils.load_content).trans base

/-- A transaction that has just begun drafts what is there. -/
theorem begun_sincere (s : Store S) : (begun s).Sincere b where
  recalled := begun_recalled s
  unwritten hstaged := by simp [begun, staged?] at hstaged

theorem draft_of_unstaged (unstaged : s.staged? id = none) : s.draft h id = h id := by
  rw [Store.draft, unstaged]

theorem draft_of_staged {entry : Staged} (staged : s.staged? id = some entry) :
    s.draft h id = some (h.total id + (Change.mk id entry.observed entry.balance).delta) := by
  rw [Store.draft, staged]

theorem draft_begun (s : Store S) : (begun s).draft h = h := by
  funext id
  apply draft_of_unstaged
  simp [begun, staged?]

/-- An entry that is entered in the transaction redrafts its own account. -/
theorem insert_drafts (entry : Staged) (sincere : s.Sincere b) {staging : Staging}
    (staged : s.staging = some staging) (recalls : b.Recalls s.medium id entry.observed)
    (unwritten : entry.written = false → entry.observed = some entry.balance) :
    Drafts b h s
      (fun other => if id = other then
          some (h.total id + (Change.mk id entry.observed entry.balance).delta)
        else s.draft h other)
      { s with staging := some (staging.insert id entry) } := by
  have hentry : ∀ other, ({ s with staging := some (staging.insert id entry) } : Store S).staged?
      other = if id = other then some entry else s.staged? other := by
    intro other
    rw [staged?_insert, staged?_of_staging staged]
  have htransaction : s.inTransaction = true := by rw [inTransaction, staged]; rfl
  refine ⟨⟨.refl, rfl, htransaction.symm⟩, ⟨fun {other found} hfound => ?_,
    fun {other found} hfound => ?_⟩, funext fun other => ?_⟩
  · rw [hentry] at hfound
    split at hfound
    · next hid =>
        cases hfound
        exact hid ▸ recalls
    · exact sincere.recalled hfound
  · rw [hentry] at hfound
    split at hfound
    · cases hfound
      exact unwritten
    · exact sincere.unwritten hfound
  · rw [Store.draft, hentry]
    by_cases hid : id = other
    · rw [if_pos hid, if_pos hid, hid]
    · rw [if_neg hid, if_neg hid, Store.draft]

theorem Drafts.loaded (sincere : s.Sincere b) (id : AccountId) :
    Drafts b h s (s.draft h) (loaded b id s) where
  toWithin := (loaded_reads id s).toWithin
  sincere :=
    { recalled := fun hstaged => (sincere.recalled hstaged).later (b.onlyRead_load id s.medium)
      unwritten := fun hstaged => sincere.unwritten hstaged }
  draft := rfl

section

variable (fulfils : b.Fulfils holdings) (sincere : s.Sincere b) (base : holdings s.medium = h)
include fulfils sincere base

/-- Copying what the medium told redrafts nothing. -/
theorem Drafts.copied (unstaged : s.staged? id = none) {balance : Balance}
    (recalls : b.Recalls s.medium id (some balance)) :
    Drafts b h s (s.draft h) (copied id balance s) := by
  have hthere := fulfils.isSome_of_recalls recalls
  rw [base] at hthere
  obtain ⟨medium, initialized, staging⟩ := s
  cases staging with
  | none => exact .refl sincere
  | some staging =>
      have hdrafts := insert_drafts ⟨some balance, balance, false⟩ (h := h) sincere rfl recalls
        fun _ => rfl
      refine ⟨hdrafts.toWithin, hdrafts.sincere, hdrafts.draft.trans (funext fun other => ?_)⟩
      split
      · next hid =>
          subst hid
          obtain ⟨n, hn⟩ := Option.isSome_iff_exists.mp hthere
          rw [draft_of_unstaged unstaged, Holdings.total, hn]
          simp [Change.delta, Change.base]
      · rfl

/-- Observing an account redrafts nothing. -/
theorem observe_drafts (id : AccountId) : Drafts b h s (s.draft h) (observe b id s).2 := by
  rw [observe_apply]
  cases hstaged : s.staged? id with
  | some entry => exact .refl sincere
  | none =>
      have hloaded : Drafts b h s (s.draft h) (Store.loaded b id s) := .loaded sincere id
      dsimp only
      cases hanswer : (b.load id s.medium).1 with
      | error e => exact hloaded
      | ok found =>
          cases found with
          | none => exact hloaded
          | some account =>
              exact hloaded.trans (.copied fulfils hloaded.sincere
                (hloaded.base fulfils base) hstaged (Backend.recalls_load hanswer))

omit fulfils base in
/-- Inside a transaction writing a balance moves the account in the draft. -/
theorem write_drafts (transaction : s.inTransaction = true) {found : Option Balance}
    (observed : Observed b s id found) {balance : Balance} {delta : Int}
    (moves : balance.toInt = (found.map (·.toInt)).getD 0 + delta) :
    ∃ s', write b id found balance s = (.ok (), s') ∧
      Drafts b h s ((s.draft h).move id delta) s' := by
  obtain ⟨staging, hstaging⟩ := Option.isSome_iff_exists.mp transaction
  have hentry := staged?_of_staging hstaging
  have hrecalls : b.Recalls s.medium id ((staging[id]?.map (·.observed)).getD found) := by
    rw [← hentry]
    cases observed with
    | absent unstaged recalls => rwa [unstaged]
    | present staged =>
        rw [staged]
        exact sincere.recalled staged
  have hdrafts := insert_drafts ⟨(staging[id]?.map (·.observed)).getD found, balance, true⟩
    (h := h) sincere hstaging hrecalls fun hunwritten => by cases hunwritten
  rw [write_apply, hstaging]
  simp only [Staging.write_eq_insert]
  refine ⟨_, rfl, hdrafts.toWithin, hdrafts.sincere, hdrafts.draft.trans (funext fun other => ?_)⟩
  rw [Holdings.move]
  by_cases hid : id = other
  · rw [if_pos hid, if_pos hid, ← hentry]
    congr 1
    cases observed with
    | absent unstaged _ =>
        have htotal : (s.draft h).total id = h.total id := by
          rw [Holdings.total, draft_of_unstaged unstaged, Holdings.total]
        rw [htotal, unstaged]
        simp only [Option.map_none, Option.getD_none, Int.zero_add] at moves ⊢
        simp [Change.delta, Change.base, moves]
    | @present entry staged =>
        have htotal : (s.draft h).total id =
            h.total id + (Change.mk id entry.observed entry.balance).delta := by
          rw [Holdings.total, draft_of_staged staged, Option.getD_some]
        rw [htotal, staged]
        simp only [Option.map_some, Option.getD_some, Change.delta] at moves ⊢
        rw [moves]
        simp only [Change.base]
        omega
  · rw [if_neg hid, if_neg hid]

/-- Inside a transaction an update moves its account in the draft, or fails and redrafts
nothing. Only a positive movement brings an account into being. -/
theorem update_drafts (opened : s.initialized = true) (transaction : s.inTransaction = true)
    (id : AccountId) (delta : Balance) :
    (∃ e s', update b id delta s = (.error e, s') ∧ Drafts b h s (s.draft h) s') ∨
      ∃ s', update b id delta s = (.ok (), s') ∧
        Drafts b h s ((s.draft h).move id delta.toInt) s' ∧
        (0 < delta ∨ (s.draft h id).isSome) := by
  have hstill := observe_drafts fulfils sincere base id
  obtain ⟨-, hfound⟩ := observe_drifts transaction sincere.recalled id
  obtain ⟨e, hrun⟩ | ⟨found, balance, hanswer, hrun, -, hexact, hcredit⟩ :=
    update_cases (b := b) opened id delta
  · exact .inl ⟨e, _, hrun, hstill⟩
  · have hobserved := hfound found hanswer
    obtain ⟨s', hwrite, hdrafts⟩ := write_drafts hstill.sincere
      (hstill.inTransaction.trans transaction) hobserved hexact
    rw [hstill.draft] at hdrafts
    refine .inr ⟨s', hrun.trans hwrite, hstill.trans hdrafts, ?_⟩
    cases hobserved with
    | absent => exact .inl (hcredit rfl)
    | present staged =>
        rw [← hstill.draft, draft_of_staged staged]
        exact .inr rfl

/-- Once its changes are carried out a transaction has become what the accounts hold. -/
theorem draft_of_movedBy {staging : Staging} (staged : s.staging = some staging)
    (moved : h.MovedBy staging.changes further) : further = s.draft h := by
  have hentry := staged?_of_staging staged
  funext id
  obtain ⟨hnamed, hothers⟩ := moved id
  cases hstaged : s.staged? id with
  | none =>
      rw [draft_of_unstaged hstaged]
      refine hothers fun change hmem hid => ?_
      obtain ⟨entry, hfound, -⟩ := Staging.mem_changes.mp hmem
      rw [← hentry, hid, hstaged] at hfound
      cases hfound
  | some entry =>
      rw [draft_of_staged hstaged]
      cases hwritten : entry.written with
      | true =>
          have hmem : ⟨id, entry.observed, entry.balance⟩ ∈ staging.changes :=
            Staging.mem_changes.mpr ⟨entry, (hentry id).symm.trans hstaged, hwritten, rfl⟩
          exact hnamed _ hmem rfl
      | false =>
          -- The account was only read, so no change names it.
          have habsent : ∀ change ∈ staging.changes, change.id ≠ id := by
            rintro change hmem rfl
            obtain ⟨other, hfound, hchanged, -⟩ := Staging.mem_changes.mp hmem
            rw [← hentry, hstaged] at hfound
            cases hfound
            cases hwritten.symm.trans hchanged
          have hread := sincere.unwritten hstaged hwritten
          have hrecalled := sincere.recalled hstaged
          rw [hread] at hrecalled
          have hthere := fulfils.isSome_of_recalls hrecalled
          rw [base] at hthere
          obtain ⟨n, hn⟩ := Option.isSome_iff_exists.mp hthere
          rw [hothers habsent, hn, Holdings.total, hn, hread]
          simp [Change.delta, Change.base]

/-- A commit that succeeds turns the draft into what the accounts hold. One that fails without
word of a partial commit may have done so as well, or it changed nothing. -/
theorem commit_fulfils (opened : s.initialized = true) :
    match (commit b s).1 with
    | .ok () => holdings (commit b s).2.medium = s.draft h
    | .error e => ¬ e.IsPartialCommit →
      holdings (commit b s).2.medium = h ∨ holdings (commit b s).2.medium = s.draft h := by
  cases hstaging : s.staging with
  | none =>
      rw [commit_of_idle opened hstaging]
      refine base.trans (funext fun id => ?_)
      exact (draft_of_unstaged (by simp [staged?, hstaging])).symm
  | some staging =>
      have hdraft : ∀ {h' : Holdings}, h.MovedBy staging.changes h' → h' = s.draft h :=
        draft_of_movedBy fulfils sincere base hstaging
      have hrecalls : ∀ change ∈ staging.changes, b.Recalls s.medium change.id change.observed := by
        intro change hmem
        obtain ⟨entry, hfound, -, heq⟩ := Staging.mem_changes.mp hmem
        have hrecalls := sincere.recalled ((staged?_of_staging hstaging change.id).trans hfound)
        rwa [heq]
      rw [commit_of_staging opened hstaging]
      by_cases hnothing : staging.changes = []
      · rw [if_pos hnothing]
        refine base.trans (hdraft fun id => ⟨fun change hmem => ?_, fun _ => rfl⟩)
        simp [hnothing] at hmem
      · rw [if_neg hnothing, onMedium, Run.onPart_apply, show (dropped s).medium = s.medium from rfl]
        subst base
        dsimp only
        cases hanswer : (b.flush staging.changes s.medium).1 with
        | ok => exact hdraft (fulfils.flush_done staging.changes_ascending hrecalls hanswer)
        | error e =>
            intro whole
            exact (fulfils.flush_failed staging.changes_ascending hrecalls hanswer whole).imp_right
              hdraft

end

end Store

end Clearinghouse
