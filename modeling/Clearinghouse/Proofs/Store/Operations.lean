/-
# What each operation does to what a store shows

A store shows the accounts of its open transaction over the committed ones, or
else just the committed ones. Every operation on accounts is described by what it
does to that table alone: it answers as the rule for tables says and goes on to
show the resulting table, unless a call of the medium fails, and then it reports
the failure and shows what it showed before. The descriptions compose, so a
caller never looks at staged entries again.
-/

import Clearinghouse.Proofs.Balances
import Clearinghouse.Proofs.Steps
import Clearinghouse.Proofs.Store.Reference

namespace Clearinghouse.Store

variable {S α : Type} {b : Backend S} {sound : S → Prop} {table : S → Table}

/-- What a store shows: its staged accounts over the committed ones. -/
def visible (table : S → Table) (s : Store S) : Table :=
  match s.staging with
  | some staging => staging.onto (table s.medium)
  | none => table s.medium

/-- A store over a sound medium, with a transaction that is faithful to it. -/
structure Coherent (sound : S → Prop) (table : S → Table) (s : Store S) : Prop where
  medium : sound s.medium
  staged : ∀ {staging : Staging}, s.staging = some staging → staging.Faithful (table s.medium)

/-- From one state to another a store came to show `seen`. Inside a transaction
the committed accounts are the same; outside they are what is shown. -/
structure Reaches (sound : S → Prop) (table : S → Table) (s : Store S) (seen : Table)
    (s' : Store S) : Prop where
  coherent : s'.Coherent sound table
  visible : s'.visible table = seen
  committed : table s'.medium = if s.inTransaction then table s.medium else seen
  initialized : s'.initialized = s.initialized
  inTransaction : s'.inTransaction = s.inTransaction

/-- How a step on a store ends: as a rule for tables says, or with a failure of
the medium that changes nothing. -/
inductive Ends (sound : S → Prop) (table : S → Table) (s : Store S)
    (rule : Except StoreError α × Table) (failure : StoreError → Prop) :
    Except StoreError α × Store S → Prop
  | done {s' : Store S} (reached : Reaches sound table s rule.2 s') :
      Ends sound table s rule failure (rule.1, s')
  | failed {e : StoreError} {s' : Store S} (why : failure e)
      (reached : Reaches sound table s (s.visible table) s') :
      Ends sound table s rule failure (.error e, s')

section

variable {s s' s'' : Store S} {seen seen' : Table} {id : AccountId}

theorem visible_of_idle (table : S → Table) (idle : s.staging = none) :
    s.visible table = table s.medium := by
  simp only [visible, idle]

/-- Without a transaction there is nothing to be faithful. -/
theorem Coherent.of_idle (ready : sound s.medium) (idle : s.staging = none) :
    s.Coherent sound table where
  medium := ready
  staged := by
    intro staging hstaging
    cases idle.symm.trans hstaging

theorem staged?_of_staging {staging : Staging} (transaction : s.staging = some staging)
    (id : AccountId) : s.staged? id = staging[id]? := by
  rw [staged?, transaction]
  rfl

/-- Entering an account in the transaction changes its own entry only. -/
theorem staged?_insert (medium : S) (initialized : Bool) (staging : Staging) (id : AccountId)
    (entry : Staged) (other : AccountId) :
    (Store.mk medium initialized (some (staging.insert id entry))).staged? other =
      if id = other then some entry else staging[other]? := by
  change (staging.insert id entry)[other]? = _
  simp [Std.ExtTreeMap.getElem?_insert]

theorem visible_of_staging {staging : Staging} (opened : s.staging = some staging) :
    s.visible table = staging.onto (table s.medium) := by
  simp only [visible, opened]

/-- An account is shown as it is staged, and else as it is committed. -/
theorem getElem?_visible :
    (s.visible table)[id]? = ((s.staged? id).map (·.balance)).or (table s.medium)[id]? := by
  rw [visible, staged?]
  cases s.staging with
  | none => simp
  | some staging => simp [Staging.getElem?_onto]

theorem Reaches.trans (first : Reaches sound table s seen s')
    (second : Reaches sound table s' seen' s'') : Reaches sound table s seen' s'' where
  coherent := second.coherent
  visible := second.visible
  committed := by
    rw [second.committed, first.inTransaction, first.committed]
    split <;> rfl
  initialized := second.initialized.trans first.initialized
  inTransaction := second.inTransaction.trans first.inTransaction

/-- A store in another sound state of the medium with the same table shows the
same accounts. -/
theorem Coherent.reaches_medium (coherent : s.Coherent sound table) {m : S} (hsound : sound m)
    (same : table m = table s.medium) :
    Reaches sound table s (s.visible table) { s with medium := m } where
  coherent := ⟨hsound, fun hstaging => same ▸ coherent.staged hstaging⟩
  visible := by simp only [visible, same]
  committed := by
    unfold Store.visible inTransaction
    cases s.staging <;> simpa using same
  initialized := rfl
  inTransaction := rfl

theorem Coherent.reaches_self (coherent : s.Coherent sound table) :
    Reaches sound table s (s.visible table) s :=
  coherent.reaches_medium coherent.medium rfl

theorem Ends.of_reaches {rule : Except StoreError α × Table} {failure : StoreError → Prop}
    {run : Except StoreError α × Store S} (first : Reaches sound table s (s.visible table) s')
    (ends : Ends sound table s' rule failure run) : Ends sound table s rule failure run := by
  cases ends with
  | done reached => exact .done (first.trans reached)
  | failed why reached => exact .failed why (first.trans (first.visible ▸ reached))

theorem Ends.imp_failure {rule : Except StoreError α × Table} {failure failure' : StoreError → Prop}
    {run : Except StoreError α × Store S} (ends : Ends sound table s rule failure run)
    (weaker : ∀ e, failure e → failure' e) : Ends sound table s rule failure' run := by
  cases ends with
  | done reached => exact .done reached
  | failed why reached => exact .failed (weaker _ why) reached

/-- A step that answers does as the rule says. -/
theorem Ends.of_ok {rule : Except StoreError α × Table} {failure : StoreError → Prop} {a : α}
    (ends : Ends sound table s rule failure (.ok a, s')) :
    rule.1 = .ok a ∧ Reaches sound table s rule.2 s' := by
  generalize hrun : ((.ok a, s') : Except StoreError α × Store S) = run at ends
  cases ends with
  | done reached =>
      obtain ⟨hanswer, rfl⟩ := Prod.mk.inj hrun
      exact ⟨hanswer.symm, reached⟩
  | failed why reached => cases hrun

/-- A step that fails does so as the rule says, or for a failure of the medium. -/
theorem Ends.of_error {rule : Except StoreError α × Table} {failure : StoreError → Prop}
    {e : StoreError} (ends : Ends sound table s rule failure (.error e, s')) :
    rule.1 = .error e ∧ Reaches sound table s rule.2 s' ∨
      failure e ∧ Reaches sound table s (s.visible table) s' := by
  generalize hrun : ((.error e, s') : Except StoreError α × Store S) = run at ends
  cases ends with
  | done reached =>
      obtain ⟨hanswer, rfl⟩ := Prod.mk.inj hrun
      exact .inl ⟨hanswer.symm, reached⟩
  | failed why reached =>
      cases hrun
      exact .inr ⟨why, reached⟩

/-- Where the medium does not fail, a step does as the rule says. -/
theorem Ends.of_never {rule : Except StoreError α × Table} {failure : StoreError → Prop}
    {run : Except StoreError α × Store S} (ends : Ends sound table s rule failure run)
    (never : ∀ e, ¬ failure e) : run.1 = rule.1 ∧ Reaches sound table s rule.2 run.2 := by
  cases ends with
  | done reached => exact ⟨rfl, reached⟩
  | failed why reached => exact absurd why (never _)

/-! ## Reading -/

/-- A store after a load. -/
def loaded (b : Backend S) (id : AccountId) (s : Store S) : Store S :=
  { s with medium := (b.load id s.medium).2 }

/-- A store after a committed account was copied into its transaction. -/
def copied (id : AccountId) (balance : Balance) (s : Store S) : Store S :=
  { s with staging := s.staging.map (·.insert id ⟨some balance, balance, false⟩) }

/-- An account is looked up in the transaction, and else on the medium. -/
theorem peek_apply : peek b id s =
    match s.staged? id with
    | some entry => (.ok (some entry.balance), s)
    | none => ((b.load id s.medium).1.map (·.map (·.balance)), loaded b id s) := by
  rw [peek, Run.get_bind_apply]
  cases s.staged? id with
  | some entry => rfl
  | none =>
      have hload : onMedium (b.load id) s = ((b.load id s.medium).1, loaded b id s) := rfl
      cases hanswer : (b.load id s.medium).1 with
      | error e =>
          rw [hanswer] at hload
          exact Run.bind_of_error hload
      | ok found =>
          rw [hanswer] at hload
          exact Run.bind_of_ok hload

/-- An account is observed as it is peeked at, but what the medium finds is copied into the
transaction. -/
theorem observe_apply : observe b id s =
    match s.staged? id with
    | some entry => (.ok (some entry.balance), s)
    | none => match (b.load id s.medium).1 with
      | .ok (some account) => (.ok (some account.balance), copied id account.balance (loaded b id s))
      | .ok none => (.ok none, loaded b id s)
      | .error e => (.error e, loaded b id s) := by
  rw [observe, Run.get_bind_apply]
  cases s.staged? id with
  | some entry => rfl
  | none =>
      have hload : onMedium (b.load id) s = ((b.load id s.medium).1, loaded b id s) := rfl
      cases hanswer : (b.load id s.medium).1 with
      | error e =>
          rw [hanswer] at hload
          exact Run.bind_of_error hload
      | ok found =>
          rw [hanswer] at hload
          refine (Run.bind_of_ok hload).trans ?_
          cases found <;> rfl

theorem Coherent.reaches_loaded (shows : b.Shows sound table) (coherent : s.Coherent sound table)
    (id : AccountId) : Reaches sound table s (s.visible table) (loaded b id s) :=
  coherent.reaches_medium (shows.load_sound id coherent.medium)
    (shows.load_table id coherent.medium)

/-- A load shows the committed account or fails. -/
theorem onMedium_load (shows : b.Shows sound table) (coherent : s.Coherent sound table)
    (id : AccountId) :
    onMedium (b.load id) s = (.ok ((table s.medium).account? id), loaded b id s) ∨
      ∃ e, (b.load id s.medium).1 = .error e ∧
        onMedium (b.load id) s = (.error e, loaded b id s) := by
  rw [onMedium, Run.onPart_apply]
  cases hanswer : (b.load id s.medium).1 with
  | ok answer =>
      obtain rfl := shows.load_answer coherent.medium hanswer
      exact .inl rfl
  | error e => exact .inr ⟨e, rfl, rfl⟩

/-- An account without an entry is shown as the medium has it. -/
theorem account?_map_balance (unstaged : s.staged? id = none) :
    ((table s.medium).account? id).map (·.balance) = (s.visible table)[id]? := by
  simp [getElem?_visible, unstaged, Table.account?, Function.comp_def]

/-- Peeking at an account shows its balance. -/
theorem peek_ends (shows : b.Shows sound table) (coherent : s.Coherent sound table)
    (id : AccountId) :
    Ends sound table s (.ok (s.visible table)[id]?, s.visible table)
      (fun e => (b.load id s.medium).1 = .error e) (peek b id s) := by
  rw [peek, Run.get_bind_apply]
  cases hstaged : s.staged? id with
  | some entry =>
      have hvisible : (s.visible table)[id]? = some entry.balance := by
        simp [getElem?_visible, hstaged]
      rw [hvisible]
      exact .done coherent.reaches_self
  | none =>
      obtain hrun | ⟨e, hfailed, hrun⟩ := onMedium_load shows coherent id
      · simp only [Run.bind_of_ok hrun, Run.pure_apply, account?_map_balance hstaged]
        exact .done (coherent.reaches_loaded shows id)
      · simp only [Run.bind_of_error hrun]
        exact .failed hfailed (coherent.reaches_loaded shows id)

/-- Copying the committed balance of an account that is not staged yet shows
nothing new. -/
theorem Coherent.reaches_copied (coherent : s.Coherent sound table)
    (unstaged : s.staged? id = none) {balance : Balance}
    (committed : (table s.medium)[id]? = some balance) :
    Reaches sound table s (s.visible table) (copied id balance s) := by
  obtain ⟨medium, initialized, staging⟩ := s
  cases staging with
  | none => exact coherent.reaches_self
  | some staging =>
      have habsent : staging[id]? = none := unstaged
      refine ⟨⟨coherent.medium, ?_⟩, Staging.onto_insert_read habsent committed, rfl, rfl, rfl⟩
      rintro _ ⟨rfl⟩
      exact (coherent.staged rfl).insert_read committed

/-- Observing an account shows its balance, as peeking does. An account that is
staged is not asked for, so observing it cannot fail. -/
theorem observe_ends (shows : b.Shows sound table) (coherent : s.Coherent sound table)
    (id : AccountId) :
    Ends sound table s (.ok (s.visible table)[id]?, s.visible table)
      (fun e => s.staged? id = none ∧ (b.load id s.medium).1 = .error e) (observe b id s) := by
  rw [observe, Run.get_bind_apply]
  cases hstaged : s.staged? id with
  | some entry =>
      have hvisible : (s.visible table)[id]? = some entry.balance := by
        simp [getElem?_visible, hstaged]
      rw [hvisible]
      exact .done coherent.reaches_self
  | none =>
      have hloaded := coherent.reaches_loaded shows id
      obtain hrun | ⟨e, hfailed, hrun⟩ := onMedium_load shows coherent id
      · rw [← account?_map_balance hstaged]
        simp only [Run.bind_of_ok hrun]
        cases hcommitted : (table s.medium)[id]? with
        | none =>
            simp only [Table.account?, hcommitted, Option.map_none, Run.pure_apply]
            exact .done hloaded
        | some balance =>
            have hkept : (table (loaded b id s).medium)[id]? = some balance := by
              rw [loaded, shows.load_table id coherent.medium, hcommitted]
            simp only [Table.account?, hcommitted, Option.map_some, Run.modify_bind_apply,
              Run.pure_apply]
            exact .done (hloaded.trans
              (hloaded.visible ▸ hloaded.coherent.reaches_copied hstaged hkept))
      · simp only [Run.bind_of_error hrun]
        exact .failed ⟨trivial, hfailed⟩ hloaded

/-! ## Writing -/

/-- Inside a transaction a write is staged, without a call of the medium. -/
theorem write_ends_of_transaction (coherent : s.Coherent sound table)
    (opened : s.inTransaction = true) {failure : StoreError → Prop} (balance : Balance) :
    Ends sound table s (.ok (), (s.visible table).insert id balance) failure
      (write b id (s.visible table)[id]? balance s) := by
  obtain ⟨staging, hstaging⟩ := Option.isSome_iff_exists.mp opened
  have hfaithful := coherent.staged hstaging
  rw [write, Run.get_bind_apply]
  simp only [hstaging, Run.modify_apply, visible_of_staging hstaging]
  refine .done ⟨⟨coherent.medium, ?_⟩, Staging.onto_write _ _, ?_, rfl, ?_⟩
  · rintro _ ⟨rfl⟩
    exact hfaithful.write balance
  · rw [if_pos opened]
  · simp [inTransaction, hstaging]

/-- Outside a transaction a write is a flush of one change. -/
theorem write_of_idle (idle : s.staging = none) (observed : Option Balance) (balance : Balance) :
    write b id observed balance s = onMedium (b.flush [⟨id, observed, balance⟩]) s := by
  rw [write, Run.get_bind_apply]
  simp only [idle]

/-- A flush of admissible changes outside a transaction shows them, or fails. -/
theorem onMedium_flush_ends (books : b.Books sound table) (coherent : s.Coherent sound table)
    (idle : s.staging = none) {changes : List Change} (admits : (table s.medium).Admits changes) :
    Ends sound table s (.ok (), (table s.medium).recordAll changes)
      (fun e => (b.flush changes s.medium).1 = .error e) (onMedium (b.flush changes) s) := by
  have hsound := books.flush_sound coherent.medium admits
  rw [onMedium, Run.onPart_apply]
  cases hanswer : (b.flush changes s.medium).1 with
  | ok answer =>
      have hflushed := books.flush_done coherent.medium admits hanswer
      refine .done ⟨Coherent.of_idle hsound idle, ?_, ?_, rfl, rfl⟩
      · rw [visible_of_idle table (by exact idle), hflushed]
      · rw [hflushed]
        simp [inTransaction, idle]
  | error e =>
      exact .failed rfl (coherent.reaches_medium hsound
        (books.flush_failed coherent.medium admits hanswer))

theorem write_ends_of_idle (books : b.Books sound table) (coherent : s.Coherent sound table)
    (idle : s.staging = none) (id : AccountId) (balance : Balance) :
    Ends sound table s (.ok (), (s.visible table).insert id balance)
      (fun e => ∃ change : Change, change.id = id ∧ (b.flush [change] s.medium).1 = .error e)
      (write b id (s.visible table)[id]? balance s) := by
  have hadmits : (table s.medium).Admits [⟨id, (s.visible table)[id]?, balance⟩] :=
    Table.admits_singleton (by rw [visible_of_idle table idle])
  have hflush := onMedium_flush_ends books coherent idle hadmits
  rw [write_of_idle idle, visible_of_idle table idle] at *
  exact hflush.imp_failure fun e why => ⟨_, rfl, why⟩

/-- Outside a transaction observing an account is a load and nothing else. -/
theorem observe_of_idle (idle : s.staging = none) (id : AccountId) :
    observe b id s = ((b.load id s.medium).1.map (·.map (·.balance)), loaded b id s) := by
  have hstaged : s.staged? id = none := by simp [staged?, idle]
  rw [observe_apply, hstaged]
  dsimp only
  cases (b.load id s.medium).1 with
  | error e => rfl
  | ok found =>
      cases found with
      | none => rfl
      | some account =>
          simp only [copied, loaded, idle]
          rfl

/-- Outside a transaction peeking at an account is a load and nothing else. -/
theorem peek_of_idle (idle : s.staging = none) (id : AccountId) :
    peek b id s = ((b.load id s.medium).1.map (·.map (·.balance)), loaded b id s) := by
  have hstaged : s.staged? id = none := by simp [staged?, idle]
  rw [peek_apply, hstaged]

/-! ## Operations on accounts -/

/-- An open store goes on to the operation proper. -/
theorem ensureInitialized_bind (opened : s.initialized = true)
    (next : Unit → Step (Store S) α) : (ensureInitialized >>= next) s = next () s := by
  have hguard : (ensureInitialized : Step (Store S) Unit) s = (.ok (), s) := by
    rw [ensureInitialized, Run.get_bind_apply]
    simp [opened]
  rw [Run.bind_of_ok hguard]

/-- A closed store refuses. -/
theorem ensureInitialized_bind_of_closed (closed : s.initialized = false)
    (next : Unit → Step (Store S) α) :
    (ensureInitialized >>= next) s = (.error .notInitialized, s) := by
  have hguard : (ensureInitialized : Step (Store S) Unit) s = (.error .notInitialized, s) := by
    rw [ensureInitialized, Run.get_bind_apply]
    simp [closed]
  rw [Run.bind_of_error hguard]

/-- An update fails once its account was looked at, or it writes the exact sum, which is not
negative. An account that is not there can only be credited. -/
theorem update_cases (opened : s.initialized = true) (id : AccountId) (delta : Balance) :
    (∃ e, update b id delta s = (.error e, (observe b id s).2)) ∨
      ∃ found balance, (observe b id s).1 = .ok found ∧
        update b id delta s = write b id found balance (observe b id s).2 ∧ 0 ≤ balance ∧
        balance.toInt = (found.map (·.toInt)).getD 0 + delta.toInt ∧
        (found = none → 0 < delta) := by
  rw [update, ensureInitialized_bind opened]
  cases hrun : observe b id s with
  | mk answer mid =>
      cases answer with
      | error e =>
          rw [Run.bind_of_error hrun]
          exact .inl ⟨e, rfl⟩
      | ok found =>
          rw [Run.bind_of_ok hrun]
          cases found with
          | none =>
              dsimp only
              split
              · next hpositive =>
                  exact .inr ⟨none, delta, rfl, rfl, Int64.le_of_lt hpositive, by simp,
                    fun _ => hpositive⟩
              · exact .inl ⟨_, rfl⟩
          | some balance =>
              dsimp only
              cases hsum : balance.add? delta with
              | none => exact .inl ⟨_, rfl⟩
              | some sum =>
                  dsimp only
                  split
                  · exact .inl ⟨_, rfl⟩
                  · next hcovered =>
                      exact .inr ⟨some balance, sum, rfl, rfl, Int64.not_lt.mp hcovered,
                        Balance.add?_eq_some_iff.mp hsum, by simp⟩

/-- The rule for moving a balance, in terms of words. -/
theorem move_of_some {t : Table} {balance : Balance} (found : t[id]? = some balance)
    (delta : Balance) :
    Table.move id delta t =
      match balance.add? delta with
      | none => (.error (.balanceOverflow id), t)
      | some sum =>
        if sum < 0 then (.error (.insufficientBalance id balance delta), t)
        else (.ok (), t.insert id sum) := by
  unfold Table.move Balance.add? Balance.ofInt?
  simp only [found]
  by_cases hrange : Balance.InRange (balance.toInt + delta.toInt)
  · have hsum : (Int64.ofInt (balance.toInt + delta.toInt)).toInt = balance.toInt + delta.toInt :=
      Balance.ofInt?_eq_some_iff.mp (if_pos hrange)
    simp only [hrange, not_true_eq_false, if_false, if_true, Int64.lt_iff_toInt_lt, hsum,
      Int64.toInt_zero]
  · simp only [hrange, not_false_eq_true, if_true, if_false]

/-- Moving a balance follows the rule for tables, given what observing the account
and writing it come to. -/
theorem update_ends_of_parts (opened : s.initialized = true) {failure : StoreError → Prop}
    (observed : Ends sound table s (.ok (s.visible table)[id]?, s.visible table) failure
      (observe b id s))
    (written : ∀ s' balance, Reaches sound table s (s.visible table) s' →
      observe b id s = (.ok (s.visible table)[id]?, s') →
      Ends sound table s' (.ok (), (s'.visible table).insert id balance) failure
        (write b id (s'.visible table)[id]? balance s')) (delta : Balance) :
    Ends sound table s (Table.move id delta (s.visible table)) failure (update b id delta s) := by
  rw [update, ensureInitialized_bind opened]
  generalize hrun : observe b id s = run at observed
  cases observed with
  | failed why reached =>
      rw [Run.bind_of_error hrun]
      exact .failed why reached
  | @done s' reached =>
      have hwrite := fun balance =>
        (written s' balance reached hrun).of_reaches reached
      simp only [reached.visible] at hwrite
      rw [Run.bind_of_ok hrun]
      cases hfound : (s.visible table)[id]? with
      | none =>
          simp only [Table.move, hfound] at hwrite ⊢
          split
          · exact hwrite delta
          · exact .done reached
      | some balance =>
          simp only [hfound, move_of_some hfound] at hwrite ⊢
          cases balance.add? delta with
          | none => exact .done reached
          | some sum =>
              by_cases hnegative : sum < 0
              · simp only [hnegative, if_true]
                exact .done reached
              · simp only [hnegative, if_false]
                exact hwrite sum

/-- Inside a transaction moving a balance asks the medium for the account only, and
not even that once the account is staged. -/
theorem update_ends_of_transaction (shows : b.Shows sound table)
    (coherent : s.Coherent sound table) (opened : s.initialized = true)
    (transaction : s.inTransaction = true) (id : AccountId) (delta : Balance) :
    Ends sound table s (Table.move id delta (s.visible table))
      (fun e => s.staged? id = none ∧ (b.load id s.medium).1 = .error e) (update b id delta s) := by
  refine update_ends_of_parts opened (observe_ends shows coherent id) ?_ delta
  intro s' balance reached _
  exact write_ends_of_transaction reached.coherent
    (reached.inTransaction.trans transaction) balance

theorem update_ends (shows : b.Shows sound table) (books : b.Books sound table)
    (coherent : s.Coherent sound table) (opened : s.initialized = true) (id : AccountId)
    (delta : Balance) :
    Ends sound table s (Table.move id delta (s.visible table)) (WriteFails b id s.medium)
      (update b id delta s) := by
  by_cases htransaction : s.inTransaction = true
  · exact (update_ends_of_transaction shows coherent opened htransaction id delta).imp_failure
      fun e why => .inl why.2
  · have hidle : s.staging = none := by simpa [inTransaction] using htransaction
    refine update_ends_of_parts opened
      ((observe_ends shows coherent id).imp_failure fun e why => .inl why.2) ?_ delta
    intro s' balance reached hrun
    have hs' : s' = loaded b id s := by
      rw [observe_of_idle hidle] at hrun
      exact (congrArg Prod.snd hrun).symm
    have hwrite := write_ends_of_idle books reached.coherent (by rw [hs']; exact hidle) id balance
    apply hwrite.imp_failure
    intro e why
    right
    rwa [hs'] at why

/-- Creating an account follows the rule for tables, given what peeking at it and
writing it come to. -/
theorem create_ends_of_parts (opened : s.initialized = true) {failure : StoreError → Prop}
    (peeked : Ends sound table s (.ok (s.visible table)[id]?, s.visible table) failure
      (peek b id s))
    (balance : Balance)
    (written : ∀ s', Reaches sound table s (s.visible table) s' →
      peek b id s = (.ok (s.visible table)[id]?, s') →
      Ends sound table s' (.ok (), (s'.visible table).insert id balance) failure
        (write b id (s'.visible table)[id]? balance s')) :
    Ends sound table s (Table.create id balance (s.visible table)) failure
      (create b id balance s) := by
  rw [create, ensureInitialized_bind opened]
  generalize hrun : peek b id s = run at peeked
  cases peeked with
  | failed why reached =>
      rw [Run.bind_of_error hrun]
      exact .failed why reached
  | @done s' reached =>
      have hwrite := (written s' reached hrun).of_reaches reached
      simp only [reached.visible] at hwrite
      rw [Run.bind_of_ok hrun]
      unfold Table.create
      cases hfound : (s.visible table)[id]? with
      | none =>
          rw [hfound] at hwrite
          exact hwrite
      | some found => exact .done reached

/-- Inside a transaction creating an account asks the medium for the account
only. -/
theorem create_ends_of_transaction (shows : b.Shows sound table)
    (coherent : s.Coherent sound table) (opened : s.initialized = true)
    (transaction : s.inTransaction = true) (id : AccountId) (balance : Balance) :
    Ends sound table s (Table.create id balance (s.visible table))
      (fun e => (b.load id s.medium).1 = .error e) (create b id balance s) := by
  refine create_ends_of_parts opened (peek_ends shows coherent id) balance ?_
  intro s' reached _
  exact write_ends_of_transaction reached.coherent
    (reached.inTransaction.trans transaction) balance

theorem create_ends (shows : b.Shows sound table) (books : b.Books sound table)
    (coherent : s.Coherent sound table) (opened : s.initialized = true) (id : AccountId)
    (balance : Balance) :
    Ends sound table s (Table.create id balance (s.visible table)) (WriteFails b id s.medium)
      (create b id balance s) := by
  by_cases htransaction : s.inTransaction = true
  · exact (create_ends_of_transaction shows coherent opened htransaction id balance).imp_failure
      fun e why => .inl why
  · have hidle : s.staging = none := by simpa [inTransaction] using htransaction
    refine create_ends_of_parts opened
      ((peek_ends shows coherent id).imp_failure fun e why => .inl why) balance ?_
    intro s' reached hrun
    have hs' : s' = loaded b id s := by
      rw [peek_of_idle hidle] at hrun
      exact (congrArg Prod.snd hrun).symm
    have hwrite := write_ends_of_idle books reached.coherent (by rw [hs']; exact hidle) id balance
    apply hwrite.imp_failure
    intro e why
    right
    rwa [hs'] at why

/-- Asking for an account shows whether it is there. -/
theorem contains_ends (shows : b.Shows sound table) (coherent : s.Coherent sound table)
    (opened : s.initialized = true) (id : AccountId) :
    Ends sound table s (.ok (s.visible table)[id]?.isSome, s.visible table)
      (fun e => (b.load id s.medium).1 = .error e) (contains b id s) := by
  have hpeek := peek_ends shows coherent id
  rw [contains, ensureInitialized_bind opened]
  generalize hrun : peek b id s = run at hpeek
  cases hpeek with
  | done reached =>
      rw [Run.bind_of_ok hrun]
      exact .done reached
  | failed why reached =>
      rw [Run.bind_of_error hrun]
      exact .failed why reached

/-- Reading an account finds what is shown, inside a transaction and outside. -/
theorem getAccount_ends (shows : b.Shows sound table) (coherent : s.Coherent sound table)
    (opened : s.initialized = true) (id : AccountId) :
    Ends sound table s (Table.find id (s.visible table))
      (fun e => (b.load id s.medium).1 = .error e) (getAccount b id s) := by
  unfold getAccount Table.find
  rw [ensureInitialized_bind opened, Run.get_bind_apply]
  by_cases htransaction : s.inTransaction = true
  · have hobserve := observe_ends shows coherent id
    simp only [htransaction, if_true]
    generalize hrun : observe b id s = run at hobserve
    cases hobserve with
    | done reached =>
        rw [Run.bind_of_ok hrun]
        cases (s.visible table)[id]? with
        | none => exact .done reached
        | some balance => exact .done reached
    | failed why reached =>
        rw [Run.bind_of_error hrun]
        exact .failed why.2 reached
  · have hidle : s.staging = none := by simpa [inTransaction] using htransaction
    have hloaded := coherent.reaches_loaded shows id
    rw [if_neg htransaction, visible_of_idle table hidle] at *
    obtain hrun | ⟨e, hfailed, hrun⟩ := onMedium_load shows coherent id
    · rw [Run.bind_of_ok hrun]
      cases hcommitted : (table s.medium)[id]? with
      | none =>
          simp only [Table.account?, hcommitted, Option.map_none]
          exact .done hloaded
      | some balance =>
          simp only [Table.account?, hcommitted, Option.map_some]
          exact .done hloaded
    · rw [Run.bind_of_error hrun]
      exact .failed hfailed (visible_of_idle table hidle ▸ hloaded)

/-- Inside a transaction an account is read by observing it. -/
theorem getAccount_of_transaction (opened : s.initialized = true)
    (transaction : s.inTransaction = true) (id : AccountId) :
    getAccount b id s = ((observe b id s).1.bind fun found =>
      found.elim (.error (.accountNotFound id)) fun balance => .ok ⟨id, balance⟩,
      (observe b id s).2) := by
  unfold getAccount
  rw [ensureInitialized_bind opened, Run.get_bind_apply, if_pos transaction]
  rcases hrun : observe b id s with ⟨e | found, mid⟩
  · rw [Run.bind_of_error hrun]
    rfl
  · rw [Run.bind_of_ok hrun]
    cases found <;> rfl

/-- Outside of transactions it is loaded. -/
theorem getAccount_of_idle (opened : s.initialized = true) (idle : s.staging = none)
    (id : AccountId) :
    getAccount b id s = ((b.load id s.medium).1.bind fun found =>
      found.elim (.error (.accountNotFound id)) .ok, loaded b id s) := by
  have htransaction : ¬ s.inTransaction = true := by simp [inTransaction, idle]
  have hload : onMedium (b.load id) s = ((b.load id s.medium).1, loaded b id s) := rfl
  unfold getAccount
  rw [ensureInitialized_bind opened, Run.get_bind_apply, if_neg htransaction]
  cases hanswer : (b.load id s.medium).1 with
  | error e =>
      rw [hanswer] at hload
      rw [Run.bind_of_error hload]
      rfl
  | ok found =>
      rw [hanswer] at hload
      rw [Run.bind_of_ok hload]
      cases found <;> rfl

/-- Asking for an account is looking it up. -/
theorem contains_apply (opened : s.initialized = true) (id : AccountId) :
    contains b id s = ((peek b id s).1.map (·.isSome), (peek b id s).2) := by
  rw [contains, ensureInitialized_bind opened]
  rcases hrun : peek b id s with ⟨e | found, mid⟩
  · rw [Run.bind_of_error hrun]
    rfl
  · rw [Run.bind_of_ok hrun]
    rfl

/-- Reading a balance is reading the account. -/
theorem getBalance_apply (id : AccountId) :
    getBalance b id s = ((getAccount b id s).1.map (·.balance), (getAccount b id s).2) := by
  rw [getBalance]
  cases hrun : getAccount b id s with
  | mk answer s' =>
      cases answer with
      | ok account =>
          rw [Run.bind_of_ok hrun]
          rfl
      | error e =>
          rw [Run.bind_of_error hrun]
          rfl

theorem perform_getBalance (id : AccountId) : perform b (.getBalance id) s =
    ((fun account => .balance account.balance) <$> getAccount b id) s := by
  rw [perform, Run.map_apply, Run.map_apply, getBalance_apply]
  cases (getAccount b id s).1 <;> rfl

/-- Listing shows every account. -/
theorem accounts_ends (shows : b.Shows sound table) (coherent : s.Coherent sound table)
    (opened : s.initialized = true) :
    Ends sound table s (.ok (s.visible table).accounts, s.visible table)
      (fun e => (b.loadAll s.medium).1 = .error e) (accounts b s) := by
  have hreached : Reaches sound table s (s.visible table)
      { s with medium := (b.loadAll s.medium).2 } :=
    coherent.reaches_medium (shows.loadAll_sound coherent.medium)
      (shows.loadAll_table coherent.medium)
  have hload : onMedium b.loadAll s =
    ((b.loadAll s.medium).1, { s with medium := (b.loadAll s.medium).2 }) := rfl
  rw [accounts, ensureInitialized_bind opened]
  cases hanswer : (b.loadAll s.medium).1 with
  | error e =>
      rw [hanswer] at hload
      rw [Run.bind_of_error hload]
      exact .failed rfl hreached
  | ok listed =>
      have htable : tabulate listed = table s.medium :=
        Table.tabulate_eq_of_mem_iff (shows.loadAll_answer coherent.medium hanswer)
      have hlaid : (s.staging.getD ∅).onto (table s.medium) = s.visible table := by
        unfold visible
        cases s.staging <;> simp
      rw [hanswer] at hload
      rw [Run.bind_of_ok hload, Run.get_bind_apply, htable, ← hlaid]
      exact .done (hlaid ▸ hreached)

/-! ## Transactions and the life cycle -/

/-- A store without its transaction. -/
def dropped (s : Store S) : Store S := { s with staging := none }

theorem Coherent.dropped (coherent : s.Coherent sound table) :
    (dropped s).Coherent sound table :=
  .of_idle coherent.medium rfl

/-- A store with a new transaction. -/
def begun (s : Store S) : Store S := { s with staging := some ∅ }

theorem begin_of_idle (opened : s.initialized = true) (idle : s.staging = none) :
    begin s = (.ok (), begun s) := by
  rw [begin, ensureInitialized_bind opened, Run.get_bind_apply]
  simp [inTransaction, idle, begun]

theorem begin_of_transaction (opened : s.initialized = true)
    (transaction : s.inTransaction = true) :
    begin s = (.error .transactionAlreadyOpen, s) := by
  rw [begin, ensureInitialized_bind opened, Run.get_bind_apply, if_pos transaction]
  rfl

/-- A transaction begins in a store that is open and has none. -/
theorem begin_eq_ok (begins : begin s = (.ok (), s')) :
    s.initialized = true ∧ s.staging = none ∧ s' = begun s := by
  cases hopened : s.initialized with
  | false =>
      rw [begin, ensureInitialized_bind_of_closed hopened] at begins
      cases begins
  | true =>
      cases hstaging : s.staging with
      | none =>
          rw [begin_of_idle hopened hstaging] at begins
          cases begins
          exact ⟨rfl, rfl, rfl⟩
      | some staging =>
          have htransaction : s.inTransaction = true := by rw [inTransaction, hstaging]; rfl
          rw [begin_of_transaction hopened htransaction] at begins
          cases begins

theorem Coherent.begun (coherent : s.Coherent sound table) :
    (begun s).Coherent sound table :=
  ⟨coherent.medium, by rintro _ ⟨rfl⟩; exact Staging.faithful_empty⟩

/-- A new transaction shows what is committed. -/
theorem visible_begun (table : S → Table) (s : Store S) :
    (begun s).visible table = table s.medium := by
  rw [visible_of_staging rfl, Staging.onto_empty]
  rfl

theorem rollback_apply (opened : s.initialized = true) :
    rollback s = (.ok (), dropped s) := by
  rw [rollback, ensureInitialized_bind opened]
  rfl

/-- A commit without a transaction does nothing. -/
theorem commit_of_idle (opened : s.initialized = true) (idle : s.staging = none) :
    commit b s = (.ok (), s) := by
  rw [commit, ensureInitialized_bind opened, Run.get_bind_apply]
  simp only [idle, Run.pure_apply]

/-- A commit of a transaction ends it and flushes its changes, if there are any. -/
theorem commit_of_staging (opened : s.initialized = true) {staging : Staging}
    (transaction : s.staging = some staging) :
    commit b s =
      if staging.changes = [] then (.ok (), dropped s)
      else onMedium (b.flush staging.changes) (dropped s) := by
  rw [commit, ensureInitialized_bind opened, Run.get_bind_apply]
  simp only [transaction, Run.modify_bind_apply]
  cases staging.changes <;> rfl

/-- A commit makes what the transaction showed the committed accounts, or fails
and leaves them as they were; the transaction has ended either way. -/
theorem commit_ends (books : b.Books sound table) (coherent : s.Coherent sound table)
    (opened : s.initialized = true) :
    Ends sound table (dropped s) (.ok (), s.visible table)
      (fun e => ∃ changes, changes ≠ [] ∧ (table s.medium).Admits changes ∧
        (b.flush changes s.medium).1 = .error e)
      (commit b s) := by
  cases hstaging : s.staging with
  | none =>
      have hself : dropped s = s := by
        cases s
        cases hstaging
        rfl
      rw [commit_of_idle opened hstaging, hself]
      exact .done coherent.reaches_self
  | some staging =>
      have hfaithful := coherent.staged hstaging
      rw [commit_of_staging opened hstaging, visible_of_staging hstaging]
      by_cases hchanges : staging.changes = []
      · rw [if_pos hchanges, hfaithful.onto_of_changes_eq_nil hchanges]
        exact .done coherent.dropped.reaches_self
      · rw [if_neg hchanges, ← hfaithful.recordAll_changes]
        exact (onMedium_flush_ends books coherent.dropped rfl
          hfaithful.admits_changes).imp_failure fun e why =>
            ⟨_, hchanges, hfaithful.admits_changes, why⟩

end

end Clearinghouse.Store
