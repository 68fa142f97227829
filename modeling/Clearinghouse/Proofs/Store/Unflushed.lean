/-
# What the open transaction has written

What a transaction has written so far can be told from the operations, their answers and what
is committed, without looking at its entries. An operation that writes an account looks at it
first, passes its checks or fails, and then writes the balance that it says. Everything else
either leaves alone what was written or ends the transaction. This holds of any medium that
nobody else writes to, whichever of its calls fail.
-/

import Clearinghouse.Proofs.Store.Calls
import Clearinghouse.Proofs.Store.Refinement
import Mathlib.Data.List.Sort

namespace Clearinghouse

variable {S : Type}

/-- A medium that shows one table, to which nobody else writes. Any call may fail. What becomes
of the table in a flush is left open, and so is what is found by a store that takes hold of the
medium. -/
structure Backend.Holds (b : Backend S) (sound : S → Prop) (table : S → Table) : Prop
    extends b.Shows sound table where
  connect_sound : ∀ {m}, sound m → sound (b.connect m).2
  disconnect_sound : ∀ {m}, sound m → sound (b.disconnect m).2
  flush_sound : ∀ {m changes}, sound m → (table m).Admits changes → sound (b.flush changes m).2

theorem Backend.Keeps.holds {b : Backend S} {sound : S → Prop} {table : S → Table}
    (keeps : b.Keeps sound table) : b.Holds sound table :=
  ⟨keeps.toShows, keeps.connect_sound, keeps.disconnect_sound, keeps.flush_sound⟩

namespace Store

/-! ## What operations write -/

/-- The account that an operation is to write. -/
def Op.target? : Op → Option AccountId
  | .create id _ | .update id _ => some id
  | _ => none

/-- Only creations and updates write an account. -/
theorem Op.target?_eq_some_iff {op : Op} {id : AccountId} : op.target? = some id ↔
    (∃ balance, op = .create id balance) ∨ ∃ delta, op = .update id delta := by
  cases op <;> simp [Op.target?]

/-- The checks of an operation that writes an account, which holds `found` so far. An account
is created only if it is not there, and no update leaves a balance that is negative or no
balance at all. -/
def Op.Allowed (found : Option Balance) : Op → Prop
  | .create _ _ => found = none
  | .update _ delta =>
    match found with
    | none => 0 < delta
    | some balance => Balance.InRange (balance.toInt + delta.toInt) ∧
        0 ≤ balance.toInt + delta.toInt
  | _ => False

instance (found : Option Balance) : DecidablePred (Op.Allowed found)
  | .create _ _ => decidable_of_iff (found.isNone = true) Option.isNone_iff_eq_none
  | .update _ delta =>
    match found with
    | none => inferInstanceAs (Decidable (0 < delta))
    | some balance => inferInstanceAs (Decidable (Balance.InRange (balance.toInt + delta.toInt) ∧
        0 ≤ balance.toInt + delta.toInt))
  | .start | .close | .contains _ | .getAccount _ | .getBalance _ | .accounts | .begin | .commit
  | .rollback => .isFalse id

/-- The balance that an account has once it was written: the one it is created with, or the
exact sum. -/
def Op.outcome (found : Option Balance) : Op → Balance
  | .create _ balance => balance
  | .update _ delta => Int64.ofInt ((found.elim 0 (·.toInt)) + delta.toInt)
  | _ => 0

/-- What the open transaction has written so far, by account; nothing outside of
transactions. -/
abbrev Unflushed := Option Table

/-- The balance of an account before an operation: as written in the transaction, and else as
committed. -/
def held (unflushed : Unflushed) (committed : Table) (id : AccountId) : Option Balance :=
  (unflushed.bind (·[id]?)).or committed[id]?

/-- What the transaction has written after an operation with this answer. -/
def unflushedAfter (committed : Table) (op : Op) (answer : Except StoreError Answer)
    (unflushed : Unflushed) : Unflushed :=
  match op with
  | .commit | .rollback | .close => none
  | .begin => if answer.isOk then some ∅ else unflushed
  | op =>
    match op.target? with
    | none => unflushed
    | some id =>
      if answer.isOk then
        unflushed.map (·.insert id (op.outcome (held unflushed committed id)))
      else unflushed

/-- A store after operations, with what its open transaction has written by then. -/
def course (b : Backend S) (table : S → Table) (ops : List Op) (start : Store S × Unflushed) :
    Store S × Unflushed :=
  ops.foldl (fun (s, unflushed) op => ((perform b op s).2,
    unflushedAfter (table s.medium) op (perform b op s).1 unflushed)) start

end Store

/-! ## Written entries -/

namespace Staging

variable {staging : Staging} {table : Table} {id : AccountId}

/-- The accounts that a transaction has written, with their balances. -/
def written (staging : Staging) : Table :=
  staging.filterMap fun _ entry => if entry.written then some entry.balance else none

theorem getElem?_written : staging.written[id]? =
    staging[id]?.bind fun entry => if entry.written then some entry.balance else none := by
  rw [written, Std.ExtTreeMap.getElem?_filterMap, Option.pbind_eq_bind]

theorem written_empty : (∅ : Staging).written = ∅ :=
  Std.ExtTreeMap.ext_getElem? fun id => by simp [getElem?_written]

/-- To copy an account is not to write it. -/
theorem written_insert_read (absent : staging[id]? = none) (balance : Balance) :
    written (staging.insert id ⟨some balance, balance, false⟩) = staging.written := by
  apply Std.ExtTreeMap.ext_getElem?
  intro other
  rw [getElem?_written, getElem?_written, Std.ExtTreeMap.getElem?_insert]
  by_cases hid : id = other
  · subst hid
    simp [absent]
  · simp [hid]

theorem written_write (observed : Option Balance) (balance : Balance) :
    (staging.write id observed balance).written = staging.written.insert id balance := by
  apply Std.ExtTreeMap.ext_getElem?
  intro other
  rw [write_eq_insert, getElem?_written, Std.ExtTreeMap.getElem?_insert,
    Std.ExtTreeMap.getElem?_insert, getElem?_written]
  by_cases hid : id = other <;> simp [hid]

/-- A commit hands over the accounts that were written, each with its last balance and the one
that is committed. -/
theorem Faithful.changes_eq (faithful : staging.Faithful table) :
    staging.changes =
      staging.written.toList.map fun (id, balance) => ⟨id, table[id]?, balance⟩ := by
  have hwritten : (staging.written.toList.map fun (id, balance) =>
      (⟨id, table[id]?, balance⟩ : Change)).Pairwise fun first later => first.id < later.id := by
    rw [List.pairwise_map]
    exact staging.written.ordered_keys_toList.imp fun h => Std.compare_eq_lt.mp h
  have : Std.Irrefl fun first later : Change => first.id < later.id :=
    ⟨fun change => UInt64.lt_irrefl change.id⟩
  have : Std.Antisymm fun first later : Change => first.id < later.id :=
    ⟨fun first later hless hmore => absurd hmore (UInt64.lt_asymm hless)⟩
  refine staging.changes_ascending.eq_of_mem_iff hwritten fun change => ?_
  rw [mem_changes, List.mem_map]
  constructor
  · rintro ⟨entry, hentry, hchanged, heq⟩
    refine ⟨(change.id, entry.balance), ?_, ?_⟩
    · rw [Std.ExtTreeMap.mem_toList_iff_getElem?_eq_some, getElem?_written, hentry]
      simp [hchanged]
    · rw [heq, faithful.observed hentry]
  · rintro ⟨⟨id, balance⟩, hmem, rfl⟩
    rw [Std.ExtTreeMap.mem_toList_iff_getElem?_eq_some, getElem?_written,
      Option.bind_eq_some_iff] at hmem
    obtain ⟨entry, hentry, hbalance⟩ := hmem
    rw [Option.ite_none_right_eq_some] at hbalance
    obtain ⟨hchanged, hsame⟩ := hbalance
    refine ⟨entry, hentry, hchanged, ?_⟩
    simp only [faithful.observed hentry, Option.some_inj.mp hsame]

/-- Nothing is handed over if nothing was written. -/
theorem Faithful.changes_eq_nil_iff (faithful : staging.Faithful table) :
    staging.changes = [] ↔ staging.written.isEmpty := by
  rw [faithful.changes_eq, List.map_eq_nil_iff, ← Std.ExtTreeMap.isEmpty_toList,
    List.isEmpty_iff]

end Staging

namespace Store

/-! ## Operations that write an account -/

section

variable {b : Backend S} {s : Store S} {op : Op} {id : AccountId} {found : Option Balance}

/-- How an operation that writes an account looks at it first. -/
def Op.look (b : Backend S) : Op → Step (Store S) (Option Balance)
  | .create id _ => peek b id
  | .update id _ => observe b id
  | _ => return none

section

variable {mid : Store S}

theorem create_of_peek (opened : s.initialized = true) (balance : Balance)
    (looked : peek b id s = (.ok found, mid)) :
    create b id balance s =
      if found = none then write b id found balance mid
      else (.error (.accountAlreadyExists id), mid) := by
  rw [create, ensureInitialized_bind opened, Run.bind_of_ok looked]
  cases found <;> rfl

/-- An update that passes its checks writes the exact sum. -/
theorem update_of_allowed (opened : s.initialized = true) {delta : Balance}
    (looked : observe b id s = (.ok found, mid)) (allowed : (Op.update id delta).Allowed found) :
    update b id delta s = write b id found ((Op.update id delta).outcome found) mid := by
  rw [update, ensureInitialized_bind opened, Run.bind_of_ok looked]
  cases found with
  | none =>
      have hcredit : 0 < delta := allowed
      have houtcome : (Op.update id delta).outcome none = delta := by
        rw [Op.outcome, Option.elim_none, Int.zero_add, Int64.ofInt_toInt]
      rw [houtcome]
      exact congrFun (if_pos hcredit) mid
  | some balance =>
      obtain ⟨hfits, hcovered⟩ := allowed
      have hsum : balance.add? delta = some ((Op.update id delta).outcome (some balance)) := by
        rw [Balance.add?, Balance.ofInt?, if_pos hfits]
        rfl
      have hexact := Balance.add?_eq_some_iff.mp hsum
      have hsound : ¬ (Op.update id delta).outcome (some balance) < 0 := by
        rw [Int64.lt_iff_toInt_lt, hexact, Int64.toInt_zero]
        omega
      simp only [hsum, if_neg hsound]

/-- An update that does not pass its checks fails. -/
theorem update_of_not_allowed (opened : s.initialized = true) {delta : Balance}
    (looked : observe b id s = (.ok found, mid))
    (refused : ¬ (Op.update id delta).Allowed found) : ∃ e, update b id delta s = (.error e, mid) := by
  rw [update, ensureInitialized_bind opened, Run.bind_of_ok looked]
  cases found with
  | none =>
      have hdebit : ¬ 0 < delta := refused
      exact ⟨_, congrFun (if_neg hdebit) mid⟩
  | some balance =>
      dsimp only
      cases hsum : balance.add? delta with
      | none => exact ⟨_, rfl⟩
      | some sum =>
          have hexact := Balance.add?_eq_some_iff.mp hsum
          have hfits : Balance.InRange (balance.toInt + delta.toInt) :=
            hexact ▸ Balance.inRange_toInt sum
          have hnegative : sum < 0 := by
            rw [Int64.lt_iff_toInt_lt, hexact, Int64.toInt_zero]
            exact Int.not_le.mp fun hcovered => refused ⟨hfits, hcovered⟩
          dsimp only
          rw [if_pos hnegative]
          exact ⟨_, rfl⟩

end

/-- An operation that writes an account looks at it. It fails if the account cannot be looked
at or its checks fail, and writes the account otherwise. -/
theorem perform_of_target (opened : s.initialized = true) (target : op.target? = some id) :
    (∃ e, (op.look b s).1 = .error e ∧ perform b op s = (.error e, (op.look b s).2)) ∨
      ∃ found, (op.look b s).1 = .ok found ∧
        ((¬ op.Allowed found ∧ ∃ e, perform b op s = (.error e, (op.look b s).2)) ∨
          (op.Allowed found ∧ perform b op s =
            ((fun _ => Answer.done) <$> write b id found (op.outcome found)) (op.look b s).2)) := by
  rcases Op.target?_eq_some_iff.mp target with ⟨balance, rfl⟩ | ⟨delta, rfl⟩
  · rw [Op.look, perform, Run.map_apply]
    rcases hlook : peek b id s with ⟨e | found, mid⟩
    · rw [create, ensureInitialized_bind opened, Run.bind_of_error hlook]
      exact .inl ⟨e, rfl, rfl⟩
    · rw [create_of_peek opened balance hlook]
      refine .inr ⟨found, rfl, ?_⟩
      by_cases habsent : found = none
      · rw [if_pos habsent, Run.map_apply]
        exact .inr ⟨habsent, rfl⟩
      · rw [if_neg habsent]
        exact .inl ⟨habsent, _, rfl⟩
  · rw [Op.look, perform, Run.map_apply]
    rcases hlook : observe b id s with ⟨e | found, mid⟩
    · rw [update, ensureInitialized_bind opened, Run.bind_of_error hlook]
      exact .inl ⟨e, rfl, rfl⟩
    · refine .inr ⟨found, rfl, ?_⟩
      by_cases hallowed : (Op.update id delta).Allowed found
      · rw [update_of_allowed opened hlook hallowed, Run.map_apply]
        exact .inr ⟨hallowed, rfl⟩
      · obtain ⟨e, hfailed⟩ := update_of_not_allowed opened hlook hallowed
        rw [hfailed]
        exact .inl ⟨hallowed, e, rfl⟩

end

/-! ## What is not flushed yet -/

/-- Between two operations: what the transaction is said to have written is what it has. -/
structure Tallies (sound : S → Prop) (table : S → Table) (unflushed : Unflushed) (s : Store S) :
    Prop extends s.Settled sound table where
  tally : unflushed = s.staging.map Staging.written

section

variable {b : Backend S} {sound : S → Prop} {table : S → Table} {unflushed : Unflushed}
  {s : Store S} {op : Op} {id : AccountId}

theorem Tallies.of_idle (hsound : sound s.medium) (idle : s.staging = none) :
    Tallies sound table none s where
  toCoherent := .of_idle hsound idle
  closed _ := idle
  tally := by rw [idle, Option.map_none]

theorem Tallies.idle (tallies : Tallies sound table unflushed s) (closed : s.initialized = false) :
    unflushed = none := by
  rw [tallies.tally, tallies.closed closed, Option.map_none]

/-- The balances before an operation are those that the store shows. -/
theorem Tallies.held_eq (tallies : Tallies sound table unflushed s) (id : AccountId) :
    held unflushed (table s.medium) id = (s.visible table)[id]? := by
  rw [held, tallies.tally, getElem?_visible, staged?]
  cases hstaging : s.staging with
  | none => rfl
  | some staging =>
      have hfaithful := tallies.staged hstaging
      simp only [Option.map_some, Option.bind_some, Staging.getElem?_written]
      cases hentry : staging[id]? with
      | none => rfl
      | some entry =>
          cases hwritten : entry.written with
          | true => simp [hwritten]
          | false => simp [hwritten, hfaithful.unwritten hentry hwritten]

theorem Tallies.withMedium (tallies : Tallies sound table unflushed s) {m : S} (hsound : sound m)
    (same : table m = table s.medium) : Tallies sound table unflushed { s with medium := m } where
  medium := hsound
  staged hstaging := same ▸ tallies.staged hstaging
  closed := tallies.closed
  tally := tallies.tally

theorem Tallies.loaded (shows : b.Shows sound table) (tallies : Tallies sound table unflushed s)
    (id : AccountId) : Tallies sound table unflushed (loaded b id s) :=
  tallies.withMedium (shows.load_sound id tallies.medium) (shows.load_table id tallies.medium)

/-- To copy a committed account is not to write it. -/
theorem Tallies.copied (tallies : Tallies sound table unflushed s) (unstaged : s.staged? id = none)
    {balance : Balance} (committed : (table s.medium)[id]? = some balance) :
    Tallies sound table unflushed (copied id balance s) where
  toCoherent := (tallies.toCoherent.reaches_copied unstaged committed).coherent
  closed closed := by
    have hidle := tallies.closed closed
    rw [Store.copied, hidle, Option.map_none]
  tally := by
    rw [tallies.tally, Store.copied]
    cases hstaging : s.staging with
    | none => rfl
    | some staging =>
        have habsent : staging[id]? = none := (staged?_of_staging hstaging id).symm.trans unstaged
        rw [Option.map_some, Option.map_some, Option.map_some,
          Staging.written_insert_read habsent]

/-- Reading writes nothing. -/
theorem reading_tallies (shows : b.Shows sound table) (unflushed : Unflushed) :
    Reading b (Run.Preserved (Tallies sound table unflushed)) where
  ready := ensureInitialized_along
  load id s tallies := tallies.loaded shows id
  loadAll s tallies := tallies.withMedium (shows.loadAll_sound tallies.medium)
    (shows.loadAll_table tallies.medium)
  peek id s tallies := by
    rw [peek_apply]
    cases s.staged? id with
    | some entry => exact tallies
    | none => exact tallies.loaded shows id
  observe id s tallies := by
    rw [observe_apply]
    cases hstaged : s.staged? id with
    | some entry => exact tallies
    | none =>
        have hloaded := tallies.loaded shows id
        dsimp only
        split
        · next account hanswer =>
            refine hloaded.copied hstaged ?_
            have hfound := shows.load_answer tallies.medium hanswer
            rw [Store.loaded, shows.load_table id tallies.medium]
            rw [Table.account?, eq_comm, Option.map_eq_some_iff] at hfound
            obtain ⟨balance, hheld, rfl⟩ := hfound
            exact hheld
        · exact hloaded
        · exact hloaded

theorem look_along {R : Store S → Store S → Prop} [IsPreorder (Store S) R] (reading : Reading b R)
    (op : Op) : Run.Along R (op.look b) := by
  cases op with
  | create id balance => exact reading.peek id
  | update id delta => exact reading.observe id
  | start | close | contains | getAccount | getBalance | accounts | begin | commit | rollback =>
      exact Run.Along.pure _

/-- The account is found as the store shows it, unless it cannot be looked at. -/
theorem look_ends (shows : b.Shows sound table) (coherent : s.Coherent sound table)
    (target : op.target? = some id) :
    Ends sound table s (.ok (s.visible table)[id]?, s.visible table) (fun _ => True)
      (op.look b s) := by
  rcases Op.target?_eq_some_iff.mp target with ⟨balance, rfl⟩ | ⟨delta, rfl⟩
  · exact (peek_ends shows coherent id).imp_failure fun _ _ => trivial
  · exact (observe_ends shows coherent id).imp_failure fun _ _ => trivial

/-- Outside of transactions the account is looked at on the medium. -/
theorem look_of_idle (idle : s.staging = none) (target : op.target? = some id) :
    op.look b s = ((b.load id s.medium).1.map (·.map (·.balance)), loaded b id s) := by
  rcases Op.target?_eq_some_iff.mp target with ⟨balance, rfl⟩ | ⟨delta, rfl⟩
  · exact peek_of_idle idle id
  · exact observe_of_idle idle id

/-- Outside of transactions an operation that writes an account fails after it looked at the
account on the medium, or passes its checks and flushes the account. -/
theorem perform_of_idle (opened : s.initialized = true) (idle : s.staging = none)
    (target : op.target? = some id) :
    ((∀ answer, (b.load id s.medium).1 = .ok answer → ¬ op.Allowed (answer.map (·.balance))) ∧
        ∃ e, perform b op s = (.error e, loaded b id s)) ∨
      ∃ answer, (b.load id s.medium).1 = .ok answer ∧ op.Allowed (answer.map (·.balance)) ∧
        perform b op s = ((fun _ => Answer.done) <$> onMedium (b.flush
          [⟨id, answer.map (·.balance), op.outcome (answer.map (·.balance))⟩])) (loaded b id s) := by
  have hruns := perform_of_target (b := b) opened target
  rw [look_of_idle idle target] at hruns
  have hidle : (loaded b id s).staging = none := idle
  cases hload : (b.load id s.medium).1 with
  | error e =>
      rw [hload] at hruns
      obtain ⟨e, -, hrun⟩ | ⟨_, hfound, -⟩ := hruns
      · exact .inl ⟨nofun, e, hrun⟩
      · cases hfound
  | ok answer =>
      rw [hload] at hruns
      obtain ⟨_, hfailed, -⟩ | ⟨found, hlooked, hruns⟩ := hruns
      · cases hfailed
      · obtain rfl : answer.map (·.balance) = found := Except.ok.inj hlooked
        obtain ⟨hrefused, e, hrun⟩ | ⟨hallowed, hrun⟩ := hruns
        · refine .inl ⟨fun other hother => ?_, e, hrun⟩
          cases hother
          exact hrefused
        · refine .inr ⟨answer, rfl, hallowed, ?_⟩
          rw [hrun, Run.map_apply, Run.map_apply, write_of_idle hidle]

theorem unflushedAfter_of_target (target : op.target? = some id) (committed : Table)
    (answer : Except StoreError Answer) : unflushedAfter committed op answer unflushed =
      if answer.isOk then
        unflushed.map (·.insert id (op.outcome (held unflushed committed id)))
      else unflushed := by
  rcases Op.target?_eq_some_iff.mp target with ⟨balance, rfl⟩ | ⟨delta, rfl⟩ <;> rfl

/-- A write is counted in, or it is flushed at once. -/
theorem Tallies.write (holds : b.Holds sound table) (tallies : Tallies sound table unflushed s)
    (id : AccountId) (balance : Balance) :
    Tallies sound table
      (if (write b id (s.visible table)[id]? balance s).1.isOk then
        unflushed.map (·.insert id balance)
      else unflushed)
      (write b id (s.visible table)[id]? balance s).2 := by
  cases hstaging : s.staging with
  | none =>
      have hnone : unflushed = none := by rw [tallies.tally, hstaging, Option.map_none]
      have hadmits : (table s.medium).Admits [⟨id, (s.visible table)[id]?, balance⟩] :=
        Table.admits_singleton (by rw [visible_of_idle table hstaging])
      rw [hnone, Option.map_none, ite_self, write_of_idle hstaging]
      exact .of_idle (holds.flush_sound tallies.medium hadmits) hstaging
  | some staging =>
      have hwrite : Store.write b id (s.visible table)[id]? balance s =
          (.ok (), { s with staging := some (staging.write id (s.visible table)[id]? balance) }) := by
        rw [write_apply, hstaging]
      rw [hwrite]
      exact
        { medium := tallies.medium
          staged := by
            rintro _ ⟨rfl⟩
            rw [visible_of_staging hstaging]
            exact (tallies.staged hstaging).write balance
          closed := fun closed => by cases hstaging.symm.trans (tallies.closed closed)
          tally := by
            rw [tallies.tally, hstaging]
            exact congrArg some (Staging.written_write _ _).symm }

/-- A closed store has no transaction, and nothing but a start changes that. -/
theorem perform_tallies_of_closed (tallies : Tallies sound table unflushed s)
    (closed : s.initialized = false) (waits : op ≠ .start) :
    Tallies sound table (unflushedAfter (table s.medium) op (perform b op s).1 unflushed)
      (perform b op s).2 := by
  obtain rfl := tallies.idle closed
  have hnothing : unflushedAfter (table s.medium) op (.error .notInitialized) none = none := by
    cases op <;> rfl
  rw [perform_of_closed closed waits, hnothing]
  exact tallies

/-- An operation that neither writes an account nor opens or ends anything leaves what was written
alone. -/
theorem perform_tallies_of_reading (shows : b.Shows sound table)
    (tallies : Tallies sound table unflushed s)
    (quiet : op.target? = none ∧ op ≠ .start ∧ op ≠ .close ∧ op ≠ .begin ∧ op ≠ .commit ∧
      op ≠ .rollback) : Tallies sound table unflushed (perform b op s).2 := by
  obtain ⟨huntargeted, hstart, hclose, hbegin, hcommit, hrollback⟩ := quiet
  apply (reading_tallies shows unflushed).perform_along _ _ (absurd · hstart) (absurd · hclose)
    (absurd · hbegin) (absurd · hcommit) (absurd · hrollback) s tallies
  · rintro id balance rfl
    cases huntargeted
  · rintro id delta rfl
    cases huntargeted

theorem perform_tallies_of_target (holds : b.Holds sound table)
    (tallies : Tallies sound table unflushed s) (opened : s.initialized = true)
    (target : op.target? = some id) :
    Tallies sound table (unflushedAfter (table s.medium) op (perform b op s).1 unflushed)
      (perform b op s).2 := by
  rw [unflushedAfter_of_target target]
  have hlooked := look_along (reading_tallies holds.toShows unflushed) op s tallies
  have hends := look_ends holds.toShows tallies.toCoherent target
  obtain ⟨e, -, hrun⟩ | ⟨found, hfound, ⟨-, e, hrun⟩ | ⟨-, hrun⟩⟩ :=
    perform_of_target (b := b) opened target
  · rw [hrun]
    exact hlooked
  · rw [hrun]
    exact hlooked
  · rw [hrun, Run.map_apply, tallies.held_eq]
    generalize op.look b s = look at hlooked hends hfound
    cases hends with
    | failed _ reached => cases hfound
    | @done mid reached =>
        cases hfound
        have hwrite := hlooked.write holds id (op.outcome (s.visible table)[id]?)
        rw [reached.visible] at hwrite
        cases hanswer : (Store.write b id (s.visible table)[id]?
            (op.outcome (s.visible table)[id]?) mid).1 with
        | error e =>
            rw [hanswer] at hwrite
            exact hwrite
        | ok =>
            rw [hanswer] at hwrite
            exact hwrite

/-- After any operation, what the transaction is said to have written is what it has. -/
theorem perform_tallies (holds : b.Holds sound table) (tallies : Tallies sound table unflushed s)
    (op : Op) :
    Tallies sound table (unflushedAfter (table s.medium) op (perform b op s).1 unflushed)
      (perform b op s).2 := by
  cases hopened : s.initialized with
  | false =>
      by_cases hstart : op = .start
      · subst hstart
        change Tallies sound table unflushed (perform b .start s).2
        rw [perform, Run.map_apply, start_of_closed hopened, tallies.idle hopened]
        split <;> exact .of_idle (holds.connect_sound tallies.medium) (tallies.closed hopened)
      · exact perform_tallies_of_closed tallies hopened hstart
  | true =>
      cases op with
      | create id balance => exact perform_tallies_of_target holds tallies hopened rfl
      | update id delta => exact perform_tallies_of_target holds tallies hopened rfl
      | contains | getAccount | getBalance | accounts =>
          exact perform_tallies_of_reading holds.toShows tallies (by simp [Op.target?])
      | start =>
          rw [perform, Run.map_apply, start_of_opened hopened]
          exact tallies
      | close =>
          rw [perform, Run.map_apply, close, ensureInitialized_bind hopened, Run.modify_bind_apply]
          exact .of_idle (holds.disconnect_sound tallies.medium) rfl
      | begin =>
          rw [perform, Run.map_apply]
          by_cases htransaction : s.inTransaction = true
          · rw [begin_of_transaction hopened htransaction]
            exact tallies
          · have hidle : s.staging = none := by simpa [inTransaction] using htransaction
            rw [begin_of_idle hopened hidle]
            exact
              { toCoherent := tallies.toCoherent.begun
                closed := fun closed => by cases hopened.symm.trans closed
                tally := congrArg some Staging.written_empty.symm }
      | rollback =>
          rw [perform, Run.map_apply, rollback_apply hopened]
          exact .of_idle tallies.medium rfl
      | commit =>
          rw [perform, Run.map_apply]
          cases hstaging : s.staging with
          | none =>
              rw [commit_of_idle hopened hstaging]
              exact .of_idle tallies.medium hstaging
          | some staging =>
              rw [commit_of_staging hopened hstaging]
              split
              · exact .of_idle tallies.medium rfl
              · exact .of_idle (holds.flush_sound tallies.medium
                  (tallies.staged hstaging).admits_changes) rfl

/-- So it is after any operations. -/
theorem course_tallies (holds : b.Holds sound table) (ops : List Op)
    (tallies : Tallies sound table unflushed s) :
    Tallies sound table (course b table ops (s, unflushed)).2
      (course b table ops (s, unflushed)).1 := by
  induction ops generalizing s unflushed with
  | nil => exact tallies
  | cons op rest ih => exact ih (perform_tallies holds tallies op)

end

end Store

end Clearinghouse
