/-
# What balances a store can come to hold

Over a medium that follows a table, every operation of a store but a creation keeps balances,
committed and staged, within any bounds that admit all balances that are not negative. Nothing
but such balances is ever read. A creation brings the balance that it is asked for, even where
it is reported as failed, but only if it found its account absent, so no balance that was there
before has to do with it.
-/

import Clearinghouse.Proofs.Store.Following

namespace Clearinghouse.Store

variable {S : Type} {b : Backend S} {shows : S → Table → Prop}
  {permits permits' : AccountId → Balance → Prop}

/-- Every balance is one that its account is permitted, on the medium and in the open
transaction. -/
structure Confined (shows : S → Table → Prop) (permits : AccountId → Balance → Prop) (s : Store S)
    (table : Table) : Prop where
  medium : shows s.medium table
  faithful : ∀ {staging}, s.staging = some staging → staging.Faithful table
  closed : s.initialized = false → s.staging = none
  committed : ∀ {id balance}, table[id]? = some balance → permits id balance
  staged : ∀ {id entry}, s.staged? id = some entry → permits id entry.balance

/-- What a store shows over a table. -/
def onto (s : Store S) (table : Table) : Table := s.visible fun _ => table

/-- What an operation that succeeded tells of the balance of an account. -/
def Op.Tells : Op → Answer → AccountId → Balance → Prop
  | .getAccount _, .account account, id, balance => account = ⟨id, balance⟩
  | .getBalance asked, .balance told, id, balance => asked = id ∧ told = balance
  | .accounts, .accounts listed, id, balance => ⟨id, balance⟩ ∈ listed
  | _, _, _, _ => False

/-- To ask whether a store is open changes nothing. -/
theorem ensureInitialized_kept :
    Run.Along (Run.Kept id) (ensureInitialized : Step (Store S) Unit) := by
  intro s
  rw [Run.Kept, ensureInitialized, Run.get_bind_apply]
  cases s.initialized <;> rfl

section

variable {s : Store S} {table later : Table} {id : AccountId} {balance : Balance}

theorem onto_of_idle (idle : s.staging = none) : s.onto table = table := visible_of_idle _ idle

theorem getElem?_onto :
    (s.onto table)[id]? = ((s.staged? id).map (·.balance)).or table[id]? :=
  getElem?_visible

theorem Confined.permits_onto (confined : Confined shows permits s table)
    (shown : (s.onto table)[id]? = some balance) : permits id balance := by
  rw [getElem?_onto] at shown
  cases hstaged : s.staged? id with
  | some entry =>
      rw [hstaged] at shown
      cases shown
      exact confined.staged hstaged
  | none =>
      rw [hstaged] at shown
      exact confined.committed shown

theorem Confined.withMedium (confined : Confined shows permits s table) {m : S}
    (hshows : shows m table) : Confined shows permits { s with medium := m } table where
  medium := hshows
  faithful := confined.faithful
  closed := confined.closed
  committed := confined.committed
  staged := confined.staged

/-- Without a transaction only committed balances matter. -/
theorem Confined.of_idle (hshows : shows s.medium table) (idle : s.staging = none)
    (committed : ∀ {id balance}, table[id]? = some balance → permits id balance) :
    Confined shows permits s table where
  medium := hshows
  faithful hstaging := by cases idle.symm.trans hstaging
  closed _ := idle
  committed := committed
  staged hstaged := by simp [staged?, idle] at hstaged

/-- A medium that comes back as it was or empty holds permitted balances. -/
theorem Confined.held_or_emptied (confined : Confined shows permits s table) {m : S}
    (hshows : shows m table ∨ shows m ∅) : ∃ later, shows m later ∧
      ∀ {id balance}, later[id]? = some balance → permits id balance := by
  obtain hkept | hemptied := hshows
  · exact ⟨table, hkept, confined.committed⟩
  · refine ⟨∅, hemptied, fun {id balance} hheld => ?_⟩
    simp at hheld

/-- Bounds that are new for an account that is not there do as well. -/
theorem Confined.renew (confined : Confined shows permits s table)
    (absent : (s.onto table)[id]? = none)
    (others : ∀ other held, other ≠ id → permits other held → permits' other held) :
    Confined shows permits' s table := by
  rw [getElem?_onto, Option.or_eq_none_iff, Option.map_eq_none_iff] at absent
  refine ⟨confined.medium, confined.faithful, confined.closed, fun {other held} hheld => ?_,
    fun {other entry} hentry => ?_⟩
  · refine others other held ?_ (confined.committed hheld)
    rintro rfl
    cases absent.2.symm.trans hheld
  · refine others other entry.balance ?_ (confined.staged hentry)
    rintro rfl
    cases absent.1.symm.trans hentry

/-- Copying a committed account stages its committed balance. -/
theorem Confined.copied (confined : Confined shows permits s table)
    (committed : table[id]? = some balance) :
    Confined shows permits (copied id balance s) table := by
  obtain ⟨medium, initialized, staging⟩ := s
  cases staging with
  | none => exact confined
  | some staging =>
      refine ⟨confined.medium, ?_, ?_, confined.committed, ?_⟩
      · rintro _ ⟨rfl⟩
        exact (confined.faithful rfl).insert_read committed
      · intro closed
        cases confined.closed closed
      · intro other entry hentry
        have hstaged : (staging.insert id ⟨some balance, balance, false⟩)[other]? = some entry :=
          hentry
        rw [Std.ExtTreeMap.getElem?_insert] at hstaged
        split at hstaged
        · next hid =>
            cases hstaged
            rw [← Std.LawfulEqCmp.eq_of_compare hid]
            exact confined.committed committed
        · exact confined.staged hstaged

end

/-- From a store with permitted balances to another. -/
abbrev ConfinedAlong (shows : S → Table → Prop) (permits : AccountId → Balance → Prop) :
    Store S → Store S → Prop :=
  Run.Preserved fun s => ∃ table, Confined shows permits s table

section

variable {s : Store S} {table : Table} {id : AccountId}

variable (follows : b.Follows shows)
include follows

/-! ## Reading -/

theorem Confined.loaded (confined : Confined shows permits s table) (id : AccountId) :
    Confined shows permits (loaded b id s) table :=
  confined.withMedium (follows.load id confined.medium)

/-- Looking at an account finds what is shown of it. -/
theorem peek_confined (confined : Confined shows permits s table) (id : AccountId) :
    Confined shows permits (peek b id s).2 table ∧
      ∀ found, (peek b id s).1 = .ok found →
        found = (s.onto table)[id]? ∧ (peek b id s).2.onto table = s.onto table := by
  rw [peek_apply]
  cases hstaged : s.staged? id with
  | some entry =>
      refine ⟨confined, ?_⟩
      rintro _ ⟨rfl⟩
      exact ⟨by simp [getElem?_onto, hstaged], rfl⟩
  | none =>
      refine ⟨confined.loaded follows id, fun found hfound => ?_⟩
      cases hanswer : (b.load id s.medium).1 with
      | error e =>
          rw [hanswer] at hfound
          cases hfound
      | ok answer =>
          rw [hanswer] at hfound
          rw [← Except.ok.inj hfound, follows.load_answer confined.medium hanswer]
          refine ⟨?_, rfl⟩
          simp [getElem?_onto, hstaged, Table.account?, Function.comp_def]

/-- So does observing it, and what is shown stays the same. -/
theorem observe_confined (confined : Confined shows permits s table) (id : AccountId) :
    Confined shows permits (observe b id s).2 table ∧
      ∀ found, (observe b id s).1 = .ok found →
        found = (s.onto table)[id]? ∧ (observe b id s).2.onto table = s.onto table := by
  rw [observe_apply]
  cases hstaged : s.staged? id with
  | some entry =>
      refine ⟨confined, ?_⟩
      rintro _ ⟨rfl⟩
      exact ⟨by simp [getElem?_onto, hstaged], rfl⟩
  | none =>
      have hloaded := confined.loaded follows id
      dsimp only
      cases hanswer : (b.load id s.medium).1 with
      | error e => exact ⟨hloaded, nofun⟩
      | ok answer =>
          have hfound := follows.load_answer confined.medium hanswer
          have hcommitted : (s.onto table)[id]? = answer.map (·.balance) := by
            simp [hfound, getElem?_onto, hstaged, Table.account?, Function.comp_def]
          cases answer with
          | none =>
              refine ⟨hloaded, ?_⟩
              rintro _ ⟨rfl⟩
              exact ⟨hcommitted.symm, rfl⟩
          | some account =>
              have htable : table[id]? = some account.balance := by
                rwa [getElem?_onto, hstaged] at hcommitted
              refine ⟨hloaded.copied htable, ?_⟩
              rintro _ ⟨rfl⟩
              refine ⟨hcommitted.symm, ?_⟩
              obtain ⟨medium, initialized, staging⟩ := s
              cases staging with
              | none => rfl
              | some staging => exact Staging.onto_insert_read hstaged htable

/-- What is read of an account is permitted. -/
theorem getAccount_confined (confined : Confined shows permits s table) {asked : AccountId}
    {account : Account} (answered : (getAccount b asked s).1 = .ok account) :
    account.id = asked ∧ permits asked account.balance := by
  obtain ⟨_, -, answered⟩ := ensureInitialized_kept.exists_of_bind_ok answered
  rw [Run.get_bind_apply] at answered
  split at answered
  · obtain ⟨found, s', hobserve, hfound⟩ := Run.exists_of_bind_ok answered
    have hshown := ((observe_confined follows confined asked).2 found
      (congrArg Prod.fst hobserve)).1
    cases found with
    | none => cases hfound
    | some balance =>
        cases hfound
        exact ⟨rfl, confined.permits_onto hshown.symm⟩
  · obtain ⟨found, s', hload, hfound⟩ := Run.exists_of_bind_ok answered
    have hshown := follows.load_answer confined.medium (congrArg Prod.fst hload)
    cases found with
    | none => cases hfound
    | some account =>
        cases hfound
        obtain ⟨balance, hbalance, rfl⟩ := Option.map_eq_some_iff.mp hshown.symm
        exact ⟨rfl, confined.committed hbalance⟩

/-- What is listed is permitted. -/
theorem accounts_confined (confined : Confined shows permits s table) {listed : List Account}
    (answered : (accounts b s).1 = .ok listed) {balance : Balance}
    (named : ⟨id, balance⟩ ∈ listed) : permits id balance := by
  rw [accounts_eq] at answered
  obtain ⟨_, -, answered⟩ := ensureInitialized_kept.exists_of_bind_ok answered
  obtain ⟨committed, s', hload, hlisting⟩ := Run.exists_of_bind_ok answered
  obtain rfl : s' = { s with medium := (b.loadAll s.medium).2 } := by
    rw [onMedium, Run.onPart_apply, Run.map_apply] at hload
    exact (congrArg Prod.snd hload).symm
  have hcommitted : ((tabulate <$> b.loadAll) s.medium).1 = .ok committed := congrArg Prod.fst hload
  obtain ⟨found, hfound, rfl⟩ := Run.map_eq_ok_iff.mp (Prod.ext hcommitted rfl)
  have hlisted := Except.ok.inj hlisting
  rw [← hlisted, Table.mem_accounts, Staging.getElem?_onto] at named
  cases hstaged : (s.staging.getD ∅)[id]? with
  | some entry =>
      have hentry : s.staged? id = some entry := by
        rw [staged?]
        cases hstaging : s.staging with
        | none => simp [hstaging] at hstaged
        | some staging => rwa [hstaging] at hstaged
      rw [hstaged] at named
      cases named
      exact confined.staged hentry
  | none =>
      rw [hstaged] at named
      have hmem := Table.exists_mem_of_tabulate named
      exact confined.committed
        (follows.loadAll_answer confined.medium (congrArg Prod.fst hfound) _ hmem)

/-- Whatever an operation tells of a balance, the balance is permitted. -/
theorem perform_tells (confined : Confined shows permits s table) {op : Op} {answer : Answer}
    (answered : (perform b op s).1 = .ok answer) {balance : Balance}
    (tells : op.Tells answer id balance) : permits id balance := by
  cases op with
  | getAccount asked =>
      obtain ⟨account, haccount, rfl⟩ := Run.map_eq_ok_iff.mp (Prod.ext answered rfl)
      obtain rfl : account = ⟨id, balance⟩ := tells
      obtain ⟨rfl, hpermits⟩ := getAccount_confined follows confined (congrArg Prod.fst haccount)
      exact hpermits
  | getBalance asked =>
      obtain ⟨told, htold, rfl⟩ := Run.map_eq_ok_iff.mp (Prod.ext answered rfl)
      obtain ⟨rfl, rfl⟩ := tells
      obtain ⟨account, s', haccount, hbalance⟩ :=
        Run.exists_of_bind_ok (congrArg Prod.fst htold)
      cases hbalance
      exact (getAccount_confined follows confined (congrArg Prod.fst haccount)).2
  | accounts =>
      obtain ⟨listed, hlisted, rfl⟩ := Run.map_eq_ok_iff.mp (Prod.ext answered rfl)
      have hmem : (⟨id, balance⟩ : Account) ∈ listed := tells
      exact accounts_confined follows confined (congrArg Prod.fst hlisted) hmem
  | start | close | create | contains | update | begin | commit | rollback =>
      exact tells.elim

/-! ## Writing -/

/-- A balance that is written is shown afterwards, if nothing fails. What fails may leave the
balance behind as well, or an account that was opened. -/
theorem write_confined (zero : ∀ id, permits id 0) (confined : Confined shows permits s table)
    {id : AccountId} {balance : Balance} (allowed : permits id balance) :
    ∃ later, Confined shows permits (write b id (s.onto table)[id]? balance s).2 later ∧
      ((write b id (s.onto table)[id]? balance s).1 = .ok () →
        ((write b id (s.onto table)[id]? balance s).2.onto later)[id]? = some balance) := by
  rw [write_apply]
  cases hstaging : s.staging with
  | some staging =>
      have honto : s.onto table = staging.onto table := visible_of_staging hstaging
      refine ⟨table, ⟨confined.medium, ?_, ?_, confined.committed, ?_⟩, fun _ => ?_⟩
      · rintro _ ⟨rfl⟩
        rw [honto]
        exact (confined.faithful hstaging).write balance
      · intro closed
        cases hstaging.symm.trans (confined.closed closed)
      · intro other entry hentry
        have hwritten : (staging.write id (s.onto table)[id]? balance)[other]? = some entry := hentry
        rw [Staging.write_eq_insert, Std.ExtTreeMap.getElem?_insert] at hwritten
        split at hwritten
        · next hid =>
            cases hwritten
            rw [← Std.LawfulEqCmp.eq_of_compare hid]
            exact allowed
        · have hstaged : s.staged? other = some entry := by
            rw [staged?, hstaging]
            exact hwritten
          exact confined.staged hstaged
      · have hshown : Store.onto { s with
            staging := some (staging.write id (s.onto table)[id]? balance) } table =
            (staging.write id (s.onto table)[id]? balance).onto table := rfl
        rw [hshown, Staging.onto_write]
        simp
  | none =>
      have honto : s.onto table = table := onto_of_idle hstaging
      have hadmits : table.Admits [⟨id, (s.onto table)[id]?, balance⟩] :=
        Table.admits_singleton (by rw [honto])
      have hrecorded : ∀ {other held},
          (table.recordAll [⟨id, (s.onto table)[id]?, balance⟩])[other]? = some held →
          permits other held := by
        intro other held hheld
        rw [Table.recordAll_cons, Table.recordAll_nil, Table.getElem?_record] at hheld
        split at hheld
        · next hid =>
            cases hheld
            exact hid ▸ allowed
        · exact confined.committed hheld
      dsimp only
      rw [onMedium, Run.onPart_apply]
      dsimp only
      cases hanswer : (b.flush [⟨id, (s.onto table)[id]?, balance⟩] s.medium).1 with
      | ok =>
          refine ⟨_, .of_idle (follows.flush_done confined.medium hadmits hanswer) hstaging
            hrecorded, fun _ => ?_⟩
          refine (congrArg (fun shown : Table => shown[id]?) (onto_of_idle hstaging)).trans ?_
          simp
      | error e =>
          obtain ⟨later, hbroken, hshows⟩ := follows.flush_failed confined.medium hadmits hanswer
          refine ⟨later, .of_idle hshows hstaging fun {other held} hheld => ?_,
            fun hdone => by cases hdone⟩
          obtain rfl | rfl | rfl := hbroken.of_singleton
          · exact confined.committed hheld
          · exact hrecorded hheld
          · rw [Std.ExtTreeMap.getElem?_insert] at hheld
            split at hheld
            · cases hheld
              exact zero other
            · exact confined.committed hheld

/-- No update leaves a balance negative: the exact sum is a balance that is not. -/
theorem update_confined (nonneg : ∀ id balance, 0 ≤ balance → permits id balance)
    (confined : Confined shows permits s table) (id : AccountId) (delta : Balance) :
    ∃ later, Confined shows permits (update b id delta s).2 later ∧
      ((update b id delta s).1 = .ok () →
        ∃ balance, ((update b id delta s).2.onto later)[id]? = some balance ∧ 0 ≤ balance ∧
          balance.toInt = (((s.onto table)[id]?).map (·.toInt)).getD 0 + delta.toInt) := by
  have hzero : ∀ id, permits id 0 := fun id => nonneg id 0 (by decide)
  cases hopened : s.initialized with
  | false =>
      rw [update, ensureInitialized_bind_of_closed hopened]
      exact ⟨table, confined, fun hdone => by cases hdone⟩
  | true =>
      obtain ⟨hobserved, hfound⟩ := observe_confined follows confined id
      obtain ⟨e, hrun⟩ | ⟨found, balance, hanswer, hrun, hbalance, hexact, -⟩ :=
        update_cases (b := b) hopened id delta
      · rw [hrun]
        exact ⟨table, hobserved, fun hdone => by cases hdone⟩
      · obtain ⟨hshown, hsame⟩ := hfound found hanswer
        rw [← hsame] at hshown ⊢
        rw [hrun, hshown]
        obtain ⟨later, hlater, hwritten⟩ := write_confined follows hzero hobserved
          (nonneg id balance hbalance)
        exact ⟨later, hlater, fun hdone => ⟨balance, hwritten hdone, hbalance, hshown ▸ hexact⟩⟩

/-- A creation keeps balances within bounds that permit what it brings, unless the account is
there already, in which case it brings nothing. -/
theorem create_confined (zero : ∀ id, permits id 0) (confined : Confined shows permits s table)
    {id : AccountId} {balance : Balance}
    (allowed : (s.onto table)[id]? = none → permits id balance) :
    ∃ later, Confined shows permits (create b id balance s).2 later := by
  cases hopened : s.initialized with
  | false =>
      rw [create, ensureInitialized_bind_of_closed hopened]
      exact ⟨table, confined⟩
  | true =>
      obtain ⟨hpeeked, hfound⟩ := peek_confined follows confined id
      rw [create, ensureInitialized_bind hopened]
      rcases hrun : peek b id s with ⟨answer, mid⟩
      rw [hrun] at hpeeked hfound
      cases answer with
      | error e =>
          rw [Run.bind_of_error hrun]
          exact ⟨table, hpeeked⟩
      | ok found =>
          obtain ⟨hshown, hsame⟩ := hfound found rfl
          rw [Run.bind_of_ok hrun]
          cases found with
          | some held => exact ⟨table, hpeeked⟩
          | none =>
              have hwritten := write_confined follows zero hpeeked (allowed hshown.symm)
              rw [hsame, ← hshown] at hwritten
              obtain ⟨later, hlater, -⟩ := hwritten
              exact ⟨later, hlater⟩

/-- A commit writes permitted balances, as far as it gets. -/
theorem commit_confined (zero : ∀ id, permits id 0) (confined : Confined shows permits s table) :
    ∃ later, Confined shows permits (commit b s).2 later := by
  cases hopened : s.initialized with
  | false =>
      rw [commit, ensureInitialized_bind_of_closed hopened]
      exact ⟨table, confined⟩
  | true =>
      cases hstaging : s.staging with
      | none =>
          rw [commit_of_idle hopened hstaging]
          exact ⟨table, confined⟩
      | some staging =>
          rw [commit_of_staging hopened hstaging]
          have hdropped : Confined shows permits (dropped s) table :=
            .of_idle confined.medium rfl confined.committed
          have hadmits := (confined.faithful hstaging).admits_changes
          have hwritten : ∀ change ∈ staging.changes, permits change.id change.balance := by
            intro change hmem
            obtain ⟨entry, hentry, -, heq⟩ := Staging.mem_changes.mp hmem
            have hstaged : s.staged? change.id = some entry := by
              rw [staged?, hstaging]
              exact hentry
            have hbalance : change.balance = entry.balance := congrArg Change.balance heq
            exact hbalance ▸ confined.staged hstaged
          split
          · exact ⟨table, hdropped⟩
          rw [onMedium, Run.onPart_apply]
          cases hanswer : (b.flush staging.changes s.medium).1 with
          | ok =>
              refine ⟨_, .of_idle (follows.flush_done confined.medium hadmits hanswer) rfl
                fun {id held} hheld => ?_⟩
              obtain hkept | ⟨change, hmem, rfl, hchange⟩ :=
                table.getElem?_recordAll_cases staging.changes id
              · exact confined.committed (hkept.symm.trans hheld)
              · cases hchange.symm.trans hheld
                exact hwritten change hmem
          | error e =>
              obtain ⟨later, hbroken, hshows⟩ :=
                follows.flush_failed confined.medium hadmits hanswer
              refine ⟨later, .of_idle hshows rfl fun {id held} hheld => ?_⟩
              obtain hkept | hnothing | ⟨change, hmem, rfl, hchange⟩ := hbroken.getElem?_cases id
              · exact confined.committed (hkept.symm.trans hheld)
              · cases hnothing.symm.trans hheld
                exact zero id
              · cases hchange.symm.trans hheld
                exact hwritten change hmem

/-! ## Every operation -/

theorem start_confined (confined : Confined shows permits s table) :
    ∃ later, Confined shows permits (start b s).2 later := by
  cases hopened : s.initialized with
  | true =>
      rw [start_of_opened hopened]
      exact ⟨table, confined⟩
  | false =>
      have hidle := confined.closed hopened
      obtain ⟨later, hshows, hcommitted⟩ :=
        confined.held_or_emptied (follows.connect confined.medium)
      rw [start_of_closed hopened]
      split <;> exact ⟨later, .of_idle hshows hidle hcommitted⟩

theorem close_confined (confined : Confined shows permits s table) :
    ∃ later, Confined shows permits (close b s).2 later := by
  cases hopened : s.initialized with
  | false =>
      rw [close, ensureInitialized_bind_of_closed hopened]
      exact ⟨table, confined⟩
  | true =>
      obtain ⟨later, hshows, hcommitted⟩ :=
        confined.held_or_emptied (follows.disconnect confined.medium)
      rw [close, ensureInitialized_bind hopened, Run.modify_bind_apply]
      exact ⟨later, .of_idle hshows rfl hcommitted⟩

/-- Reading accounts keeps balances within their bounds. -/
theorem reading_confined : Reading b (ConfinedAlong shows permits) where
  ready s := by
    rw [show (ensureInitialized s).2 = s from ensureInitialized_kept s]
    exact id
  load id s := fun ⟨table, confined⟩ => ⟨table, confined.loaded follows id⟩
  loadAll s := fun ⟨table, confined⟩ =>
    ⟨table, confined.withMedium (follows.loadAll confined.medium)⟩
  peek id s := fun ⟨table, confined⟩ => ⟨table, (peek_confined follows confined id).1⟩
  observe id s := fun ⟨table, confined⟩ => ⟨table, (observe_confined follows confined id).1⟩

omit follows in
theorem begin_confined : Run.Along (ConfinedAlong shows permits) (begin : Step (Store S) Unit) := by
  rintro s ⟨table, confined⟩
  cases hopened : s.initialized with
  | false =>
      rw [begin, ensureInitialized_bind_of_closed hopened]
      exact ⟨table, confined⟩
  | true =>
      cases hstaging : s.staging with
      | some staging =>
          rw [begin_of_transaction hopened (by rw [inTransaction, hstaging]; rfl)]
          exact ⟨table, confined⟩
      | none =>
          rw [begin_of_idle hopened hstaging]
          refine ⟨table, confined.medium, ?_, ?_, confined.committed, ?_⟩
          · rintro _ ⟨rfl⟩
            exact Staging.faithful_empty
          · intro closed
            cases hopened.symm.trans closed
          · intro id entry hentry
            simp [begun, staged?] at hentry

omit follows in
theorem rollback_confined :
    Run.Along (ConfinedAlong shows permits) (rollback : Step (Store S) Unit) := by
  rintro s ⟨table, confined⟩
  cases hopened : s.initialized with
  | false =>
      rw [rollback, ensureInitialized_bind_of_closed hopened]
      exact ⟨table, confined⟩
  | true =>
      rw [rollback_apply hopened]
      exact ⟨table, .of_idle confined.medium rfl confined.committed⟩

/-- Whatever a store does but create accounts, it keeps balances within bounds that admit all
that are not negative. -/
theorem perform_confined (nonneg : ∀ id balance, 0 ≤ balance → permits id balance) {op : Op}
    (brings : ∀ id balance, op ≠ .create id balance) :
    Run.Along (ConfinedAlong shows permits) (perform b op) := by
  refine (reading_confined follows).perform_along
    (fun id balance hcreates => absurd hcreates (brings id balance)) (fun id delta _ s => ?_)
    (fun _ s => ?_) (fun _ s => ?_) (fun _ => begin_confined) (fun _ s => ?_)
    fun _ => rollback_confined
  · rintro ⟨table, confined⟩
    obtain ⟨later, hlater, -⟩ := update_confined follows nonneg confined id delta
    exact ⟨later, hlater⟩
  · rintro ⟨table, confined⟩
    exact start_confined follows confined
  · rintro ⟨table, confined⟩
    exact close_confined follows confined
  · rintro ⟨table, confined⟩
    exact commit_confined follows (fun id => nonneg id 0 (by decide)) confined

end

end Clearinghouse.Store
