/-
# Balances are negative only as seeded

A store over a medium of any kind that was empty at first is asked for operations and
processes batches, while failures are armed at will. An account that is negative, committed or
staged, then has the very balance that it was created with, for nothing but a creation brings
a negative balance into being. So where nobody creates an account with a negative balance,
none is ever held or read.
-/

import Clearinghouse.Proofs.Batch.Along
import Clearinghouse.Proofs.Batch.Committed
import Clearinghouse.Proofs.Cache.Following
import Clearinghouse.Proofs.Ledger.Following
import Clearinghouse.Proofs.Medium.Following
import Clearinghouse.Proofs.Store.Confinement
import Mathlib.Logic.Function.Basic

namespace Clearinghouse

/-! ## The media follow tables -/

namespace Adapter

/-- The accounts of a medium come to a table. -/
def Holds : (adapter : Adapter) → adapter.State → Table → Prop
  | recording => fun m table => m.table = table
  | memory => fun m table => m = table
  | keyStore _ => fun m table => KeyStore.Holds m.1 table
  | rowStore => fun m table => RowStore.table m = table
  | cache => Cache.InProcess.Holds
  | ledger => fun m table => m.2.ledger.Holds table
  | simulation => fun m table => m.2.Holds table
  | withOutages inner => fun m table => inner.Holds m.1 table

/-- A medium without accounts. On a ledger not even the system account is there. -/
def Blank : (adapter : Adapter) → adapter.State → Prop
  | recording => fun m => m.table = ∅
  | memory => fun m => m = (∅ : Table)
  | keyStore _ => fun m => KeyStore.treeOf m.1 = ∅
  | rowStore => fun m => RowStore.table m = ∅
  | cache => fun m => m.2.entries = ∅
  | ledger => fun m => m.2.ledger.accounts = ∅
  | simulation => fun m => m.2.accounts = ∅
  | withOutages inner => fun m => inner.Blank m.1

theorem follows (adapter : Adapter) : adapter.backend.Follows adapter.Holds := by
  induction adapter with
  | recording => exact Recording.backend_follows
  | memory => exact Memory.backend_follows
  | keyStore disk => exact (KeyStore.backendOn_wraps disk).follows KeyStore.backend_follows
  | rowStore => exact RowStore.backend_follows
  | cache => exact Cache.InProcess.backend_follows
  | ledger =>
      exact Ledger.backend_follows Ledger.Guarded.ledger_keeps
        (Ledger.Guarded.connect_kept fun book => rfl)
  | simulation => exact Ledger.backend_follows Ledger.Book.service_keeps fun book => rfl
  | withOutages inner ih => exact inner.backend.withOutages_wraps.follows ih

variable {adapter : Adapter} {m m' : adapter.State} {table : Table}

theorem Blank.holds (blank : adapter.Blank m) : adapter.Holds m ∅ := by
  induction adapter with
  | recording =>
      have hempty : m.table = ∅ := blank
      exact hempty
  | memory =>
      have hempty : m = (∅ : Table) := blank
      exact hempty
  | keyStore disk =>
      have hempty : KeyStore.treeOf m.1 = ∅ := blank
      exact Layout.denotes_empty fun k => by simp [hempty]
  | rowStore =>
      have hempty : RowStore.table m = ∅ := blank
      exact hempty
  | cache =>
      have hempty : m.2.entries = ∅ := blank
      exact Layout.denotes_empty fun k => by simp [hempty]
  | ledger =>
      have hempty : m.2.ledger.accounts = ∅ := blank
      exact ⟨fun hfound => by simp [hempty] at hfound, fun id => by simp [hempty]⟩
  | simulation =>
      have hempty : m.2.accounts = ∅ := blank
      exact ⟨fun hfound => by simp [hempty] at hfound, fun id => by simp [hempty]⟩
  | withOutages inner ih =>
      have hinner : inner.Blank m.1 := blank
      exact ih hinner

theorem Holds.rearmed (holds : adapter.Holds m table) (rearmed : adapter.Rearmed m m') :
    adapter.Holds m' table := by
  induction adapter with
  | recording => exact rearmed.1.trans holds
  | memory | rowStore =>
      cases (show m' = m from rearmed)
      exact holds
  | keyStore disk =>
      have hsame : m'.1 = m.1 := rearmed
      change KeyStore.Holds m'.1 table
      rw [hsame]
      exact holds
  | cache =>
      obtain ⟨hhandle, hentries⟩ := rearmed
      change m'.1.settings.layout.Denotes (fun key => m'.2.entries[key]?) table
      rw [hhandle, hentries]
      exact holds
  | ledger => exact Ledger.Book.holds_congr rearmed.2 holds
  | simulation => exact Ledger.Book.holds_congr rearmed.2 holds
  | withOutages inner ih => exact ih holds rearmed

theorem Holds.holdings_eq (holds : adapter.Holds m table) :
    adapter.holdings m = table.holdings := by
  induction adapter with
  | recording | memory | rowStore => exact congrArg Table.holdings holds
  | keyStore disk =>
      have hdenotes : KeyStore.Holds m.1 table := holds
      funext id
      have hheld : (KeyStore.treeOf m.1)[KeyStore.key id]? = _ := hdenotes.held id
      change KeyStore.holdings (KeyStore.treeOf m.1) id = table.holdings id
      rw [KeyStore.holdings, hheld, Table.account?, Table.holdings]
      cases table[id]? <;> simp [KeyStore.layout, KeyStore.decode_encode]
  | cache =>
      have hdenotes : Cache.InProcess.Holds m table := holds
      funext id
      have hheld : m.2.entries[m.1.settings.key id]? = _ := hdenotes.held id
      change Cache.InProcess.holdings m.1.settings m.2.entries id = table.holdings id
      rw [Cache.InProcess.holdings, hheld, Table.account?, Table.holdings]
      cases table[id]? <;> simp [Cache.Settings.layout, Cache.decode_encode]
  | ledger => exact funext fun id => holds.held id
  | simulation => exact funext fun id => holds.held id
  | withOutages inner ih => exact ih holds

/-- What a store shows of the accounts: what is staged, or else what the medium holds. -/
def shown (s : Store adapter.State) : Holdings := fun id =>
  ((s.staged? id).map (·.balance.toInt)).or (adapter.holdings s.medium id)

theorem shown_eq {permits : AccountId → Balance → Prop} {s : Store adapter.State}
    (confined : Store.Confined adapter.Holds permits s table) :
    adapter.shown s = (s.onto table).holdings := by
  funext id
  rw [shown, confined.medium.holdings_eq, Table.holdings, Table.holdings, Store.getElem?_onto]
  cases s.staged? id <;> rfl

end Adapter

/-! ## The use of a store -/

/-- The balances that accounts were last created with when they were not there. -/
abbrev Seeds := AccountId → Option Balance

/-- A balance of an account may be negative only if the account was created with it. -/
def Seeds.Allow (sown : Seeds) (id : AccountId) (balance : Balance) : Prop :=
  balance < 0 → sown id = some balance

theorem Seeds.allow_of_nonneg (sown : Seeds) (id : AccountId) (balance : Balance)
    (nonneg : 0 ≤ balance) : sown.Allow id balance :=
  fun negative => absurd negative (Int64.not_lt.mpr nonneg)

namespace Usage

variable {S : Type}

/-- What happens to a store: it is asked for an operation, it processes a batch, or its medium
is disturbed. -/
inductive Event (S : Type)
  | call (op : Store.Op)
  | batch (keys : KeyRegistry) (policy : Policy) (tx : Transaction)
  | disturbance (disturb : S → S)

section

variable (b : Backend S)

/-- The store after an event. -/
def Event.after : Event S → Store S → Store S
  | .call op, s => (Store.perform b op s).2
  | .batch keys policy tx, s => (Batch.process b keys policy tx s).2
  | .disturbance disturb, s => { s with medium := disturb s.medium }

/-- The seeds after an event, where a store shows accounts. To create an account that is not
there sows its balance, whatever the answer: the medium may have taken in what it reports as
failed. -/
def Event.sows (shown : Store S → Holdings) : Event S → Store S → Seeds → Seeds
  | .call (.create id balance), s, sown =>
    if shown s id = none then Function.update sown id (some balance) else sown
  | _, _, sown => sown

/-- The store after a history. -/
def final (history : List (Event S)) (s : Store S) : Store S :=
  history.foldl (fun s event => event.after b s) s

/-- The seeds after a history. -/
def seeds (shown : Store S → Holdings) : List (Event S) → Store S → Seeds → Seeds
  | [], _, sown => sown
  | event :: rest, s, sown => seeds shown rest (event.after b s) (event.sows shown s sown)

end

variable {b : Backend S} {shows : S → Table → Prop} {shown : Store S → Holdings} {s : Store S}
  {table : Table}

/-- A batch keeps balances within bounds that admit all that are not negative. -/
theorem working_confined (follows : b.Follows shows) {permits : AccountId → Balance → Prop}
    (nonneg : ∀ id balance, 0 ≤ balance → permits id balance) :
    Batch.Working b (Store.ConfinedAlong shows permits) where
  toReading := Store.reading_confined follows
  update id delta s := by
    rintro ⟨table, confined⟩
    obtain ⟨later, hlater, -⟩ := Store.update_confined follows nonneg confined id delta
    exact ⟨later, hlater⟩
  begin := Store.begin_confined
  commit s := by
    rintro ⟨table, confined⟩
    exact Store.commit_confined follows (fun id => nonneg id 0 (by decide)) confined
  rollback := Store.rollback_confined

/-- An event leaves no negative balances but those that were sown. -/
theorem after_confined (follows : b.Follows shows) (event : Event S)
    (disturbed : ∀ disturb, event = .disturbance disturb → ∀ m table, shows m table →
      shows (disturb m) table) (shown_eq : shown s = (s.onto table).holdings) {sown : Seeds}
    (confined : Store.Confined shows sown.Allow s table) :
    ∃ later, Store.Confined shows (event.sows shown s sown).Allow (event.after b s) later := by
  cases event with
  | disturbance disturb =>
      exact ⟨table, confined.withMedium (disturbed disturb rfl _ _ confined.medium)⟩
  | batch keys policy tx =>
      exact Batch.process_along (working_confined follows sown.allow_of_nonneg) tx s ⟨table, confined⟩
  | call op =>
      by_cases hcreates : ∃ id balance, op = .create id balance
      · obtain ⟨id, balance, rfl⟩ := hcreates
        have hafter : (Event.call (.create id balance)).after b s =
            (Store.create b id balance s).2 :=
          congrArg Prod.snd (Run.map_apply _ (Store.create b id balance) s)
        have hzero : ∀ sown : Seeds, ∀ id, sown.Allow id 0 :=
          fun sown id => sown.allow_of_nonneg id 0 (by decide)
        have habsent : shown s id = none ↔ (s.onto table)[id]? = none := by
          rw [shown_eq, Table.holdings, Option.map_eq_none_iff]
        rw [hafter, Event.sows]
        by_cases hthere : shown s id = none
        · rw [if_pos hthere]
          have hrenewed : Store.Confined shows
              (Seeds.Allow (Function.update sown id (some balance))) s table := by
            refine confined.renew (habsent.mp hthere) fun other held hother hallowed negative => ?_
            exact (Function.update_of_ne hother ..).trans (hallowed negative)
          exact Store.create_confined follows (hzero _) hrenewed
            fun _ _ => Function.update_self ..
        · rw [if_neg hthere]
          exact Store.create_confined follows (hzero _) confined
            fun hnone => absurd (habsent.mpr hnone) hthere
      · have hbrings : ∀ id balance, op ≠ .create id balance := fun id balance hop =>
          hcreates ⟨id, balance, hop⟩
        have hkept := Store.perform_confined follows sown.allow_of_nonneg hbrings s ⟨table, confined⟩
        cases op with
        | create id balance => exact absurd rfl (hbrings id balance)
        | _ => exact hkept

/-- So does a history. -/
theorem final_confined (follows : b.Follows shows) {history : List (Event S)}
    (disturbed : ∀ disturb, .disturbance disturb ∈ history → ∀ m table, shows m table →
      shows (disturb m) table)
    (shown_eq : ∀ {sown : Seeds} {s table}, Store.Confined shows sown.Allow s table →
      shown s = (s.onto table).holdings)
    {sown : Seeds} (confined : Store.Confined shows sown.Allow s table) :
    ∃ later, Store.Confined shows (seeds b shown history s sown).Allow (final b history s)
      later := by
  induction history generalizing s table sown with
  | nil => exact ⟨table, confined⟩
  | cons event rest ih =>
      obtain ⟨mid, hmid⟩ := after_confined follows event
        (fun disturb hevent => disturbed disturb (hevent ▸ List.mem_cons_self))
        (shown_eq confined) confined
      exact ih (fun disturb hmem => disturbed disturb (List.mem_cons_of_mem event hmem)) hmid

/-- What was sown was asked for with that balance. -/
theorem mem_of_seeds {history : List (Event S)} {sown : Seeds} {id : AccountId}
    {balance : Balance} (sows : seeds b shown history s sown id = some balance) :
    sown id = some balance ∨ .call (.create id balance) ∈ history := by
  induction history generalizing s sown with
  | nil => exact .inl sows
  | cons event rest ih =>
      obtain hbefore | hlater := ih sows
      · cases event with
        | batch | disturbance => exact .inl hbefore
        | call op =>
            cases op with
            | create created held =>
                rw [Event.sows] at hbefore
                split at hbefore
                · by_cases hid : id = created
                  · subst hid
                    rw [Function.update_self] at hbefore
                    cases hbefore
                    exact .inr List.mem_cons_self
                  · rw [Function.update_of_ne hid] at hbefore
                    exact .inl hbefore
                · exact .inl hbefore
            | _ => exact .inl hbefore
      · exact .inr (List.mem_cons_of_mem event hlater)

end Usage

namespace Adapter

open Usage

/-- A batch makes no account negative, and moves none that was to another negative balance. -/
theorem held_of_batch {adapter : Adapter} {s : Store adapter.State} {table : Table}
    (holds : adapter.Holds s.medium table) (keys : KeyRegistry) (policy : Policy)
    (tx : Transaction) {id : AccountId} {n : Int} (negative : n < 0)
    (held : adapter.holdings (Batch.process adapter.backend keys policy tx s).2.medium id = some n) :
    adapter.holdings s.medium id = some n := by
  by_cases htransaction : s.inTransaction = true
  · rwa [Batch.process_of_transaction htransaction] at held
  -- The balances of the moment stand in for seeds: no transaction hides others.
  have hidle : s.staging = none := by simpa [Store.inTransaction] using htransaction
  have hseeded : Store.Confined adapter.Holds (Seeds.Allow fun id => table[id]?) s table :=
    .of_idle holds hidle fun hheld _ => hheld
  obtain ⟨later, hlater⟩ := Batch.process_along
    (working_confined adapter.follows (Seeds.allow_of_nonneg _)) tx s ⟨table, hseeded⟩
  rw [hlater.medium.holdings_eq] at held
  obtain ⟨balance, hbalance, rfl⟩ := Option.map_eq_some_iff.mp held
  have hbefore : table[id]? = some balance :=
    hlater.committed hbalance (Int64.lt_iff_toInt_lt.mpr negative)
  rw [holds.holdings_eq, Table.holdings, hbefore, Option.map_some]

/-- A store over a medium that was empty at first. Whatever it is asked for and however its
commits break off, an account that is negative, on the medium, in the open transaction or as
it is read, has the balance that it was created with, even if its creation was reported as
failed. An update that succeeds shows the exact sum, and it is not negative; a batch leaves
negative balances as they are. Where no account is created negative, none ever is. -/
theorem negative_only_as_seeded (adapter : Adapter) {m : adapter.State} (blank : adapter.Blank m)
    (history : List (Event adapter.State))
    (rearming : ∀ disturb, .disturbance disturb ∈ history → ∀ m, adapter.Rearmed m (disturb m)) :
    let s := final adapter.backend history (.new m)
    let sown := seeds adapter.backend adapter.shown history (.new m) fun _ => none
    ((∀ id n, n < 0 → adapter.holdings s.medium id = some n → (sown id).map (·.toInt) = some n) ∧
      (∀ id entry, s.staged? id = some entry → entry.balance < 0 →
        sown id = some entry.balance) ∧
      ∀ op answer id balance, (Store.perform adapter.backend op s).1 = .ok answer →
        op.Tells answer id balance → balance < 0 → sown id = some balance) ∧
    (∀ id delta s', Store.update adapter.backend id delta s = (.ok (), s') →
      ∃ balance : Balance, 0 ≤ balance ∧ adapter.shown s' id = some balance.toInt ∧
        balance.toInt = (adapter.shown s).total id + delta.toInt) ∧
    (∀ keys policy tx id n, n < 0 →
      adapter.holdings (Batch.process adapter.backend keys policy tx s).2.medium id = some n →
      adapter.holdings s.medium id = some n) ∧
    ((∀ id balance, .call (.create id balance) ∈ history → 0 ≤ balance) →
      (∀ id n, adapter.holdings s.medium id = some n → 0 ≤ n) ∧
      (∀ id entry, s.staged? id = some entry → 0 ≤ entry.balance) ∧
      ∀ op answer id balance, (Store.perform adapter.backend op s).1 = .ok answer →
        op.Tells answer id balance → 0 ≤ balance) := by
  intro s sown
  have hblank : Store.Confined adapter.Holds (Seeds.Allow fun _ => none) (.new m) ∅ :=
    .of_idle blank.holds rfl fun {id balance} hheld => by simp at hheld
  obtain ⟨table, confined⟩ : ∃ table, Store.Confined adapter.Holds sown.Allow s table :=
    final_confined adapter.follows (fun disturb hmem m table holds =>
      holds.rearmed (rearming disturb hmem m)) shown_eq hblank
  have hmedium : ∀ id n, n < 0 → adapter.holdings s.medium id = some n →
      (sown id).map (·.toInt) = some n := by
    intro id n negative hheld
    rw [confined.medium.holdings_eq] at hheld
    obtain ⟨balance, hbalance, rfl⟩ := Option.map_eq_some_iff.mp hheld
    rw [confined.committed hbalance (Int64.lt_iff_toInt_lt.mpr negative), Option.map_some]
  have hstaged : ∀ id entry, s.staged? id = some entry → entry.balance < 0 →
      sown id = some entry.balance := fun id entry hentry => confined.staged hentry
  have hread : ∀ op answer id balance, (Store.perform adapter.backend op s).1 = .ok answer →
      op.Tells answer id balance → balance < 0 → sown id = some balance :=
    fun op answer id balance answered => Store.perform_tells adapter.follows confined answered
  refine ⟨⟨hmedium, hstaged, hread⟩, fun id delta s' updated => ?_,
    fun keys policy tx id n negative hheld => ?_, fun nonneg => ?_⟩
  · obtain ⟨later, hlater, hupdated⟩ := Store.update_confined adapter.follows
      sown.allow_of_nonneg confined id delta
    rw [updated] at hlater hupdated
    obtain ⟨balance, hshown, hnonneg, hexact⟩ := hupdated rfl
    refine ⟨balance, hnonneg, ?_, ?_⟩
    · rw [shown_eq hlater, Table.holdings, hshown, Option.map_some]
    · rw [shown_eq confined]
      exact hexact
  · exact held_of_batch confined.medium keys policy tx negative hheld
  · have hsown : ∀ id balance, sown id = some balance → 0 ≤ balance := by
      intro id balance hsown
      obtain hnone | hcreated := mem_of_seeds hsown
      · cases hnone
      · exact nonneg id balance hcreated
    refine ⟨fun id n hheld => ?_, fun id entry hentry => ?_,
      fun op answer id balance answered tells => ?_⟩
    · by_contra hnegative
      obtain ⟨balance, hbalance, rfl⟩ :=
        Option.map_eq_some_iff.mp (hmedium id n (Int.not_le.mp hnegative) hheld)
      exact hnegative (Int64.le_iff_toInt_le.mp (hsown id balance hbalance))
    · by_contra hnegative
      exact hnegative (hsown id _ (hstaged id entry hentry (Int64.not_le.mp hnegative)))
    · by_contra hnegative
      exact hnegative
        (hsown id _ (hread op answer id balance answered tells (Int64.not_le.mp hnegative)))

/-- On a ledger two accounts are created negative in one transaction, and its commit breaks off
between their transfers: the first has its seed, and the second was opened with nothing on it.
On a disk that makes nothing durable an account has the seed of a creation that failed. -/
theorem failures_leave_negative_as_seeded :
    let m : Adapter.ledger.State := (⟨⟨["3000"], 0, false⟩, false, ∅⟩, ⟨Ledger.Book.empty, none⟩)
    let history : List (Event Adapter.ledger.State) :=
      [.call .start, .call .begin, .call (.create 1 (-5)), .call (.create 2 (-7)),
        .disturbance fun m => (m.1, { m.2 with ledger := { m.2.ledger with failAfter := some 1 } }),
        .call .commit, .call (.update 1 3)]
    let s := final Adapter.ledger.backend history (.new m)
    let tree : Adapter := .keyStore (D := Unit) ⟨pure (), throw "disk full"⟩
    let state : tree.State := ((⟨"accounts", false⟩, ∅), ())
    let started := final tree.backend [.call .start] (.new state)
    let creation : List (Event tree.State) := [.call .start, .call (.create 1 (-5))]
    (Adapter.ledger.holdings s.medium 1 = some (-5) ∧
      Adapter.ledger.holdings s.medium 2 = some 0 ∧
      (seeds Adapter.ledger.backend Adapter.ledger.shown history (.new m) (fun _ => none) 1).map
        (·.toInt) = some (-5)) ∧
    (Store.create tree.backend 1 (-5) started).1 =
        .error (.medium "failed to flush accounts tree" "disk full") ∧
      tree.holdings (final tree.backend creation (.new state)).medium 1 = some (-5) ∧
      (seeds tree.backend tree.shown creation (.new state) (fun _ => none) 1).map (·.toInt) =
        some (-5) := by
  intro m history s tree state started creation
  have hrearming : ∀ disturb, .disturbance disturb ∈ history →
      ∀ m, Adapter.ledger.Rearmed m (disturb m) := by
    intro disturb hmem m
    simp only [history, List.mem_cons, List.not_mem_nil, reduceCtorEq, false_or, or_false] at hmem
    rw [Event.disturbance.inj hmem]
    exact ⟨rfl, rfl⟩
  have hempty : Ledger.Book.empty.accounts = ∅ := rfl
  have hblank : Adapter.ledger.Blank m := hempty
  have hfirst : Adapter.ledger.holdings s.medium 1 = some (-5) := by decide +kernel
  have hsecond : Adapter.ledger.holdings s.medium 2 = some 0 := by decide +kernel
  have hundisturbed : ∀ disturb, .disturbance disturb ∈ creation →
      ∀ m, tree.Rearmed m (disturb m) := by
    intro disturb hmem
    simp [creation] at hmem
  have hnothing : KeyStore.treeOf state.1 = ∅ := rfl
  have hbare : tree.Blank state := hnothing
  have hfailed : (Store.create tree.backend 1 (-5) started).1 =
      .error (.medium "failed to flush accounts tree" "disk full") := by decide +kernel
  have hlanded : tree.holdings (final tree.backend creation (.new state)).medium 1 = some (-5) := by
    decide +kernel
  exact ⟨⟨hfirst, hsecond, (negative_only_as_seeded .ledger hblank history hrearming).1.1 1 (-5)
    (by decide) hfirst⟩, hfailed, hlanded,
    (negative_only_as_seeded tree hbare creation hundisturbed).1.1 1 (-5) (by decide) hlanded⟩

end Adapter

end Clearinghouse
