/-
# Listing the accounts of a cache, and reading them one by one

An account is read under its own key, but listed by every key that starts as the settings say and
goes on with a number. A number may be written with zeros in front or with a plus sign, and then
it is in no key that an account is read under. Such a key makes the list fail if it has no account
in it, and shows an account that cannot be read, or one with another balance, if it has. So lists
and readings agree, in whatever order and however often a cache reports its keys, exactly if each
of these keys has an account that is read the same under its own key.
-/

import Clearinghouse.Proofs.Cache.Separate
import Clearinghouse.Proofs.Store.Listing
import Mathlib.Data.List.Induction

namespace Clearinghouse

namespace Store

variable {S : Type}

/-- An open store outside of transactions lists what it reads: the list succeeds and ascends, it
has the accounts that are there and no others, each with the balance that is read. -/
structure ListsAsRead (b : Backend S) (s : Store S) (listed : List Account) : Prop where
  answered : (perform b .accounts s).1 = .ok (.accounts listed)
  ascending : listed.Pairwise fun first later => first.id < later.id
  complete : ∀ id, (perform b (.contains id) s).1 = .ok (.flag true) ↔
    ∃ account ∈ listed, account.id = id
  balances : ∀ account ∈ listed,
    (perform b (.getBalance account.id) s).1 = .ok (.balance account.balance)

end Store

/-! ## Sorted lists -/

namespace Table

/-- Sorting by identifier leaves the accounts with one identifier in their order. -/
theorem filter_mergeSort (accounts : List Account) (id : AccountId) :
    (accounts.mergeSort fun a b => a.id ≤ b.id).filter (·.id = id) =
      accounts.filter (·.id = id) := by
  have hequal : (accounts.filter (·.id = id)).Pairwise fun a b => decide (a.id ≤ b.id) = true := by
    refine List.pairwise_of_forall_mem_list fun a ha b hb => ?_
    rw [List.mem_filter, decide_eq_true_eq] at ha hb
    rw [ha.2, hb.2]
    exact decide_eq_true UInt64.le_rfl
  have hstable : (accounts.filter (·.id = id)).Sublist
      (accounts.mergeSort fun a b => a.id ≤ b.id) := by
    refine List.sublist_mergeSort (fun a b c => ?_) (fun a b => ?_) hequal List.filter_sublist
    · simpa using UInt64.le_trans
    · simpa using UInt64.le_total a.id b.id
  have hfiltered := hstable.filter (·.id = id)
  rw [List.filter_filter] at hfiltered
  simp only [Bool.and_self] at hfiltered
  exact (hfiltered.eq_of_length
    ((List.mergeSort_perm accounts _).filter _).length_eq.symm).symm

/-- Of the accounts with one identifier the last one counts. -/
theorem getElem?_tabulate (accounts : List Account) (id : AccountId) :
    (Store.tabulate accounts)[id]? =
      (accounts.filter (·.id = id)).getLast?.map (·.balance) := by
  induction accounts using List.reverseRecOn with
  | nil => exact Std.ExtTreeMap.getElem?_empty
  | append_singleton first last ih =>
      have htable : Store.tabulate (first ++ [last]) =
          (Store.tabulate first).insert last.id last.balance := List.foldl_concat ..
      rw [htable, Std.ExtTreeMap.getElem?_insert, List.filter_append, List.filter_singleton]
      by_cases hid : last.id = id
      · simp [hid]
      · simp [hid, ih]

/-- Once the accounts are sorted, the one that was last of all still counts. -/
theorem getElem?_tabulate_sorted (first : List Account) (last : Account) :
    (Store.tabulate ((first ++ [last]).mergeSort fun a b => a.id ≤ b.id))[last.id]? =
      some last.balance := by
  rw [getElem?_tabulate, filter_mergeSort, List.filter_append, List.filter_singleton]
  simp

end Table

namespace Cache

/-! ## Texts that are read -/

theorem decodeAll_cons_eq_ok {key text : String} {rest : List (String × Option String)}
    {accounts : List Account} : decodeAll ((key, some text) :: rest) = .ok accounts ↔
      ∃ first others, decode key text = .ok first ∧ decodeAll rest = .ok others ∧
        accounts = first :: others := by
  rw [decodeAll]
  constructor
  · intro read
    cases hfirst : decode key text with
    | error e =>
        rw [hfirst] at read
        cases read
    | ok first =>
        cases hothers : decodeAll rest with
        | error e =>
            rw [hfirst, hothers] at read
            cases read
        | ok others =>
            rw [hfirst, hothers] at read
            exact ⟨first, others, rfl, rfl, (Except.ok.inj read).symm⟩
  · rintro ⟨first, others, hfirst, hothers, rfl⟩
    rw [hfirst, hothers]
    rfl

/-- If every text can be read, all can be. -/
theorem exists_decodeAll {found : List (String × Option String)}
    (readable : ∀ key text, (key, some text) ∈ found → ∃ account, decode key text = .ok account) :
    ∃ accounts, decodeAll found = .ok accounts := by
  induction found with
  | nil => exact ⟨[], rfl⟩
  | cons entry rest ih =>
      obtain ⟨accounts, hrest⟩ := ih fun key text hmem =>
        readable key text (List.mem_cons_of_mem entry hmem)
      obtain ⟨key, _ | text⟩ := entry
      · exact ⟨accounts, hrest⟩
      · obtain ⟨account, hread⟩ := readable key text List.mem_cons_self
        exact ⟨_, decodeAll_cons_eq_ok.mpr ⟨account, accounts, hread, hrest, rfl⟩⟩

/-- What is read are the accounts of the texts. -/
theorem mem_of_decodeAll {found : List (String × Option String)} {accounts : List Account}
    (read : decodeAll found = .ok accounts) {account : Account} :
    account ∈ accounts ↔
      ∃ key text, (key, some text) ∈ found ∧ decode key text = .ok account := by
  induction found generalizing accounts with
  | nil =>
      cases read
      simp
  | cons entry rest ih =>
      obtain ⟨key, _ | text⟩ := entry
      · simpa using ih read
      · obtain ⟨first, others, hfirst, hothers, rfl⟩ := decodeAll_cons_eq_ok.mp read
        rw [List.mem_cons, ih hothers]
        constructor
        · rintro (rfl | ⟨other, text', hmem, hread⟩)
          · exact ⟨key, text, List.mem_cons_self, hfirst⟩
          · exact ⟨other, text', List.mem_cons_of_mem _ hmem, hread⟩
        · rintro ⟨other, text', hmem, hread⟩
          obtain hsame | hlater := List.mem_cons.mp hmem
          · cases hsame
            exact .inl (Except.ok.inj (hread.symm.trans hfirst))
          · exact .inr ⟨other, text', hlater, hread⟩

/-- The last text is read last. -/
theorem exists_last_of_decodeAll {found : List (String × Option String)} {key text : String}
    {accounts : List Account} (read : decodeAll (found ++ [(key, some text)]) = .ok accounts) :
    ∃ first last, decode key text = .ok last ∧ accounts = first ++ [last] := by
  induction found generalizing accounts with
  | nil =>
      obtain ⟨last, others, hlast, hothers, rfl⟩ := decodeAll_cons_eq_ok.mp read
      cases hothers
      exact ⟨[], last, hlast, rfl⟩
  | cons entry rest ih =>
      obtain ⟨other, _ | text'⟩ := entry
      · exact ih read
      · obtain ⟨first, others, -, hothers, rfl⟩ := decodeAll_cons_eq_ok.mp read
        obtain ⟨between, last, hlast, rfl⟩ := ih hothers
        exact ⟨first :: between, last, hlast, rfl⟩

namespace InProcess

/-! ## Reports of keys -/

/-- A way to report keys: in some order, and each any number of times, but at least once. -/
def Reports (report : List String → List String) : Prop :=
  ∀ keys key, key ∈ report keys ↔ key ∈ keys

/-- The client of a cache in this process that reports keys in another way. -/
def reporting (report : List String → List String) : Client InProcess Unit :=
  { client with keys := fun connection pattern => report <$> client.keys connection pattern }

variable {report : List String → List String} {settings : Settings} {state : State Unit InProcess}
  {cache : InProcess}

/-- The keys that a cache lists for those of accounts. -/
def listedKeys (report : List String → List String) (settings : Settings)
    (entries : Std.ExtTreeMap String String) : List String :=
  (report (entries.keys.filter fun key => Glob.accepts settings.pattern.toList key.toList)).filter
    fun key => (settings.id? key).isSome

/-- What goes on with a number starts as the settings say. -/
theorem under_of_id? {key : String} {id : AccountId} (numbered : settings.id? key = some id) :
    Under settings.keyStart key := by
  rw [Settings.id?] at numbered
  split at numbered
  · next hstart => exact List.isPrefixOf_iff_prefix.mp hstart
  · cases numbered

/-- However they are reported, these are the keys with a text that go on with a number. -/
theorem mem_listedKeys (reports : Reports report) {entries : Std.ExtTreeMap String String}
    {key : String} : key ∈ listedKeys report settings entries ↔
      (∃ text, entries[key]? = some text) ∧ ∃ id, settings.id? key = some id := by
  rw [listedKeys, List.mem_filter, reports, List.mem_filter, Settings.accepts_pattern,
    Std.ExtTreeMap.mem_keys, ← Std.ExtTreeMap.isSome_getElem?_iff_mem, Option.isSome_iff_exists,
    Option.isSome_iff_exists]
  exact ⟨fun ⟨⟨held, _⟩, numbered⟩ => ⟨held, numbered⟩,
    fun ⟨held, numbered⟩ => ⟨⟨held, under_of_id? numbered.choose_spec⟩, numbered⟩⟩

/-- The accounts are loaded by the keys listed, and sorted. -/
theorem loadAll_apply (report : List String → List String)
    (connected : state.1.connection = some ()) (on : state.2.isOff = false) :
    (backend (reporting report)).loadAll state =
      ((decodeAll ((listedKeys report state.1.settings state.2.entries).map fun key =>
          (key, state.2.entries[key]?))).map fun accounts =>
        accounts.mergeSort fun a b => a.id ≤ b.id, state) := by
  have hmatching : client.keys () state.1.settings.pattern state.2 =
      (.ok (state.2.entries.keys.filter fun key =>
        Glob.accepts state.1.settings.pattern.toList key.toList), state.2) := ensureOn_bind on _
  have hreported : (reporting report).keys () state.1.settings.pattern state.2 =
      (.ok (report (state.2.entries.keys.filter fun key =>
        Glob.accepts state.1.settings.pattern.toList key.toList)), state.2) :=
    (Run.map_apply ..).trans (congrArg (fun run => (run.1.map report, run.2)) hmatching)
  exact loadAll_of_entries connected (entries_of_keys hreported rfl on)

/-! ## Lists and readings -/

/-- Every account that has a text under its key can be read there. -/
def WellKept (settings : Settings) (entries : Std.ExtTreeMap String String) : Prop :=
  ∀ id text, entries[settings.key id]? = some text →
    ∃ balance, decode (settings.key id) text = .ok ⟨id, balance⟩

/-- An open store outside of transactions, connected to a cache that is switched on. -/
def openStore (settings : Settings) (entries : Std.ExtTreeMap String String)
    (breakAfter : Option Nat) : Store (State Unit InProcess) :=
  ⟨(⟨settings, some ()⟩, ⟨entries, breakAfter, false⟩), true, none⟩

section

variable {entries : Std.ExtTreeMap String String} {breakAfter : Option Nat} {account : Account}

theorem readUnder_eq_some_iff {id : AccountId} : readUnder settings entries id = .ok (some account) ↔
    ∃ text, entries[settings.key id]? = some text ∧ decode (settings.key id) text = .ok account := by
  rw [readUnder]
  cases entries[settings.key id]? with
  | none => simp
  | some text =>
      dsimp only
      cases hread : decode (settings.key id) text with
      | error e => simp [Except.map, hread]
      | ok other => simp [Except.map, hread]

theorem WellKept.own (wellKept : WellKept settings entries) {id : AccountId}
    (read : readUnder settings entries id = .ok (some account)) : account.id = id := by
  obtain ⟨text, hheld, hread⟩ := readUnder_eq_some_iff.mp read
  obtain ⟨balance, howned⟩ := wellKept id text hheld
  rw [howned] at hread
  cases hread
  rfl

theorem load_client (id : AccountId) :
    (backend client).load id (openStore settings entries breakAfter).medium =
      (readUnder settings entries id, (openStore settings entries breakAfter).medium) := by
  have hconnected : (openStore settings entries breakAfter).medium.1.connection = some () := rfl
  exact load_apply hconnected rfl id

/-- However a cache reports its keys, an account is loaded in the same way. -/
theorem load_openStore (id : AccountId) :
    (backend (reporting report)).load id (openStore settings entries breakAfter).medium =
      (readUnder settings entries id, (openStore settings entries breakAfter).medium) :=
  load_client id

theorem getAccount_client {id : AccountId} :
    (Store.perform (backend client) (.getAccount id) (openStore settings entries breakAfter)).1 =
      .ok (.account account) ↔ readUnder settings entries id = .ok (some account) := by
  rw [Store.perform, Run.map_apply, Store.getAccount_of_idle rfl rfl, load_client]
  rcases readUnder settings entries id with e | _ | other <;> simp [Except.map, Except.bind]

theorem contains_openStore (id : AccountId) :
    (Store.perform (backend (reporting report)) (.contains id)
      (openStore settings entries breakAfter)).1 = .ok (.flag true) ↔
      ∃ account, readUnder settings entries id = .ok (some account) := by
  rw [Store.perform, Run.map_apply, Store.contains_apply rfl, Store.peek_of_idle rfl,
    load_openStore]
  rcases readUnder settings entries id with e | _ | account <;> simp [Except.map]

theorem getBalance_openStore {id : AccountId} {balance : Balance} :
    (Store.perform (backend (reporting report)) (.getBalance id)
      (openStore settings entries breakAfter)).1 = .ok (.balance balance) ↔
      ∃ account, readUnder settings entries id = .ok (some account) ∧
        account.balance = balance := by
  rw [Store.perform_getBalance, Run.map_apply, Store.getAccount_of_idle rfl rfl, load_openStore]
  rcases readUnder settings entries id with e | _ | account <;> simp [Except.map, Except.bind]

theorem accounts_openStore :
    (Store.perform (backend (reporting report)) .accounts
      (openStore settings entries breakAfter)).1 =
      (decodeAll ((listedKeys report settings entries).map fun key => (key, entries[key]?))).map
        fun accounts => .accounts ((openStore settings entries breakAfter).overlaid
          (accounts.mergeSort fun a b => a.id ≤ b.id)) := by
  have hload : (backend (reporting report)).loadAll (openStore settings entries breakAfter).medium =
      ((decodeAll ((listedKeys report settings entries).map fun key => (key, entries[key]?))).map
        fun accounts => accounts.mergeSort fun a b => a.id ≤ b.id,
        (openStore settings entries breakAfter).medium) := loadAll_apply report rfl rfl
  rw [Store.perform, Run.map_apply, Store.accounts_of_opened rfl, hload]
  cases decodeAll ((listedKeys report settings entries).map fun key => (key, entries[key]?)) <;> rfl

theorem mem_found (reports : Reports report) {key text : String} :
    (key, some text) ∈ (listedKeys report settings entries).map (fun key => (key, entries[key]?)) ↔
      entries[key]? = some text ∧ ∃ id, settings.id? key = some id := by
  rw [List.mem_map]
  constructor
  · rintro ⟨_, hmem, hentry⟩
    obtain ⟨rfl, hheld⟩ := Prod.mk.inj hentry
    exact ⟨hheld, ((mem_listedKeys reports).mp hmem).2⟩
  · rintro ⟨hheld, hnumbered⟩
    exact ⟨key, (mem_listedKeys reports).mpr ⟨⟨text, hheld⟩, hnumbered⟩, by rw [hheld]⟩

/-- If every key that is listed has an account that is read the same under its own key, the list
is as the readings are. -/
theorem lists_of_read (wellKept : WellKept settings entries) (reports : Reports report)
    (read : ∀ key id text, settings.id? key = some id → entries[key]? = some text →
      ∃ account, decode key text = .ok account ∧
        readUnder settings entries account.id = .ok (some account)) :
    ∃ listed, Store.ListsAsRead (backend (reporting report))
      (openStore settings entries breakAfter) listed := by
  have hreadable : ∀ key text, (key, some text) ∈ (listedKeys report settings entries).map
      (fun key => (key, entries[key]?)) → ∃ account, decode key text = .ok account := by
    intro key text hmem
    obtain ⟨hheld, id, hnumbered⟩ := (mem_found reports).mp hmem
    obtain ⟨account, hread, -⟩ := read key id text hnumbered hheld
    exact ⟨account, hread⟩
  obtain ⟨accounts, hall⟩ := exists_decodeAll hreadable
  let sorted := accounts.mergeSort fun a b => a.id ≤ b.id
  have hmem : ∀ account, account ∈ sorted ↔
      readUnder settings entries account.id = .ok (some account) := by
    intro account
    rw [List.mem_mergeSort, mem_of_decodeAll hall]
    constructor
    · rintro ⟨key, text, hfound, hread⟩
      obtain ⟨hheld, id, hnumbered⟩ := (mem_found reports).mp hfound
      obtain ⟨other, hother, hshown⟩ := read key id text hnumbered hheld
      cases hread.symm.trans hother
      exact hshown
    · intro hshown
      obtain ⟨text, hheld, hread⟩ := readUnder_eq_some_iff.mp hshown
      exact ⟨settings.key account.id, text,
        (mem_found reports).mpr ⟨hheld, account.id, settings.id?_key account.id⟩, hread⟩
  have hlisted : ∀ account, account ∈ (openStore settings entries breakAfter).overlaid sorted ↔
      readUnder settings entries account.id = .ok (some account) := by
    intro account
    rw [Store.mem_overlaid fun account hsorted => (hmem account).mp hsorted, ← hmem]
    simp [openStore]
  refine ⟨(openStore settings entries breakAfter).overlaid sorted, ?_, Table.accounts_ascending _,
    fun id => ?_, fun account hmem => ?_⟩
  · rw [accounts_openStore, hall]
    rfl
  · rw [contains_openStore]
    constructor
    · rintro ⟨account, hread⟩
      obtain rfl := wellKept.own hread
      exact ⟨account, (hlisted account).mpr hread, rfl⟩
    · rintro ⟨account, hmem, rfl⟩
      exact ⟨account, (hlisted account).mp hmem⟩
  · exact getBalance_openStore.mpr ⟨account, (hlisted account).mp hmem, rfl⟩

/-- A cache that reports one of its keys once more, after all others. -/
def lastly (key : String) (keys : List String) : List String :=
  keys ++ if key ∈ keys then [key] else []

theorem reports_lastly (key : String) : Reports (lastly key) := by
  intro keys other
  rw [lastly, List.mem_append]
  split
  · next hmem =>
      rw [List.mem_singleton]
      exact ⟨fun h => h.elim id fun same => same ▸ hmem, .inl⟩
  · simp

theorem exists_listedKeys_lastly {key text : String} {id : AccountId}
    (numbered : settings.id? key = some id) (held : entries[key]? = some text) :
    ∃ front, listedKeys (lastly key) settings entries = front ++ [key] := by
  have hmem : key ∈ entries.keys.filter fun key =>
      Glob.accepts settings.pattern.toList key.toList := by
    rw [List.mem_filter, Settings.accepts_pattern, Std.ExtTreeMap.mem_keys,
      ← Std.ExtTreeMap.isSome_getElem?_iff_mem, held]
    exact ⟨rfl, under_of_id? numbered⟩
  rw [listedKeys, lastly, if_pos hmem, List.filter_append, List.filter_singleton, numbered]
  exact ⟨_, rfl⟩

/-- What is reported last is what the list shows. -/
theorem read_of_lists (wellKept : WellKept settings entries) {key text : String} {id : AccountId}
    (numbered : settings.id? key = some id) (held : entries[key]? = some text)
    {listed : List Account} (lists : Store.ListsAsRead (backend (reporting (lastly key)))
      (openStore settings entries breakAfter) listed) :
    ∃ account, decode key text = .ok account ∧
      readUnder settings entries account.id = .ok (some account) := by
  obtain ⟨front, hkeys⟩ := exists_listedKeys_lastly numbered held
  have hanswered := lists.answered
  rw [accounts_openStore, hkeys, List.map_append, List.map_singleton, held] at hanswered
  cases hall : decodeAll (front.map (fun key => (key, entries[key]?)) ++ [(key, some text)]) with
  | error e =>
      rw [hall] at hanswered
      cases hanswered
  | ok accounts =>
      rw [hall] at hanswered
      obtain ⟨first, last, hread, rfl⟩ := exists_last_of_decodeAll hall
      cases hanswered
      have hlast : last ∈ (openStore settings entries breakAfter).overlaid
          ((first ++ [last]).mergeSort fun a b => a.id ≤ b.id) := by
        rw [Store.overlaid, openStore, Option.getD_none, Staging.onto_empty, Table.mem_accounts,
          Table.getElem?_tabulate_sorted]
      obtain ⟨account, hshown, hbalance⟩ := getBalance_openStore.mp (lists.balances last hlast)
      have hid := wellKept.own hshown
      obtain ⟨id, balance⟩ := account
      cases last
      cases hid
      cases hbalance
      exact ⟨⟨id, balance⟩, hread, hshown⟩

end

/-- Lists and readings agree exactly if every key that goes on with a number has an account that
is read the same under its own key. Suppose each account that has a text under its key can be read
there, and nothing else about the cache. However it reports its keys, an open store outside of
transactions lists the accounts that are there, in ascending order and with the balances that are
read, if and only if no other spelling of a number holds anything else. -/
theorem lists_as_read_iff (settings : Settings) (entries : Std.ExtTreeMap String String)
    (breakAfter : Option Nat) (wellKept : WellKept settings entries) :
    (∀ report, Reports report → ∃ listed, Store.ListsAsRead (backend (reporting report))
        (openStore settings entries breakAfter) listed) ↔
      ∀ key id text, settings.id? key = some id → entries[key]? = some text →
        ∃ account, decode key text = .ok account ∧
          (Store.perform (backend client) (.getAccount account.id)
            (openStore settings entries breakAfter)).1 = .ok (.account account) := by
  simp only [getAccount_client]
  constructor
  · intro lists key id text numbered held
    obtain ⟨listed, hlists⟩ := lists (lastly key) (reports_lastly key)
    exact read_of_lists wellKept numbered held hlists
  · intro read report reports
    exact lists_of_read wellKept reports read

/-- What was written to an empty cache was among the writes. -/
theorem mem_of_writeAll_empty {writes : List (String × String)} {key text : String}
    (held : (writeAll ∅ writes)[key]? = some text) : (key, text) ∈ writes := by
  obtain ⟨-, hkept⟩ | ⟨text', hmem, hwritten⟩ := getElem?_writeAll ∅ writes key
  · rw [hkept, Std.ExtTreeMap.getElem?_empty] at held
    cases held
  · rw [hwritten] at held
    cases held
    exact hmem

/-- One account, its text once more under a padded number, and a note. -/
theorem copy_lists_as_read :
    let settings : Settings := ⟨"cache", none, 0, "account:"⟩
    let entries := writeAll ∅ [("account:1", encode ⟨1, 5⟩), ("account:01", encode ⟨1, 5⟩),
      ("account:note", "not json")]
    WellKept settings entries ∧ ∀ report, Reports report → ∃ listed, Store.ListsAsRead
      (backend (reporting report)) (openStore settings entries none) listed := by
  intro settings entries
  have hcases : ∀ {key text : String}, entries[key]? = some text →
      (key = "account:1" ∨ key = "account:01") ∧ text = encode ⟨1, 5⟩ ∨ settings.id? key = none := by
    intro key text held
    have hmem := mem_of_writeAll_empty held
    simp only [List.mem_cons, Prod.mk.injEq, List.not_mem_nil, or_false] at hmem
    obtain ⟨rfl, rfl⟩ | ⟨rfl, rfl⟩ | ⟨rfl, rfl⟩ := hmem
    · exact .inl ⟨.inl rfl, rfl⟩
    · exact .inl ⟨.inr rfl, rfl⟩
    · exact .inr (by decide +kernel)
  have hkept : WellKept settings entries := by
    intro id text held
    have hid := settings.id?_key id
    obtain ⟨hkey | hkey, rfl⟩ | hstrange := hcases held
    · rw [hkey, show settings.id? "account:1" = some 1 by decide +kernel] at hid
      exact ⟨5, Option.some.inj hid ▸ decode_encode _ _⟩
    · rw [hkey, show settings.id? "account:01" = some 1 by decide +kernel] at hid
      exact ⟨5, Option.some.inj hid ▸ decode_encode _ _⟩
    · rw [hid] at hstrange
      cases hstrange
  refine ⟨hkept, (lists_as_read_iff settings entries none hkept).mpr ?_⟩
  intro key id text numbered held
  obtain ⟨-, rfl⟩ | hstrange := hcases held
  · exact ⟨⟨1, 5⟩, decode_encode _ _, by decide +kernel⟩
  · rw [numbered] at hstrange
    cases hstrange

/-- A text that is no account under a padded number. The account can be read, but not listed. -/
theorem padded_key_breaks_list :
    let settings : Settings := ⟨"cache", none, 0, "account:"⟩
    let entries := writeAll ∅ [("account:1", encode ⟨1, 5⟩), ("account:01", "not json")]
    let s := openStore settings entries none
    WellKept settings entries ∧
      (Store.perform (backend client) (.contains 1) s).1 = .ok (.flag true) ∧
      (Store.perform (backend client) (.getBalance 1) s).1 = .ok (.balance 5) ∧
      ¬ ∃ listed, Store.ListsAsRead (backend client) s listed := by
  intro settings entries s
  refine ⟨fun id text held => ?_, by decide +kernel, by decide +kernel, ?_⟩
  · have hid := settings.id?_key id
    have hmem := mem_of_writeAll_empty held
    simp only [List.mem_cons, Prod.mk.injEq, List.not_mem_nil, or_false] at hmem
    obtain ⟨hkey, rfl⟩ | ⟨hkey, rfl⟩ := hmem
    · rw [hkey, show settings.id? "account:1" = some 1 by decide +kernel] at hid
      exact ⟨5, Option.some.inj hid ▸ decode_encode _ _⟩
    · rw [hkey, show settings.id? "account:01" = some 1 by decide +kernel] at hid
      obtain rfl := Option.some.inj hid
      exact absurd hkey (by decide +kernel)
  · rintro ⟨listed, hlists⟩
    have hfails : ((Store.perform (backend client) .accounts s).1).isOk = false := by
      decide +kernel
    rw [hlists.answered] at hfails
    cases hfails

end InProcess

end Cache

end Clearinghouse
