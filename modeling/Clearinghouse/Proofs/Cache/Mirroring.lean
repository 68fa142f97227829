/-
# A cache that mirrors a table

A cache in the same process denotes a table by its texts, whatever its settings are: keys
start as the settings say and go on with the identifier, so the listing of keys by their
start finds all accounts and nothing else.
-/

import Clearinghouse.Proofs.Cache.Backend
import Clearinghouse.Proofs.Medium.Mirroring

namespace Clearinghouse.Cache

/-- Accounts in a cache. -/
def Settings.layout (settings : Settings) : Layout String String where
  key := settings.key
  encode := encode
  key_injective _ _ same := settings.key_injective same
  encode_injective account other same := by
    have hdecoded := decode_encode "" account
    rw [same, decode_encode] at hdecoded
    exact (Except.ok.inj hdecoded).symm

/-- Texts are read back one by one, whatever their keys are. -/
theorem decodeAll_encode (accounts : List Account) (key : Account → String) :
    decodeAll (accounts.map fun account => (key account, some (encode account))) =
      .ok accounts := by
  induction accounts with
  | nil => rfl
  | cons account rest ih =>
      rw [List.map_cons, decodeAll, decode_encode, ih]
      rfl

namespace InProcess

/-- The store is connected to a cache that works, and its texts denote the table. -/
structure Shows (state : State Unit InProcess) (table : Table) : Prop where
  connected : state.1.connection = some ()
  on : state.2.isOff = false
  whole : state.2.breakAfter = none
  denotes : state.1.settings.layout.Denotes (fun key => state.2.entries[key]?) table

theorem getElem?_record (settings : Settings) (entries : Std.ExtTreeMap String String)
    (change : Change) (k : String) :
    (record settings entries change)[k]? =
      if settings.layout.key change.id = k then
        some (settings.layout.encode ⟨change.id, change.balance⟩)
      else entries[k]? := by
  rw [record, Std.ExtTreeMap.getElem?_insert]
  simp only [Std.compare_eq_iff_eq]
  rfl

variable {state : State Unit InProcess} {cache : InProcess} {table : Table}

theorem ensureOn_bind {α : Type} (on : cache.isOff = false) (next : Unit → Command InProcess α) :
    (ensureOn >>= next) cache = next () cache := by
  have hguard : ensureOn cache = (.ok (), cache) := by
    rw [ensureOn, Run.get_bind_apply, on]
    rfl
  exact Run.bind_of_ok hguard

theorem ensureOn_bind_of_off {α : Type} (off : cache.isOff = true)
    (next : Unit → Command InProcess α) :
    (ensureOn >>= next) cache = (.error .refused, cache) := by
  have hguard : ensureOn cache = (.error .refused, cache) := by
    rw [ensureOn, Run.get_bind_apply, off]
    rfl
  exact Run.bind_of_error hguard

/-- How many of a series of writes the cache takes. -/
def takes (cache : InProcess) (count : Nat) : Nat :=
  if cache.isOff then 0 else cache.breakAfter.elim count (min · count)

theorem takes_of_on (on : cache.isOff = false) (count : Nat) :
    cache.takes count = cache.breakAfter.elim count (min · count) := by
  rw [takes, on]
  exact if_neg Bool.false_ne_true

theorem setAll_of_off (off : cache.isOff = true) (writes : List (String × String)) :
    setAll writes cache = (.error .refused, cache) :=
  ensureOn_bind_of_off off _

/-- A cache that is switched on writes what it takes, and then it is not to break any more. -/
theorem setAll_of_on (on : cache.isOff = false) (writes : List (String × String)) :
    setAll writes cache =
      (if cache.takes writes.length < writes.length then .error .dropped else .ok (),
        { cache with
          entries := writeAll cache.entries (writes.take (cache.takes writes.length))
          breakAfter := none }) := by
  rw [setAll, ensureOn_bind on, Run.get_bind_apply, takes_of_on on]
  cases cache.breakAfter with
  | none =>
      rw [Option.elim_none, if_neg (Nat.lt_irrefl _), List.take_length]
      rfl
  | some limit =>
      dsimp only
      rw [Run.set_bind_apply, List.take_eq_take_min, Option.elim_some]
      by_cases hshort : limit < writes.length
      · rw [if_pos hshort, Nat.min_eq_left (Nat.le_of_lt hshort), if_pos hshort]
        rfl
      · rw [if_neg hshort, Nat.min_eq_right (Nat.le_of_not_lt hshort), if_neg (Nat.lt_irrefl _)]
        rfl

theorem connection_bind {α : Type} (connected : state.1.connection = some ())
    (next : Unit → Step (State Unit InProcess) α) :
    (connection >>= next) state = next () state := by
  have hconnection : (connection : Step (State Unit InProcess) Unit) state = (.ok (), state) := by
    rw [connection, Run.get_bind_apply, connected]
    rfl
  exact Run.bind_of_ok hconnection

/-- The keys of accounts that a cache lists. -/
def accountKeys (settings : Settings) (cache : InProcess) : List String :=
  (cache.entries.keys.filter fun key => Glob.accepts settings.pattern.toList key.toList).filter
    fun key => (settings.id? key).isSome

/-- The keys of accounts are those with an entry. -/
theorem mem_accountKeys {settings : Settings}
    (denotes : settings.layout.Denotes (fun key => cache.entries[key]?) table) {key : String} :
    key ∈ accountKeys settings cache ↔ cache.entries[key]?.isSome := by
  rw [accountKeys, List.mem_filter, List.mem_filter, Std.ExtTreeMap.mem_keys,
    ← Std.ExtTreeMap.isSome_getElem?_iff_mem]
  constructor
  · rintro ⟨⟨hentry, -⟩, -⟩
    exact hentry
  · intro hentry
    obtain ⟨value, hvalue⟩ := Option.isSome_iff_exists.mp hentry
    obtain ⟨id, rfl⟩ := denotes.keyed hvalue
    have hid : settings.id? (settings.key id) = some id := settings.id?_key id
    have hstart : Glob.accepts settings.pattern.toList (settings.key id).toList = true := by
      rw [Settings.pattern, String.toList_ofList, Glob.accepts_escape, List.isPrefixOf_iff_prefix,
        Settings.key, String.toList_append]
      exact List.prefix_append _ _
    refine ⟨⟨hentry, hstart⟩, ?_⟩
    change (settings.id? (settings.key id)).isSome = true
    rw [hid]
    rfl

variable {α : Type} in
/-- A command that succeeds is the answer of the store. -/
theorem run_of_ok {failure : Failure → StoreError} {command : Command InProcess α} {a : α}
    (answered : command state.2 = (.ok a, state.2)) :
    run failure command state = (.ok a, state) := by
  rw [run, Run.onPart_apply, Run.adapt_apply, answered]
  rfl

/-- Of the keys that a client reports those of accounts are listed, with what they hold. -/
theorem entries_of_keys {reporter : Client InProcess Unit} {settings : Settings}
    {keys : List String} (reported : reporter.keys () settings.pattern cache = (.ok keys, cache))
    (same : reporter.getAll = client.getAll) (on : cache.isOff = false) :
    Cache.entries reporter settings () cache =
      (.ok ((keys.filter fun key => (settings.id? key).isSome).map fun key =>
        (key, cache.entries[key]?)), cache) := by
  have hvalues : reporter.getAll () (keys.filter fun key => (settings.id? key).isSome) cache =
      (.ok ((keys.filter fun key => (settings.id? key).isSome).map (cache.entries[·]?)), cache) := by
    rw [same]
    exact ensureOn_bind on _
  refine (Run.bind_of_ok reported).trans ((Run.bind_of_ok hvalues).trans ?_)
  rw [Run.pure_apply, List.map_prod_left_eq_zip]

/-- The keys of accounts are listed with what they hold. -/
theorem entries_apply {settings : Settings} (on : cache.isOff = false) :
    Cache.entries client settings () cache =
      (.ok ((accountKeys settings cache).map fun key => (key, cache.entries[key]?)), cache) :=
  entries_of_keys (ensureOn_bind on _) rfl on

/-- The accounts listed are loaded and sorted. -/
theorem loadAll_of_entries {reporter : Client InProcess Unit}
    {found : List (String × Option String)} (connected : state.1.connection = some ())
    (listed : Cache.entries reporter state.1.settings () state.2 = (.ok found, state.2)) :
    (backend reporter).loadAll state =
      ((decodeAll found).map fun accounts => accounts.mergeSort fun a b => a.id ≤ b.id, state) := by
  refine (Run.get_bind_apply _ state).trans
    ((connection_bind connected _).trans ((Run.bind_of_ok (run_of_ok listed)).trans ?_))
  cases decodeAll found with
  | error e => exact Run.bind_of_error rfl
  | ok accounts => exact Run.bind_of_ok rfl

/-- The accounts of a table are listed by their texts. -/
theorem exists_listed {settings : Settings}
    (denotes : settings.layout.Denotes (fun key => cache.entries[key]?) table) :
    ∃ accounts : List Account,
      (accountKeys settings cache).map (fun key => (key, cache.entries[key]?)) =
        accounts.map (fun account => (settings.key account.id, some (encode account))) ∧
      ∀ account : Account, account ∈ accounts ↔ table[account.id]? = some account.balance := by
  have hheld : ∀ key ∈ accountKeys settings cache,
      cache.entries[key]? = some (cache.entries[key]?.getD "") := by
    intro key hmem
    obtain ⟨value, hvalue⟩ := Option.isSome_iff_exists.mp ((mem_accountKeys denotes).mp hmem)
    rw [hvalue, Option.getD_some]
  obtain ⟨accounts, hfound, hlisted⟩ := denotes.exists_accounts
    ((accountKeys settings cache).map fun key => (key, cache.entries[key]?.getD "")) (by
      intro key value
      rw [List.mem_map]
      constructor
      · rintro ⟨_, hmem, ⟨⟩⟩
        exact hheld _ hmem
      · intro hentry
        have hmem := (mem_accountKeys denotes).mpr (by rw [hentry]; rfl)
        exact ⟨key, hmem, by rw [hentry, Option.getD_some]⟩)
  refine ⟨accounts, ?_, hlisted⟩
  have hsome := congrArg (List.map fun entry => (entry.1, some entry.2)) hfound
  rw [List.map_map, List.map_map] at hsome
  refine Eq.trans (List.map_congr_left fun key hmem => ?_) hsome.symm
  exact congrArg (key, ·) (hheld key hmem)

/-- What is read under the key of an account. -/
def readUnder (settings : Settings) (entries : Std.ExtTreeMap String String) (id : AccountId) :
    Except StoreError (Option Account) :=
  match entries[settings.key id]? with
  | none => .ok none
  | some text => (decode (settings.key id) text).map some

/-- An account is loaded by reading under its key. -/
theorem load_apply (connected : state.1.connection = some ()) (on : state.2.isOff = false)
    (id : AccountId) : (backend client).load id state =
      (readUnder state.1.settings state.2.entries id, state) := by
  have hget : run (whileDoing "failed to get account") (client.get () (state.1.settings.key id))
      state = (.ok state.2.entries[state.1.settings.key id]?, state) :=
    run_of_ok (ensureOn_bind on _)
  refine (Run.get_bind_apply _ state).trans
    ((connection_bind connected _).trans ((Run.bind_of_ok hget).trans ?_))
  rw [readUnder]
  cases state.2.entries[state.1.settings.key id]? with
  | none => rfl
  | some text =>
      dsimp only
      cases hread : decode (state.1.settings.key id) text with
      | error e => exact Run.bind_of_error rfl
      | ok account => exact Run.bind_of_ok rfl

theorem load_of_shows (shows : Shows state table) (id : AccountId) :
    (backend client).load id state = (.ok (table.account? id), state) := by
  have hentry : state.2.entries[state.1.settings.key id]? = (table.account? id).map encode :=
    shows.denotes.held id
  rw [load_apply shows.connected shows.on, readUnder, hentry]
  cases table.account? id with
  | none => rfl
  | some account => exact congrArg (fun read => (read.map some, state)) (decode_encode _ account)

theorem loadAll_of_shows (shows : Shows state table) :
    ∃ listed, (backend client).loadAll state = (.ok listed, state) ∧
      ∀ account : Account, account ∈ listed ↔ table[account.id]? = some account.balance := by
  obtain ⟨accounts, hfound, hlisted⟩ := exists_listed shows.denotes
  refine ⟨accounts.mergeSort fun a b => a.id ≤ b.id, ?_,
    fun account => List.mem_mergeSort.trans (hlisted account)⟩
  rw [loadAll_of_entries shows.connected (entries_apply shows.on), hfound, decodeAll_encode]
  rfl

/-- The cache after a flush. It writes the changes that it takes; a break is spent, unless the
cache is switched off. -/
def flushed (settings : Settings) (changes : List Change) (cache : InProcess) : InProcess :=
  { cache with
    entries := (changes.take (cache.takes changes.length)).foldl (record settings) cache.entries
    breakAfter := if cache.isOff then cache.breakAfter else none }

/-- Why the cache does not take a whole series of writes. -/
def obstacle (cache : InProcess) : Failure := if cache.isOff then .refused else .dropped

/-- A flush succeeds if the cache is switched on and takes all changes. -/
theorem flush_apply (connected : state.1.connection = some ()) (changes : List Change) :
    (backend client).flush changes state =
      (if state.2.isOff ∨ state.2.takes changes.length < changes.length then
          .error (.partialCommit "redis" none changes.length state.2.obstacle.message)
        else .ok (),
        (state.1, flushed state.1.settings changes state.2)) := by
  have hflush : (backend client).flush changes state =
      run (fun failure => .partialCommit "redis" none changes.length failure.message)
        (setAll (writesOf state.1.settings changes)) state :=
    (Run.get_bind_apply _ state).trans (connection_bind connected _)
  rw [hflush, run, Run.onPart_apply, Run.adapt_apply]
  obtain ⟨handle, entries, limit, off⟩ := state
  cases off with
  | true =>
      rw [setAll_of_off rfl, if_pos (.inl rfl)]
      rfl
  | false =>
      have hlength : (writesOf handle.settings changes).length = changes.length :=
        List.length_map ..
      rw [setAll_of_on rfl, flushed, ← writeAll_writesOf, hlength, writesOf, writesOf,
        List.map_take]
      simp only [Bool.false_eq_true, false_or]
      split <;> rfl

theorem flush_of_shows (shows : Shows state table) (changes : List Change) :
    ∃ state', (backend client).flush changes state = (.ok (), state') ∧
      Shows state' (table.recordAll changes) := by
  have htakes : state.2.takes changes.length = changes.length := by
    rw [takes_of_on shows.on, shows.whole, Option.elim_none]
  have hflush := flush_apply shows.connected changes
  rw [flushed, htakes, List.take_length, shows.on, if_neg (by simp)] at hflush
  refine ⟨_, hflush, shows.connected, rfl, rfl, ?_⟩
  exact Layout.Denotes.recordAll (fun entries k => entries[k]?)
    (getElem?_record state.1.settings) shows.denotes changes

theorem backend_mirrors : (backend client).Mirrors (fun _ => True) (fun _ => True) Shows := by
  refine .of_answers ?_ ?_ ?_
  · intro state table id shows _
    rw [load_of_shows shows]
    exact ⟨rfl, shows⟩
  · intro state table shows
    obtain ⟨listed, hloadAll, hlisted⟩ := loadAll_of_shows shows
    rw [hloadAll]
    exact ⟨listed, rfl, hlisted, shows⟩
  · intro state table changes shows _ _
    obtain ⟨state', hflush, hshows⟩ := flush_of_shows shows changes
    rw [hflush]
    exact ⟨rfl, hshows⟩

end InProcess

end Clearinghouse.Cache
