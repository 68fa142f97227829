/-
# Stores whose keys start differently

Stores may keep their accounts in one cache. A store writes only keys that begin with its own
start, and what it reads and lists depends on nothing but those keys. So if no store's start
begins with that of another, every store is answered as if it had the cache to itself,
whatever characters the starts are made of.
-/

import Clearinghouse.Proofs.Cache.Following
import Clearinghouse.Proofs.Cache.Resuming
import Clearinghouse.Proofs.Store.Company
import Mathlib.Data.List.Sort

namespace Clearinghouse.Cache

/-! ## Keys -/

/-- The key begins with the start. -/
def Under (start key : String) : Prop := start.toList <+: key.toList

/-- Of two starts of one key one begins with the other. -/
theorem Under.comparable {start other key : String} (under : Under start key)
    (underOther : Under other key) : Under start other ∨ Under other start :=
  List.prefix_or_prefix_of_prefix under underOther

theorem Settings.under_key (settings : Settings) (id : AccountId) :
    Under settings.keyStart (settings.key id) := by
  rw [Under, key, String.toList_append]
  exact List.prefix_append _ _

/-- The pattern of a store matches the keys under its start, whatever the start is made of. -/
theorem Settings.accepts_pattern (settings : Settings) (key : String) :
    Glob.accepts settings.pattern.toList key.toList = true ↔ Under settings.keyStart key := by
  rw [Settings.pattern, String.toList_ofList, Glob.accepts_escape, List.isPrefixOf_iff_prefix]
  rfl

/-- Entries that agree on the keys of some kind list the same keys of it. -/
theorem keys_filter_eq {entries entries' : Std.ExtTreeMap String String} {kind : String → Bool}
    (agree : ∀ key, kind key = true → entries[key]? = entries'[key]?) :
    entries.keys.filter kind = entries'.keys.filter kind := by
  have hascending : ∀ entries : Std.ExtTreeMap String String,
      (entries.keys.filter kind).Pairwise (· < ·) := by
    intro entries
    refine List.Pairwise.filter kind ?_
    exact entries.ordered_keys.imp fun h => compareOfLessAndEq_eq_lt.mp h
  refine (hascending entries).eq_of_mem_iff (hascending entries') fun key => ?_
  rw [List.mem_filter, List.mem_filter, Std.ExtTreeMap.mem_keys, Std.ExtTreeMap.mem_keys,
    ← Std.ExtTreeMap.isSome_getElem?_iff_mem, ← Std.ExtTreeMap.isSome_getElem?_iff_mem]
  refine and_congr_left fun hkind => ?_
  rw [agree key hkind]

namespace InProcess

/-! ## What a store sees -/

/-- Unbroken caches that a store with this start cannot tell apart. -/
structure SeenAlike (start : String) (cache cache' : InProcess) : Prop where
  entries : ∀ {key}, Under start key → cache.entries[key]? = cache'.entries[key]?
  isOff : cache.isOff = cache'.isOff
  unbroken : cache.breakAfter = none
  unbroken' : cache'.breakAfter = none

section

variable {start : String} {settings : Settings} {cache cache' : InProcess}

theorem SeenAlike.refl (unbroken : cache.breakAfter = none) : SeenAlike start cache cache :=
  ⟨fun _ => rfl, rfl, unbroken, unbroken⟩

/-- The same accounts are listed. -/
theorem SeenAlike.accountKeys_eq (alike : SeenAlike settings.keyStart cache cache') :
    accountKeys settings cache = accountKeys settings cache' := by
  rw [accountKeys, accountKeys, keys_filter_eq fun key accepted =>
    alike.entries ((settings.accepts_pattern key).mp accepted)]

/-- The same accounts are listed with the same texts. -/
theorem SeenAlike.listed_eq (alike : SeenAlike settings.keyStart cache cache') :
    (accountKeys settings cache).map (fun key => (key, cache.entries[key]?)) =
      (accountKeys settings cache').map fun key => (key, cache'.entries[key]?) := by
  rw [← alike.accountKeys_eq]
  refine List.map_congr_left fun key listed => ?_
  have haccepted := (List.mem_filter.mp (List.mem_filter.mp listed).1).2
  rw [alike.entries ((settings.accepts_pattern key).mp haccepted)]

theorem ensureOn_parallel : Run.Parallel (SeenAlike start) ensureOn ensureOn :=
  .intro fun {cache cache'} alike => by
    rw [ensureOn, Run.get_bind_apply, Run.get_bind_apply, alike.isOff]
    split <;> exact ⟨rfl, alike⟩

theorem get_parallel {key : String} (under : Under start key) (connection : Unit) :
    Run.Parallel (SeenAlike start) (client.get connection key) (client.get connection key) :=
  ensureOn_parallel.bind fun _ => Run.Parallel.intro fun alike =>
    ⟨congrArg Except.ok (alike.entries under), alike⟩

theorem entries_parallel (connection : Unit) :
    Run.Parallel (SeenAlike settings.keyStart) (Cache.entries client settings connection)
      (Cache.entries client settings connection) := by
  refine .intro fun {cache cache'} alike => ?_
  cases hoff : cache.isOff with
  | false =>
      rw [entries_apply hoff, entries_apply (alike.isOff.symm.trans hoff), alike.listed_eq]
      exact ⟨rfl, alike⟩
  | true =>
      have hrefused : ∀ {cache : InProcess}, cache.isOff = true →
          Cache.entries client settings connection cache = (.error .refused, cache) :=
        fun off => Run.bind_of_error (ensureOn_bind_of_off off _)
      rw [hrefused hoff, hrefused (alike.isOff.symm.trans hoff)]
      exact ⟨rfl, alike⟩

/-- A cache that is not to break takes every series of writes, unless it is switched off. -/
theorem setAll_of_unbroken (unbroken : cache.breakAfter = none) (writes : List (String × String)) :
    setAll writes cache =
      if cache.isOff then (.error .refused, cache)
      else (.ok (), { cache with entries := writeAll cache.entries writes }) := by
  cases hoff : cache.isOff with
  | true => rw [setAll_of_off hoff, if_pos rfl]
  | false =>
      rw [setAll_of_on hoff, takes_of_on hoff, unbroken, Option.elim_none,
        if_neg (Nat.lt_irrefl _), List.take_length, if_neg Bool.false_ne_true, hoff]

/-- Where entries agree, they agree after the same writes. -/
theorem getElem?_writeAll_congr {entries entries' : Std.ExtTreeMap String String} {key : String}
    (agree : entries[key]? = entries'[key]?) (writes : List (String × String)) :
    (writeAll entries writes)[key]? = (writeAll entries' writes)[key]? := by
  induction writes generalizing entries entries' with
  | nil => exact agree
  | cons first rest ih =>
      refine ih ?_
      rw [Std.ExtTreeMap.getElem?_insert, Std.ExtTreeMap.getElem?_insert, agree]

theorem setAll_parallel (writes : List (String × String)) :
    Run.Parallel (SeenAlike start) (setAll writes) (setAll writes) := by
  refine .intro fun {cache cache'} alike => ?_
  rw [setAll_of_unbroken alike.unbroken, setAll_of_unbroken alike.unbroken', alike.isOff]
  split
  · exact ⟨rfl, alike⟩
  · refine ⟨rfl, fun under => ?_, rfl, alike.unbroken, alike.unbroken'⟩
    exact getElem?_writeAll_congr (alike.entries under) writes

end

/-- Stores with the same connection before caches that they cannot tell apart. -/
structure Seen (settings : Settings) (state state' : State Unit InProcess) : Prop where
  handle : state.1 = state'.1
  has : state'.1.settings = settings
  cache : SeenAlike settings.keyStart state.2 state'.2

section

variable {settings : Settings} {α : Type}

theorem run_parallel {failure : Failure → StoreError} {command : Command InProcess α}
    (parallel : Run.Parallel (SeenAlike settings.keyStart) command command) :
    Run.Parallel (Seen settings) (run failure command) (run failure command) :=
  .intro fun {state state'} seen => by
    obtain ⟨hanswer, hcache⟩ := parallel.agrees seen.cache trivial
    exact ⟨congrArg (Except.mapError failure) hanswer, seen.handle, seen.has, hcache⟩

theorem connection_parallel :
    Run.Parallel (Seen settings) (connection : Step (State Unit InProcess) Unit) connection :=
  .of_read connection_kept connection_kept fun {state state'} seen => by
    rw [connection, Run.get_bind_apply, Run.get_bind_apply, seen.handle]
    cases state'.1.connection <;> rfl

/-- A computation that asks for the settings first. -/
theorem asking_parallel {next : State Unit InProcess → Step (State Unit InProcess) α}
    (parallel : ∀ {state state'}, Seen settings state state' →
      Run.Parallel (Seen settings) (next state) (next state')) :
    Run.Parallel (Seen settings) (get >>= next) (get >>= next) :=
  .intro fun {state state'} seen => by
    rw [Run.get_bind_apply, Run.get_bind_apply]
    exact (parallel seen).agrees seen trivial

/-- Reading texts does not depend on the state. -/
theorem reading_parallel (answer : Except StoreError α) :
    Run.Parallel (Seen settings) (ExceptT.mk (pure answer) : Step (State Unit InProcess) α)
      (ExceptT.mk (pure answer)) :=
  .of_read (fun _ => rfl) (fun _ => rfl) fun _ => rfl

theorem loadAll_parallel :
    Run.Parallel (Seen settings) (backend client).loadAll (backend client).loadAll := by
  refine asking_parallel fun {state state'} seen => ?_
  dsimp only
  rw [seen.handle, seen.has]
  refine connection_parallel.bind fun _ => (run_parallel (entries_parallel _)).bind fun found => ?_
  exact (reading_parallel _).bind fun _ => Run.Alike.pure _

/-- Every call is answered alike. -/
theorem backend_parallels :
    (backend client).Parallels (backend client) (Seen settings) where
  connect := by
    refine asking_parallel fun {state state'} seen => ?_
    dsimp only
    rw [seen.handle]
    refine (run_parallel ensureOn_parallel).bind fun connection =>
      (run_parallel ensureOn_parallel).bind fun _ => Run.Parallel.intro fun {state state'} seen => ?_
    refine ⟨rfl, ?_, seen.has, seen.cache⟩
    exact congrArg (fun handle : Handle Unit => { handle with connection := some connection })
      seen.handle
  disconnect := .intro fun {state state'} seen => by
    refine ⟨rfl, ?_, seen.has, seen.cache⟩
    exact congrArg (fun handle : Handle Unit => { handle with connection := none }) seen.handle
  load id := by
    refine asking_parallel fun {state state'} seen => ?_
    dsimp only
    rw [seen.handle, seen.has]
    refine connection_parallel.bind fun connection =>
      (run_parallel (get_parallel (settings.under_key id) connection)).bind fun found => ?_
    cases found with
    | none => exact Run.Alike.pure _
    | some text => exact (reading_parallel _).bind fun _ => Run.Alike.pure _
  loadAll seen := (loadAll_parallel.agrees seen trivial).2
  flush changes := by
    refine asking_parallel fun {state state'} seen => ?_
    dsimp only
    rw [seen.handle]
    exact connection_parallel.bind fun _ => run_parallel (setAll_parallel _)

end

/-! ## What a store leaves alone -/

/-- What a call does at most: the settings stay, and so do all entries that are not the
store's own. -/
structure Beside (state state' : State Unit InProcess) : Prop where
  settings : state'.1.settings = state.1.settings
  isOff : state'.2.isOff = state.2.isOff
  unbroken : state.2.breakAfter = none → state'.2.breakAfter = none
  entries : ∀ {key}, ¬ Under state.1.settings.keyStart key →
    state'.2.entries[key]? = state.2.entries[key]?

instance : IsPreorder (State Unit InProcess) Beside where
  refl state := ⟨rfl, rfl, id, fun _ => rfl⟩
  trans state state' state'' first second := by
    refine ⟨second.settings.trans first.settings, second.isOff.trans first.isOff,
      second.unbroken ∘ first.unbroken, fun foreign => ?_⟩
    rw [second.entries (first.settings ▸ foreign), first.entries foreign]

theorem Beside.of_cache_kept {state state' : State Unit InProcess}
    (settings : state'.1.settings = state.1.settings) (cache : state'.2 = state.2) :
    Beside state state' :=
  ⟨settings, congrArg InProcess.isOff cache, fun unbroken => cache ▸ unbroken,
    fun _ => cache ▸ rfl⟩

theorem setAll_breakAfter {cache : InProcess} (unbroken : cache.breakAfter = none)
    (writes : List (String × String)) : (setAll writes cache).2.breakAfter = none := by
  rw [setAll_of_unbroken unbroken]
  split <;> exact unbroken

/-- A series of writes leaves the entries under other keys alone. -/
theorem getElem?_setAll {cache : InProcess} {writes : List (String × String)} {key : String}
    (unnamed : ∀ text, (key, text) ∉ writes) :
    (setAll writes cache).2.entries[key]? = cache.entries[key]? := by
  obtain ⟨count, hentries⟩ := setAll_entries writes cache
  rw [hentries]
  obtain ⟨-, hkept⟩ | ⟨text, hmem, -⟩ := getElem?_writeAll cache.entries (writes.take count) key
  · exact hkept
  · exact absurd (List.mem_of_mem_take hmem) (unnamed text)

theorem backend_beside : (backend client).Respects Beside where
  connect := by
    refine Run.Along.bind (fun state => Std.Refl.refl state) fun current => ?_
    have hasks : ∀ context, Run.Along Beside
        (run (whileDoing context) ensureOn : Step (State Unit InProcess) Unit) := fun context state =>
      .of_cache_kept rfl (ensureOn_kept state.2)
    exact (hasks _).bind fun _ => (hasks _).bind fun _ state => .of_cache_kept rfl rfl
  disconnect state := .of_cache_kept rfl rfl
  load id state := by
    have hkept : ((backend client).load id state).2 = state :=
      load_kept (fun state => state) (fun connection key state => by rw [client_get_same]) id state
    rw [hkept]
    exact Std.Refl.refl state
  loadAll state := by
    have hkept : ((backend client).loadAll state).2 = state := loadAll_kept state
    rw [hkept]
    exact Std.Refl.refl state
  flush changes state := by
    obtain ⟨e, hrun⟩ | ⟨connection, hrun⟩ := flush_cases client changes state
    · rw [hrun]
      exact Std.Refl.refl state
    · rw [hrun, client_setAll]
      refine ⟨rfl, setAll_isOff _ state.2, fun unbroken => setAll_breakAfter unbroken _,
        fun foreign => getElem?_setAll fun text written => foreign ?_⟩
      obtain ⟨change, -, hentry⟩ := List.mem_map.mp written
      obtain ⟨rfl, -⟩ := Prod.mk.inj hentry
      exact state.1.settings.under_key change.id

/-- So a store does not notice what another one does whose keys start differently. -/
theorem Seen.of_beside {settings : Settings} {handle other : Handle Unit} {cache cache' : InProcess}
    {alone : State Unit InProcess} {later : Handle Unit} (seen : Seen settings (handle, cache) alone)
    (beside : Beside (other, cache) (later, cache'))
    (unrelated : ¬ Under settings.keyStart other.settings.keyStart ∧
      ¬ Under other.settings.keyStart settings.keyStart) : Seen settings (handle, cache') alone where
  handle := seen.handle
  has := seen.has
  cache :=
    { entries := fun {key} under => by
        have hforeign : ¬ Under other.settings.keyStart key := fun underOther =>
          (under.comparable underOther).elim unrelated.1 unrelated.2
        exact (beside.entries hforeign).trans (seen.cache.entries under)
      isOff := beside.isOff.trans seen.cache.isOff
      unbroken := beside.unbroken seen.cache.unbroken
      unbroken' := seen.cache.unbroken' }

/-! ## Many stores -/

section

open Company

variable {ι : Type} [DecidableEq ι]

/-- Stores that see the same accounts give the same answers. -/
theorem perform_parallel (settings : Settings) (op : Store.Op) :
    Run.Parallel (Store.Paired (Seen settings)) (Store.perform (backend client) op)
      (Store.perform (backend client) op) := by
  by_cases hlisting : op = .accounts
  · subst hlisting
    exact (Store.accounts_parallel loadAll_parallel).map _
  · exact Store.perform_parallel backend_parallels hlisting

/-- A store in a company is answered as another one that has its own part of the cache and
takes only its turns. -/
theorem answers_of_paired {settings : ι → Settings}
    (unrelated : ∀ i j, i ≠ j → ¬ Under (settings i).keyStart (settings j).keyStart) (i : ι)
    {company alone : Company ι (Handle Unit) InProcess}
    (has : ∀ j, (company.member j).medium.settings = settings j)
    (paired : Store.Paired (Seen (settings i)) (company.store i) (alone.store i))
    (schedule : List (ι × Store.Op)) :
    (answers (backend client) (turns schedule) company).filter (fun told => told.1 = i) =
      answers (backend client) (turns (schedule.filter fun turn => turn.1 = i)) alone := by
  induction schedule generalizing company alone with
  | nil => rfl
  | cons turn rest ih =>
      obtain ⟨j, op⟩ := turn
      have hbeside := Store.perform_along backend_beside op (company.store j)
      have hhas : ∀ k, ((company.put j (Store.perform (backend client) op (company.store j)).2).member
          k).medium.settings = settings k := by
        intro k
        by_cases hturn : k = j
        · subst hturn
          rw [member_put_self]
          exact hbeside.settings.trans (has k)
        · rw [member_put_of_ne hturn]
          exact has k
      rw [answers_turns_cons]
      by_cases hown : j = i
      · subst hown
        obtain ⟨hanswer, hpaired⟩ := (perform_parallel (settings j) op).agrees paired trivial
        rw [List.filter_cons_of_pos (by simp), List.filter_cons_of_pos (by simp),
          answers_turns_cons, hanswer]
        refine congrArg _ (ih hhas ?_)
        rw [store_put_self, store_put_self]
        exact hpaired
      · rw [List.filter_cons_of_neg (by simpa using hown),
          List.filter_cons_of_neg (by simpa using hown)]
        refine ih hhas ?_
        have hother : i ≠ j := fun h => hown h.symm
        rw [store_put_of_ne hother]
        refine paired.withMedium ?_
        refine Seen.of_beside paired.medium hbeside ?_
        rw [has j]
        exact ⟨unrelated i j hother, unrelated j i hown⟩

/-- Stores whose keys start differently do not interfere. However they take turns, each of
them is answered as it is if the others do nothing. -/
theorem answers_as_alone (company : Company ι (Handle Unit) InProcess)
    (unbroken : company.shared.breakAfter = none)
    (unrelated : ∀ i j, i ≠ j → ¬ (company.member i).medium.settings.keyStart.toList <+:
      (company.member j).medium.settings.keyStart.toList)
    (schedule : List (ι × Store.Op)) (i : ι) :
    (answers (backend client) (turns schedule) company).filter (fun told => told.1 = i) =
      answers (backend client) (turns (schedule.filter fun turn => turn.1 = i)) company :=
  answers_of_paired unrelated i (fun _ => rfl)
    ⟨⟨rfl, rfl, .refl unbroken⟩, rfl, rfl⟩ schedule

/-- Two stores whose keys start with characters of patterns, each with an account of the same
number in the cache. -/
def starred : Company Bool (Handle Unit) InProcess :=
  .opening (fun isFirst => ⟨⟨"cache", none, 0, if isFirst then "*1" else "*\\2"⟩, none⟩)
    ⟨((∅ : Std.ExtTreeMap String String).insert "*17" (encode ⟨7, 100⟩)).insert "*\\27"
      (encode ⟨7, 5⟩), none, false⟩

/-- The two stores take turns. -/
def starredSchedule : List (Bool × Store.Op) :=
  [(true, .start), (false, .start), (true, .begin), (true, .update 7 (-30)), (false, .update 7 4),
    (true, .accounts), (true, .commit), (false, .accounts), (true, .close), (false, .getBalance 7)]

theorem starred_answers_as_alone :
    (starred.shared.breakAfter = none ∧
      ∀ i j, i ≠ j → ¬ (starred.member i).medium.settings.keyStart.toList <+:
        (starred.member j).medium.settings.keyStart.toList) ∧
    (answers (backend client) (turns starredSchedule) starred).filter (fun told => told.1 = false) =
      answers (backend client) (turns (starredSchedule.filter fun turn => turn.1 = false)) starred ∧
    answers (backend client) (turns (starredSchedule.filter fun turn => turn.1 = false)) starred =
      [(false, .ok .done), (false, .ok .done), (false, .ok (.accounts [⟨7, 9⟩])),
        (false, .ok (.balance 9))] := by
  have hunrelated : ∀ i j, i ≠ j → ¬ (starred.member i).medium.settings.keyStart.toList <+:
      (starred.member j).medium.settings.keyStart.toList := by decide +kernel
  exact ⟨⟨rfl, hunrelated⟩, answers_as_alone starred rfl hunrelated starredSchedule false,
    by decide +kernel⟩

end

end InProcess

end Clearinghouse.Cache
