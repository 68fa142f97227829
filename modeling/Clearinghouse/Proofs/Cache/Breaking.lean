/-
# What a broken commit leaves in a cache

A commit to a cache writes its changes one after the other, in ascending order of identifier. If
the series of writes breaks, the changes before the break have landed and the others have not, so
that every account is as it was or as the transaction left it. A cache that is switched off takes
nothing. The store is told only that its commit broke; its transaction has ended either way. A
break that is armed waits for the first series of writes that reaches the cache, and is spent by
it even if it is too short to be broken.
-/

import Clearinghouse.Proofs.Cache.Resuming
import Clearinghouse.Proofs.Store.Journal
import Clearinghouse.Proofs.Store.Refinement
import Mathlib.Data.List.Nodup

namespace Clearinghouse.Cache.InProcess

open Store Company

variable {state : State Unit InProcess} {s : Store (State Unit InProcess)}

/-! ## The connections of open stores -/

/-- An open store is connected, and a closed one has no transaction. -/
structure Attached (s : Store (State Unit InProcess)) : Prop where
  opened : s.initialized = true → s.medium.1.connection = some ()
  closed : s.initialized = false → s.staging = none

theorem load_handle (id : AccountId) :
    Run.Along (Run.Kept (Prod.fst : State Unit InProcess → Handle Unit))
      ((backend client).load id) :=
  load_kept Prod.fst (fun _ _ _ => rfl) id

theorem loadAll_handle :
    Run.Along (Run.Kept (Prod.fst : State Unit InProcess → Handle Unit)) (backend client).loadAll :=
  loadAll_kept.kept_of_id _

theorem flush_handle (changes : List Change) :
    Run.Along (Run.Kept (Prod.fst : State Unit InProcess → Handle Unit))
      ((backend client).flush changes) := by
  intro state
  obtain ⟨e, hrun⟩ | ⟨connection, hrun⟩ := flush_cases client changes state <;> rw [hrun] <;> rfl

/-- A store stays attached while it keeps its connection, and whatever it stages. -/
theorem carries_attached :
    Carries (Run.Kept (Prod.fst : State Unit InProcess → Handle Unit)) (Run.Preserved Attached) where
  medium kept attached :=
    ⟨fun opened => (congrArg Handle.connection kept).trans (attached.opened opened),
      attached.closed⟩
  staged _ transaction attached := by
    refine ⟨attached.opened, fun closed => ?_⟩
    rw [inTransaction, attached.closed closed] at transaction
    cases transaction

theorem start_attached : Run.Along (Run.Preserved Attached) (start (backend client)) := by
  intro s attached
  cases hopened : s.initialized with
  | true =>
      rw [start_of_opened hopened]
      exact attached
  | false =>
      rw [start_of_closed hopened]
      cases hconnect : ((backend client).connect s.medium).1 with
      | error e =>
          exact ⟨fun opened => absurd (hopened.symm.trans opened) Bool.false_ne_true,
            attached.closed⟩
      | ok =>
          obtain ⟨connection, hhandle, -⟩ := connected_of_connect client_steady trivial hconnect
          exact ⟨fun _ => congrArg Handle.connection hhandle,
            fun closed => absurd closed.symm Bool.false_ne_true⟩

theorem close_attached : Run.Along (Run.Preserved Attached) (close (backend client)) := by
  intro s attached
  cases hopened : s.initialized with
  | false =>
      rw [close, ensureInitialized_bind_of_closed hopened]
      exact attached
  | true =>
      rw [close, ensureInitialized_bind hopened, Run.modify_bind_apply]
      exact ⟨fun opened => absurd opened Bool.false_ne_true, fun _ => rfl⟩

theorem begin_attached :
    Run.Along (Run.Preserved Attached) (begin : Step (Store (State Unit InProcess)) Unit) := by
  intro s attached
  cases hopened : s.initialized with
  | false =>
      rw [begin, ensureInitialized_bind_of_closed hopened]
      exact attached
  | true =>
      cases hstaging : s.staging with
      | none =>
          rw [begin_of_idle hopened hstaging]
          exact ⟨attached.opened, fun closed => absurd (closed.symm.trans hopened) Bool.false_ne_true⟩
      | some staging =>
          rw [begin_of_transaction hopened (by rw [inTransaction, hstaging]; rfl)]
          exact attached

theorem perform_attached (op : Op) :
    Run.Along (Run.Preserved Attached) (perform (backend client) op) := by
  have haccess : Access (backend client) (Run.Preserved Attached) :=
    carries_attached.access load_handle loadAll_handle fun s changes _ =>
      carries_attached.medium (flush_handle changes s.medium)
  have hends : ∀ s : Store (State Unit InProcess),
      Run.Preserved Attached s { s with staging := none } :=
    fun _ attached => ⟨attached.opened, fun _ => rfl⟩
  exact haccess.toReading.perform_along (fun id balance _ => haccess.create_along id balance)
    (fun id delta _ => haccess.update_along id delta) (fun _ => start_attached)
    (fun _ => close_attached) (fun _ => begin_attached)
    (fun _ => commit_along carries_attached flush_handle hends)
    fun _ => ensureInitialized_along.bind fun _ => hends

/-- Stores that start out unconnected are attached at any time, whatever happens to the cache. -/
theorem final_attached {ι : Type} [DecidableEq ι] (settings : ι → Settings) (cache : InProcess)
    (history : List (Event ι InProcess)) (a : ι) :
    Attached ((final (backend client) history
      (opening (fun i => ⟨settings i, none⟩) cache)).store a) := by
  have hopening : Attached
      ((opening (M := InProcess) (fun i => (⟨settings i, none⟩ : Handle Unit)) cache).store a) :=
    ⟨fun opened => absurd opened Bool.false_ne_true, fun _ => rfl⟩
  generalize opening (fun i => (⟨settings i, none⟩ : Handle Unit)) cache = company at hopening ⊢
  induction history generalizing company with
  | nil => exact hopening
  | cons event rest ih =>
      refine ih _ ?_
      obtain ⟨op, rfl, hafter⟩ | ⟨-, _, hafter⟩ :=
        store_after (b := backend client) event company a
      · rw [hafter]
        exact perform_attached op _ hopening
      · rw [hafter]
        exact carries_attached.medium rfl hopening

/-! ## What spends a break -/

/-- From one state of a cache with a journal to another, a break that is armed was spent if
anything was flushed, unless the cache is switched off. -/
def Spends (m m' : State Unit InProcess × List Flush) : Prop :=
  m.1.1.connection = some () → ∃ later, m'.2 = m.2 ++ later ∧ m'.1.1 = m.1.1 ∧
    m'.1.2.isOff = m.1.2.isOff ∧ m'.1.2.breakAfter =
      if later = [] ∨ m.1.2.isOff then m.1.2.breakAfter else none

instance : IsPreorder (State Unit InProcess × List Flush) Spends where
  refl m _ := ⟨[], (List.append_nil _).symm, rfl, rfl, (if_pos (.inl rfl)).symm⟩
  trans m m' m'' first second connected := by
    obtain ⟨flushed, hflushed, hhandle, hoff, hbreaks⟩ := first connected
    obtain ⟨later, hlater, hhandle', hoff', hbreaks'⟩ := second (hhandle ▸ connected)
    refine ⟨flushed ++ later, by rw [hlater, hflushed, List.append_assoc],
      hhandle'.trans hhandle, hoff'.trans hoff, ?_⟩
    rw [hbreaks', hbreaks, hoff]
    cases flushed with
    | nil => simp
    | cons first rest => cases m.1.2.isOff <;> simp

/-- A call that leaves the cache and the connection alone. -/
theorem spends_of_kept {α : Type} {act : Step (State Unit InProcess) α}
    (kept : Run.Along (Run.Kept id) act) : Run.Along Spends act.besideJournal := by
  intro m connected
  have hkept : (act.besideJournal m).2 = m := congrArg (·, m.2) (kept m.1)
  rw [hkept]
  exact (inferInstance : Std.Refl Spends).refl m connected

theorem flush_spends (changes : List Change) :
    Run.Along Spends ((backend client).journaled.flush changes) := by
  intro m connected
  have hflush := flush_apply connected changes
  refine ⟨[⟨changes, ((backend client).flush changes m.1).1⟩], rfl, ?_, ?_, ?_⟩ <;>
    rw [show ((backend client).journaled.flush changes m).2.1 =
      ((backend client).flush changes m.1).2 from rfl, hflush]
  · rfl
  · rw [flushed]
    simp

/-- To connect and to disconnect leaves the cache alone. -/
theorem connect_cache : Run.Along (Run.Kept fun m : State Unit InProcess × List Flush => (m.1.2, m.2))
    (backend client).journaled.connect := by
  have hasks : ∀ context, Run.Along (Run.Kept Prod.snd)
      (run (whileDoing context) ensureOn : Step (State Unit InProcess) Unit) :=
    fun _ => (run_kept ensureOn_kept).kept_of_id _
  have hconnect : Run.Along (Run.Kept Prod.snd) (connect client) :=
    Run.Along.bind (fun state => Std.Refl.refl state) fun _ => (hasks _).bind fun _ =>
      (hasks _).bind fun _ _ => rfl
  exact fun m => congrArg (·, m.2) (hconnect m.1)

/-- An operation spends a break exactly if it flushes something that reaches the cache. -/
theorem breakAfter_perform (attached : Attached s) (op : Op) :
    (perform (backend client) op s).2.medium.2.breakAfter =
      if flushes (backend client) op s = [] ∨ s.medium.2.isOff then s.medium.2.breakAfter
      else none := by
  obtain ⟨-, hpaired⟩ := perform_journaled (backend client) op s
  have hquiet : Run.Kept (fun m : State Unit InProcess × List Flush => (m.1.2, m.2))
      s.withJournal.medium (perform (backend client).journaled op s.withJournal).2.medium →
      (perform (backend client) op s).2.medium.2.breakAfter =
        if flushes (backend client) op s = [] ∨ s.medium.2.isOff then s.medium.2.breakAfter
        else none := by
    intro kept
    obtain ⟨hcache, hjournal⟩ := Prod.mk.inj kept
    rw [← hpaired.medium, hcache, if_pos (.inl hjournal)]
    rfl
  by_cases hstart : op = .start
  · subst hstart
    refine hquiet ?_
    rw [perform, Run.map_apply]
    exact start_along connect_cache s.withJournal
  by_cases hclose : op = .close
  · subst hclose
    refine hquiet ?_
    rw [perform, Run.map_apply]
    exact close_along (b := (backend client).journaled)
      (R := Run.Kept fun m => (m.1.2, m.2)) (fun _ => rfl) s.withJournal
  cases hopened : s.initialized with
  | false =>
      refine hquiet ?_
      rw [perform_of_closed (s := s.withJournal) hopened hstart]
      rfl
  | true =>
      have haccess : Access (backend client).journaled (MediumAlong Spends) :=
        carries_mediumAlong.access
          (fun account => spends_of_kept
            (load_kept id (fun _ _ _ => by rw [client_get_same]) account))
          (spends_of_kept loadAll_kept) fun s changes _ => flush_spends changes s.medium
      have hspends : Run.Along (MediumAlong Spends) (perform (backend client).journaled op) :=
        haccess.toReading.perform_along (fun id balance _ => haccess.create_along id balance)
          (fun id delta _ => haccess.update_along id delta) (fun h => absurd h hstart)
          (fun h => absurd h hclose) (fun _ => begin_along)
          (fun _ => commit_along carries_mediumAlong flush_spends fun s => Std.Refl.refl s.medium)
          fun _ => rollback_along
      obtain ⟨later, hlater, -, -, hbreaks⟩ := hspends s.withJournal (attached.opened hopened)
      have hflushes : flushes (backend client) op s = later := hlater
      rw [← hpaired.medium, hbreaks, hflushes]
      rfl

/-! ## What a commit leaves -/

/-- The changes have landed, and no other key of the cache was touched. -/
structure Landed (settings : Settings) (changes : List Change) (before after : InProcess) :
    Prop where
  written : ∀ change ∈ changes,
    after.entries[settings.key change.id]? = some (encode ⟨change.id, change.balance⟩)
  untouched : ∀ key, (∀ change ∈ changes, settings.key change.id ≠ key) →
    after.entries[key]? = before.entries[key]?

/-- Changes of different accounts land one beside the other. -/
theorem landed_of_recorded {settings : Settings} {changes : List Change} {before after : InProcess}
    (ascending : changes.Pairwise fun first later => first.id < later.id)
    (recorded : after.entries = changes.foldl (record settings) before.entries) :
    Landed settings changes before after := by
  rw [← writeAll_writesOf] at recorded
  have hdistinct : (changes.map (·.id)).Nodup :=
    List.pairwise_map.mpr (ascending.imp UInt64.ne_of_lt)
  constructor
  · intro change hmem
    obtain ⟨habsent, -⟩ | ⟨text, hnamed, hwritten⟩ := getElem?_writeAll before.entries
      (writesOf settings changes) (settings.key change.id)
    · exact absurd (List.mem_map_of_mem hmem) (habsent _)
    · obtain ⟨other, hother, hentry⟩ := List.mem_map.mp hnamed
      obtain ⟨hkey, rfl⟩ := Prod.mk.inj hentry
      obtain rfl := List.inj_on_of_nodup_map hdistinct hother hmem (settings.key_injective hkey)
      rw [recorded, hwritten]
  · intro key unnamed
    obtain ⟨-, hkept⟩ | ⟨text, hnamed, -⟩ := getElem?_writeAll before.entries
      (writesOf settings changes) key
    · rw [recorded, hkept]
    · obtain ⟨change, hmem, hentry⟩ := List.mem_map.mp hnamed
      exact absurd (Prod.mk.inj hentry).1 (unnamed change hmem)

theorem Attached.opened_of_staging (attached : Attached s) {staging : Staging}
    (transaction : s.staging = some staging) : s.initialized = true := by
  cases hopened : s.initialized with
  | true => rfl
  | false =>
      rw [attached.closed hopened] at transaction
      cases transaction

/-- The cache after a commit. Without a change it is not asked. -/
def committed (settings : Settings) (changes : List Change) (cache : InProcess) : InProcess :=
  if changes = [] then cache else flushed settings changes cache

theorem committed_entries (settings : Settings) (changes : List Change) (cache : InProcess) :
    (committed settings changes cache).entries =
      (changes.take (cache.takes changes.length)).foldl (record settings) cache.entries := by
  rw [committed]
  split
  · next hnothing =>
      rw [hnothing, List.take_nil]
      rfl
  · rfl

theorem committed_breakAfter (settings : Settings) (changes : List Change) (cache : InProcess) :
    (committed settings changes cache).breakAfter =
      if changes = [] ∨ cache.isOff then cache.breakAfter else none := by
  rw [committed]
  by_cases hnothing : changes = []
  · rw [if_pos hnothing, if_pos (.inl hnothing)]
  · simp only [hnothing, false_or]
    rfl

/-- A commit writes the changes that the cache takes. -/
theorem commit_apply (attached : Attached s) {staging : Staging}
    (transaction : s.staging = some staging) :
    perform (backend client) .commit s =
      (if s.medium.2.takes staging.changes.length < staging.changes.length then
          .error (.partialCommit "redis" none staging.changes.length s.medium.2.obstacle.message)
        else .ok .done,
        ⟨(s.medium.1, committed s.medium.1.settings staging.changes s.medium.2), true, none⟩) := by
  have hopened := attached.opened_of_staging transaction
  rw [perform, Run.map_apply, commit_of_staging hopened transaction, committed]
  by_cases hnothing : staging.changes = []
  · rw [if_pos hnothing, if_pos hnothing, hnothing, List.length_nil, if_neg (Nat.not_lt_zero _),
      ← hopened]
    rfl
  · have hpositive : 0 < staging.changes.length := List.length_pos_iff.mpr hnothing
    have hflush : (backend client).flush staging.changes s.medium = _ :=
      flush_apply (attached.opened hopened) staging.changes
    have hbroken : (s.medium.2.isOff = true ∨
        s.medium.2.takes staging.changes.length < staging.changes.length) ↔
        s.medium.2.takes staging.changes.length < staging.changes.length := by
      refine ⟨fun h => h.elim (fun hoff => ?_) id, .inr⟩
      rw [takes, if_pos hoff]
      exact hpositive
    simp only [hbroken] at hflush
    have hrun : onMedium ((backend client).flush staging.changes) (dropped s) = (_, _) :=
      (Run.onPart_apply ..).trans (congrArg
        (fun run => (run.1, ({ dropped s with medium := run.2 } : Store _))) hflush)
    rw [if_neg hnothing, if_neg hnothing, hrun, dropped, hopened]
    split <;> rfl

/-- The store outside of transactions, once the cache is switched on. -/
def onceOn (s : Store (State Unit InProcess)) : Store (State Unit InProcess) :=
  ⟨(s.medium.1, { s.medium.2 with isOff := false }), s.initialized, none⟩

/-- Then it reads under the key of an account. -/
theorem getAccount_onceOn (opened : s.initialized = true)
    (connected : s.medium.1.connection = some ()) (id : AccountId) :
    (perform (backend client) (.getAccount id) (onceOn s)).1 =
      (readUnder s.medium.1.settings s.medium.2.entries id).bind fun found =>
        found.elim (.error (.accountNotFound id)) fun account => .ok (.account account) := by
  have hconnected : (onceOn s).medium.1.connection = some () := connected
  have hload : (backend client).load id (onceOn s).medium =
      (readUnder s.medium.1.settings s.medium.2.entries id, (onceOn s).medium) :=
    load_apply hconnected rfl id
  have hopened : (onceOn s).initialized = true := opened
  rw [perform, Run.map_apply, getAccount_of_idle hopened rfl, hload]
  cases readUnder s.medium.1.settings s.medium.2.entries id with
  | error e => rfl
  | ok found => cases found <;> rfl

/-- A commit leaves each account as it was or as its transaction left it. Stores share a cache
that is filled, armed and switched on and off at will, and one of them commits. The cache takes
the first of its changes, as many as it is armed to take, or none if it is switched off, and the
commit succeeds if these are all. Once the cache is switched on, an account whose change landed is
read as the transaction left it, and any other as before. Whatever the store does, a break that is
armed is spent by the first flush that reaches the cache. -/
theorem commit_leaves_old_or_new {ι : Type} [DecidableEq ι] (settings : ι → Settings)
    (cache : InProcess) (history : List (Event ι InProcess)) (a : ι)
    (transaction : ((final (backend client) history
      (opening (fun i => ⟨settings i, none⟩) cache)).store a).inTransaction = true) :
    let s := (final (backend client) history (opening (fun i => ⟨settings i, none⟩) cache)).store a
    let s' := (perform (backend client) .commit s).2
    let staging := s.staging.getD ∅
    let changes := staging.changes
    let landed := changes.take (s.medium.2.takes changes.length)
    (changes.Pairwise (fun first later => first.id < later.id) ∧
        ∀ change, change ∈ changes ↔ ∃ entry, staging[change.id]? = some entry ∧
          entry.written = true ∧ change = ⟨change.id, entry.observed, entry.balance⟩) ∧
      (perform (backend client) .commit s).1 = (if landed = changes then .ok .done
        else .error (.partialCommit "redis" none changes.length s.medium.2.obstacle.message)) ∧
      Landed s.medium.1.settings landed s.medium.2 s'.medium.2 ∧
      (∀ change ∈ landed, (perform (backend client) (.getAccount change.id) (onceOn s')).1 =
        .ok (.account ⟨change.id, change.balance⟩)) ∧
      (∀ id, (∀ change ∈ landed, change.id ≠ id) →
        (perform (backend client) (.getAccount id) (onceOn s')).1 =
          (perform (backend client) (.getAccount id) (onceOn s)).1) ∧
      s'.inTransaction = false ∧
      (s'.medium.2.breakAfter =
        if changes = [] ∨ s.medium.2.isOff then s.medium.2.breakAfter else none) ∧
      ∀ op, (perform (backend client) op s).2.medium.2.breakAfter =
        if flushes (backend client) op s = [] ∨ s.medium.2.isOff then s.medium.2.breakAfter
        else none := by
  intro s s' staging changes landed
  have hattached : Attached s := final_attached settings cache history a
  obtain ⟨held, hstaging⟩ := Option.isSome_iff_exists.mp transaction
  obtain rfl : held = staging := by simp [staging, s, hstaging]
  have hopened : s.initialized = true := hattached.opened_of_staging hstaging
  have hconnected := hattached.opened hopened
  have hcommit := commit_apply hattached hstaging
  have hs' : s' = _ := congrArg Prod.snd hcommit
  have hascending : changes.Pairwise fun first later => first.id < later.id :=
    staging.changes_ascending
  have hlanded : Landed s.medium.1.settings landed s.medium.2 s'.medium.2 := by
    refine landed_of_recorded (hascending.sublist (List.take_sublist _ _)) ?_
    rw [hs']
    exact committed_entries ..
  have hreads : ∀ id, (perform (backend client) (.getAccount id) (onceOn s')).1 =
      (readUnder s.medium.1.settings s'.medium.2.entries id).bind fun found =>
        found.elim (.error (.accountNotFound id)) fun account => .ok (.account account) := by
    have hhandle : s'.medium.1 = s.medium.1 := by rw [hs']
    intro id
    rw [getAccount_onceOn (by rw [hs']) (hhandle ▸ hconnected), hhandle]
  refine ⟨⟨hascending, fun change => Staging.mem_changes⟩, ?_, hlanded, ?_, ?_, by rw [hs']; rfl,
    ?_, breakAfter_perform hattached⟩
  · rw [hcommit]
    by_cases hshort : s.medium.2.takes changes.length < changes.length
    · have hpart : landed ≠ changes := fun hall => by
        have hlength := congrArg List.length hall
        rw [List.length_take, Nat.min_eq_left (Nat.le_of_lt hshort)] at hlength
        exact Nat.ne_of_lt hshort hlength
      rw [if_neg hpart, if_pos hshort]
    · rw [if_pos (List.take_of_length_le (Nat.le_of_not_lt hshort)), if_neg hshort]
  · intro change hmem
    rw [hreads, readUnder, hlanded.written change hmem]
    dsimp only
    rw [decode_encode]
    rfl
  · intro id apart
    have hkept := hlanded.untouched (s.medium.1.settings.key id) fun change hmem same =>
      apart change hmem (s.medium.1.settings.key_injective same)
    rw [hreads, getAccount_onceOn hopened hconnected, readUnder, readUnder, hkept]
  · rw [hs']
    exact committed_breakAfter ..

/-- A cache takes one of two changes. The first account is read with its credit, the second was
never created, and the next commit is not to break. -/
theorem first_of_two_lands :
    let settings : Settings := ⟨"cache", none, 0, "account:"⟩
    let history : List (Event Unit InProcess) :=
      [.turn () .start, .turn () (.create 1 10), .turn () .begin, .turn () (.update 1 5),
        .turn () (.create 2 7), .disturbance fun cache => { cache with breakAfter := some 1 }]
    let s := (final (backend client) history (opening (fun _ => ⟨settings, none⟩) .empty)).store ()
    let s' := (perform (backend client) .commit s).2
    s.inTransaction = true ∧
      (perform (backend client) .commit s).1 =
        .error (.partialCommit "redis" none 2 Failure.dropped.message) ∧
      (perform (backend client) (.getAccount 1) (onceOn s')).1 = .ok (.account ⟨1, 15⟩) ∧
      (perform (backend client) (.getAccount 2) (onceOn s')).1 = .error (.accountNotFound 2) ∧
      s'.medium.2.breakAfter = none := by
  intro settings history s s'
  have htransaction : s.inTransaction = true := by decide +kernel
  have hcommit := commit_leaves_old_or_new (fun _ => settings) .empty history () htransaction
  dsimp only at hcommit
  obtain ⟨-, hanswer, -, hnew, hold, -, hspent, -⟩ := hcommit
  refine ⟨htransaction, ?_, hnew ⟨1, some 10, 15⟩ (by decide +kernel), ?_, ?_⟩
  · rw [hanswer]
    decide +kernel
  · rw [hold 2 (by decide +kernel)]
    decide +kernel
  · rw [hspent]
    decide +kernel

end Clearinghouse.Cache.InProcess
