/-
# Sessions on media of any kind

A medium that nothing was written to yet opens on an empty table, whatever its kind. As it
mirrors the table from then on, a session on it runs as one on a table in memory: no answer of
the store or of the application over it tells which medium it is.
-/

import Clearinghouse.Proofs.Application.Mirroring
import Clearinghouse.Proofs.Cache.Mirroring
import Clearinghouse.Proofs.Ledger.Mirroring
import Clearinghouse.Proofs.Medium.Mirroring

namespace Clearinghouse

/-! ## Media that open empty -/

/-- What is made unless its description is refused. -/
theorem eq_of_unrefused {α : Type} {refused : Prop} [Decidable refused] {e : StoreError}
    {made found : α}
    (created : (if refused then .error e else .ok made : Except StoreError α) = .ok found) :
    made = found := by
  split at created
  · cases created
  · exact Except.ok.inj created

/-- A medium opens on an empty table and mirrors it from then on. -/
structure Backend.Opens {S : Type} (b : Backend S) (within : S → Prop) (shows : S → Table → Prop)
    (m : S) : Prop where
  mirrors : b.Mirrors Portable within shows
  connected : (b.connect m).1 = .ok ()
  blank : shows (b.connect m).2 ∅

theorem Memory.opens (found : Table) :
    backend.Opens (fun _ => True) (fun m table => m = table) found :=
  ⟨backend_mirrors.restrict fun _ _ => trivial, rfl, rfl⟩

/-- A tree of keys is made where there is none. -/
theorem KeyStore.opens {path : String} {handle : Handle} {files files' : Files}
    (created : Handle.new path = .ok handle)
    (absent : ∀ tree isHeld, files[Path.parse path]? ≠ some (.keys tree isHeld))
    (made : files.makeDirectories (Path.parse path) = some files') :
    backend.Opens (fun _ => True) Shows (handle, files) := by
  obtain rfl : ⟨path, false⟩ = handle := eq_of_unrefused created
  have hconnect : backend.connect (⟨path, false⟩, files) =
      (.ok (), (⟨path, true⟩, files'.insert (Path.parse path) (.keys ∅ true))) := by
    have hrun : connect (⟨path, false⟩, files) = _ := Run.get_bind_apply _ _
    rw [backend_connect, hrun]
    simp only [made]
    cases hfound : files[Path.parse path]? with
    | none => rfl
    | some node =>
        cases node with
        | keys tree isHeld => exact absurd hfound (absent tree isHeld)
        | _ => rfl
  refine ⟨backend_mirrors.restrict fun _ _ => trivial, by rw [hconnect], ?_⟩
  rw [hconnect]
  exact ⟨rfl, ∅, by simp, Layout.denotes_empty fun k => by simp⟩

/-- A database in memory is always made anew. -/
theorem RowStore.opens_inMemory {handle : Handle} (files : Files)
    (created : Handle.new inMemory = .ok handle) :
    backend.Opens (fun _ => True) Shows (handle, files) := by
  obtain rfl : ⟨inMemory, false, ∅⟩ = handle := Except.ok.inj created
  have hconnect : backend.connect (⟨inMemory, false, ∅⟩, files) =
      (.ok (), (⟨inMemory, true, ∅⟩, files)) := Run.get_bind_apply _ _
  exact ⟨backend_mirrors.restrict fun _ portable => portable.2, by rw [hconnect], by rw [hconnect]; rfl⟩

/-- A database is made where there is none. -/
theorem RowStore.opens {path : String} {handle : Handle} {files files' : Files}
    (created : Handle.new path = .ok handle)
    (made : files.makeDirectories (parentOf path) = some files')
    (absent : files'[Path.parse path]? = none)
    (free : files'.isDirectory (Path.parse path) = false) :
    backend.Opens (fun _ => True) Shows (handle, files) := by
  by_cases hmemory : path = inMemory
  · subst hmemory
    exact opens_inMemory files created
  obtain rfl : ⟨path, false, ∅⟩ = handle := eq_of_unrefused created
  have hconnect : backend.connect (⟨path, false, ∅⟩, files) =
      (.ok (), (⟨path, true, ∅⟩, files'.insert (Path.parse path) (.rows ∅))) := by
    have hrun : backend.connect (⟨path, false, ∅⟩, files) = _ := Run.get_bind_apply _ _
    rw [hrun]
    dsimp only
    rw [if_neg hmemory, made]
    dsimp only
    rw [Run.set_bind_apply, absent, free]
    rfl
  refine ⟨backend_mirrors.restrict fun _ portable => portable.2, by rw [hconnect], ?_⟩
  rw [hconnect, Shows, rows, Run.get_bind_apply]
  simp [hmemory]

/-- A new store is not connected to its cache yet. -/
theorem Cache.eq_of_created {K : Type} {settings : Settings} {handle : Handle K}
    (created : Handle.new settings = .ok handle) : ⟨settings, none⟩ = handle := by
  rw [Handle.new] at created
  split at created
  · cases created
  · exact eq_of_unrefused created

/-- A store of a cache without entries, whatever its settings are. -/
theorem Cache.opens {settings : Settings} {handle : Handle Unit}
    (created : Handle.new settings = .ok handle) :
    (backend InProcess.client).Opens (fun _ => True) InProcess.Shows (handle, .empty) := by
  obtain rfl := eq_of_created created
  have hconnect : (backend InProcess.client).connect (⟨settings, none⟩, .empty) =
      (.ok (), (⟨settings, some ()⟩, .empty)) := rfl
  refine ⟨InProcess.backend_mirrors.restrict fun _ _ => trivial, by rw [hconnect], ?_⟩
  rw [hconnect]
  exact ⟨rfl, rfl, rfl, Layout.denotes_empty fun k => by simp [InProcess.empty]⟩

/-- A ledger without accounts opens the system account, which belongs to nobody. -/
theorem Ledger.opens {settings : Settings} {handle : Handle} {draw : Book → TransferNumber}
    (created : Handle.new settings = .ok handle) (fresh : Fresh draw) :
    (backend (Book.serviceWith draw)).Opens (fun state => state.2.WithinBounds) Shows
      (handle, .empty) := by
  obtain rfl : ⟨settings, false, ∅⟩ = handle := eq_of_unrefused created
  have haccepted : Book.empty.accountRejection? (.new systemAccount) = none :=
    Book.accountRejection?_eq_none_iff.mpr
      ⟨Nat.succ_ne_zero _, Nat.one_ne_zero, by simp [Book.empty]⟩
  have hconnect : (backend (Book.serviceWith draw)).connect (⟨settings, false, ∅⟩, .empty) =
      (.ok (), (⟨settings, true, ∅⟩, Book.empty.addAccount (.new systemAccount))) := by
    refine (connect_apply draw _).trans ?_
    rw [haccepted]
  refine ⟨(backend_mirrors fresh).restrict fun _ portable => portable.1, by rw [hconnect], ?_⟩
  rw [hconnect]
  refine ⟨rfl, rfl, Book.denotes_empty, ?_⟩
  simp

/-- A medium that nothing was written to yet, of any kind, and the bounds it has to stay
within. A database or a tree of keys is made where there is none, a cache is one without
entries, and a ledger is one without accounts that draws fresh numbers for transfers. Only a
ledger has bounds: those of its counters. -/
inductive Pristine : {S : Type} → Backend S → (S → Prop) → S → Prop
  | memory (found : Table) : Pristine Memory.backend (fun _ => True) found
  | keyStore {path : String} {handle : KeyStore.Handle} {files files' : Files}
      (created : KeyStore.Handle.new path = .ok handle)
      (absent : ∀ tree isHeld, files[Path.parse path]? ≠ some (.keys tree isHeld))
      (made : files.makeDirectories (Path.parse path) = some files') :
      Pristine KeyStore.backend (fun _ => True) (handle, files)
  | inMemory {handle : RowStore.Handle} (files : Files)
      (created : RowStore.Handle.new RowStore.inMemory = .ok handle) :
      Pristine RowStore.backend (fun _ => True) (handle, files)
  | rowStore {path : String} {handle : RowStore.Handle} {files files' : Files}
      (created : RowStore.Handle.new path = .ok handle)
      (made : files.makeDirectories (RowStore.parentOf path) = some files')
      (absent : files'[Path.parse path]? = none)
      (free : files'.isDirectory (Path.parse path) = false) :
      Pristine RowStore.backend (fun _ => True) (handle, files)
  | cache {settings : Cache.Settings} {handle : Cache.Handle Unit}
      (created : Cache.Handle.new settings = .ok handle) :
      Pristine (Cache.backend Cache.InProcess.client) (fun _ => True) (handle, .empty)
  | ledger {settings : Ledger.Settings} {handle : Ledger.Handle}
      {draw : Ledger.Book → Ledger.TransferNumber}
      (created : Ledger.Handle.new settings = .ok handle) (fresh : Ledger.Fresh draw) :
      Pristine (Ledger.backend (Ledger.Book.serviceWith draw)) (fun state => state.2.WithinBounds)
        (handle, .empty)

variable {S T : Type} {b : Backend S} {c : Backend T} {within : S → Prop} {within' : T → Prop}
  {shows : S → Table → Prop} {m : S} {n : T}

/-- A medium of any kind opens empty. -/
theorem Pristine.opens (pristine : Pristine b within m) : ∃ shows, b.Opens within shows m := by
  cases pristine with
  | memory found => exact ⟨_, Memory.opens found⟩
  | keyStore created absent made => exact ⟨_, KeyStore.opens created absent made⟩
  | inMemory files created => exact ⟨_, RowStore.opens_inMemory files created⟩
  | rowStore created made absent free => exact ⟨_, RowStore.opens created made absent free⟩
  | cache created => exact ⟨_, Cache.opens created⟩
  | ledger created fresh => exact ⟨_, Ledger.opens created fresh⟩

/-! ## Sessions -/

/-- The answers of a new store to operations after it was opened. -/
def Store.session (b : Backend S) (m : S) (ops : List Store.Op) :
    List (Except StoreError Store.Answer) × Store S :=
  Store.answers b (.start :: ops) (Store.new m)

/-- The answers of a new application to calls after its store was opened. -/
def Application.session (b : Backend S) (m : S) (policy : Policy) (calls : List Call) :
    List Reply × Application S :=
  replies b calls (onStep (Store.start b) (new (Store.new m) policy)).2

theorem Store.session_of_started {s : Store S} (started : Store.start b (Store.new m) = (.ok (), s))
    (ops : List Store.Op) :
    Store.session b m ops =
      (.ok .done :: (Store.answers b ops s).1, (Store.answers b ops s).2) := by
  have hperform : Store.perform b .start (Store.new m) = (.ok .done, s) := by
    rw [Store.perform, Run.map_apply, started]
    rfl
  have hsession : Store.session b m ops =
      ((Store.perform b .start (Store.new m)).1 ::
          (Store.answers b ops (Store.perform b .start (Store.new m)).2).1,
        (Store.answers b ops (Store.perform b .start (Store.new m)).2).2) := by
    rw [Store.session, Store.answers, List.mapM_cons]
    rfl
  rw [hsession, hperform]

theorem Application.session_of_started {s : Store S}
    (started : Store.start b (Store.new m) = (.ok (), s)) (policy : Policy) (calls : List Call) :
    Application.session b m policy calls = replies b calls (new s policy) := by
  have hstore : (onStep (Store.start b) (new (Store.new m) policy)).2 =
      new (Store.start b (Store.new m)).2 policy := rfl
  rw [Application.session, hstore, started]

namespace Backend.Opens

/-- The store of a medium that opens empty, and one over the empty table. -/
theorem start (opens : b.Opens within shows m) :
    ∃ s, Store.start b (Store.new m) = (.ok (), s) ∧ Store.Twins Portable shows s ⟨∅, true, none⟩ := by
  refine ⟨⟨(b.connect m).2, true, none⟩, ?_, opens.blank, rfl, rfl, rfl, ?_, ?_⟩
  · rw [Store.start_of_closed rfl, Store.new, opens.connected]
  · intro staging hstaging
    cases hstaging
  · intro staging id entry hstaging
    cases hstaging

/-- A session of a store on such a medium is one on a table in memory. -/
theorem session_matches (opens : b.Opens within shows m) {ops : List Store.Op}
    (portable : ∀ op ∈ ops, op.InSession) (bounded : within (Store.session b m ops).2.medium) :
    (Store.session b m ops).1 = (Store.session Memory.backend ∅ ops).1 ∧
      Store.Twins Portable shows (Store.session b m ops).2 (Store.session Memory.backend ∅ ops).2 := by
  obtain ⟨s, hstart, twins⟩ := opens.start
  rw [Store.session_of_started hstart] at bounded ⊢
  rw [Store.session_of_started (rfl : Store.start Memory.backend (Store.new ∅) = _)]
  obtain ⟨hanswers, htwins⟩ := (Store.answers_matches opens.mirrors portable).agrees twins bounded
  exact ⟨congrArg (.ok .done :: ·) hanswers, htwins⟩

/-- A session of an application on such a medium is one on a table in memory. -/
theorem application_matches (opens : b.Opens within shows m) (policy : Policy)
    {calls : List Application.Call} (portable : ∀ call ∈ calls, call.Portable)
    (bounded : within (Application.session b m policy calls).2.store.medium) :
    (Application.session b m policy calls).1 =
      (Application.session Memory.backend ∅ policy calls).1 := by
  obtain ⟨s, hstart, twins⟩ := opens.start
  rw [Application.session_of_started hstart] at bounded ⊢
  rw [Application.session_of_started (rfl : Store.start Memory.backend (Store.new ∅) = _)]
  exact ((Application.replies_alike opens.mirrors portable).agrees
    ⟨twins, rfl, rfl, rfl⟩ bounded).1

end Backend.Opens

/-- Two media of whatever kind that nothing was written to yet cannot be told apart. Both
open; then every list of operations that names accounts any medium can keep gets the same
answers from both, and so does every list of calls of an application, as long as a ledger
among them stays within its bounds. -/
theorem Pristine.interchangeable (first : Pristine b within m) (second : Pristine c within' n) :
    ((Store.start b (Store.new m)).1 = .ok () ∧ (Store.start c (Store.new n)).1 = .ok ()) ∧
      (∀ ops : List Store.Op, (∀ op ∈ ops, op.InSession) →
        within (Store.session b m ops).2.medium → within' (Store.session c n ops).2.medium →
        (Store.session b m ops).1 = (Store.session c n ops).1 ∧
          (Store.session b m ops).2.initialized = (Store.session c n ops).2.initialized ∧
          (Store.session b m ops).2.inTransaction = (Store.session c n ops).2.inTransaction) ∧
      ∀ (policy : Policy) (calls : List Application.Call), (∀ call ∈ calls, call.Portable) →
        within (Application.session b m policy calls).2.store.medium →
        within' (Application.session c n policy calls).2.store.medium →
        (Application.session b m policy calls).1 = (Application.session c n policy calls).1 := by
  obtain ⟨shows, hfirst⟩ := first.opens
  obtain ⟨shows', hsecond⟩ := second.opens
  refine ⟨?_, fun ops portable bounded bounded' => ?_,
    fun policy calls portable bounded bounded' => ?_⟩
  · obtain ⟨s, hstart, -⟩ := hfirst.start
    obtain ⟨t, hstart', -⟩ := hsecond.start
    rw [hstart, hstart']
    exact ⟨rfl, rfl⟩
  · obtain ⟨hanswers, twins⟩ := hfirst.session_matches portable bounded
    obtain ⟨hanswers', twins'⟩ := hsecond.session_matches portable bounded'
    exact ⟨hanswers.trans hanswers'.symm, twins.opened.trans twins'.opened.symm,
      twins.inTransaction.trans twins'.inTransaction.symm⟩
  · exact (hfirst.application_matches policy portable bounded).trans
      (hsecond.application_matches policy portable bounded').symm

/-- A ledger takes the place of a table in memory. -/
theorem Ledger.answers_as_memory :
    let ledger := backend (Book.serviceWith Book.freshNumber)
    let medium : State Book := (⟨⟨["3000"], 0, false⟩, false, ∅⟩, .empty)
    let ops : List Store.Op := [.create 1 (-5), .begin, .update 1 12, .create 2 Int64.maxValue,
      .update 2 1, .commit, .accounts]
    let calls : List Application.Call := [.initChain [⟨1, -5, none⟩, ⟨2, 7, none⟩],
      .queryAccount 3, .queryState]
    (Store.session ledger medium ops).1 =
        [.ok .done, .ok .done, .ok .done, .ok .done, .ok .done,
          .error (.balanceOverflow 2), .ok .done,
          .ok (.accounts [⟨1, 7⟩, ⟨2, Int64.maxValue⟩])] ∧
      (Application.session ledger medium .allOrNothing calls).1 =
        (Application.session Memory.backend ∅ .allOrNothing calls).1 := by
  intro ledger medium ops calls
  have hmemory : Pristine Memory.backend (fun _ => True) ∅ := .memory ∅
  have hledger : Pristine ledger (fun state => state.2.WithinBounds) medium :=
    .ledger (rfl : Handle.new ⟨["3000"], 0, false⟩ = .ok medium.1) Book.fresh_freshNumber
  obtain ⟨-, hops, hcalls⟩ := hledger.interchangeable hmemory
  have hseeded : Application.Call.Portable (.initChain [⟨1, -5, none⟩, ⟨2, 7, none⟩]) := by
    intro account hmem
    simp only [List.mem_cons, List.not_mem_nil, or_false] at hmem
    obtain rfl | rfl := hmem <;> decide
  have hasked : Application.Call.Portable (.queryAccount 3) := (by decide : Portable 3)
  have hportable : ∀ call ∈ calls, call.Portable := by
    intro call hmem
    simp only [calls, List.mem_cons, List.not_mem_nil, or_false] at hmem
    obtain rfl | rfl | rfl := hmem
    · exact hseeded
    · exact hasked
    · trivial
  have hanswers := (hops ops (by decide +kernel) (by decide +kernel) trivial).1
  refine ⟨hanswers.trans (by decide +kernel), ?_⟩
  exact hcalls .allOrNothing calls hportable (by decide +kernel) trivial

end Clearinghouse
