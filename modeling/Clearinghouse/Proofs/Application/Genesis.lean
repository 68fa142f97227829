/-
# The first accounts

An application is seeded from a list in which an account may occur more than once. The list is
taken if every key in it can be read. Then each of its accounts is there, with the balance of
its first entry if it was not there before, and what was there stays as it was. The same holds
of the keys. To seed the application once more does nothing, however late in the session it
comes: no account ever goes away and no key is ever replaced.
-/

import Clearinghouse.Proofs.Application.Resuming
import Clearinghouse.Proofs.Medium.Mirroring

namespace Clearinghouse

namespace GenesisAccount

variable {V : Type} {genesis : List GenesisAccount} {map : Std.ExtTreeMap AccountId V}

/-- The balance that an entry carries. Every entry carries one. -/
def balance? (entry : GenesisAccount) : Option Balance := some entry.balance

/-- The key that an entry carries, if it carries one that can be read. -/
def key? (entry : GenesisAccount) : Option Signature.PublicKey :=
  entry.publicKey.bind fun text => (Signature.PublicKey.parse text).toOption

/-- The entry carries no key that cannot be read. -/
def Readable (entry : GenesisAccount) : Prop :=
  ∀ text, entry.publicKey = some text → ∃ key, Signature.PublicKey.parse text = .ok key

/-- What a list gives for an account: what its first entry gives that gives anything. -/
def first (gives : GenesisAccount → Option V) (genesis : List GenesisAccount) (id : AccountId) :
    Option V :=
  genesis.findSome? fun entry => if entry.id = id then gives entry else none

/-- What an entry gives counts if nothing is there for its account. -/
def seed (gives : GenesisAccount → Option V) (map : Std.ExtTreeMap AccountId V)
    (entry : GenesisAccount) : Std.ExtTreeMap AccountId V :=
  match gives entry with
  | some value => map.insertIfNew entry.id value
  | none => map

variable {gives : GenesisAccount → Option V} {entry : GenesisAccount} {value : V}

theorem getElem?_seed (id : AccountId) :
    (seed gives map entry)[id]? = map[id]?.or (if entry.id = id then gives entry else none) := by
  unfold seed
  cases hgives : gives entry with
  | none => simp
  | some value =>
      dsimp only
      rw [Std.ExtTreeMap.getElem?_insertIfNew]
      by_cases hid : entry.id = id
      · subst hid
        cases hheld : map[entry.id]? <;> simp [Std.ExtTreeMap.mem_iff_isSome_getElem?, hheld]
      · simp [hid]

theorem seed_of_new (given : gives entry = some value) (new : map[entry.id]? = none) :
    seed gives map entry = map.insert entry.id value := by
  ext1 id
  rw [getElem?_seed, Std.ExtTreeMap.getElem?_insert, given]
  by_cases hid : entry.id = id
  · rw [← hid, new, if_pos rfl, Option.none_or, if_pos Std.ReflCmp.compare_self]
  · rw [if_neg hid, Option.or_none, if_neg (by simpa using hid)]

theorem seed_of_held (held : map[entry.id]? = some value) : seed gives map entry = map := by
  ext1 id
  rw [getElem?_seed]
  by_cases hid : entry.id = id
  · rw [← hid, held, Option.some_or]
  · rw [if_neg hid, Option.or_none]

/-- A seeded map holds what it held, and else what the list gives. -/
theorem getElem?_foldl_seed (gives : GenesisAccount → Option V) (genesis : List GenesisAccount)
    (map : Std.ExtTreeMap AccountId V) (id : AccountId) :
    (genesis.foldl (seed gives) map)[id]? = map[id]?.or (first gives genesis id) := by
  induction genesis generalizing map with
  | nil => simp [first]
  | cons entry rest ih =>
      rw [List.foldl_cons, ih, getElem?_seed, Option.or_assoc, first, first, List.findSome?_cons]
      cases (if entry.id = id then gives entry else none) <;> rfl

/-- An account that an entry gives something for is there once the list was taken. -/
theorem mem_foldl_seed (gives : GenesisAccount → Option V) (listed : entry ∈ genesis)
    (given : gives entry = some value) (map : Std.ExtTreeMap AccountId V) :
    entry.id ∈ genesis.foldl (seed gives) map := by
  have hfirst : (first gives genesis entry.id).isSome := by
    rw [first, List.findSome?_isSome_iff]
    exact ⟨entry, listed, by simp [given]⟩
  rw [Std.ExtTreeMap.mem_iff_isSome_getElem?, getElem?_foldl_seed, Option.isSome_or, hfirst,
    Bool.or_true]

/-- Where all is there that the list gives, nothing is added. -/
theorem foldl_seed_of_mem
    (held : ∀ entry ∈ genesis, ∀ value, gives entry = some value → entry.id ∈ map) :
    genesis.foldl (seed gives) map = map := by
  ext1 id
  rw [getElem?_foldl_seed]
  cases hheld : map[id]? with
  | some value => rfl
  | none =>
      rw [Option.none_or, first, List.findSome?_eq_none_iff]
      intro entry hmem
      split
      · next hid =>
          cases hgives : gives entry with
          | none => rfl
          | some value =>
              have hthere := held entry hmem value hgives
              rw [Std.ExtTreeMap.mem_iff_isSome_getElem?, hid, hheld] at hthere
              cases hthere
      · rfl

end GenesisAccount

namespace Application

open GenesisAccount (first seed balance? key? seed_of_new seed_of_held mem_foldl_seed
  foldl_seed_of_mem getElem?_foldl_seed)

variable {S : Type} {b : Backend S} {genesis : List GenesisAccount}

/-! ## Over a table -/

/-- The key of an entry is registered unless its user has one. -/
theorem ensureKey_of_parse {entry : GenesisAccount} {text : String} {key : Signature.PublicKey}
    (carried : entry.publicKey = some text) (parsed : Signature.PublicKey.parse text = .ok key)
    (app : Application S) :
    ensureKey entry.id text app = (.ok (), { app with keys := seed key? app.keys entry }) := by
  have hkey : entry.key? = some key := by
    rw [key?, carried]
    exact congrArg Except.toOption parsed
  rw [ensureKey_apply, registerKey, Run.get_bind_apply, KeyRegistry.register, parsed]
  cases hheld : app.keys[entry.id]? with
  | some held =>
      rw [seed_of_held hheld]
      simp only [Except.mapError, bind, Except.bind]
      rfl
  | none =>
      rw [seed_of_new hkey hheld]
      simp only [Except.mapError, bind, Except.bind]
      rfl

/-- A key that cannot be read is refused, even if the user has one. -/
theorem ensureKey_of_unreadable {text : String} {problem : KeyProblem}
    (unreadable : Signature.PublicKey.parse text = .error problem) (user : AccountId)
    (app : Application S) :
    ensureKey user text app = (.error (.invalidPublicKey problem.message), app) := by
  rw [ensureKey_apply, registerKey, Run.get_bind_apply, KeyRegistry.register, unreadable]
  rfl

section

variable {app : Application Table} {table : Table}

/-- To look at an account finds what the table holds, and copies nothing. -/
theorem looked_memory (table : Table) (id : AccountId) :
    Store.peek Memory.backend id ⟨table, true, none⟩ = (.ok table[id]?, ⟨table, true, none⟩) ∧
      Store.observe Memory.backend id ⟨table, true, none⟩ =
        (.ok table[id]?, ⟨table, true, none⟩) := by
  have hbalance : (table.account? id).map (·.balance) = table[id]? := by
    simp [Table.account?, Function.comp_def]
  rw [Store.peek_of_idle rfl, Store.observe_of_idle rfl, ← hbalance]
  exact ⟨rfl, rfl⟩

/-- Whatever its sign is, the balance of an entry counts if its account is not there yet. -/
theorem seedAccount_memory (rests : app.store = ⟨table, true, none⟩) (entry : GenesisAccount) :
    seedAccount Memory.backend entry app =
      (.ok (), { app with store := ⟨seed balance? table entry, true, none⟩ }) := by
  obtain ⟨hpeek, hobserve⟩ := looked_memory table entry.id
  have hcontains : onStep (Store.contains Memory.backend entry.id) app =
      (.ok table[entry.id]?.isSome, app) := by
    rw [onStep_apply, rests, Store.contains_apply rfl, hpeek, ← rests]
    rfl
  rw [seedAccount, Run.bind_of_ok hcontains]
  cases hheld : table[entry.id]? with
  | some held =>
      rw [seed_of_held hheld, ← rests]
      rfl
  | none =>
      have hnew : seed balance? table entry = table.insert entry.id entry.balance :=
        seed_of_new rfl hheld
      rw [hheld] at hpeek hobserve
      rw [if_neg (by simp), hnew]
      split
      · next hfunded =>
          rw [onStep_apply, rests, Store.update, Store.ensureInitialized_bind rfl,
            Run.bind_of_ok hobserve]
          dsimp only
          rw [if_pos hfunded]
          rfl
      · rw [onStep_apply, rests, Store.create, Store.ensureInitialized_bind rfl,
          Run.bind_of_ok hpeek]
        rfl

/-- The application after an entry was taken. -/
def taken (app : Application Table) (entry : GenesisAccount) : Application Table :=
  { app with
    store := { app.store with medium := seed balance? app.store.medium entry }
    keys := seed key? app.keys entry }

/-- An entry is taken if its key can be read. If not, the rest of the list is not looked at. -/
theorem initChain_cons_memory (rests : app.store = ⟨table, true, none⟩) (entry : GenesisAccount)
    (rest : List GenesisAccount) :
    (entry.Readable ∧ initChain Memory.backend (entry :: rest) app =
        initChain Memory.backend rest (taken app entry)) ∨
      ¬ entry.Readable ∧ ∃ refusal, (initChain Memory.backend (entry :: rest) app).1 =
        .error refusal := by
  rw [initChain, Run.bind_of_ok (seedAccount_memory rests entry), taken, rests]
  cases hkey : entry.publicKey with
  | none =>
      have hkeys : seed key? app.keys entry = app.keys := by
        rw [seed, key?, hkey]
        rfl
      rw [hkeys]
      refine .inl ⟨fun text carried => ?_, rfl⟩
      cases hkey.symm.trans carried
  | some text =>
      dsimp only
      cases hparse : Signature.PublicKey.parse text with
      | error problem =>
          rw [Run.bind_of_error (ensureKey_of_unreadable hparse _ _)]
          refine .inr ⟨fun readable => ?_, _, rfl⟩
          obtain ⟨key, hparsed⟩ := readable text hkey
          cases hparse.symm.trans hparsed
      | ok key =>
          rw [Run.bind_of_ok (ensureKey_of_parse hkey hparse _)]
          refine .inl ⟨fun text' carried => ?_, rfl⟩
          cases hkey.symm.trans carried
          exact ⟨key, hparse⟩

/-- The list is taken, its entries one after the other, or it holds a key that cannot be
read. -/
theorem initChain_memory (genesis : List GenesisAccount)
    (rests : app.store = ⟨table, true, none⟩) :
    ((∀ entry ∈ genesis, entry.Readable) ∧
        initChain Memory.backend genesis app = (.ok (), { app with
          store := ⟨genesis.foldl (seed balance?) table, true, none⟩
          keys := genesis.foldl (seed key?) app.keys })) ∨
      (¬ ∀ entry ∈ genesis, entry.Readable) ∧
        ∃ refusal, (initChain Memory.backend genesis app).1 = .error refusal := by
  induction genesis generalizing app table with
  | nil => exact .inl ⟨nofun, by rw [List.foldl_nil, List.foldl_nil, ← rests]; rfl⟩
  | cons entry rest ih =>
      rw [List.forall_mem_cons]
      obtain ⟨hreadable, hrun⟩ | ⟨hunreadable, hrefused⟩ := initChain_cons_memory rests entry rest
      · have hrests : (taken app entry).store = ⟨seed balance? table entry, true, none⟩ := by
          rw [taken, rests]
        rw [hrun]
        obtain ⟨hrest, htaken⟩ | ⟨hrest, hrefused⟩ := ih hrests
        · exact .inl ⟨⟨hreadable, hrest⟩, htaken⟩
        · exact .inr ⟨fun readable => hrest readable.2, hrefused⟩
      · exact .inr ⟨fun readable => hunreadable readable.1, hrefused⟩

end

/-! ## What comes in between -/

/-- What is done with an application in the course of a session: it is asked to deliver or to
check a transaction or to register a key, or its store is written to directly. -/
inductive Work
  | deliver (bytes : List UInt8)
  | check (bytes : List UInt8)
  | register (user : AccountId) (text : String)
  | create (id : AccountId) (balance : Balance)
  | update (id : AccountId) (delta : Balance)

variable (b) in
/-- Does a piece of work. -/
def carryOut : Work → StateM (Application S) Reply
  | .deliver bytes => perform b (.deliverTx bytes)
  | .check bytes => perform b (.checkTx bytes)
  | .register user text => perform b (.registerKey user text)
  | .create id balance => return .admitted (← (onStep (Store.create b id balance)).run)
  | .update id delta => return .admitted (← (onStep (Store.update b id delta)).run)

/-- The accounts that a piece of work names are meant. -/
def Work.Names (keeps : AccountId → Prop) : Work → Prop
  | .deliver bytes | .check bytes => BytesName keeps bytes
  | .register .. => True
  | .create id _ | .update id _ => keeps id

theorem carryOut_alike {T : Type} {c : Backend T} {keeps : AccountId → Prop}
    {within : Store S → Prop} {related : Store S → Store T → Prop}
    (inStep : Store.InStep b c keeps within related) {work : Work} (named : work.Names keeps) :
    Alike within related (carryOut b work) (carryOut c work) := by
  cases work with
  | deliver | check | register =>
      rw [carryOut, carryOut]
      exact perform_alike inStep named nofun
  | create id balance =>
      exact (onStep_alike (inStep.create named balance)).andThen fun _ => .give _
  | update id delta => exact (onStep_alike (inStep.update named delta)).andThen fun _ => .give _

/-- No account of a table goes away. -/
def Gains (table table' : Table) : Prop := ∀ id, id ∈ table → id ∈ table'

instance : IsPreorder Table Gains where
  refl _ _ := id
  trans _ _ _ first second id := second id ∘ first id

/-- The store of an application is open and idle and stays so, no account goes away, and no key
is lost or replaced. -/
def Grows (app app' : Application Table) : Prop :=
  StoreAlong (Store.IdleAlong Gains) app app' ∧ KeepsKeys app app'

instance : IsPreorder (Application Table) Grows where
  refl app := ⟨Std.Refl.refl app, Std.Refl.refl app⟩
  trans app app' app'' first second :=
    ⟨IsTrans.trans app app' app'' first.1 second.1, IsTrans.trans app app' app'' first.2 second.2⟩

theorem flush_gains (changes : List Change) : Run.Along Gains (Memory.backend.flush changes) := by
  intro table id held
  refine Change.foldl_knows (fun table : Table => (· ∈ table)) (fun {table change id} known => ?_)
    (.inl held)
  rw [Table.record, Std.ExtTreeMap.mem_insert]
  exact known.imp_left fun hid => by simp [hid]

theorem access_gains : Store.Access Memory.backend (Store.IdleAlong Gains) :=
  Store.access_idleAlong (fun _ table => Std.Refl.refl table) (fun table => Std.Refl.refl table)
    flush_gains

theorem deliverTx_gains (bytes : List UInt8) (app : Application Table) :
    StoreAlong (Store.IdleAlong Gains) app (deliverTx Memory.backend bytes app).2 := by
  cases hdecode : Transaction.decode bytes with
  | error problem =>
      rw [deliverTx_of_undecodable Memory.backend hdecode]
      exact Std.Refl.refl app
  | ok tx =>
      obtain ⟨hstore, -⟩ := deliverTx_of_decode Memory.backend hdecode app
      have hworks : Batch.Working Memory.backend (Store.OpenAlong Gains) :=
        Batch.working_open (fun _ table => Std.Refl.refl table)
          (fun table => Std.Refl.refl table) flush_gains
      rw [StoreAlong, hstore]
      intro opened idle
      obtain ⟨hopened, hgains⟩ := Batch.process_along hworks tx app.store opened
      exact ⟨hopened, Batch.process_staging idle tx, hgains⟩

theorem checkTx_gains (bytes : List UInt8) (app : Application Table) :
    StoreAlong (Store.IdleAlong Gains) app (checkTx Memory.backend bytes app).2 := by
  rw [checkTx_state]
  cases Transaction.decode bytes with
  | error problem => exact Std.Refl.refl app
  | ok tx =>
      dsimp only
      rw [check_apply]
      exact Batch.check_along (fun op _ => access_gains.getBalance_along op.sender) app.store

theorem registerKey_store (user : AccountId) (text : String) (app : Application S) :
    (registerKey user text app).2.store = app.store := by
  rw [registerKey, Run.get_bind_apply]
  cases app.keys.register user text <;> rfl

/-- A piece of work adds accounts and keys at most. -/
theorem carryOut_grows (work : Work) (app : Application Table) :
    Grows app (carryOut Memory.backend work app).2 := by
  cases work with
  | deliver bytes =>
      refine ⟨?_, perform_keeps Memory.backend _ app⟩
      rw [carryOut, perform, answered_state]
      exact deliverTx_gains bytes app
  | check bytes =>
      refine ⟨?_, perform_keeps Memory.backend _ app⟩
      rw [carryOut, perform, answered_state]
      exact checkTx_gains bytes app
  | register user text =>
      refine ⟨?_, perform_keeps Memory.backend _ app⟩
      rw [carryOut, perform, answered_state, StoreAlong, ExceptT.run, registerKey_store]
      exact Std.Refl.refl app.store
  | create id balance =>
      exact ⟨access_gains.create_along id balance app.store, keepsKeys_of_eq rfl⟩
  | update id delta =>
      exact ⟨access_gains.update_along id delta app.store, keepsKeys_of_eq rfl⟩

variable (b) in
/-- Does one piece of work after the other. -/
def carryOutAll (works : List Work) : StateM (Application S) (List Reply) :=
  works.mapM (carryOut b)

theorem carryOutAll_grows (works : List Work) (app : Application Table) :
    Grows app (carryOutAll Memory.backend works app).2 := by
  induction works generalizing app with
  | nil => exact Std.Refl.refl app
  | cons work rest ih =>
      rw [carryOutAll, List.mapM_cons]
      exact IsTrans.trans _ _ _ (carryOut_grows work app) (ih _)

/-- Once a list was taken, it is taken again at any later time, and does nothing then. -/
theorem initChain_again_memory {app later : Application Table} {table : Table}
    (rests : app.store = ⟨table, true, none⟩)
    (taken : (initChain Memory.backend genesis app).1 = .ok ())
    (grown : Grows (initChain Memory.backend genesis app).2 later) :
    initChain Memory.backend genesis later = (.ok (), later) := by
  obtain ⟨hreadable, hrun⟩ | ⟨-, refusal, hrefused⟩ := initChain_memory genesis rests
  · rw [hrun] at grown
    obtain ⟨hstore, hkeys⟩ := grown
    obtain ⟨hopened, hidle, hgains⟩ := hstore rfl rfl
    have hrests : later.store = ⟨later.store.medium, true, none⟩ := by rw [← hopened, ← hidle]
    have hthere : ∀ entry ∈ genesis, entry.id ∈ genesis.foldl (seed balance?) table :=
      fun entry hmem => mem_foldl_seed balance? hmem rfl table
    have haccounts : genesis.foldl (seed balance?) later.store.medium =
        later.store.medium :=
      foldl_seed_of_mem fun entry hmem _ _ => hgains entry.id (hthere entry hmem)
    have hregistered : genesis.foldl (seed key?) later.keys = later.keys := by
      refine foldl_seed_of_mem fun entry hmem key hkey => ?_
      have hheld := mem_foldl_seed key? hmem hkey app.keys
      rw [Std.ExtTreeMap.mem_iff_isSome_getElem?] at hheld ⊢
      obtain ⟨held, hfound⟩ := Option.isSome_iff_exists.mp hheld
      exact Option.isSome_iff_exists.mpr ⟨held, hkeys _ _ hfound⟩
    obtain ⟨-, hagain⟩ | ⟨hunreadable, -⟩ := initChain_memory genesis hrests
    · rw [hagain, haccounts, hregistered, ← hrests]
    · exact absurd hreadable hunreadable
  · cases hrefused.symm.trans taken

/-! ## Over any medium -/

variable {keeps : AccountId → Prop} {within : S → Prop} {shows : S → Table → Prop}

/-- The store of an application is open and idle, and its medium shows a table. -/
structure Rests (shows : S → Table → Prop) (app : Application S) (table : Table) : Prop where
  shown : shows app.store.medium table
  opened : app.store.initialized = true
  idle : app.store.staging = none

/-- The same application over a table. -/
def onTable (app : Application S) (table : Table) : Application Table :=
  ⟨⟨table, true, none⟩, app.keys, app.policy, app.tally⟩

theorem Rests.beside {app : Application S} {table : Table} (rests : app.Rests shows table) :
    Beside (Store.Twins keeps shows) app (app.onTable table) where
  store := ⟨rests.shown, rests.opened, rfl, rests.idle, nofun, nofun⟩
  keys := rfl
  policy := rfl
  tally := rfl

theorem Beside.rests {app : Application S} {app' : Application Table}
    (beside : Beside (Store.Twins keeps shows) app app') (idle : app'.store.staging = none) :
    app.Rests shows app'.store.medium :=
  ⟨beside.store.medium, beside.store.opened, beside.store.staging.trans idle⟩

/-- The list is taken exactly if every key in it can be read. Then an account that was there
keeps its balance, every other account of the list has the balance of its first entry, and
there is no further account. A key that was there stays, and every other user in the list has
the key of its first entry that carries one. Whatever the application is asked after that and
whatever is written to its store, to seed it with the same list again goes through, and changes
neither an account nor a key. -/
theorem genesis_is_exact_and_replayable (tracks : b.Tracks keeps within shows)
    {app : Application S} {table : Table} (rests : app.Rests shows table)
    (named : ∀ entry ∈ genesis, keeps entry.id)
    (room : within (initChain b genesis app).2.store.medium) :
    let seeded := (initChain b genesis app).2
    ((initChain b genesis app).1 = .ok () ↔ ∀ entry ∈ genesis, entry.Readable) ∧
      ((initChain b genesis app).1 = .ok () →
        (∃ holds : Table, seeded.Rests shows holds ∧
          ∀ id, holds[id]? = table[id]?.or (first balance? genesis id)) ∧
        (∀ user, seeded.keys[user]? = app.keys[user]?.or (first key? genesis user)) ∧
        ∀ works : List Work, (∀ work ∈ works, work.Names keeps) →
          let later := (carryOutAll b works seeded).2
          let again := initChain b genesis later
          within again.2.store.medium →
            again.1 = .ok () ∧ again.2.keys = later.keys ∧
              ∃ holds : Table, later.Rests shows holds ∧ again.2.Rests shows holds) := by
  have hinStep := Store.inStep_of_tracks tracks
  have hseeds : Alike (fun s => within s.medium) (Store.Twins keeps shows)
      (initChain b genesis) (initChain Memory.backend genesis) := initChain_alike hinStep named
  obtain ⟨hanswer, hbeside⟩ := hseeds.agrees rests.beside room
  have htable : (app.onTable table).store = ⟨table, true, none⟩ := rfl
  obtain ⟨hreadable, hrun⟩ | ⟨hunreadable, refusal, hrefused⟩ := initChain_memory genesis htable
  · refine ⟨iff_of_true (hanswer.trans (congrArg Prod.fst hrun)) hreadable, fun _ => ?_⟩
    have hidle : (initChain Memory.backend genesis (app.onTable table)).2.store.staging = none := by
      rw [hrun]
    refine ⟨⟨_, hbeside.rests hidle, fun id => ?_⟩, fun user => ?_, fun works hnamed room' => ?_⟩
    · rw [hrun]
      exact getElem?_foldl_seed _ genesis table id
    · rw [hbeside.keys, hrun]
      exact getElem?_foldl_seed key? genesis app.keys user
    -- In between the application goes alike over the table, where the replay does nothing.
    · have hworks : Alike (fun s => within s.medium) (Store.Twins keeps shows)
          (carryOutAll b works) (carryOutAll Memory.backend works) :=
        Run.Alike.mapM fun work hmem => carryOut_alike hinStep (hnamed work hmem)
      obtain ⟨-, hlater⟩ := hworks.agrees hbeside (hseeds.earlier room')
      obtain ⟨hanswer', hagain⟩ := hseeds.agrees hlater room'
      have hgrows :=
        carryOutAll_grows works (initChain Memory.backend genesis (app.onTable table)).2
      have hopened : (initChain Memory.backend genesis (app.onTable table)).2.store.initialized =
          true := by
        rw [hrun]
      obtain ⟨-, hrested, -⟩ := hgrows.1 hopened hidle
      have hreplayed := initChain_again_memory htable (congrArg Prod.fst hrun) hgrows
      rw [hreplayed] at hanswer' hagain
      exact ⟨hanswer', hagain.keys.trans hlater.keys.symm, _, hlater.rests hrested,
        hagain.rests hrested⟩
  · refine ⟨iff_of_false (fun taken => ?_) hunreadable, fun taken => ?_⟩
    all_goals
      rw [hanswer, hrefused] at taken
      cases taken

/-- Account 1 is listed twice and has its key from the second entry, account 2 starts below
zero, and account 3 was there before. In between account 1 loses its balance. -/
theorem memory_genesis_is_replayed :
    let text := "01" ++ String.ofList (List.replicate 62 '0')
    let genesis : List GenesisAccount :=
      [⟨1, 5, none⟩, ⟨2, -3, none⟩, ⟨1, 9, some text⟩, ⟨2, 7, some text⟩, ⟨3, 8, none⟩]
    let app : Application Table := .new ⟨(∅ : Table).insert 3 4, true, none⟩ .allOrNothing
    let works : List Work := [.update 1 (-5), .register 3 text, .create 4 (-1)]
    let seeded := (initChain Memory.backend genesis app).2
    let later := (carryOutAll Memory.backend works seeded).2
    let again := initChain Memory.backend genesis later
    seeded.store.medium.toList = [(1, 5), (2, -3), (3, 4)] ∧ seeded.keys.contains 1 ∧
      later.store.medium.toList = [(1, 0), (2, -3), (3, 4), (4, -1)] ∧
      again.1 = .ok () ∧ again.2.keys = later.keys ∧
        ∃ holds : Table, later.Rests (fun m table => m = table) holds ∧
          again.2.Rests (fun m table => m = table) holds := by
  intro text genesis app works seeded later again
  have hrests : app.Rests (fun m table => m = table) ((∅ : Table).insert 3 4) := ⟨rfl, rfl, rfl⟩
  have htaken : (initChain Memory.backend genesis app).1 = .ok () := by decide +kernel
  have hnamed : ∀ work ∈ works, work.Names fun _ => True := by simp [works, Work.Names]
  have hmeant : ∀ entry ∈ genesis, True := fun _ _ => True.intro
  obtain ⟨-, hthen⟩ := genesis_is_exact_and_replayable Memory.backend_mirrors.toTracks hrests
    hmeant True.intro
  obtain ⟨-, -, hreplay⟩ := hthen htaken
  have hseeded : seeded.store.medium.toList = [(1, 5), (2, -3), (3, 4)] := by decide +kernel
  have hkeyed : seeded.keys.contains 1 = true := by decide +kernel
  have hlater : later.store.medium.toList = [(1, 0), (2, -3), (3, 4), (4, -1)] := by
    decide +kernel
  refine ⟨hseeded, hkeyed, hlater, ?_⟩
  subst again later seeded
  exact hreplay works hnamed True.intro

end Application

end Clearinghouse
