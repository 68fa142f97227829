/-
# Sessions that are resumed

A session over a medium that can be resumed may be broken off between two lines and be taken
up again by a new store and a new application. The new session finds its first accounts and
leaves them alone, registers the same keys, and goes on where the earlier one ended.
-/

import Clearinghouse.Proofs.Application.Mirroring
import Clearinghouse.Proofs.Batch.Along
import Clearinghouse.Proofs.Batch.Failure
import Clearinghouse.Proofs.Store.Reopening
import Clearinghouse.Proofs.Store.Resuming
import Clearinghouse.Session

namespace Clearinghouse

variable {S : Type} {b : Backend S} {renew : S → S} {held : S → Prop}

/-- A batch leaves an open store open, and its medium goes along. -/
theorem Batch.working_open {R : S → S → Prop} [IsPreorder S R]
    (load : ∀ id, Run.Along R (b.load id)) (loadAll : Run.Along R b.loadAll)
    (flush : ∀ changes, Run.Along R (b.flush changes)) :
    Batch.Working b (Store.OpenAlong R) where
  toReading := (Store.access_openAlong load loadAll flush).toReading
  update := (Store.access_openAlong load loadAll flush).update_along
  begin := by
    refine Store.ensureInitialized_along.bind fun _ s => ?_
    rw [Run.get_bind_apply]
    split
    · exact Run.Along.throw _ s
    · exact fun opened => ⟨opened, Std.Refl.refl s.medium⟩
  commit := Store.commit_along Store.carries_openAlong flush
    fun s opened => ⟨opened, Std.Refl.refl s.medium⟩
  rollback := Store.ensureInitialized_along.bind
    fun _ s opened => ⟨opened, Std.Refl.refl s.medium⟩

namespace Application

/-- The store of an application is open and idle, it holds its medium, and there the first
accounts are. -/
structure Ready (b : Backend S) (held : S → Prop) (genesis : List GenesisAccount)
    (app : Application S) : Prop where
  opened : app.store.initialized = true
  idle : app.store.staging = none
  held : held app.store.medium
  seeded : ∀ account ∈ genesis, b.Has app.store.medium account.id

/-- The stores of an application before and after are related. -/
def StoreAlong (R : Store S → Store S → Prop) (app app' : Application S) : Prop :=
  R app.store app'.store

instance (R : Store S → Store S → Prop) [IsPreorder (Store S) R] :
    IsPreorder (Application S) (StoreAlong R) where
  refl app := Std.Refl.refl app.store
  trans app app' app'' := IsTrans.trans app.store app'.store app''.store

variable {genesis : List GenesisAccount} {app : Application S}

/-! ## The first accounts -/

theorem onStep_apply {α : Type} (act : Step (Store S) α) (app : Application S) :
    onStep act app =
      ((act app.store).1.mapError Refusal.storage, { app with store := (act app.store).2 }) := rfl

theorem onStep_eq_ok_iff {α : Type} {act : Step (Store S) α} {a : α} :
    (onStep act app).1 = .ok a ↔ (act app.store).1 = .ok a := by
  rw [onStep_apply]
  cases (act app.store).1 with
  | ok answer =>
      exact ⟨fun h => congrArg Except.ok (Except.ok.inj h),
        fun h => congrArg Except.ok (Except.ok.inj h)⟩
  | error e => exact ⟨nofun, nofun⟩

theorem ensureKey_store (user : AccountId) (text : String) (app : Application S) :
    (ensureKey user text app).2.store = app.store := by
  rw [ensureKey_apply, registerKey, Run.get_bind_apply]
  cases app.keys.register user text <;> rfl

section

variable {R : Store S → Store S → Prop} [IsPreorder (Store S) R]

theorem seedAccount_storeAlong (access : Store.Access b R) (account : GenesisAccount) :
    Run.Along (StoreAlong R) (seedAccount b account) :=
  seedAccount_along (fun app => access.contains_along account.id app.store)
    (fun delta app => access.update_along account.id delta app.store)
    fun balance app => access.create_along account.id balance app.store

theorem initChain_storeAlong (access : Store.Access b R) (accounts : List GenesisAccount) :
    Run.Along (StoreAlong R) (initChain b accounts) := by
  refine initChain_along (seedAccount_storeAlong access) (fun user text app => ?_) accounts
  rw [StoreAlong, ensureKey_store]
  exact Std.Refl.refl app.store

end

section

variable (resumes : b.Resumes renew held)
include resumes

theorem contains_apply (opened : app.store.initialized = true) (idle : app.store.staging = none)
    (hheld : held app.store.medium) (id : AccountId) :
    onStep (Store.contains b id) app =
      (((b.load id app.store.medium).1.map (·.isSome)).mapError Refusal.storage, app) := by
  rw [onStep_apply, Store.contains_of_idle resumes opened idle hheld]

/-- An account that was seeded is there. -/
theorem has_of_seedAccount {account : GenesisAccount} (opened : app.store.initialized = true)
    (idle : app.store.staging = none) (hheld : held app.store.medium)
    (seeded : (seedAccount b account app).1 = .ok ()) :
    b.Has (seedAccount b account app).2.store.medium account.id := by
  rw [seedAccount] at seeded ⊢
  obtain ⟨found, app', hcontains, hrest⟩ := Run.exists_of_bind_ok seeded
  have hasked := hcontains
  rw [contains_apply resumes opened idle hheld] at hasked
  obtain ⟨hanswer, rfl⟩ := Prod.mk.inj hasked
  rw [Run.bind_of_ok hcontains]
  cases found with
  | true =>
      cases hload : (b.load account.id app.store.medium).1 with
      | error e =>
          rw [hload] at hanswer
          cases hanswer
      | ok answer =>
          rw [hload] at hanswer
          obtain ⟨held, rfl⟩ := Option.isSome_iff_exists.mp (Except.ok.inj hanswer)
          exact ⟨held, hload⟩
  | false =>
      rw [if_neg Bool.false_ne_true] at hrest ⊢
      split at hrest
      · next hfunded =>
          rw [if_pos hfunded]
          exact Store.has_of_update resumes opened idle hheld (onStep_eq_ok_iff.mp hrest)
      · next hfunded =>
          rw [if_neg hfunded]
          exact Store.has_of_create resumes opened idle hheld (onStep_eq_ok_iff.mp hrest)

/-- An account that is there is not seeded again. -/
theorem seedAccount_of_has {account : GenesisAccount} (opened : app.store.initialized = true)
    (idle : app.store.staging = none) (hheld : held app.store.medium)
    (has : b.Has app.store.medium account.id) : seedAccount b account app = (.ok (), app) := by
  obtain ⟨found, hload⟩ := has
  have hcontains : onStep (Store.contains b account.id) app = (.ok true, app) := by
    rw [contains_apply resumes opened idle hheld, hload]
    rfl
  rw [seedAccount, Run.bind_of_ok hcontains, if_pos rfl]
  rfl

/-- Once the first accounts are seeded, they are there. -/
theorem ready_of_initChain (opened : app.store.initialized = true)
    (idle : app.store.staging = none) (hheld : held app.store.medium)
    (seeded : (initChain b genesis app).1 = .ok ()) :
    Ready b held genesis (initChain b genesis app).2 := by
  have haccess := Store.access_idle resumes
  induction genesis generalizing app with
  | nil => exact ⟨opened, idle, hheld, nofun⟩
  | cons account rest ih =>
      rw [initChain] at seeded ⊢
      obtain ⟨_, app₁, hseeds, hkeyed⟩ := Run.exists_of_bind_ok seeded
      have halong := seedAccount_storeAlong haccess account app opened idle
      have hhas := has_of_seedAccount resumes opened idle hheld (congrArg Prod.fst hseeds)
      rw [hseeds] at halong hhas
      obtain ⟨hopened, hidle, hgoes⟩ := halong
      -- A key is registered, if there is one, and the store stays as it is.
      have hrest : ∀ {app₂ : Application S}, app₂.store = app₁.store →
          (initChain b rest app₂).1 = .ok () →
          Ready b held (account :: rest) (initChain b rest app₂).2 := by
        intro app₂ hstore hanswer
        have hready := ih (hstore ▸ hopened) (hstore ▸ hidle) (hstore ▸ (hgoes hheld).1) hanswer
        have hlater := initChain_storeAlong haccess rest app₂ (hstore ▸ hopened) (hstore ▸ hidle)
        refine ⟨hready.opened, hready.idle, hready.held, List.forall_mem_cons.mpr ⟨?_, hready.seeded⟩⟩
        exact (hlater.2.2 (hstore ▸ (hgoes hheld).1)).2 _ (hstore ▸ hhas)
      rw [Run.bind_of_ok hseeds]
      cases hkey : account.publicKey with
      | none =>
          rw [hkey] at hkeyed
          exact hrest rfl hkeyed
      | some text =>
          rw [hkey] at hkeyed
          obtain ⟨_, app₂, hregisters, hanswer⟩ := Run.exists_of_bind_ok hkeyed
          dsimp only
          rw [Run.bind_of_ok hregisters]
          refine hrest ?_ hanswer
          rw [← ensureKey_store account.id text app₁, hregisters]

omit resumes in
/-- Whether a key is registered depends on the keys alone. -/
theorem ensureKey_again {app' : Application S} (keys : app'.keys = app.keys) (user : AccountId)
    (text : String) :
    ensureKey user text app' =
      ((ensureKey user text app).1, { app' with keys := (ensureKey user text app).2.keys }) := by
  rw [ensureKey_apply, ensureKey_apply, registerKey, Run.get_bind_apply, Run.get_bind_apply, keys]
  cases app.keys.register user text with
  | error refusal =>
      change (ensured (.error refusal), app') =
        (ensured (.error refusal), { app' with keys := app.keys })
      rw [← keys]
  | ok registered => rfl

omit resumes in
theorem seedAccount_keys (account : GenesisAccount) :
    Run.Along (Run.Kept Application.keys) (seedAccount b account) :=
  seedAccount_along (fun _ => rfl) (fun _ _ => rfl) fun _ _ => rfl

/-- To seed them again registers the same keys and does nothing else. -/
theorem initChain_again {app' : Application S} (ready : Ready b held genesis app')
    (keys : app'.keys = app.keys) (seeded : (initChain b genesis app).1 = .ok ()) :
    initChain b genesis app' =
      (.ok (), { app' with keys := (initChain b genesis app).2.keys }) := by
  induction genesis generalizing app app' with
  | nil =>
      have hnothing : initChain b [] app = (.ok (), app) := rfl
      rw [hnothing, ← keys]
      rfl
  | cons account rest ih =>
      obtain ⟨hhas, hrest⟩ := List.forall_mem_cons.mp ready.seeded
      have hready : Ready b held rest app' := ⟨ready.opened, ready.idle, ready.held, hrest⟩
      have hskips := seedAccount_of_has resumes ready.opened ready.idle ready.held hhas
      rw [initChain] at seeded ⊢
      obtain ⟨_, app₁, hseeds, hkeyed⟩ := Run.exists_of_bind_ok seeded
      have hkeys : app'.keys = app₁.keys := by
        have hkept := seedAccount_keys (b := b) account app
        rw [hseeds] at hkept
        exact keys.trans hkept.symm
      rw [Run.bind_of_ok hskips, Run.bind_of_ok hseeds]
      cases hkey : account.publicKey with
      | none =>
          rw [hkey] at hkeyed
          exact ih hready hkeys hkeyed
      | some text =>
          rw [hkey] at hkeyed
          obtain ⟨_, app₂, hregisters, hanswer⟩ := Run.exists_of_bind_ok hkeyed
          have hregisters' := ensureKey_again hkeys account.id text
          rw [hregisters] at hregisters'
          dsimp only at hregisters' ⊢
          rw [Run.bind_of_ok hregisters, Run.bind_of_ok hregisters']
          exact ih ⟨hready.opened, hready.idle, hready.held, hready.seeded⟩ rfl hanswer

end

/-! ## The course of a session -/

theorem initChain_policy (accounts : List GenesisAccount) :
    Run.Along (Run.Kept Application.policy) (initChain b accounts) := by
  refine initChain_along (fun account => ?_) (fun user text app => ?_) accounts
  · exact seedAccount_along (fun _ => rfl) (fun _ _ => rfl) fun _ _ => rfl
  · rw [ensureKey_again rfl user text]
    rfl

/-- An application in the course of a session: its store is ready, and its keys are those of
the first accounts. -/
structure InSession (b : Backend S) (held : S → Prop) (genesis : List GenesisAccount)
    (policy : Policy) (app : Application S) : Prop extends Ready b held genesis app where
  followed : app.policy = policy
  keyed : ∃ fresh : Application S, fresh.keys = ∅ ∧ (initChain b genesis fresh).1 = .ok () ∧
    (initChain b genesis fresh).2.keys = app.keys

variable {policy : Policy} {m : S}

theorem start_of_connected (connected : (b.connect m).1 = .ok ()) :
    Session.start b genesis (new (Store.new m) policy) =
      initChain b genesis (new ⟨(b.connect m).2, true, none⟩ policy) := by
  have hstart : onStep (Store.start b) (new (Store.new m) policy) =
      (.ok (), new ⟨(b.connect m).2, true, none⟩ policy) := by
    rw [onStep_apply, new, Store.start_of_closed rfl, Store.new, connected]
    rfl
  rw [Session.start, Run.bind_of_ok hstart]

theorem connected_of_start (started : (Session.start b genesis (new (Store.new m) policy)).1 = .ok ()) :
    (b.connect m).1 = .ok () := by
  obtain ⟨_, _, hstart, -⟩ := Run.exists_of_bind_ok started
  have hanswer := onStep_eq_ok_iff.mp (congrArg Prod.fst hstart)
  have hstore : (new (Store.new m) policy).store = Store.new m := rfl
  rw [hstore, Store.start_of_closed rfl, Store.new] at hanswer
  cases hconnect : (b.connect m).1 with
  | ok => rfl
  | error e =>
      rw [hconnect] at hanswer
      cases hanswer

section

variable (resumes : b.Resumes renew held)
include resumes

/-- A start that succeeds begins a session. -/
theorem inSession_of_start (takesHold : (b.connect m).1 = .ok () → held (b.connect m).2)
    (started : (Session.start b genesis (new (Store.new m) policy)).1 = .ok ()) :
    InSession b held genesis policy (Session.start b genesis (new (Store.new m) policy)).2 := by
  have hconnected := connected_of_start started
  rw [start_of_connected hconnected] at started ⊢
  exact ⟨ready_of_initChain resumes rfl rfl (takesHold hconnected) started,
    initChain_policy genesis _, _, rfl, started, rfl⟩

namespace InSession

variable (session : InSession b held genesis policy app)
include session

/-- Whatever the transaction is, its delivery is in the course of the session. -/
theorem deliverTx (bytes : List UInt8) :
    InSession b held genesis policy (deliverTx b bytes app).2 := by
  cases hdecode : Transaction.decode bytes with
  | error problem => rwa [deliverTx_of_undecodable b hdecode]
  | ok tx =>
      obtain ⟨hstore, hkeys⟩ := deliverTx_of_decode b hdecode app
      have hpolicy : (Application.deliverTx b bytes app).2.policy = app.policy := by
        rw [Application.deliverTx, hdecode]
        rfl
      have hworks : Batch.Working b (Store.OpenAlong (b.GoesOn held)) :=
        Batch.working_open (fun id => Backend.goesOn_of_untouched (resumes.load id))
          (Backend.goesOn_of_untouched resumes.loadAll) resumes.flush
      obtain ⟨hopened, hgoes⟩ := Batch.process_along hworks tx app.store session.opened
      obtain ⟨hheld, hthere⟩ := hgoes session.held
      obtain ⟨fresh, hfresh, hseeded, hregistered⟩ := session.keyed
      refine ⟨⟨?_, ?_, ?_, ?_⟩, hpolicy.trans session.followed, fresh, hfresh, hseeded,
        hregistered.trans hkeys.symm⟩
      · rwa [hstore]
      · rw [hstore]
        exact Batch.process_staging session.idle tx
      · rwa [hstore]
      · intro account hmem
        rw [hstore]
        exact hthere _ (session.seeded account hmem)

/-- To read all balances leaves everything as it is. -/
theorem queryState : (queryState b app).2 = app := by
  have hstore : (Application.queryState b app).2 =
      { app with store := (Store.accounts b app.store).2 } := rfl
  rw [hstore, Store.accounts_of_opened session.opened, resumes.loadAll _ session.held]

theorem close :
    onStep (Store.close b) app =
      (.ok (), { app with store := .new (b.disconnect app.store.medium).2 }) := by
  rw [onStep_apply, Store.close_apply session.opened, resumes.disconnect session.held]
  rfl

/-- A session that was closed is taken up where it ended, but what was done is counted anew. -/
theorem start_again :
    Session.start b genesis (new (.new (renew (b.disconnect app.store.medium).2)) policy) =
      (.ok (), { app with tally := ⟨0, 0, 0⟩ }) := by
  obtain ⟨fresh, hfresh, hseeded, hregistered⟩ := session.keyed
  have hconnect := resumes.connect session.held
  have hstore : (⟨app.store.medium, true, none⟩ : Store S) = app.store := by
    rw [← session.opened, ← session.idle]
  have hready : Ready b held genesis ⟨app.store, ∅, policy, ⟨0, 0, 0⟩⟩ :=
    ⟨session.opened, session.idle, session.held, session.seeded⟩
  rw [start_of_connected (by rw [hconnect]), hconnect, hstore, new,
    initChain_again resumes hready hfresh.symm hseeded, hregistered, ← session.followed]

end InSession

end

end Application

end Clearinghouse
