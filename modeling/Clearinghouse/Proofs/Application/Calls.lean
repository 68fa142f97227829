/-
# What an application is asked

The calls of an application as data, so that its history is a list of them. Each is
described by what it does to the store and to the registered keys; of the keys it can be
said once for all calls that a registered key stays.
-/

import Clearinghouse.Application
import Clearinghouse.Proofs.Steps

namespace Clearinghouse.Application

/-- What an application is asked. -/
inductive Call
  | registerKey (user : AccountId) (text : String)
  | initChain (accounts : List GenesisAccount)
  | checkTx (bytes : List UInt8)
  | deliverTx (bytes : List UInt8)
  | finalizeBlock (transactions : List (List UInt8))
  | queryAccount (id : AccountId)
  | queryState
  | query (path : String) (data : List UInt8)

/-- What it answers. -/
inductive Reply
  | admitted (answer : Except Refusal Unit)
  | delivered (result : TxResult)
  | finalized (results : List TxResult)
  | account (answer : Except StoreError Account)
  | accounts (answer : Except StoreError (List Account))
  | queried (result : QueryResult)

variable {S : Type} (b : Backend S)

/-- Answers a call. -/
def perform : Call → StateM (Application S) Reply
  | .registerKey user text => return .admitted (← (registerKey user text).run)
  | .initChain accounts => return .admitted (← (initChain b accounts).run)
  | .checkTx bytes => return .delivered (← checkTx b bytes)
  | .deliverTx bytes => return .delivered (← deliverTx b bytes)
  | .finalizeBlock transactions => return .finalized (← finalizeBlock b transactions)
  | .queryAccount id => return .account (← queryAccount b id)
  | .queryState => return .accounts (← queryState b)
  | .query path data => return .queried (← query b path data)

/-- No user's key is lost or replaced from one state to the other. -/
def KeepsKeys (app app' : Application S) : Prop :=
  ∀ (user : AccountId) (key : Signature.PublicKey), app.keys[user]? = some key →
    app'.keys[user]? = some key

instance : Std.Refl (KeepsKeys (S := S)) := ⟨fun _ _ _ registered => registered⟩

instance : IsTrans (Application S) KeepsKeys :=
  ⟨fun _ _ _ first second user key registered => second user key (first user key registered)⟩

theorem keepsKeys_of_eq {app app' : Application S} (same : app'.keys = app.keys) :
    KeepsKeys app app' := by
  intro user key registered
  rwa [same]

/-- A registration never replaces a key. -/
theorem getElem?_of_register {keys keys' : KeyRegistry} {user : AccountId} {text : String}
    (registers : keys.register user text = .ok keys') {other : AccountId}
    {key : Signature.PublicKey} (registered : keys[other]? = some key) :
    keys'[other]? = some key := by
  unfold KeyRegistry.register at registers
  cases hparse : Signature.PublicKey.parse text with
  | error problem =>
      rw [hparse] at registers
      cases registers
  | ok parsed =>
      rw [hparse] at registers
      cases huser : keys[user]? with
      | some held =>
          simp only [huser] at registers
          cases registers
      | none =>
          simp only [huser] at registers
          cases registers
          have hother : user ≠ other := by
            rintro rfl
            cases huser.symm.trans registered
          rw [Std.ExtTreeMap.getElem?_insert, if_neg (by simpa using hother)]
          exact registered

theorem registerKey_keeps (user : AccountId) (text : String) :
    Run.Along (KeepsKeys (S := S)) (registerKey user text) := by
  intro app
  rw [registerKey, Run.get_bind_apply]
  cases hregister : app.keys.register user text with
  | error refusal => exact Std.Refl.refl app
  | ok keys => exact fun _ _ registered => getElem?_of_register hregister registered

theorem ensureKey_keeps (user : AccountId) (text : String) :
    Run.Along (KeepsKeys (S := S)) (ensureKey user text) := by
  intro app
  have hkept := registerKey_keeps user text app
  rw [ensureKey]
  split
  · next hrun => rwa [hrun] at hkept
  · exact hkept

theorem onStep_keeps {α : Type} (act : Step (Store S) α) :
    Run.Along (KeepsKeys (S := S)) (onStep act) := fun _ => keepsKeys_of_eq rfl

section

variable {b} {R : Application S → Application S → Prop} [Std.Refl R] [IsTrans (Application S) R]

/-- Seeding an account goes along what the steps go along that it may take. -/
theorem seedAccount_along {account : GenesisAccount}
    (contains : Run.Along R (onStep (Store.contains b account.id)))
    (update : ∀ delta, Run.Along R (onStep (Store.update b account.id delta)))
    (create : ∀ balance, Run.Along R (onStep (Store.create b account.id balance))) :
    Run.Along R (seedAccount b account) := by
  rw [seedAccount]
  apply Run.Along.bind contains
  intro found
  split
  · exact Run.Along.pure _
  split
  · exact update _
  · exact create _

/-- The first accounts are seeded one after the other, and their keys are registered. -/
theorem initChain_along (seeds : ∀ account, Run.Along R (seedAccount b account))
    (ensures : ∀ user text, Run.Along R (ensureKey user text)) (accounts : List GenesisAccount) :
    Run.Along R (initChain b accounts) := by
  induction accounts with
  | nil => exact Run.Along.pure _
  | cons account rest ih =>
      rw [initChain]
      apply Run.Along.bind (seeds account)
      intro _
      cases account.publicKey with
      | none => exact ih
      | some text => exact Run.Along.bind (ensures account.id text) fun _ => ih

end

theorem seedAccount_keeps (account : GenesisAccount) :
    Run.Along KeepsKeys (seedAccount b account) :=
  seedAccount_along (onStep_keeps _) (fun _ => onStep_keeps _) fun _ => onStep_keeps _

theorem initChain_keeps (accounts : List GenesisAccount) :
    Run.Along KeepsKeys (initChain b accounts) :=
  initChain_along (seedAccount_keeps b) ensureKey_keeps accounts

/-- A delivery processes the transaction that the bytes hold, if they hold one. -/
theorem deliverTx_of_decode {bytes : List UInt8} {tx : Transaction}
    (decoded : Transaction.decode bytes = .ok tx) (app : Application S) :
    (deliverTx b bytes app).2.store = (Batch.process b app.keys app.policy tx app.store).2 ∧
      (deliverTx b bytes app).2.keys = app.keys := by
  rw [deliverTx, decoded]
  exact ⟨rfl, rfl⟩

theorem deliverTx_of_undecodable {bytes : List UInt8} {problem : Json.Problem}
    (undecoded : Transaction.decode bytes = .error problem) (app : Application S) :
    (deliverTx b bytes app).2 = app := by
  rw [deliverTx, undecoded]
  rfl

theorem deliverTx_keys (bytes : List UInt8) (app : Application S) :
    (deliverTx b bytes app).2.keys = app.keys := by
  cases hdecode : Transaction.decode bytes with
  | error problem => rw [deliverTx_of_undecodable b hdecode]
  | ok tx => exact (deliverTx_of_decode b hdecode app).2

/-- The transactions of a block are delivered one after the other. -/
theorem finalizeBlock_state (transactions : List (List UInt8)) (app : Application S) :
    (finalizeBlock b transactions app).2 =
      transactions.foldl (fun app bytes => (deliverTx b bytes app).2) app := by
  induction transactions generalizing app with
  | nil => rfl
  | cons bytes rest ih => exact ih (deliverTx b bytes app).2

theorem finalizeBlock_keys (transactions : List (List UInt8)) (app : Application S) :
    (finalizeBlock b transactions app).2.keys = app.keys := by
  rw [finalizeBlock_state]
  induction transactions generalizing app with
  | nil => rfl
  | cons bytes rest ih =>
      rw [List.foldl_cons, ih]
      exact deliverTx_keys b bytes app

/-- An admission check checks the transaction that the bytes hold, if they hold one. -/
theorem checkTx_state (bytes : List UInt8) (app : Application S) :
    (checkTx b bytes app).2 =
      match Transaction.decode bytes with
      | .error _ => app
      | .ok tx => (check b tx app).2 := by
  rw [checkTx]
  cases Transaction.decode bytes with
  | error problem => rfl
  | ok tx =>
      cases hrun : check b tx app with
      | mk answer app' =>
          simp only [bind, StateT.bind, hrun]
          cases answer <;> rfl

theorem checkTx_keys (bytes : List UInt8) (app : Application S) :
    (checkTx b bytes app).2.keys = app.keys := by
  rw [checkTx_state]
  cases Transaction.decode bytes <;> rfl

theorem query_keys (path : String) (data : List UInt8) (app : Application S) :
    (query b path data app).2.keys = app.keys := by
  unfold query
  split
  · rfl
  split
  · cases Json.Reader.document Json.Reader.unsigned data <;> rfl
  · rfl

/-- Putting an answer into another form changes nothing else. -/
theorem answered_state {α β : Type} (act : StateM (Application S) α) (form : α → β)
    (app : Application S) :
    ((do return form (← act) : StateM (Application S) β) app).2 = (act app).2 := rfl

/-- Whatever an application is asked, a registered key stays. -/
theorem perform_keeps (call : Call) (app : Application S) :
    KeepsKeys app (perform b call app).2 := by
  cases call with
  | registerKey user text =>
      rw [perform, answered_state]
      exact registerKey_keeps user text app
  | initChain accounts =>
      rw [perform, answered_state]
      exact initChain_keeps b accounts app
  | checkTx bytes =>
      rw [perform, answered_state]
      exact keepsKeys_of_eq (checkTx_keys b bytes app)
  | deliverTx bytes =>
      rw [perform, answered_state]
      exact keepsKeys_of_eq (deliverTx_keys b bytes app)
  | finalizeBlock transactions =>
      rw [perform, answered_state]
      exact keepsKeys_of_eq (finalizeBlock_keys b transactions app)
  | queryAccount id => exact keepsKeys_of_eq rfl
  | queryState => exact keepsKeys_of_eq rfl
  | query path data =>
      rw [perform, answered_state]
      exact keepsKeys_of_eq (query_keys b path data app)

end Clearinghouse.Application
