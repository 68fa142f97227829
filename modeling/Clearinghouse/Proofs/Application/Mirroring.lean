/-
# Applications side by side

An application reaches its medium through its store alone. So over two stores that are in
step it gives the same answers to every call, registers the same keys and counts the same. A
call that lists all accounts is answered alike if the stores list the same.
-/

import Clearinghouse.Proofs.Application.Calls
import Clearinghouse.Proofs.Batch.Mirroring

namespace Clearinghouse.Application

variable {S T α : Type} {b : Backend S} {c : Backend T} {keeps : AccountId → Prop}
  {within : Store S → Prop} {related : Store S → Store T → Prop}

/-- Applications over related stores that have the same keys, the same policy and the same
count. -/
structure Beside (related : Store S → Store T → Prop) (app : Application S)
    (app' : Application T) : Prop where
  store : related app.store app'.store
  keys : app.keys = app'.keys
  policy : app.policy = app'.policy
  tally : app.tally = app'.tally

/-- Two answers of applications go alike. -/
abbrev Alike (within : Store S → Prop) (related : Store S → Store T → Prop)
    (act : Application S → α × Application S) (act' : Application T → α × Application T) :
    Prop :=
  Run.Alike (fun app => within app.store) (Beside related) act act'

theorem onStore_alike {act : StateM (Store S) α} {act' : StateM (Store T) α}
    (alike : Run.Alike within related act act') :
    Alike within related (onStore act) (onStore act') where
  earlier := alike.earlier
  agrees beside hwithin :=
    have hagrees := alike.agrees beside.store hwithin
    ⟨hagrees.1, hagrees.2, beside.keys, beside.policy, beside.tally⟩

theorem onStep_alike {act : Step (Store S) α} {act' : Step (Store T) α}
    (alike : Run.Alike within related act act') :
    Alike within related (onStep act) (onStep act') :=
  Run.Alike.adapt (onStore_alike alike) Refusal.storage

/-! ## Keys -/

theorem registerKey_alike (user : AccountId) (text : String) :
    Alike within related (registerKey user text : Check (Application S) Unit)
      (registerKey user text : Check (Application T) Unit) where
  earlier {app} hwithin := by
    rw [registerKey, Run.get_bind_apply] at hwithin
    cases hregister : app.keys.register user text with
    | error refusal =>
        rw [hregister] at hwithin
        exact hwithin
    | ok keys =>
        rw [hregister] at hwithin
        exact hwithin
  agrees {app app'} beside _ := by
    rw [registerKey, registerKey, Run.get_bind_apply, Run.get_bind_apply, ← beside.keys]
    cases app.keys.register user text with
    | error refusal => exact ⟨rfl, beside⟩
    | ok keys => exact ⟨rfl, beside.store, rfl, beside.policy, beside.tally⟩

/-- A user who has a key keeps it. -/
def ensured : Except Refusal Unit → Except Refusal Unit
  | .error (.keyAlreadyRegistered _) => .ok ()
  | answer => answer

theorem ensureKey_apply (user : AccountId) (text : String) (app : Application S) :
    ensureKey user text app =
      (ensured (registerKey user text app).1, (registerKey user text app).2) := by
  rw [ensureKey]
  rcases registerKey user text app with ⟨answer, app'⟩
  cases answer with
  | ok => rfl
  | error refusal => cases refusal <;> rfl

theorem ensureKey_alike (user : AccountId) (text : String) :
    Alike within related (ensureKey user text : Check (Application S) Unit)
      (ensureKey user text : Check (Application T) Unit) := by
  have hregister : Alike within related (registerKey user text : Check (Application S) Unit)
      (registerKey user text : Check (Application T) Unit) := registerKey_alike user text
  have hform := hregister.form ensured
  refine ⟨fun {app} => ?_, fun {app app'} => ?_⟩
  · rw [ensureKey_apply]
    exact hform.earlier
  · rw [ensureKey_apply, ensureKey_apply]
    exact hform.agrees

/-! ## Calls -/

variable (b) in
/-- A batch is counted after it was processed under the keys and the policy. -/
theorem process_apply (tx : Transaction) (app : Application S) :
    process b tx app =
      ((Batch.process b app.keys app.policy tx app.store).1,
        { app with
          store := (Batch.process b app.keys app.policy tx app.store).2
          tally := Tally.count app.tally
            (Batch.process b app.keys app.policy tx app.store).1 }) := rfl

variable (b) in
theorem check_apply (tx : Transaction) (app : Application S) :
    check b tx app =
      ((Batch.check b app.keys tx app.store).1,
        { app with store := (Batch.check b app.keys tx app.store).2 }) := rfl

/-- The transaction that some bytes hold, if they hold one, names accounts that are meant. -/
def BytesName (keeps : AccountId → Prop) (bytes : List UInt8) : Prop :=
  ∀ tx, Transaction.decode bytes = .ok tx → tx.Names keeps

section

variable (inStep : Store.InStep b c keeps within related)
include inStep

theorem seedAccount_alike {account : GenesisAccount} (named : keeps account.id) :
    Alike within related (seedAccount b account) (seedAccount c account) := by
  refine (onStep_alike (inStep.contains named)).bind fun found => ?_
  split
  · exact .pure _
  split
  · exact onStep_alike (inStep.update named _)
  · exact onStep_alike (inStep.create named _)

theorem initChain_alike {accounts : List GenesisAccount}
    (named : ∀ account ∈ accounts, keeps account.id) :
    Alike within related (initChain b accounts) (initChain c accounts) := by
  induction accounts with
  | nil => exact .pure _
  | cons account rest ih =>
      have hrest := ih fun later hmem => named later (List.mem_cons_of_mem account hmem)
      have hseeded := seedAccount_alike inStep (named account List.mem_cons_self)
      rw [initChain, initChain]
      refine hseeded.bind fun _ => ?_
      cases account.publicKey with
      | none => exact hrest
      | some text => exact (ensureKey_alike account.id text).bind fun _ => hrest

theorem process_alike {tx : Transaction} (named : tx.Names keeps) :
    Alike within related (process b tx) (process c tx) where
  earlier {app} := (Batch.process_alike inStep app.keys app.policy named).earlier
  agrees {app app'} beside hwithin := by
    obtain ⟨hanswer, hstore⟩ :=
      (Batch.process_alike inStep app.keys app.policy named).agrees beside.store hwithin
    rw [process_apply, process_apply, ← beside.keys, ← beside.policy, ← beside.tally, ← hanswer]
    exact ⟨rfl, hstore, rfl, rfl, rfl⟩

theorem check_alike {tx : Transaction} (named : tx.Names keeps) :
    Alike within related (check b tx) (check c tx) where
  earlier {app} := (Batch.check_alike inStep app.keys named).earlier
  agrees {app app'} beside hwithin := by
    obtain ⟨hanswer, hstore⟩ :=
      (Batch.check_alike inStep app.keys named).agrees beside.store hwithin
    rw [check_apply, check_apply, ← beside.keys]
    exact ⟨hanswer, hstore, rfl, beside.policy, beside.tally⟩

theorem deliverTx_alike {bytes : List UInt8} (named : BytesName keeps bytes) :
    Alike within related (deliverTx b bytes) (deliverTx c bytes) := by
  unfold deliverTx
  cases hdecode : Transaction.decode bytes with
  | error problem => exact .give _
  | ok tx => exact (process_alike inStep (named tx hdecode)).andThen fun _ => .give _

theorem finalizeBlock_alike {transactions : List (List UInt8)}
    (named : ∀ bytes ∈ transactions, BytesName keeps bytes) :
    Alike within related (finalizeBlock b transactions) (finalizeBlock c transactions) := by
  induction transactions with
  | nil => exact .give _
  | cons bytes rest ih =>
      have hrest := ih fun later hmem => named later (List.mem_cons_of_mem bytes hmem)
      refine (deliverTx_alike inStep (named bytes List.mem_cons_self)).andThen fun _ => ?_
      exact hrest.andThen fun _ => .give _

theorem checkTx_alike {bytes : List UInt8} (named : BytesName keeps bytes) :
    Alike within related (checkTx b bytes) (checkTx c bytes) := by
  unfold checkTx
  cases hdecode : Transaction.decode bytes with
  | error problem => exact .give _
  | ok tx =>
      refine (check_alike inStep (named tx hdecode)).andThen fun answer => ?_
      cases answer <;> exact .give _

theorem queryAccount_alike {id : AccountId} (named : keeps id) :
    Alike within related (queryAccount b id) (queryAccount c id) :=
  onStore_alike (inStep.getAccount named)

end

theorem query_alike {path : String} {data : List UInt8}
    (listed : path = "state" → Alike within related (queryState b) (queryState c))
    (read : ∀ id, Json.Reader.document Json.Reader.unsigned data = .ok id → path = "account" →
      Alike within related (queryAccount b id) (queryAccount c id)) :
    Alike within related (query b path data) (query c path data) := by
  unfold query
  split
  · next hstate => exact (listed hstate).andThen fun _ => .give _
  split
  · next haccount =>
      cases hread : Json.Reader.document Json.Reader.unsigned data with
      | error problem => exact .give _
      | ok id => exact (read id hread haccount).andThen fun _ => .give _
  · exact .give _

/-! ## Sessions -/

/-- The accounts that a call names are meant. Registering a key names none, and neither do
bytes that hold no transaction or no number. -/
def Call.Names (keeps : AccountId → Prop) : Call → Prop
  | .registerKey .. | .queryState => True
  | .initChain accounts => ∀ account ∈ accounts, keeps account.id
  | .checkTx bytes | .deliverTx bytes => BytesName keeps bytes
  | .finalizeBlock transactions => ∀ bytes ∈ transactions, BytesName keeps bytes
  | .queryAccount id => keeps id
  | .query path data => path = "account" → ∀ id,
    Json.Reader.document Json.Reader.unsigned data = .ok id → keeps id

/-- A call asks for the list of all accounts. -/
def Call.Lists : Call → Prop
  | .queryState => True
  | .query path _ => path = "state"
  | _ => False

/-- Over stores that are in step an application answers a call alike. -/
theorem perform_alike (inStep : Store.InStep b c keeps within related) {call : Call}
    (named : call.Names keeps)
    (listed : call.Lists → Alike within related (queryState b) (queryState c)) :
    Alike within related (perform b call) (perform c call) := by
  cases call with
  | registerKey user text =>
      rw [perform, perform]
      exact (registerKey_alike user text).andThen fun _ => .give _
  | initChain accounts =>
      rw [perform, perform]
      exact (initChain_alike inStep named).andThen fun _ => .give _
  | checkTx bytes =>
      rw [perform, perform]
      exact (checkTx_alike inStep named).andThen fun _ => .give _
  | deliverTx bytes =>
      rw [perform, perform]
      exact (deliverTx_alike inStep named).andThen fun _ => .give _
  | finalizeBlock transactions =>
      rw [perform, perform]
      exact (finalizeBlock_alike inStep named).andThen fun _ => .give _
  | queryAccount id =>
      rw [perform, perform]
      exact (queryAccount_alike inStep named).andThen fun _ => .give _
  | queryState =>
      rw [perform, perform]
      exact (listed trivial).andThen fun _ => .give _
  | query path data =>
      rw [perform, perform]
      refine (query_alike listed fun id hread haccount => ?_).andThen fun _ => .give _
      exact queryAccount_alike inStep (named haccount id hread)

/-- Every medium can keep the accounts that a transaction names, if the bytes hold one. -/
def NamesPortable (bytes : List UInt8) : Prop :=
  ∀ tx, Transaction.decode bytes = .ok tx → ∀ op ∈ tx.operations, op.Portable

/-- A call names accounts that every medium can keep. Registering a key names none, and
neither do bytes that hold no transaction or no number. -/
def Call.Portable : Call → Prop
  | .registerKey .. | .queryState => True
  | .initChain accounts => ∀ account ∈ accounts, Clearinghouse.Portable account.id
  | .checkTx bytes | .deliverTx bytes => NamesPortable bytes
  | .finalizeBlock transactions => ∀ bytes ∈ transactions, NamesPortable bytes
  | .queryAccount id => Clearinghouse.Portable id
  | .query path data => path = "account" → ∀ id,
    Json.Reader.document Json.Reader.unsigned data = .ok id → Clearinghouse.Portable id

theorem NamesPortable.names {bytes : List UInt8} (portable : NamesPortable bytes) :
    BytesName Portable bytes := fun tx hdecode op hmem =>
  ⟨(portable tx hdecode op hmem).sender, (portable tx hdecode op hmem).receiver⟩

theorem Call.Portable.names {call : Call} (portable : call.Portable) :
    call.Names Clearinghouse.Portable := by
  cases call with
  | registerKey | queryState => trivial
  | initChain | queryAccount | query => exact portable
  | checkTx bytes | deliverTx bytes => exact NamesPortable.names portable
  | finalizeBlock transactions => exact fun bytes hmem => (portable bytes hmem).names

variable (b) in
/-- Answers calls one after the other. -/
def replies (calls : List Call) : StateM (Application S) (List Reply) := calls.mapM (perform b)

/-- An application over a medium that mirrors a table answers as one over the table. -/
theorem replies_alike {within : S → Prop} {shows : S → Table → Prop}
    (mirrors : b.Mirrors Portable within shows) {calls : List Call}
    (portable : ∀ call ∈ calls, call.Portable) :
    Alike (fun s => within s.medium) (Store.Twins Portable shows) (replies b calls)
      (replies Memory.backend calls) :=
  Run.Alike.mapM fun call hmem =>
    perform_alike (Store.inStep_of_tracks mirrors.toTracks) (portable call hmem).names
      fun _ => onStore_alike (Store.accounts_matches mirrors.loadAll)

end Clearinghouse.Application
