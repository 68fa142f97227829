/-
# Admission checks in between

An application and its store are asked for this and that, and admission checks are put in
between. A check only loads accounts, and none while a transaction is open. So if two media
that answer alike still do so after the second one has loaded an account, checks that the
second one is put to change no answer, save for what the media say when they are asked for all
of their accounts.
-/

import Clearinghouse.Proofs.Application.Mirroring
import Clearinghouse.Proofs.Batch.Along
import Clearinghouse.Proofs.Store.Steady
import Mathlib.Data.List.Forall2

namespace Clearinghouse

/-! ## What a check does to a store -/

namespace Store

variable {S : Type} {b : Backend S} {R : Store S → Store S → Prop}

/-- A store without a transaction still has none, and has gone along a relation. -/
def WhileIdle (R : Store S → Store S → Prop) (s s' : Store S) : Prop :=
  s.staging = none → s'.staging = none ∧ R s s'

instance [IsPreorder (Store S) R] : IsPreorder (Store S) (WhileIdle R) where
  refl s idle := ⟨idle, Std.Refl.refl s⟩
  trans s s' s'' first second idle := by
    obtain ⟨hidle, hfirst⟩ := first idle
    obtain ⟨hend, hsecond⟩ := second hidle
    exact ⟨hend, IsTrans.trans _ _ _ hfirst hsecond⟩

/-- Without a transaction, reading a balance is loading the account. -/
theorem getBalance_whileIdle [IsPreorder (Store S) R] {id : AccountId}
    (loads : ∀ s : Store S, s.staging = none →
      R s { s with medium := (b.load id s.medium).2 }) :
    Run.Along (WhileIdle R) (getBalance b id) := by
  refine Run.Along.bind (Run.Along.bind ?_ fun _ => ?_) fun _ => Run.Along.pure _
  · intro s
    rw [ensureInitialized, Run.get_bind_apply]
    cases s.initialized <;> exact Std.Refl.refl s
  · intro s idle
    have htransaction : s.inTransaction = false := by rw [inTransaction, idle]; rfl
    have hload : Run.Along (WhileIdle R) (onMedium (b.load id)) :=
      fun s idle => ⟨idle, loads s idle⟩
    rw [Run.get_bind_apply, htransaction, if_neg Bool.false_ne_true]
    refine hload.bind (fun found => ?_) s idle
    cases found with
    | none => exact Run.Along.throw _
    | some account => exact Run.Along.pure _

/-- The stores that one was paired with are paired with the other. -/
def StillPaired (related : S → S → Prop) (s s' : Store S) : Prop :=
  ∀ first, Paired related first s → Paired related first s'

instance (related : S → S → Prop) : IsPreorder (Store S) (StillPaired related) where
  refl _ _ := id
  trans _ _ _ earlier later first := later first ∘ earlier first

end Store

/-- What loading an account does to a store without a transaction, a check of accounts may do
to any store, and nothing else. -/
theorem Batch.check_leaves {S : Type} {b : Backend S} {keys : KeyRegistry}
    {R : Store S → Store S → Prop} [IsPreorder (Store S) R] {tx : Transaction}
    (loads : ∀ op ∈ tx.operations, ∀ s : Store S, s.staging = none →
      R s { s with medium := (b.load op.sender s.medium).2 }) (s : Store S) :
    R s (Batch.check b keys tx s).2 := by
  -- While a transaction is open a check looks at nothing.
  cases hstaging : s.staging with
  | some staging =>
      have htransaction : s.inTransaction = true := by rw [Store.inTransaction, hstaging]; rfl
      have hguard : ensureNoTransaction s =
          (.error (.ofBatch (.storage .transactionAlreadyOpen)), s) := by
        rw [ensureNoTransaction, Run.get_bind_apply, if_pos htransaction]
        rfl
      rw [check, Run.bind_of_error hguard]
      exact Std.Refl.refl s
  | none =>
      have hreads : ∀ op ∈ tx.operations, Run.Along (Store.WhileIdle R)
          (Store.getBalance b op.sender) := fun op hmem =>
        Store.getBalance_whileIdle (loads op hmem)
      exact (check_along hreads s hstaging).2

namespace Application

/-- What an application or its store is asked. -/
inductive Request
  | store (op : Store.Op)
  | call (call : Call)

/-- What is answered. -/
inductive Response
  | store (answer : Except StoreError Store.Answer)
  | call (reply : Reply)

/-- Something is asked, or an admission check is put in between, whose answer nobody waits
for. -/
inductive Entry
  | asked (request : Request)
  | probed (bytes : List UInt8)

/-- What was put in between is left out. -/
def unprobed : List Entry → List Entry
  | [] => []
  | .asked request :: rest => .asked request :: unprobed rest
  | .probed _ :: rest => unprobed rest

section

variable {S : Type} (b : Backend S)

/-- Answers a request. -/
def Request.answer : Request → StateM (Application S) Response
  | .store op => return .store (← onStore (Store.perform b op).run)
  | .call asked => return .call (← perform b asked)

/-- What requests are answered, each with the state that the application was in. -/
def responses : List Entry → Application S → List (Application S × Response)
  | [], _ => []
  | .asked request :: rest, app =>
    (app, (request.answer b app).1) :: responses rest (request.answer b app).2
  | .probed bytes :: rest, app => responses rest (checkTx b bytes app).2

end

/-- An account is the sender of an operation that is checked in between. -/
def Probed (entries : List Entry) (id : AccountId) : Prop :=
  ∃ bytes tx op, Entry.probed bytes ∈ entries ∧ Transaction.decode bytes = .ok tx ∧
    op ∈ tx.operations ∧ op.sender = id

/-- Two responses that are the same, except that lists of all accounts may be related. -/
inductive Response.SameBut (lists : Except StoreError (List Account) →
    Except StoreError (List Account) → Prop) : Response → Response → Prop
  | same (response : Response) : SameBut lists response response
  | store {first second : Except StoreError (List Account)} (related : lists first second) :
      SameBut lists (.store (first.map .accounts)) (.store (second.map .accounts))
  | call {first second : Except StoreError (List Account)} (related : lists first second) :
      SameBut lists (.call (.accounts first)) (.call (.accounts second))
  | query {first second : Except StoreError (List Account)} (related : lists first second) :
      SameBut lists (.call (.queried (queryAnswer (first.map stateDocument))))
        (.call (.queried (queryAnswer (second.map stateDocument))))

section

variable {S : Type} {b : Backend S} {related : S → S → Prop} {probed : AccountId → Prop}

/-- Responses with the same lists are the same. -/
theorem Response.SameBut.eq {first second : Response} (same : first.SameBut Eq second) :
    first = second := by
  cases same with
  | same => rfl
  | store related | call related | query related => rw [related]

/-- A check only concerns the store, and there only the senders that it names. -/
theorem checkTx_leaves {R : Store S → Store S → Prop} [IsPreorder (Store S) R] {bytes : List UInt8}
    (loads : ∀ tx, Transaction.decode bytes = .ok tx → ∀ op ∈ tx.operations, ∀ s : Store S,
      s.staging = none → R s { s with medium := (b.load op.sender s.medium).2 })
    (app : Application S) :
    ∃ store, R app.store store ∧ (checkTx b bytes app).2 = { app with store } := by
  rw [checkTx_state]
  cases hdecode : Transaction.decode bytes with
  | error problem => exact ⟨app.store, Std.Refl.refl _, rfl⟩
  | ok tx => exact ⟨_, Batch.check_leaves (loads tx hdecode) app.store, rfl⟩

theorem names_all (asked : Call) : asked.Names fun _ => True := by
  cases asked with
  | registerKey | queryState | queryAccount => trivial
  | initChain accounts => exact fun _ _ => trivial
  | checkTx bytes | deliverTx bytes => exact fun _ _ _ _ => ⟨trivial, trivial⟩
  | finalizeBlock transactions => exact fun _ _ _ _ _ _ => ⟨trivial, trivial⟩
  | query path data => exact fun _ _ _ => trivial

section

variable (lists : S → Except StoreError (List Account) → Except StoreError (List Account) → Prop)
  (parallels : b.Parallels b related)
  (listed : ∀ {s s' : Store S}, Store.Paired related s s' →
    lists s.medium (Store.accounts b s).1 (Store.accounts b s').1)
  {app app' : Application S}
include parallels listed

/-- Applications over media that answer alike answer a request alike, save for the lists of
their accounts. -/
theorem answer_sameBut (beside : Beside (Store.Paired related) app app') (request : Request) :
    (request.answer b app).1.SameBut (lists app.store.medium) (request.answer b app').1 ∧
      Beside (Store.Paired related) (request.answer b app).2 (request.answer b app').2 := by
  have hlisted := listed beside.store
  have hkept : Beside (Store.Paired related) (queryState b app).2 (queryState b app').2 :=
    ⟨Store.accounts_paired parallels beside.store, beside.keys, beside.policy, beside.tally⟩
  cases request with
  | store op =>
      by_cases hop : op = .accounts
      · subst hop
        have hanswer : ∀ app : Application S, ((Request.store .accounts).answer b app).1 =
            .store ((Store.accounts b app.store).1.map .accounts) := fun app =>
          congrArg (fun run : Except StoreError Store.Answer × Store S => Response.store run.1)
            (Run.map_apply Store.Answer.accounts (Store.accounts b) app.store)
        rw [hanswer, hanswer]
        exact ⟨.store hlisted, Store.perform_paired parallels .accounts beside.store, beside.keys,
          beside.policy, beside.tally⟩
      · obtain ⟨hanswer, hstore⟩ :=
          (Store.perform_parallel parallels hop).agrees beside.store trivial
        have hsame : ((Request.store op).answer b app).1 = ((Request.store op).answer b app').1 :=
          congrArg Response.store hanswer
        rw [hsame]
        exact ⟨.same _, hstore, beside.keys, beside.policy, beside.tally⟩
  | call asked =>
      by_cases hlists : asked.Lists
      · cases asked with
        | queryState => exact ⟨.call hlisted, hkept⟩
        | query path data =>
            obtain rfl : path = "state" := hlists
            exact ⟨.query hlisted, hkept⟩
        | _ => exact hlists.elim
      · have halike : Alike (fun _ => True) (Store.Paired related) (perform b asked)
            (perform b asked) :=
          perform_alike (Store.inStep_of_parallels parallels) (names_all asked)
            fun hlisting => absurd hlisting hlists
        obtain ⟨hanswer, hbeside⟩ := halike.agrees beside trivial
        have hsame : ((Request.call asked).answer b app).1 = ((Request.call asked).answer b app').1 :=
          congrArg Response.call hanswer
        rw [hsame]
        exact ⟨.same _, hbeside⟩

/-- If media that answer alike still do so once an account was loaded from the second one,
checks that are put in between change no answer, save for the lists of all accounts. -/
theorem responses_sameBut
    (overlooks : ∀ {m m' id}, probed id → related m m' → related m (b.load id m').2)
    {entries : List Entry} (named : ∀ id, Probed entries id → probed id)
    (beside : Beside (Store.Paired related) app app') :
    List.Forall₂ (fun plain checked => plain.2.SameBut (lists plain.1.store.medium) checked.2)
      (responses b (unprobed entries) app) (responses b entries app') := by
  induction entries generalizing app app' with
  | nil => exact .nil
  | cons entry rest ih =>
      have hrest : ∀ id, Probed rest id → probed id := by
        rintro id ⟨bytes, tx, op, hentry, hdecode, hop, hid⟩
        exact named id ⟨bytes, tx, op, List.mem_cons_of_mem entry hentry, hdecode, hop, hid⟩
      cases entry with
      | asked request =>
          obtain ⟨hanswer, hbeside⟩ := answer_sameBut lists parallels listed beside request
          exact .cons hanswer (ih hrest hbeside)
      | probed bytes =>
          obtain ⟨store, hstore, hchecked⟩ : ∃ store,
              (∀ s, Store.Paired related s app'.store → Store.Paired related s store) ∧
              (checkTx b bytes app').2 = { app' with store } := by
            refine checkTx_leaves (R := Store.StillPaired related) ?_ app'
            intro tx hdecode op hop s _ first paired
            have hprobed := named op.sender ⟨bytes, tx, op, List.mem_cons_self, hdecode, hop, rfl⟩
            exact ⟨overlooks hprobed paired.medium, paired.initialized, paired.staging⟩
          rw [responses, hchecked]
          exact ih hrest ⟨hstore _ beside.store, beside.keys, beside.policy, beside.tally⟩

end

/-- Where asking for accounts changes nothing, checks that are put in between change no answer
at all. -/
theorem responses_of_steady {calm : S → Prop} (steady : b.Steady calm) (entries : List Entry)
    {app : Application S} (quiet : calm app.store.medium) :
    List.Forall₂ (fun plain checked => plain.2 = checked.2) (responses b (unprobed entries) app)
      (responses b entries app) := by
  have hlisted : ∀ {s s' : Store S}, Store.Paired (fun m m' => m = m' ∧ calm m) s s' →
      (Store.accounts b s).1 = (Store.accounts b s').1 := by
    intro s s' paired
    have hsame : s = s' := by
      rw [Store.mk.injEq]
      exact ⟨paired.medium.1, paired.initialized, paired.staging⟩
    rw [hsame]
  have hoverlooks : ∀ {m m' : S} {id : AccountId}, Probed entries id → m = m' ∧ calm m →
      m = (b.load id m').2 ∧ calm m := by
    rintro m m' id - ⟨rfl, hcalm⟩
    exact ⟨(steady.load id m hcalm).symm, hcalm⟩
  have hbeside : Beside (Store.Paired fun m m' => m = m' ∧ calm m) app app :=
    ⟨⟨⟨rfl, quiet⟩, rfl, rfl⟩, rfl, rfl, rfl⟩
  exact (responses_sameBut (fun _ => Eq) steady.parallels hlisted hoverlooks (fun _ => id)
    hbeside).imp fun _ _ => Response.SameBut.eq

end

end Application

end Clearinghouse
