/-
# Money is conserved

Of an application that nobody else's stores disturb only deliveries touch the accounts, and each
of them does all that the operations do that it applied, or nothing. Everything else that it is
asked only reads. So over whole histories, with failures armed at will, the sum of all
accounts stays what it was and no account disappears, unless a delivery tells of a commit that
landed in part.
-/

import Clearinghouse.Proofs.Application.Signing
import Clearinghouse.Proofs.Batch.Along
import Clearinghouse.Proofs.Batch.Conservation
import Clearinghouse.Proofs.Batch.Fulfilling

namespace Clearinghouse

/-- Reading accounts changes none of them. -/
theorem Backend.Fulfils.reading {S : Type} {b : Backend S} {holdings : S → Holdings}
    (fulfils : b.Fulfils holdings) :
    Store.Reading b (Run.Kept fun s : Store S => holdings s.medium) where
  ready s := (Store.ensureInitialized_reads (b := b) s).read.eq_of_load fulfils.load_content
  load id s := fulfils.load_content id s.medium
  loadAll s := fulfils.loadAll_holdings s.medium
  peek id s := by
    rw [Store.peek_apply, Run.Kept]
    cases s.staged? id with
    | some entry => rfl
    | none => exact fulfils.load_content id s.medium
  observe id s := (Store.observe_reads id s).read.eq_of_load fulfils.load_content

namespace Application

variable {S : Type} {b : Backend S} {holdings : S → Holdings}

section

variable (b)

/-- The batch of a delivery and what became of it, if the bytes hold one. -/
def Delivery.outcome? (delivery : Delivery S) : Option (Transaction × Outcome) :=
  match Transaction.decode delivery.bytes with
  | .ok tx => some (tx, (Batch.process b delivery.before.keys delivery.before.policy tx
      delivery.before.store).1)
  | .error _ => none

/-- The operations of a delivery that are applied. -/
def Delivery.applied (delivery : Delivery S) : List Operation :=
  match Transaction.decode delivery.bytes with
  | .ok tx => Batch.applied b delivery.before.keys delivery.before.policy tx delivery.before.store
  | .error _ => []

/-- The delivery was rejected because its commit landed in part. -/
def Delivery.BreaksOff (delivery : Delivery S) : Prop :=
  ∃ tx rejection e, delivery.outcome? b = some (tx, .rejected rejection) ∧
    rejection.reason = .storage e ∧ e.IsPartialCommit

end

section

variable {delivery : Delivery S} {tx : Transaction} {outcome : Outcome}

/-- What becomes of a batch that is delivered is what becomes of the delivery. -/
theorem Delivery.facts_of_outcome (answered : delivery.outcome? b = some (tx, outcome))
    (delivered : delivery.after = (deliverTx b delivery.bytes delivery.before).2) :
    let run := Batch.process b delivery.before.keys delivery.before.policy tx delivery.before.store
    run.1 = outcome ∧ delivery.after.store.medium = run.2.medium ∧
      delivery.applied b = Batch.applied b delivery.before.keys delivery.before.policy tx
        delivery.before.store := by
  rw [Delivery.outcome?] at answered
  rw [Delivery.applied, delivered]
  cases hdecode : Transaction.decode delivery.bytes with
  | error problem =>
      rw [hdecode] at answered
      cases answered
  | ok found =>
      rw [hdecode] at answered
      obtain ⟨rfl, houtcome⟩ := Prod.mk.inj (Option.some.inj answered)
      exact ⟨houtcome, congrArg (·.medium) (deliverTx_of_decode b hdecode _).1, rfl⟩

/-- Bytes that hold no batch change nothing. -/
theorem Delivery.after_of_undecodable (undecodable : delivery.outcome? b = none)
    (delivered : delivery.after = (deliverTx b delivery.bytes delivery.before).2) :
    delivery.after = delivery.before := by
  rw [Delivery.outcome?] at undecodable
  cases hdecode : Transaction.decode delivery.bytes with
  | error problem => rw [delivered, deliverTx_of_undecodable b hdecode]
  | ok tx =>
      rw [hdecode] at undecodable
      cases undecodable

/-- A delivery does to the accounts all that it applied, or nothing. -/
theorem Delivery.moved (fulfils : b.Fulfils holdings)
    (delivered : delivery.after = (deliverTx b delivery.bytes delivery.before).2)
    (whole : ¬ delivery.BreaksOff b) :
    (holdings delivery.before.store.medium).AllOrNothing (delivery.applied b)
      (holdings delivery.after.store.medium) := by
  cases hanswer : delivery.outcome? b with
  | none =>
      rw [Delivery.after_of_undecodable hanswer delivered]
      exact .nothing
  | some answer =>
      obtain ⟨houtcome, hmedium, happlied⟩ := Delivery.facts_of_outcome hanswer delivered
      rw [happlied, hmedium]
      refine (Batch.process_transfers fulfils _ _ _ _
        fun rejection e hrejected hreason hpartial => whole ?_).1
      exact ⟨answer.1, rejection, e, by rw [hanswer, ← hrejected, houtcome], hreason, hpartial⟩

/-- A delivery that is committed does what it reports as carried out. -/
theorem Delivery.transferred (fulfils : b.Fulfils holdings) {count : Nat}
    {skipped : List Rejection}
    (committed : delivery.outcome? b = some (tx, .committed count skipped))
    (delivered : delivery.after = (deliverTx b delivery.bytes delivery.before).2) :
    (holdings delivery.before.store.medium).Transferred (delivery.applied b)
        (holdings delivery.after.store.medium) ∧
      delivery.applied b = (Outcome.committed count skipped).carriedOut tx.operations ∧
      (delivery.applied b).length = count := by
  obtain ⟨houtcome, hmedium, happlied⟩ := Delivery.facts_of_outcome committed delivered
  have htransfers := (Batch.process_transfers fulfils delivery.before.keys delivery.before.policy
    tx delivery.before.store fun rejection e hrejected => by
      cases houtcome.symm.trans hrejected).2 count skipped houtcome
  rwa [← happlied, ← hmedium, houtcome] at htransfers

/-- Where batches are atomic a delivery that changes an account is committed. -/
theorem Delivery.committed_of_changed (candid : b.Candid holdings)
    (delivered : delivery.after = (deliverTx b delivery.bytes delivery.before).2)
    (whole : ¬ delivery.BreaksOff b)
    (changed : holdings delivery.after.store.medium ≠ holdings delivery.before.store.medium) :
    ∃ tx count skipped, delivery.outcome? b = some (tx, .committed count skipped) := by
  cases hanswer : delivery.outcome? b with
  | none =>
      rw [Delivery.after_of_undecodable hanswer delivered] at changed
      exact absurd rfl changed
  | some answer =>
      obtain ⟨tx, outcome⟩ := answer
      cases outcome with
      | committed count skipped => exact ⟨tx, count, skipped, rfl⟩
      | rejected rejection =>
          obtain ⟨houtcome, hmedium, -⟩ := Delivery.facts_of_outcome hanswer delivered
          refine absurd ?_ changed
          rw [hmedium]
          by_cases htransaction : delivery.before.store.inTransaction = true
          · rw [Batch.process_of_transaction htransaction]
          · exact Batch.process_of_candid candid
              (by simpa [Store.inTransaction] using htransaction) houtcome
              fun e hreason hpartial => whole ⟨tx, rejection, e, hanswer, hreason, hpartial⟩

end

/-- Deliveries lead from some holdings to others: between them no account changes. -/
inductive Leads (holdings : S → Holdings) : Holdings → List (Delivery S) → Holdings → Prop
  | nil {h : Holdings} : Leads holdings h [] h
  | cons {delivery : Delivery S} {rest : List (Delivery S)} {h : Holdings}
      (leads : Leads holdings (holdings delivery.after.store.medium) rest h) :
      Leads holdings (holdings delivery.before.store.medium) (delivery :: rest) h

namespace Leads

variable {h mid h' : Holdings} {first later : List (Delivery S)} {id : AccountId}

theorem append (hfirst : Leads holdings h first mid) (hlater : Leads holdings mid later h') :
    Leads holdings h (first ++ later) h' := by
  induction hfirst with
  | nil => exact hlater
  | cons _ ih => exact .cons (ih hlater)

/-- What no delivery changes has not changed. -/
theorem kept {C : Type} {part : Holdings → C} (leads : Leads holdings h first h')
    (kept : ∀ delivery ∈ first, part (holdings delivery.after.store.medium) =
      part (holdings delivery.before.store.medium)) : part h' = part h := by
  induction leads with
  | nil => rfl
  | cons _ ih =>
      have hkept := List.forall_mem_cons.mp kept
      exact (ih hkept.2).trans hkept.1

theorem isSome (leads : Leads holdings h first h')
    (kept : ∀ delivery ∈ first, (holdings delivery.before.store.medium id).isSome →
      (holdings delivery.after.store.medium id).isSome) (there : (h id).isSome) :
    (h' id).isSome := by
  induction leads with
  | nil => exact there
  | cons _ ih =>
      have hkept := List.forall_mem_cons.mp kept
      exact ih hkept.2 (hkept.1 there)

/-- An account that is new came with one of the deliveries. -/
theorem exists_delivery (leads : Leads holdings h first h') (absent : h id = none)
    (there : (h' id).isSome) :
    ∃ delivery ∈ first, holdings delivery.before.store.medium id = none ∧
      (holdings delivery.after.store.medium id).isSome := by
  induction leads with
  | nil => simp [absent] at there
  | @cons delivery rest h leads ih =>
      cases hafter : holdings delivery.after.store.medium id with
      | none =>
          obtain ⟨found, hmem, hfound⟩ := ih hafter there
          exact ⟨found, List.mem_cons_of_mem delivery hmem, hfound⟩
      | some n => exact ⟨delivery, List.mem_cons_self, absent, by rw [hafter]; rfl⟩

end Leads

/-- A block changes accounts by its deliveries only. -/
theorem blockDeliveries_leads (transactions : List (List UInt8)) (app : Application S) :
    Leads holdings (holdings app.store.medium) (blockDeliveries b transactions app)
      (holdings (finalizeBlock b transactions app).2.store.medium) := by
  rw [finalizeBlock_state]
  induction transactions generalizing app with
  | nil => exact .nil
  | cons bytes rest ih =>
      exact @Leads.cons S holdings ⟨app, bytes, (deliverTx b bytes app).2⟩ _ _ (ih _)

section

variable (fulfils : b.Fulfils holdings)
include fulfils

/-- An admission check changes no account. -/
theorem checkTx_holdings (bytes : List UInt8) (app : Application S) :
    holdings (checkTx b bytes app).2.store.medium = holdings app.store.medium := by
  rw [checkTx_state]
  cases Transaction.decode bytes with
  | error problem => rfl
  | ok tx => exact Batch.check_along (fun op _ => fulfils.reading.getBalance_along op.sender) app.store

/-- Neither does a query. -/
theorem query_holdings (path : String) (data : List UInt8) (app : Application S) :
    holdings (query b path data app).2.store.medium = holdings app.store.medium := by
  unfold query
  split
  · exact fulfils.reading.accounts_along app.store
  split
  · cases Json.Reader.document Json.Reader.unsigned data with
    | error problem => rfl
    | ok id => exact fulfils.reading.getAccount_along id app.store
  · rfl

/-- An event changes accounts by its deliveries only. -/
theorem after_leads (event : Event S) (serving : ∀ accounts, event ≠ .call (.initChain accounts))
    (disturbed : ∀ disturb, event = .disturbance disturb → ∀ m, holdings (disturb m) = holdings m)
    (app : Application S) :
    Leads holdings (holdings app.store.medium) (event.deliveries b app)
      (holdings (event.after b app).store.medium) := by
  have hkept : ∀ {app' : Application S}, event.deliveries b app = [] →
      holdings app'.store.medium = holdings app.store.medium →
      Leads holdings (holdings app.store.medium) (event.deliveries b app)
        (holdings app'.store.medium) := by
    intro app' hnothing hsame
    rw [hnothing, hsame]
    exact .nil
  cases event with
  | disturbance disturb => exact hkept rfl (disturbed disturb rfl app.store.medium)
  | call call =>
      cases call with
      | registerKey user text =>
          refine hkept rfl ?_
          rw [Event.after, perform, answered_state, registerKey, ExceptT.run, Run.get_bind_apply]
          cases app.keys.register user text <;> rfl
      | initChain accounts => exact absurd rfl (serving accounts)
      | checkTx bytes =>
          refine hkept rfl ?_
          rw [Event.after, perform, answered_state]
          exact checkTx_holdings fulfils bytes app
      | deliverTx bytes => exact blockDeliveries_leads [bytes] app
      | finalizeBlock transactions => exact blockDeliveries_leads transactions app
      | queryAccount id => exact hkept rfl (fulfils.reading.getAccount_along id app.store)
      | queryState => exact hkept rfl (fulfils.reading.accounts_along app.store)
      | query path data =>
          refine hkept rfl ?_
          rw [Event.after, perform, answered_state]
          exact query_holdings fulfils path data app

/-- So does a history. -/
theorem final_leads {events : List (Event S)}
    (serving : ∀ accounts, .call (.initChain accounts) ∉ events)
    (disturbed : ∀ disturb, .disturbance disturb ∈ events → ∀ m, holdings (disturb m) = holdings m)
    (app : Application S) :
    Leads holdings (holdings app.store.medium) (deliveries b events app)
      (holdings (final b events app).store.medium) := by
  induction events generalizing app with
  | nil => exact .nil
  | cons event rest ih =>
      have hfirst := after_leads fulfils event
        (fun accounts hevent => serving accounts (hevent ▸ List.mem_cons_self))
        (fun disturb hevent => disturbed disturb (hevent ▸ List.mem_cons_self)) app
      exact hfirst.append (ih (fun accounts hmem => serving accounts (List.mem_cons_of_mem _ hmem))
        (fun disturb hmem => disturbed disturb (List.mem_cons_of_mem _ hmem)) _)

end

/-- An application over a medium of its own is asked anything but to seed accounts, while
failures are armed at will. As long as no delivery breaks off in its commit, the exact sum of
all accounts stays what it was, no account disappears, and an account that is new came with a
delivery that applied an operation with this receiver; where batches are atomic the delivery
was committed. Every delivery does all that it applied or nothing, and one that is committed
does what it reports as carried out, as many operations as it says. -/
theorem money_is_conserved (adapter : Adapter) (app : Application adapter.State)
    (events : List (Event adapter.State))
    (serving : ∀ accounts, .call (.initChain accounts) ∉ events)
    (rearming : ∀ disturb, .disturbance disturb ∈ events → ∀ m, adapter.Rearmed m (disturb m))
    (whole : ∀ delivery ∈ deliveries adapter.backend events app,
      ¬ delivery.BreaksOff adapter.backend) :
    let held := fun app : Application adapter.State => adapter.holdings app.store.medium
    let last := final adapter.backend events app
    (held last).sum = (held app).sum ∧
    (∀ id, (held app id).isSome → (held last id).isSome) ∧
    (∀ id, held app id = none → (held last id).isSome →
      ∃ delivery ∈ deliveries adapter.backend events app,
        held delivery.before id = none ∧ (held delivery.after id).isSome ∧
        (∃ op ∈ delivery.applied adapter.backend, op.receiver = id) ∧
        (adapter.BatchesAtomic → ∃ tx count skipped,
          delivery.outcome? adapter.backend = some (tx, .committed count skipped))) ∧
    ∀ delivery ∈ deliveries adapter.backend events app,
      (held delivery.before).AllOrNothing (delivery.applied adapter.backend)
        (held delivery.after) ∧
      ∀ tx count skipped,
        delivery.outcome? adapter.backend = some (tx, .committed count skipped) →
        (held delivery.before).Transferred (delivery.applied adapter.backend)
          (held delivery.after) ∧
        delivery.applied adapter.backend =
          (Outcome.committed count skipped).carriedOut tx.operations ∧
        (delivery.applied adapter.backend).length = count := by
  intro held last
  have hleads := final_leads (b := adapter.backend) adapter.fulfils serving
    (fun disturb hmem m => (rearming disturb hmem m).holdings_eq) app
  have hmoved : ∀ delivery ∈ deliveries adapter.backend events app,
      (held delivery.before).AllOrNothing (delivery.applied adapter.backend)
        (held delivery.after) := fun delivery hmem =>
    Delivery.moved adapter.fulfils (deliveries_facts hmem).1 (whole delivery hmem)
  refine ⟨hleads.kept fun delivery hmem => (hmoved delivery hmem).sum_eq,
    fun id => hleads.isSome fun delivery hmem => (hmoved delivery hmem).isSome,
    fun id absent there => ?_, fun delivery hmem => ⟨hmoved delivery hmem,
      fun tx count skipped committed =>
        Delivery.transferred adapter.fulfils committed (deliveries_facts hmem).1⟩⟩
  obtain ⟨delivery, hmem, hbefore, hafter⟩ := hleads.exists_delivery absent there
  refine ⟨delivery, hmem, hbefore, hafter, (hmoved delivery hmem).exists_receiver hbefore hafter,
    fun atomic => Delivery.committed_of_changed (adapter.candid_holdings atomic)
      (deliveries_facts hmem).1 (whole delivery hmem) fun hsame => ?_⟩
  rw [hsame, hbefore] at hafter
  cases hafter

/-- A user pays twice. The first time the medium fails, and both times an operation without a
signature is left out. The key is the neutral point, which signs everything. -/
theorem recording_money_is_conserved :
    let op : Operation := ⟨1, 2, 5, (1 :: List.replicate 31 0) ++ List.replicate 32 0⟩
    let bytes := Transaction.encode ⟨[op, ⟨1, 3, 9, []⟩]⟩
    let app : Application Adapter.recording.State :=
      .new ⟨⟨(∅ : Table).insert 1 10, [], none⟩, true, none⟩ .skipFailed
    let events : List (Event Adapter.recording.State) :=
      [.call (.registerKey 1 ("01" ++ String.ofList (List.replicate 62 '0'))),
        .disturbance fun m : Recording.State => { m with fault := some ⟨.flush, 0, ()⟩ },
        .call (.deliverTx bytes), .call (.finalizeBlock [bytes])]
    let before := Adapter.recording.holdings app.store.medium
    let after := Adapter.recording.holdings (final Adapter.recording.backend events app).store.medium
    after.sum = before.sum ∧ before 2 = none ∧ after 2 = some 5 ∧
      ∃ delivery ∈ deliveries Adapter.recording.backend events app,
        (∃ op ∈ delivery.applied Adapter.recording.backend, op.receiver = 2) ∧
        ∃ tx count skipped, delivery.outcome? Adapter.recording.backend =
          some (tx, .committed count skipped) := by
  intro op bytes app events before after
  have hserving : ∀ accounts, .call (.initChain accounts) ∉ events := by
    intro accounts hmem
    simp [events] at hmem
  have hrearming : ∀ disturb, .disturbance disturb ∈ events →
      ∀ m, Adapter.recording.Rearmed m (disturb m) := by
    intro disturb hmem m
    simp only [events, List.mem_cons, List.not_mem_nil, reduceCtorEq, false_or, or_false] at hmem
    rw [Event.disturbance.inj hmem]
    exact ⟨rfl, rfl⟩
  have houtcomes : ((deliveries Adapter.recording.backend events app).map fun delivery =>
      (delivery.outcome? Adapter.recording.backend).map (·.2)) =
      [some (.rejected ⟨none, .storage (.medium "flush" "injected failure")⟩),
        some (.committed 1 [⟨some 1, .missingSignature⟩])] := by
    decide +kernel
  have hwhole : ∀ delivery ∈ deliveries Adapter.recording.backend events app,
      ¬ delivery.BreaksOff Adapter.recording.backend := by
    rintro delivery hmem ⟨tx, rejection, e, hrejected, hreason, hpartial⟩
    have hlisted := List.mem_map_of_mem
      (f := fun delivery => (delivery.outcome? Adapter.recording.backend).map (·.2)) hmem
    simp only [houtcomes, hrejected, Option.map_some, List.mem_cons, List.not_mem_nil,
      Option.some.injEq, Outcome.rejected.injEq, reduceCtorEq, or_false] at hlisted
    rw [hlisted] at hreason
    cases hreason
    exact StoreError.not_isPartialCommit_medium _ _ hpartial
  have hbefore : before 2 = none := by decide +kernel
  have hafter : after 2 = some 5 := by decide +kernel
  have hthere : (after 2).isSome := by
    rw [hafter]
    rfl
  have hconserved := money_is_conserved .recording app events hserving hrearming hwhole
  obtain ⟨delivery, hmem, -, -, hreceived, hcommitted⟩ := hconserved.2.2.1 2 hbefore hthere
  exact ⟨hconserved.1, hbefore, hafter, delivery, hmem, hreceived, hcommitted trivial⟩

end Application

end Clearinghouse
