/-
# Nobody pays without having signed

A history of an application is a list of calls, between which its medium may be disturbed
in any way: failures are armed, calls begin to fail, accounts are changed by someone else.
Through every history the key of a user is the one registered first. And whatever a
delivery leads to, with a commit that landed in full, in part or not at all, an account
only loses what its owner has signed for with that key.
-/

import Clearinghouse.Proofs.Application.Calls
import Clearinghouse.Proofs.Batch.Adapters
import Clearinghouse.Proofs.Batch.Debits

namespace Clearinghouse.Application

variable {S : Type}

/-- What happens to an application: it is asked something, or its medium is disturbed. -/
inductive Event (S : Type)
  | call (request : Call)
  | disturbance (disturb : S → S)

section

variable (b : Backend S)

/-- The application after an event. -/
def Event.after : Event S → Application S → Application S
  | .call request, app => (perform b request app).2
  | .disturbance disturb, app =>
    { app with store := { app.store with medium := disturb app.store.medium } }

/-- The states of an application through a history, from the first to the last. -/
def states : List (Event S) → Application S → List (Application S)
  | [], app => [app]
  | event :: rest, app => app :: states rest (event.after b app)

/-- The application after a history. -/
def final (events : List (Event S)) (app : Application S) : Application S :=
  events.foldl (fun app event => event.after b app) app

/-- The first key that a user has in a history. -/
def firstKey (events : List (Event S)) (app : Application S) (user : AccountId) :
    Option Signature.PublicKey :=
  (states b events app).findSome? fun app => app.keys[user]?

/-- Bytes that were delivered, with the application before and after. -/
structure Delivery (S : Type) where
  before : Application S
  bytes : List UInt8
  after : Application S

/-- The deliveries of the transactions of a block. -/
def blockDeliveries : List (List UInt8) → Application S → List (Delivery S)
  | [], _ => []
  | bytes :: rest, app =>
    let after := (deliverTx b bytes app).2
    ⟨app, bytes, after⟩ :: blockDeliveries rest after

/-- The deliveries of an event. -/
def Event.deliveries : Event S → Application S → List (Delivery S)
  | .call (.deliverTx bytes), app => blockDeliveries b [bytes] app
  | .call (.finalizeBlock transactions), app => blockDeliveries b transactions app
  | _, _ => []

/-- The deliveries of a history. -/
def deliveries : List (Event S) → Application S → List (Delivery S)
  | [], _ => []
  | event :: rest, app => event.deliveries b app ++ deliveries rest (event.after b app)

end

variable {b : Backend S}

theorem after_keeps (event : Event S) (app : Application S) : KeepsKeys app (event.after b app) := by
  cases event with
  | call call => exact perform_keeps b call app
  | disturbance disturb => exact keepsKeys_of_eq rfl

theorem final_keeps (events : List (Event S)) (app : Application S) :
    KeepsKeys app (final b events app) := by
  induction events generalizing app with
  | nil => exact Std.Refl.refl app
  | cons event rest ih => exact IsTrans.trans _ _ _ (after_keeps event app) (ih _)

/-- A user's key is the one registered first. -/
theorem final_keys (events : List (Event S)) (app : Application S) (user : AccountId) :
    (final b events app).keys[user]? = firstKey b events app user := by
  rw [firstKey]
  induction events generalizing app with
  | nil =>
      rw [states, List.findSome?_singleton]
      rfl
  | cons event rest ih =>
      rw [states, List.findSome?_cons]
      cases hkey : app.keys[user]? with
      | some key => exact final_keeps (event :: rest) app user key hkey
      | none => exact ih (event.after b app)

/-- Every delivery is one of bytes, with the keys of the application at the time. -/
theorem blockDeliveries_facts {transactions : List (List UInt8)} {app : Application S}
    {delivery : Delivery S} (listed : delivery ∈ blockDeliveries b transactions app) :
    delivery.after = (deliverTx b delivery.bytes delivery.before).2 ∧
      delivery.before.keys = app.keys := by
  induction transactions generalizing app with
  | nil => cases listed
  | cons bytes rest ih =>
      rcases List.mem_cons.mp listed with rfl | hlater
      · exact ⟨rfl, rfl⟩
      · obtain ⟨hafter, hkeys⟩ := ih hlater
        exact ⟨hafter, hkeys.trans (deliverTx_keys b bytes app)⟩

/-- The keys at the time of a delivery are kept through the rest of the history. -/
theorem deliveries_facts {events : List (Event S)} {app : Application S} {delivery : Delivery S}
    (listed : delivery ∈ deliveries b events app) :
    delivery.after = (deliverTx b delivery.bytes delivery.before).2 ∧
      KeepsKeys delivery.before (final b events app) := by
  induction events generalizing app with
  | nil => cases listed
  | cons event rest ih =>
      rcases List.mem_append.mp listed with hnow | hlater
      · have hblock : ∃ transactions, delivery ∈ blockDeliveries b transactions app := by
          cases event with
          | disturbance disturb => cases hnow
          | call call =>
              cases call with
              | deliverTx bytes => exact ⟨_, hnow⟩
              | finalizeBlock transactions => exact ⟨_, hnow⟩
              | _ => cases hnow
        obtain ⟨transactions, hmem⟩ := hblock
        obtain ⟨hafter, hkeys⟩ := blockDeliveries_facts hmem
        refine ⟨hafter, fun user key registered => ?_⟩
        rw [hkeys] at registered
        exact final_keeps (event :: rest) app user key registered
      · exact ih hlater

/-- Through every history a user's key is the one registered first. An account that holds
less after a delivery has lost at most what the delivered operations take from it under
this key, and there are such operations. -/
theorem debits_are_signed (adapter : Adapter) (app : Application adapter.State)
    (events : List (Event adapter.State)) :
    (∀ user, (final adapter.backend events app).keys[user]? =
      firstKey adapter.backend events app user) ∧
    ∀ delivery ∈ deliveries adapter.backend events app, ∀ id,
      adapter.total delivery.after.store.medium id <
        adapter.total delivery.before.store.medium id →
      ∃ tx key, Transaction.decode delivery.bytes = .ok tx ∧
        delivery.before.keys[id]? = some key ∧
        firstKey adapter.backend events app id = some key ∧
        tx.operations.filter (·.takes id key) ≠ [] ∧
        adapter.total delivery.before.store.medium id -
            adapter.total delivery.after.store.medium id ≤
          ((tx.operations.filter (·.takes id key)).map (·.amount.toInt)).sum := by
  refine ⟨final_keys events app, fun delivery listed id lower => ?_⟩
  obtain ⟨hafter, hkept⟩ := deliveries_facts listed
  cases hdecode : Transaction.decode delivery.bytes with
  | error problem =>
      rw [hafter, deliverTx_of_undecodable _ hdecode] at lower
      exact absurd lower (Int.lt_irrefl _)
  | ok tx =>
      have hstore := (deliverTx_of_decode adapter.backend hdecode delivery.before).1
      have hlost := Batch.process_total adapter.settles delivery.before.keys
        delivery.before.policy tx delivery.before.store id
      rw [← hstore, ← hafter, Holdings.allowance] at hlost
      cases hkey : delivery.before.keys[id]? with
      | none =>
          simp only [hkey] at hlost
          omega
      | some key =>
          simp only [hkey, Holdings.taken] at hlost
          refine ⟨tx, key, rfl, rfl, (final_keys events app id).symm.trans (hkept id key hkey),
            fun hnothing => ?_, by omega⟩
          rw [hnothing] at hlost
          simp only [List.map_nil, List.sum_nil] at hlost
          omega

/-- A user registers a key and pays with it. The key is the neutral point, which signs
everything. -/
theorem memory_debit_is_signed :
    let op : Operation := ⟨1, 2, 5, (1 :: List.replicate 31 0) ++ List.replicate 32 0⟩
    let app : Application Table := .new ⟨(∅ : Table).insert 1 10, true, none⟩ .allOrNothing
    let events : List (Event Table) :=
      [.call (.registerKey 1 ("01" ++ String.ofList (List.replicate 62 '0'))),
        .call (.deliverTx (Transaction.encode ⟨[op]⟩))]
    ∃ delivery ∈ deliveries Memory.backend events app,
      delivery.after.store.medium.total 1 < delivery.before.store.medium.total 1 ∧
      ∃ tx key, Transaction.decode delivery.bytes = .ok tx ∧
        firstKey Memory.backend events app 1 = some key ∧
        tx.operations.filter (·.takes 1 key) ≠ [] := by
  intro op app events
  have hdeliveries : ((deliveries Memory.backend events app).map fun delivery =>
      (delivery.before.store.medium.total 1, delivery.after.store.medium.total 1)) = [(10, 5)] := by
    decide +kernel
  obtain ⟨delivery, hdelivery, htotals⟩ := List.map_eq_singleton_iff.mp hdeliveries
  have hlisted : delivery ∈ deliveries Memory.backend events app := by
    rw [hdelivery]
    exact List.mem_singleton_self delivery
  obtain ⟨hbefore, hafter⟩ := Prod.mk.inj htotals
  have hlower : delivery.after.store.medium.total 1 < delivery.before.store.medium.total 1 := by
    rw [hbefore, hafter]
    decide
  obtain ⟨tx, key, hdecode, -, hkey, hsigned, -⟩ :=
    (debits_are_signed .memory app events).2 delivery hlisted 1 hlower
  exact ⟨delivery, hlisted, hlower, tx, key, hdecode, hkey, hsigned⟩

end Clearinghouse.Application
