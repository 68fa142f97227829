/-
# What happens inside a transaction stays inside

Until it commits, a transaction asks its medium for accounts and nothing else.
This holds over any medium and whatever its calls answer. An operation that
fails keeps every staged entry as it was, and an account that is staged is never
asked for again. So a movement that succeeded can be taken back without the
medium.
-/

import Clearinghouse.Proofs.Store.Operations

namespace Clearinghouse.Store

variable {S α : Type} {b : Backend S}

/-- From one state to another a store only read its medium, and kept its
transaction open or closed as it was. -/
structure Within (b : Backend S) (s s' : Store S) : Prop where
  read : b.OnlyRead s.medium s'.medium
  initialized : s'.initialized = s.initialized
  inTransaction : s'.inTransaction = s.inTransaction

/-- A store that stayed within its transaction and kept every entry as it was. -/
structure Reads (b : Backend S) (s s' : Store S) : Prop extends Within b s s' where
  kept : ∀ {id : AccountId} {entry : Staged}, s.staged? id = some entry →
    s'.staged? id = some entry

/-- From one state to another a store stayed within its transaction, if it had
one. -/
def During (b : Backend S) (s s' : Store S) : Prop := s.inTransaction = true → Within b s s'

instance : Std.Refl (Within b) := ⟨fun _ => ⟨.refl, rfl, rfl⟩⟩

instance : IsTrans (Store S) (Within b) where
  trans _ _ _ first second :=
    { read := first.read.trans second.read
      initialized := second.initialized.trans first.initialized
      inTransaction := second.inTransaction.trans first.inTransaction }

instance : Std.Refl (Reads b) := ⟨fun s => ⟨Std.Refl.refl s, fun hstaged => hstaged⟩⟩

instance : IsTrans (Store S) (Reads b) where
  trans _ _ _ first second :=
    { toWithin := IsTrans.trans _ _ _ first.toWithin second.toWithin
      kept := fun hstaged => second.kept (first.kept hstaged) }

instance : Std.Refl (During b) := ⟨fun s _ => Std.Refl.refl s⟩

instance : IsTrans (Store S) (During b) where
  trans _ _ _ first second transaction :=
    IsTrans.trans _ _ _ (first transaction)
      (second ((first transaction).inTransaction.trans transaction))

theorem ensureInitialized_reads :
    Run.Along (Reads b) (ensureInitialized : Step (Store S) Unit) := by
  intro s
  rw [ensureInitialized, Run.get_bind_apply]
  cases s.initialized with
  | false => exact Run.Along.throw _ s
  | true => exact Run.Along.pure _ s

theorem loaded_reads (id : AccountId) (s : Store S) : Reads b s (loaded b id s) :=
  ⟨⟨b.onlyRead_load id s.medium, rfl, rfl⟩, fun hstaged => hstaged⟩

theorem onMedium_load_reads (id : AccountId) : Run.Along (Reads b) (onMedium (b.load id)) :=
  loaded_reads id

section

variable {s : Store S} {id : AccountId} {entry : Staged}

/-- Copying an account that is not staged yet keeps every entry there is. -/
theorem copied_reads (unstaged : s.staged? id = none) (balance : Balance) :
    Reads b s (copied id balance s) := by
  obtain ⟨medium, initialized, staging⟩ := s
  cases staging with
  | none => exact Std.Refl.refl _
  | some staging =>
      have habsent : staging[id]? = none := unstaged
      refine ⟨⟨.refl, rfl, rfl⟩, fun {other found} hstaged => ?_⟩
      have hheld : staging[other]? = some found := hstaged
      refine (staged?_insert medium initialized staging id _ other).trans ?_
      split
      · next hid =>
          rw [← hid, habsent] at hheld
          cases hheld
      · exact hheld

theorem observe_of_staged (staged : s.staged? id = some entry) :
    observe b id s = (.ok (some entry.balance), s) := by
  rw [observe_apply, staged]

theorem observe_reads (id : AccountId) : Run.Along (Reads b) (observe b id) := by
  intro s
  rw [observe_apply]
  cases hstaged : s.staged? id with
  | some entry => exact Std.Refl.refl s
  | none =>
      dsimp only
      cases (b.load id s.medium).1 with
      | error e => exact loaded_reads id s
      | ok found =>
          cases found with
          | none => exact loaded_reads id s
          | some account =>
              have hunstaged : (loaded b id s).staged? id = none := hstaged
              exact IsTrans.trans _ _ _ (loaded_reads id s)
                (copied_reads hunstaged account.balance)

/-- Inside a transaction a write is staged. -/
theorem write_stages (transaction : s.inTransaction = true) (id : AccountId)
    (observed : Option Balance) (balance : Balance) :
    ∃ s' entry, write b id observed balance s = (.ok (), s') ∧ Within b s s' ∧
      s'.staged? id = some entry ∧ entry.balance = balance := by
  obtain ⟨staging, hstaging⟩ := Option.isSome_iff_exists.mp transaction
  rw [write, Run.get_bind_apply]
  simp only [hstaging, Run.modify_apply, Staging.write_eq_insert]
  refine ⟨_, ⟨(staging[id]?.map (·.observed)).getD observed, balance, true⟩, rfl,
    ⟨.refl, rfl, transaction.symm⟩, ?_, rfl⟩
  rw [staged?_insert, if_pos rfl]

/-- What an update that succeeds leaves staged: the balance moved by `delta`, or
`delta` itself on a new account. -/
def Moved (delta : Balance) (entry : Staged) : Prop :=
  0 < delta ∧ entry.balance = delta ∨
    ∃ balance : Balance, balance.add? delta = some entry.balance ∧ ¬ entry.balance < 0

/-- Inside a transaction an update fails and keeps every entry, or stages the
balance it moved. -/
theorem update_stages (opened : s.initialized = true) (transaction : s.inTransaction = true)
    (id : AccountId) (delta : Balance) :
    (∃ e s', update b id delta s = (.error e, s') ∧ Reads b s s') ∨
      ∃ s' entry, update b id delta s = (.ok (), s') ∧ Within b s s' ∧
        s'.staged? id = some entry ∧ Moved delta entry := by
  have hreads := observe_reads (b := b) id s
  obtain ⟨e, hrun⟩ | ⟨found, balance, -, hrun, hnonneg, hexact, hcredit⟩ :=
    update_cases (b := b) opened id delta
  · exact .inl ⟨e, _, hrun, hreads⟩
  · obtain ⟨s', entry, hwrite, hwithin, hstaged, hbalance⟩ :=
      write_stages (b := b) (hreads.inTransaction.trans transaction) id found balance
    refine .inr ⟨s', entry, hrun.trans hwrite, IsTrans.trans _ _ _ hreads.toWithin hwithin,
      hstaged, ?_⟩
    cases found with
    | none =>
        have hdelta : entry.balance = delta := by
          rw [hbalance, ← Int64.toInt_inj, hexact]
          simp
        exact .inl ⟨hcredit rfl, hdelta⟩
    | some held =>
        rw [← hbalance] at hexact hnonneg
        exact .inr ⟨held, Balance.add?_eq_some_iff.mpr hexact, Int64.not_lt.mpr hnonneg⟩

/-- Moving a staged balance to one that is in range and not negative succeeds. -/
theorem update_of_staged (opened : s.initialized = true) (transaction : s.inTransaction = true)
    (staged : s.staged? id = some entry) {delta balance : Balance}
    (moves : entry.balance.add? delta = some balance) (nonnegative : ¬ balance < 0) :
    ∃ s', update b id delta s = (.ok (), s') ∧ Within b s s' := by
  obtain ⟨s', _, hwrite, hwithin, -⟩ :=
    write_stages (b := b) transaction id (some entry.balance) balance
  refine ⟨s', ?_, hwithin⟩
  rw [update, ensureInitialized_bind opened, Run.bind_of_ok (observe_of_staged staged)]
  simp only [moves, nonnegative]
  exact hwrite

end

theorem update_during (id : AccountId) (delta : Balance) :
    Run.Along (During b) (update b id delta) := by
  intro s transaction
  by_cases hopened : s.initialized = true
  · obtain ⟨e, s', hrun, hreads⟩ | ⟨s', entry, hrun, hwithin, -⟩ :=
      update_stages (b := b) hopened transaction id delta
    · rw [hrun]
      exact hreads.toWithin
    · rw [hrun]
      exact hwithin
  · unfold update
    rw [ensureInitialized_bind_of_closed (by simpa using hopened)]
    exact Std.Refl.refl s

/-- Reading an account asks the medium for it at most, inside a transaction and
outside. -/
theorem getAccount_reads (id : AccountId) : Run.Along (Reads b) (getAccount b id) := by
  unfold getAccount
  apply Run.Along.bind ensureInitialized_reads
  intro _ s
  rw [Run.get_bind_apply]
  split
  · refine Run.Along.bind (observe_reads id) (fun found => ?_) s
    cases found with
    | none => exact Run.Along.throw _
    | some balance => exact Run.Along.pure _
  · refine Run.Along.bind (onMedium_load_reads id) (fun found => ?_) s
    cases found with
    | none => exact Run.Along.throw _
    | some account => exact Run.Along.pure _

theorem getBalance_reads (id : AccountId) : Run.Along (Reads b) (getBalance b id) :=
  Run.Along.bind (getAccount_reads id) fun _ => Run.Along.pure _

end Clearinghouse.Store
