/-
# A store is the reference

Every operation of a store over a medium that keeps one table answers as the
reference does, whichever calls of the medium fail. What a store stands for in
the reference is read off its state: the committed table, and what an open
transaction shows as the working copy. One operation leads from what the store
stood for to what it stands for next, so whole runs agree by induction.
-/

import Clearinghouse.Proofs.Medium.Recording
import Clearinghouse.Proofs.Store.Operations

namespace Clearinghouse.Store

variable {S α β : Type} {b : Backend S} {sound : S → Prop} {table : S → Table}

/-- The state of a store between two operations of its life. -/
structure Settled (sound : S → Prop) (table : S → Table) (s : Store S) : Prop
    extends s.Coherent sound table where
  closed : s.initialized = false → s.staging = none

/-- After one operation the store has answered as the reference did and stands for
what became of it, or a call of the medium failed and the reference was
interrupted. -/
def Accords (b : Backend S) (table : S → Table) (op : Op) (s : Store S) : Prop :=
  ((perform b op s).1, (perform b op s).2.reference table) =
      Reference.perform (table (perform b op s).2.medium) op (s.reference table) ∨
    ∃ e, Interrupts b s.medium e op ∧ (perform b op s).1 = .error e ∧
      (perform b op s).2.reference table = (s.reference table).interrupt op

section

variable {s s' : Store S} {seen : Table}

theorem reference_of_closed (closed : s.initialized = false) :
    s.reference table = .closed := by
  simp [reference, closed]

/-- An open store stands for its table, and for what it shows if a transaction is
open. -/
theorem reference_of_opened (opened : s.initialized = true) :
    s.reference table = .opened (table s.medium)
      (if s.inTransaction then some (s.visible table) else none) := by
  unfold reference inTransaction visible
  rw [if_pos opened]
  cases s.staging <;> rfl

/-- The table that the reference works on is what the store shows. -/
theorem getD_visible :
    (if s.inTransaction then some (s.visible table) else none).getD (table s.medium) =
      s.visible table := by
  unfold inTransaction visible
  cases s.staging <;> rfl

/-- What a store comes to show, the reference comes to show. -/
theorem Reaches.reference_eq (reached : Reaches sound table s seen s')
    (opened : s.initialized = true) :
    s'.reference table = (s.reference table).put seen := by
  rw [reference_of_opened (reached.initialized.trans opened), reference_of_opened opened,
    reached.committed, reached.visible, reached.inTransaction]
  cases s.inTransaction <;> rfl

theorem Reaches.reference_eq_self (reached : Reaches sound table s (s.visible table) s')
    (opened : s.initialized = true) : s'.reference table = s.reference table := by
  rw [reached.reference_eq opened, reference_of_opened opened]
  unfold Store.inTransaction Store.visible
  cases s.staging <;> rfl

theorem Reaches.settled (reached : Reaches sound table s seen s') (opened : s.initialized = true) :
    s'.Settled sound table where
  toCoherent := reached.coherent
  closed := by simp [reached.initialized, opened]

/-- An operation on accounts accords if it ends as a rule for tables says. -/
theorem Ends.accords {op : Op} {act : Step (Store S) α} (rule : Step Table α)
    {failure : StoreError → Prop}
    (ends : Ends sound table s (rule (s.visible table)) failure (act s))
    (opened : s.initialized = true) {answer : α → Answer}
    (performs : perform b op s = (answer <$> act) s)
    (refers : ∀ found, Reference.perform found op = answer <$> Reference.onSeen rule)
    (interrupts : ∀ e, failure e → Interrupts b s.medium e op)
    (harmless : ∀ r, Reference.interrupt op r = r) :
    Accords b table op s ∧ (perform b op s).2.Settled sound table := by
  unfold Accords
  rw [performs, refers, harmless, Run.map_apply, Run.map_apply]
  generalize act s = run at ends
  cases ends with
  | done reached =>
      refine ⟨.inl ?_, reached.settled opened⟩
      rw [reached.reference_eq opened, reference_of_opened opened]
      simp only [Reference.onSeen, getD_visible]
      rfl
  | failed why reached =>
      exact ⟨.inr ⟨_, interrupts _ why, rfl, reached.reference_eq_self opened⟩,
        reached.settled opened⟩

/-- A closed store refuses everything but opening. -/
theorem perform_of_closed (closed : s.initialized = false) {op : Op} (later : op ≠ .start) :
    perform b op s = (.error .notInitialized, s) := by
  cases op with
  | start => exact absurd rfl later
  | close | create | contains | getAccount | update | accounts | begin | commit | rollback =>
      simp only [perform, Run.map_apply, close, create, contains, getAccount, update, accounts,
        begin, commit, rollback, ensureInitialized_bind_of_closed closed, Except.map]
  | getBalance id =>
      have hget : getAccount b id s = (.error .notInitialized, s) := by
        unfold getAccount
        rw [ensureInitialized_bind_of_closed closed]
      simp only [perform, Run.map_apply, getBalance, Run.bind_of_error hget, Except.map]

/-- Everything but opening is refused by a closed store and its reference alike. -/
theorem accords_of_closed (settled : s.Settled sound table) (closed : s.initialized = false)
    {op : Op} (later : op ≠ .start) :
    Accords b table op s ∧ (perform b op s).2.Settled sound table := by
  have hrun : perform b op s = (.error .notInitialized, s) := perform_of_closed closed later
  refine ⟨?_, by rwa [hrun]⟩
  unfold Accords
  rw [hrun, reference_of_closed closed]
  left
  cases op with
  | start => exact absurd rfl later
  | close | create | contains | getAccount | getBalance | update | accounts | begin | commit
    | rollback => rfl

/-- Opening a closed store finds the table of the medium; an open store refuses. -/
theorem accords_start (keeps : b.Keeps sound table) (settled : s.Settled sound table) :
    Accords b table .start s ∧ (perform b .start s).2.Settled sound table := by
  cases hinitialized : s.initialized with
  | true =>
      have hrun : perform b .start s = (.error .alreadyInitialized, s) := by
        simp only [perform, start, Run.map_apply, Run.get_bind_apply, hinitialized, if_true]
        rfl
      unfold Accords
      rw [hrun, reference_of_opened hinitialized]
      exact ⟨.inl rfl, settled⟩
  | false =>
      have hidle := settled.closed hinitialized
      have hsound := keeps.connect_sound settled.medium
      have hconnect : onMedium b.connect s =
        ((b.connect s.medium).1, { s with medium := (b.connect s.medium).2 }) := rfl
      have hstart : start b s = (onMedium b.connect >>= fun _ =>
          modify fun s => { s with initialized := true }) s := by
        simp only [start, Run.get_bind_apply, hinitialized]
        rfl
      unfold Accords
      rw [reference_of_closed hinitialized, perform, Run.map_apply, hstart]
      cases hanswer : (b.connect s.medium).1 with
      | ok answer =>
          rw [hanswer] at hconnect
          rw [Run.bind_of_ok hconnect, Run.modify_apply]
          refine ⟨.inl ?_, Coherent.of_idle hsound hidle,
            fun closed => absurd closed.symm Bool.false_ne_true⟩
          rw [reference_of_opened rfl, inTransaction, hidle]
          rfl
      | error e =>
          rw [hanswer] at hconnect
          rw [Run.bind_of_error hconnect]
          refine ⟨.inr ⟨e, hanswer, rfl, reference_of_closed hinitialized⟩,
            Coherent.of_idle hsound hidle, fun _ => hidle⟩

/-- Closing ends the session even if the medium fails to let go. -/
theorem accords_close (keeps : b.Keeps sound table) (settled : s.Settled sound table)
    (opened : s.initialized = true) :
    Accords b table .close s ∧ (perform b .close s).2.Settled sound table := by
  let shut : Store S := { s with initialized := false, staging := none }
  have hsound := keeps.disconnect_sound settled.medium
  have hclose : close b s =
      ((b.disconnect s.medium).1, { shut with medium := (b.disconnect s.medium).2 }) := by
    unfold close
    rw [ensureInitialized_bind opened, Run.modify_bind_apply]
    rfl
  unfold Accords
  rw [perform, Run.map_apply, hclose, reference_of_opened opened]
  refine ⟨?_, Coherent.of_idle hsound rfl, fun _ => rfl⟩
  cases hanswer : (b.disconnect s.medium).1 with
  | ok answer => exact .inl rfl
  | error e => exact .inr ⟨e, hanswer, rfl, rfl⟩

/-- Beginning makes the committed accounts the working copy. -/
theorem accords_begin (settled : s.Settled sound table) (opened : s.initialized = true) :
    Accords b table .begin s ∧ (perform b .begin s).2.Settled sound table := by
  unfold Accords
  rw [perform, Run.map_apply, reference_of_opened opened]
  by_cases htransaction : s.inTransaction = true
  · rw [begin_of_transaction opened htransaction, if_pos htransaction]
    refine ⟨.inl ?_, settled⟩
    rw [reference_of_opened opened, if_pos htransaction]
    rfl
  · have hidle : s.staging = none := by simpa [inTransaction] using htransaction
    rw [begin_of_idle opened hidle, if_neg htransaction]
    have hopened : (begun s).initialized = true := opened
    refine ⟨.inl ?_, settled.toCoherent.begun, fun hclosed => ?_⟩
    · rw [reference_of_opened hopened, visible_begun]
      rfl
    · cases hopened.symm.trans hclosed

/-- Rolling back drops the working copy. -/
theorem accords_rollback (settled : s.Settled sound table) (opened : s.initialized = true) :
    Accords b table .rollback s ∧ (perform b .rollback s).2.Settled sound table := by
  unfold Accords
  rw [perform, Run.map_apply, rollback_apply opened, reference_of_opened opened]
  have hopened : (dropped s).initialized = true := opened
  refine ⟨.inl ?_, settled.toCoherent.dropped, fun _ => rfl⟩
  rw [reference_of_opened hopened]
  rfl

/-- Committing installs the working copy, or drops it if the medium fails. -/
theorem accords_commit (keeps : b.Keeps sound table) (settled : s.Settled sound table)
    (opened : s.initialized = true) :
    Accords b table .commit s ∧ (perform b .commit s).2.Settled sound table := by
  have hopened : (dropped s).initialized = true := opened
  have hends := commit_ends keeps.toBooks settled.toCoherent opened
  unfold Accords
  rw [perform, Run.map_apply, reference_of_opened opened]
  generalize commit b s = run at hends
  cases hends with
  | done reached =>
      refine ⟨.inl ?_, reached.settled hopened⟩
      rw [reached.reference_eq hopened, reference_of_opened hopened]
      simp only [Reference.perform, getD_visible]
      rfl
  | failed why reached =>
      obtain ⟨changes, hchanges, -, hflush⟩ := why
      refine ⟨.inr ⟨_, ⟨changes, hchanges, hflush⟩, rfl, ?_⟩, reached.settled hopened⟩
      rw [reached.reference_eq_self hopened, reference_of_opened hopened]
      rfl

/-- Every operation of a store accords with the reference. -/
theorem perform_accords (keeps : b.Keeps sound table) (settled : s.Settled sound table) (op : Op) :
    Accords b table op s ∧ (perform b op s).2.Settled sound table := by
  have hshows := keeps.toShows
  have hbooks := keeps.toBooks
  have hcoherent := settled.toCoherent
  by_cases hopened : s.initialized = true
  · cases op with
    | start => exact accords_start keeps settled
    | close => exact accords_close keeps settled hopened
    | create id balance =>
        exact Ends.accords (Table.create id balance)
          (create_ends hshows hbooks hcoherent hopened id balance) hopened rfl
          (fun _ => rfl) (fun _ why => why) (fun _ => rfl)
    | contains id =>
        exact Ends.accords (fun t => (.ok t[id]?.isSome, t))
          (contains_ends hshows hcoherent hopened id) hopened rfl
          (fun _ => rfl) (fun _ why => why) (fun _ => rfl)
    | getAccount id =>
        exact Ends.accords (Table.find id) (getAccount_ends hshows hcoherent hopened id) hopened
          rfl (fun _ => rfl) (fun _ why => why) (fun _ => rfl)
    | getBalance id =>
        exact Ends.accords (Table.find id) (getAccount_ends hshows hcoherent hopened id) hopened
          (perform_getBalance id) (fun _ => rfl) (fun _ why => why) (fun _ => rfl)
    | update id delta =>
        exact Ends.accords (Table.move id delta)
          (update_ends hshows hbooks hcoherent hopened id delta) hopened rfl
          (fun _ => rfl) (fun _ why => why) (fun _ => rfl)
    | accounts =>
        exact Ends.accords (fun t => (.ok t.accounts, t))
          (accounts_ends hshows hcoherent hopened) hopened rfl
          (fun _ => rfl) (fun _ why => why) (fun _ => rfl)
    | begin => exact accords_begin settled hopened
    | commit => exact accords_commit keeps settled hopened
    | rollback => exact accords_rollback settled hopened
  · by_cases hstart : op = .start
    · exact hstart ▸ accords_start keeps settled
    · exact accords_of_closed settled (by simpa using hopened) hstart

/-- The reference lists accounts in ascending order. -/
theorem accounts_ascending_of_perform {found : Table} {op : Op} {r : Reference}
    {listed : List Account} (answered : (Reference.perform found op r).1 = .ok (.accounts listed)) :
    listed.Pairwise fun first later => first.id < later.id := by
  cases op with
  | accounts =>
      cases r with
      | closed => cases answered
      | opened committed working =>
          cases answered
          exact Table.accounts_ascending _
  | create | contains | getAccount | getBalance | update =>
      rw [Reference.perform, Run.map_apply, Except.map.eq_def] at answered
      split at answered <;> cases answered
  | start | close | begin | commit | rollback =>
      cases r with
      | closed => cases answered
      | opened committed working => cases working <;> cases answered

/-- Between operations of a run the store stands for a reference that runs beside
it from there on. -/
theorem Settled.runsBeside (settled : s.Settled sound table) (keeps : b.Keeps sound table)
    (ops : List Op) : RunsBeside b table ops s (s.reference table) := by
  induction ops generalizing s with
  | nil => rfl
  | cons op ops ih =>
      obtain ⟨haccords, hsettled⟩ := perform_accords keeps settled op
      have hrest := ih hsettled
      refine ⟨rfl, ?_, ?_⟩
      · intro listed hlisted
        obtain hanswered | ⟨e, -, hfailed, -⟩ := haccords
        · exact accounts_ascending_of_perform
            ((congrArg Prod.fst hanswered).symm.trans hlisted)
        · cases hfailed.symm.trans hlisted
      · obtain hanswered | ⟨e, hinterrupts, hfailed, hreference⟩ := haccords
        · refine .inl ⟨congrArg Prod.fst hanswered, ?_⟩
          exact congrArg Prod.snd hanswered ▸ hrest
        · exact .inr ⟨e, hinterrupts, hfailed, hreference ▸ hrest⟩

end

/-- A store that takes hold of any medium that keeps a table runs beside the
reference over every list of operations, whichever calls of the medium fail. -/
theorem new_runsBeside_closed (keeps : b.Keeps sound table) (ops : List Op) (m : S)
    (found : sound m) : RunsBeside b table ops (Store.new m) .closed := by
  have hsettled : (Store.new m).Settled sound table := ⟨Coherent.of_idle found rfl, fun _ => rfl⟩
  exact hsettled.runsBeside keeps ops

/-- A rehearsal in which the commit of a transaction fails after two writes that
stood on their own. -/
theorem recording_runsBeside_closed :
    Recording.backend.Keeps (fun _ => True) Recording.State.table ∧
      RunsBeside Recording.backend Recording.State.table
        [.start, .create 1 (-5), .update 2 7, .begin, .update 1 Int64.maxValue, .update 2 (-7),
          .create 3 0, .accounts, .commit, .getBalance 1, .close]
        (Store.new ⟨∅, [], some ⟨.flush, 2, ()⟩⟩) .closed :=
  ⟨Recording.backend_keeps, new_runsBeside_closed Recording.backend_keeps _ _ trivial⟩

end Clearinghouse.Store
