/-
# What the calls of a medium respect

An operation of a store reaches its medium through the calls of the medium and in no other
way. So a relation between states that every call respects is respected by every operation,
whatever the calls answer. And stores with the same transaction over two media answer alike
if the media answer every call alike; only the list of all accounts may be answered
differently, for nothing that a store does next depends on it. Inside a transaction a store
calls its medium for accounts and for nothing else.
-/

import Clearinghouse.Proofs.Store.Mirroring

namespace Clearinghouse

variable {S T α : Type}

/-- Every call of a medium leads to a related state. -/
structure Backend.Respects (b : Backend S) (R : S → S → Prop) : Prop where
  connect : Run.Along R b.connect
  disconnect : Run.Along R b.disconnect
  load : ∀ id, Run.Along R (b.load id)
  loadAll : Run.Along R b.loadAll
  flush : ∀ changes, Run.Along R (b.flush changes)

/-- Two computations give one answer from related states and keep them related. -/
abbrev Run.Parallel {ε : Type} (related : S → T → Prop) (act : ExceptT ε (StateM S) α)
    (act' : ExceptT ε (StateM T) α) : Prop :=
  Run.Alike (fun _ => True) related act act'

theorem Run.Parallel.intro {ε : Type} {related : S → T → Prop} {act : ExceptT ε (StateM S) α}
    {act' : ExceptT ε (StateM T) α}
    (agrees : ∀ {s t}, related s t →
      (act s).1 = (act' t).1 ∧ related (act s).2 (act' t).2) : Run.Parallel related act act' :=
  ⟨fun _ => trivial, fun hrelated _ => agrees hrelated⟩

/-- Two media answer every call alike, but for the list of all accounts. -/
structure Backend.Parallels (b : Backend S) (c : Backend T) (related : S → T → Prop) : Prop where
  connect : Run.Parallel related b.connect c.connect
  disconnect : Run.Parallel related b.disconnect c.disconnect
  load : ∀ id, Run.Parallel related (b.load id) (c.load id)
  loadAll : ∀ {m n}, related m n → related (b.loadAll m).2 (c.loadAll n).2
  flush : ∀ changes, Run.Parallel related (b.flush changes) (c.flush changes)

namespace Store

/-! ## One store -/

/-- What reading accounts is made of goes along a relation between stores. -/
structure Reading (b : Backend S) (R : Store S → Store S → Prop) : Prop where
  ready : Run.Along R (ensureInitialized : Step (Store S) Unit)
  load : ∀ id, Run.Along R (onMedium (b.load id))
  loadAll : Run.Along R (onMedium b.loadAll)
  peek : ∀ id, Run.Along R (peek b id)
  observe : ∀ id, Run.Along R (observe b id)

/-- So does whatever is written. -/
structure Access (b : Backend S) (R : Store S → Store S → Prop) : Prop
    extends Reading b R where
  write : ∀ id observed balance, Run.Along R (write b id observed balance)

section

variable {b : Backend S} {R : Store S → Store S → Prop} [IsPreorder (Store S) R]

theorem Reading.contains_along (reading : Reading b R) (id : AccountId) :
    Run.Along R (contains b id) :=
  reading.ready.bind fun _ => (reading.peek id).bind fun _ => Run.Along.pure _

theorem Reading.getAccount_along (reading : Reading b R) (id : AccountId) :
    Run.Along R (getAccount b id) := by
  refine reading.ready.bind fun _ s => ?_
  rw [Run.get_bind_apply]
  split
  · refine (reading.observe id).bind (fun found => ?_) s
    cases found with
    | none => exact Run.Along.throw _
    | some balance => exact Run.Along.pure _
  · refine (reading.load id).bind (fun found => ?_) s
    cases found with
    | none => exact Run.Along.throw _
    | some account => exact Run.Along.pure _

theorem Reading.getBalance_along (reading : Reading b R) (id : AccountId) :
    Run.Along R (getBalance b id) :=
  (reading.getAccount_along id).bind fun _ => Run.Along.pure _

theorem Reading.accounts_along (reading : Reading b R) : Run.Along R (accounts b) :=
  reading.ready.bind fun _ => reading.loadAll.bind fun _ s => Std.Refl.refl s

/-- What only reads goes along the relation, and so does any other operation that does so by
itself. -/
theorem Reading.perform_along (reading : Reading b R) {op : Op}
    (creates : ∀ id balance, op = .create id balance → Run.Along R (create b id balance))
    (updates : ∀ id delta, op = .update id delta → Run.Along R (update b id delta))
    (starts : op = .start → Run.Along R (start b)) (closes : op = .close → Run.Along R (close b))
    (begins : op = .begin → Run.Along R (begin : Step (Store S) Unit))
    (commits : op = .commit → Run.Along R (commit b))
    (rollsBack : op = .rollback → Run.Along R (rollback : Step (Store S) Unit)) :
    Run.Along R (perform b op) := by
  have hform : ∀ {β γ : Type} {act : Step (Store S) β} (form : β → γ),
      Run.Along R act → Run.Along R (form <$> act) := by
    intro β γ act form along s
    rw [Run.map_apply]
    exact along s
  cases op with
  | start => exact hform _ (starts rfl)
  | close => exact hform _ (closes rfl)
  | create id balance => exact hform _ (creates id balance rfl)
  | contains id => exact hform _ (reading.contains_along id)
  | getAccount id => exact hform _ (reading.getAccount_along id)
  | getBalance id => exact hform _ (reading.getBalance_along id)
  | update id delta => exact hform _ (updates id delta rfl)
  | accounts => exact hform _ reading.accounts_along
  | begin => exact hform _ (begins rfl)
  | commit => exact hform _ (commits rfl)
  | rollback => exact hform _ (rollsBack rfl)

theorem Access.create_along (access : Access b R) (id : AccountId) (balance : Balance) :
    Run.Along R (create b id balance) := by
  refine access.ready.bind fun _ => (access.peek id).bind fun found => ?_
  cases found with
  | none => exact access.write id none balance
  | some held => exact Run.Along.throw _

theorem Access.update_along (access : Access b R) (id : AccountId) (delta : Balance) :
    Run.Along R (update b id delta) := by
  refine access.ready.bind fun _ => (access.observe id).bind fun found => ?_
  cases found with
  | none =>
      dsimp only
      split
      · exact access.write id none delta
      · exact Run.Along.throw _
  | some balance =>
      dsimp only
      cases balance.add? delta with
      | none => exact Run.Along.throw _
      | some sum =>
          dsimp only
          split
          · exact Run.Along.throw _
          · exact access.write id (some balance) sum

end

/-- A relation between stores reaches as far as one between their media: it holds once the
medium has gone along, and once something was staged in an open transaction. -/
structure Carries (R : S → S → Prop) (R' : Store S → Store S → Prop) : Prop where
  medium : ∀ {s : Store S} {m : S}, R s.medium m → R' s { s with medium := m }
  staged : ∀ {s : Store S} (staging : Staging), s.inTransaction = true →
    R' s { s with staging := some staging }

section

variable {b : Backend S} {R : S → S → Prop} {R' : Store S → Store S → Prop}

theorem Carries.onMedium_along (carries : Carries R R') {act : Step S α} (along : Run.Along R act) :
    Run.Along R' (onMedium act) := fun s => carries.medium (along s.medium)

variable [IsPreorder (Store S) R']

theorem ensureInitialized_along : Run.Along R' (ensureInitialized : Step (Store S) Unit) := by
  intro s
  rw [ensureInitialized, Run.get_bind_apply]
  cases s.initialized <;> exact Std.Refl.refl s

/-- What asking for accounts respects, all reading of accounts respects. -/
theorem Carries.reading [IsPreorder S R] (carries : Carries R R')
    (load : ∀ id, Run.Along R (b.load id)) (loadAll : Run.Along R b.loadAll) : Reading b R' where
  ready := ensureInitialized_along
  load id := carries.onMedium_along (load id)
  loadAll := carries.onMedium_along loadAll
  peek id s := by
    rw [peek_apply]
    cases s.staged? id with
    | some entry => exact Std.Refl.refl s
    | none => exact carries.medium (load id s.medium)
  observe id s := by
    have hloaded : R' s (loaded b id s) := carries.medium (load id s.medium)
    rw [observe_apply]
    cases s.staged? id with
    | some entry => exact Std.Refl.refl s
    | none =>
        dsimp only
        split
        · next account _ =>
            refine IsTrans.trans _ _ _ hloaded ?_
            cases hstaging : s.staging with
            | none =>
                have hcopied : copied id account.balance (loaded b id s) = loaded b id s := by
                  simp [copied, loaded, hstaging]
                rw [hcopied]
                exact Std.Refl.refl _
            | some staging =>
                have hcopied : copied id account.balance (loaded b id s) =
                    { loaded b id s with
                      staging := some (staging.insert id ⟨some account.balance, account.balance, false⟩) } := by
                  simp [copied, loaded, hstaging]
                rw [hcopied]
                exact carries.staged _ (by rw [inTransaction, loaded, hstaging]; rfl)
        · exact hloaded
        · exact hloaded

/-- What flushing outside of transactions respects as well, all access to accounts respects. -/
theorem Carries.access [IsPreorder S R] (carries : Carries R R')
    (load : ∀ id, Run.Along R (b.load id)) (loadAll : Run.Along R b.loadAll)
    (writes : ∀ (s : Store S) changes, s.staging = none →
      R' s { s with medium := (b.flush changes s.medium).2 }) : Access b R' where
  toReading := carries.reading load loadAll
  write id observed balance s := by
    rw [write_apply]
    cases hstaging : s.staging with
    | some staging => exact carries.staged _ (by rw [inTransaction, hstaging]; rfl)
    | none => exact writes s _ hstaging

/-- A commit ends the transaction, if there is one, and flushes what was written. -/
theorem commit_along (carries : Carries R R') (flush : ∀ changes, Run.Along R (b.flush changes))
    (ends : ∀ s : Store S, R' s { s with staging := none }) : Run.Along R' (commit b) := by
  refine ensureInitialized_along.bind fun _ s => ?_
  rw [Run.get_bind_apply]
  cases s.staging with
  | none => exact Std.Refl.refl s
  | some staging =>
      have hdrops : Run.Along R' (modify fun s => { s with staging := none } : Step (Store S) Unit) :=
        ends
      refine hdrops.bind (fun _ => ?_) s
      dsimp only
      split
      · exact Run.Along.pure _
      · exact carries.onMedium_along (flush _)

end

/-- The media of a store before and after are related. -/
def MediumAlong (R : S → S → Prop) (s s' : Store S) : Prop := R s.medium s'.medium

section

variable {b : Backend S} {R : S → S → Prop} [IsPreorder S R]

instance : IsPreorder (Store S) (MediumAlong R) where
  refl s := Std.Refl.refl s.medium
  trans s s' s'' := IsTrans.trans s.medium s'.medium s''.medium

theorem carries_mediumAlong : Carries R (MediumAlong R) where
  medium := id
  staged {s} _ _ := Std.Refl.refl s.medium

/-- What changes nothing on the medium. -/
theorem modify_along {f : Store S → Store S} (kept : ∀ s, (f s).medium = s.medium) :
    Run.Along (MediumAlong R) (modify f : Step (Store S) Unit) := by
  intro s
  have hmedium : ((modify f : Step (Store S) Unit) s).2.medium = s.medium := kept s
  rw [MediumAlong, hmedium]
  exact Std.Refl.refl s.medium

theorem start_along (connect : Run.Along R b.connect) : Run.Along (MediumAlong R) (start b) := by
  intro s
  cases hopened : s.initialized with
  | true =>
      rw [start_of_opened hopened]
      exact Std.Refl.refl s
  | false =>
      rw [start_of_closed hopened]
      split <;> exact connect s.medium

theorem close_along (disconnect : Run.Along R b.disconnect) :
    Run.Along (MediumAlong R) (close b) := by
  refine ensureInitialized_along.bind fun _ => Run.Along.bind ?_ fun _ => ?_
  · exact modify_along fun _ => rfl
  · exact carries_mediumAlong.onMedium_along disconnect

theorem begin_along : Run.Along (MediumAlong R) (begin : Step (Store S) Unit) := by
  refine ensureInitialized_along.bind fun _ s => ?_
  rw [Run.get_bind_apply]
  split
  · exact Std.Refl.refl s
  · exact modify_along (fun _ => rfl) s

theorem rollback_along : Run.Along (MediumAlong R) (rollback : Step (Store S) Unit) :=
  ensureInitialized_along.bind fun _ => modify_along fun _ => rfl

/-- What every call respects, every operation respects. -/
theorem perform_along (respects : b.Respects R) (op : Op) :
    Run.Along (MediumAlong R) (perform b op) := by
  have haccess : Access b (MediumAlong R) := carries_mediumAlong.access respects.load
    respects.loadAll fun s changes _ => respects.flush changes s.medium
  exact haccess.toReading.perform_along (fun id balance _ => haccess.create_along id balance)
    (fun id delta _ => haccess.update_along id delta) (fun _ => start_along respects.connect)
    (fun _ => close_along respects.disconnect) (fun _ => begin_along)
    (fun _ => commit_along carries_mediumAlong respects.flush fun s => Std.Refl.refl s.medium)
    fun _ => rollback_along

end

/-! ## Inside a transaction -/

/-- A store that is inside a transaction stays there, and its medium goes along. -/
def TransactionAlong (R : S → S → Prop) (s s' : Store S) : Prop :=
  s.initialized = true → s.inTransaction = true →
    R s.medium s'.medium ∧ s'.initialized = true ∧ s'.inTransaction = true

/-- The operation leaves a transaction open. -/
def Op.StaysInside : Op → Prop
  | .commit | .rollback | .close => False
  | _ => True

instance : DecidablePred Op.StaysInside
  | .commit | .rollback | .close => .isFalse id
  | .start | .create .. | .contains _ | .getAccount _ | .getBalance _ | .update .. | .accounts
  | .begin => .isTrue trivial

section

variable {b : Backend S} {R : S → S → Prop} [IsPreorder S R]

instance : IsPreorder (Store S) (TransactionAlong R) where
  refl s opened transaction := ⟨Std.Refl.refl s.medium, opened, transaction⟩
  trans s s' s'' first second opened transaction := by
    obtain ⟨hfirst, hopened, htransaction⟩ := first opened transaction
    obtain ⟨hsecond, hend⟩ := second hopened htransaction
    exact ⟨IsTrans.trans _ _ _ hfirst hsecond, hend⟩

/-- Inside a transaction a store only asks for accounts. -/
theorem access_inside (load : ∀ id, Run.Along R (b.load id)) (loadAll : Run.Along R b.loadAll) :
    Access b (TransactionAlong R) := by
  have hcarries : Carries R (TransactionAlong R) :=
    { medium := fun along opened transaction => ⟨along, opened, transaction⟩
      staged := fun {s} _ _ opened _ => ⟨Std.Refl.refl s.medium, opened, rfl⟩ }
  refine hcarries.access load loadAll fun s changes idle opened transaction => ?_
  rw [inTransaction, idle] at transaction
  cases transaction

/-- A store that could begin a transaction was open and had none, and is inside of one then. -/
theorem perform_begin_eq_ok (begins : (perform b .begin s).1 = .ok .done) :
    s.initialized = true ∧ s.staging = none ∧ perform b .begin s = (.ok .done, begun s) := by
  rw [perform, Run.map_apply] at begins ⊢
  rcases hrun : begin s with ⟨e | _, s'⟩
  · rw [hrun] at begins
    cases begins
  · obtain ⟨hopened, hidle, rfl⟩ := begin_eq_ok hrun
    exact ⟨hopened, hidle, rfl⟩

/-- Until its transaction ends, a store does nothing to its medium that loading accounts does
not do. -/
theorem perform_inside (load : ∀ id, Run.Along R (b.load id)) (loadAll : Run.Along R b.loadAll)
    {op : Op} (inside : op.StaysInside) : Run.Along (TransactionAlong R) (perform b op) := by
  have haccess := access_inside load loadAll
  refine haccess.toReading.perform_along (fun id balance _ => haccess.create_along id balance)
    (fun id delta _ => haccess.update_along id delta) (fun _ s opened transaction => ?_) ?_
    (fun _ s opened transaction => ?_) ?_ ?_
  · rw [start_of_opened opened]
    exact ⟨Std.Refl.refl s.medium, opened, transaction⟩
  · rintro rfl
    exact inside.elim
  · rw [begin_of_transaction opened transaction]
    exact ⟨Std.Refl.refl s.medium, opened, transaction⟩
  · rintro rfl
    exact inside.elim
  · rintro rfl
    exact inside.elim

end

/-! ## Two stores -/

/-- Stores over related media that have the same transaction. -/
structure Paired (related : S → T → Prop) (s : Store S) (t : Store T) : Prop where
  medium : related s.medium t.medium
  initialized : s.initialized = t.initialized
  staging : s.staging = t.staging

section

variable {b : Backend S} {c : Backend T} {related : S → T → Prop} {s : Store S} {t : Store T}

theorem Paired.staged? (paired : Paired related s t) (id : AccountId) :
    s.staged? id = t.staged? id := by
  rw [Store.staged?, paired.staging, Store.staged?]

theorem Paired.inTransaction (paired : Paired related s t) : s.inTransaction = t.inTransaction := by
  rw [Store.inTransaction, paired.staging, Store.inTransaction]

theorem Paired.withMedium (paired : Paired related s t) {m : S} {n : T} (hrelated : related m n) :
    Paired related { s with medium := m } { t with medium := n } :=
  ⟨hrelated, paired.initialized, paired.staging⟩

theorem onMedium_parallel {act : Step S α} {act' : Step T α}
    (parallel : Run.Parallel related act act') :
    Run.Parallel (Paired related) (onMedium act) (onMedium act') := by
  refine .intro fun {s t} paired => ?_
  obtain ⟨hanswer, hrelated⟩ := parallel.agrees paired.medium trivial
  exact ⟨hanswer, paired.withMedium hrelated⟩

theorem ensureInitialized_parallel :
    Run.Parallel (Paired related) (ensureInitialized : Step (Store S) Unit) ensureInitialized := by
  refine .intro fun {s t} paired => ?_
  rw [ensureInitialized, Run.get_bind_apply, ensureInitialized, Run.get_bind_apply,
    paired.initialized]
  cases t.initialized <;> exact ⟨rfl, paired⟩

/-- Opening or dropping a transaction goes alike. -/
theorem setStaging_parallel (staging : Option Staging) :
    Run.Parallel (Paired related) (modify fun s => { s with staging } : Step (Store S) Unit)
      (modify fun t => { t with staging } : Step (Store T) Unit) :=
  .intro fun paired => ⟨rfl, paired.medium, paired.initialized, rfl⟩

theorem begin_parallel : Run.Parallel (Paired related) (begin : Step (Store S) Unit) begin := by
  refine ensureInitialized_parallel.bind fun _ => ?_
  refine Run.Alike.branch (fun paired => paired.inTransaction) ?_ (setStaging_parallel _)
  exact (Run.Alike.throw _).bind fun _ => setStaging_parallel _

theorem rollback_parallel :
    Run.Parallel (Paired related) (rollback : Step (Store S) Unit) rollback :=
  ensureInitialized_parallel.bind fun _ => setStaging_parallel _

/-- If the media list the same accounts, the stores do. -/
theorem accounts_parallel (loadAll : Run.Parallel related b.loadAll c.loadAll) :
    Run.Parallel (Paired related) (accounts b) (accounts c) := by
  refine ensureInitialized_parallel.bind fun _ => (onMedium_parallel loadAll).bind fun listed => ?_
  refine Run.Alike.of_read (fun _ => rfl) (fun _ => rfl) fun {s t} paired => ?_
  rw [Run.get_bind_apply, Run.get_bind_apply, paired.staging]
  rfl

variable (parallels : b.Parallels c related)
include parallels

theorem peek_parallel (id : AccountId) : Run.Parallel (Paired related) (peek b id) (peek c id) := by
  refine .intro fun {s t} paired => ?_
  rw [peek_apply, peek_apply, paired.staged?]
  cases t.staged? id with
  | some entry => exact ⟨rfl, paired⟩
  | none =>
      obtain ⟨hanswer, hrelated⟩ := (parallels.load id).agrees paired.medium trivial
      exact ⟨congrArg (Except.map _) hanswer, paired.withMedium hrelated⟩

theorem observe_parallel (id : AccountId) :
    Run.Parallel (Paired related) (observe b id) (observe c id) := by
  refine .intro fun {s t} paired => ?_
  rw [observe_apply, observe_apply, paired.staged?]
  cases t.staged? id with
  | some entry => exact ⟨rfl, paired⟩
  | none =>
      obtain ⟨hanswer, hrelated⟩ := (parallels.load id).agrees paired.medium trivial
      have hloaded : Paired related (loaded b id s) (loaded c id t) := paired.withMedium hrelated
      dsimp only
      rw [hanswer]
      split
      · refine ⟨rfl, hrelated, paired.initialized, ?_⟩
        exact congrArg (Option.map _) paired.staging
      · exact ⟨rfl, hloaded⟩
      · exact ⟨rfl, hloaded⟩

theorem write_parallel (id : AccountId) (observed : Option Balance) (balance : Balance) :
    Run.Parallel (Paired related) (write b id observed balance) (write c id observed balance) := by
  refine .intro fun {s t} paired => ?_
  rw [write_apply, write_apply, paired.staging]
  cases t.staging with
  | some staging => exact ⟨rfl, paired.medium, paired.initialized, rfl⟩
  | none => exact (onMedium_parallel (parallels.flush _)).agrees paired trivial

theorem start_parallel : Run.Parallel (Paired related) (start b) (start c) := by
  refine .intro fun {s t} paired => ?_
  cases hopened : t.initialized with
  | true =>
      rw [start_of_opened (paired.initialized.trans hopened), start_of_opened hopened]
      exact ⟨rfl, paired⟩
  | false =>
      obtain ⟨hanswer, hrelated⟩ := parallels.connect.agrees paired.medium trivial
      rw [start_of_closed (paired.initialized.trans hopened), start_of_closed hopened, hanswer]
      split
      · exact ⟨rfl, hrelated, rfl, paired.staging⟩
      · exact ⟨rfl, paired.withMedium hrelated⟩

theorem close_parallel : Run.Parallel (Paired related) (close b) (close c) := by
  refine ensureInitialized_parallel.bind fun _ => Run.Alike.bind ?_ fun _ => ?_
  · exact Run.Parallel.intro fun paired => ⟨rfl, paired.medium, rfl, rfl⟩
  · exact onMedium_parallel parallels.disconnect

theorem create_parallel (id : AccountId) (balance : Balance) :
    Run.Parallel (Paired related) (create b id balance) (create c id balance) := by
  refine ensureInitialized_parallel.bind fun _ => (peek_parallel parallels id).bind fun found => ?_
  cases found with
  | none => exact write_parallel parallels id none balance
  | some held => exact Run.Alike.throw _

theorem contains_parallel (id : AccountId) :
    Run.Parallel (Paired related) (contains b id) (contains c id) :=
  ensureInitialized_parallel.bind fun _ =>
    (peek_parallel parallels id).bind fun _ => Run.Alike.pure _

theorem getAccount_parallel (id : AccountId) :
    Run.Parallel (Paired related) (getAccount b id) (getAccount c id) := by
  refine ensureInitialized_parallel.bind fun _ => ?_
  refine Run.Alike.branch (fun paired => paired.inTransaction) ?_ ?_
  · refine (observe_parallel parallels id).bind fun found => ?_
    cases found with
    | none => exact Run.Alike.throw _
    | some balance => exact Run.Alike.pure _
  · refine (onMedium_parallel (parallels.load id)).bind fun found => ?_
    cases found with
    | none => exact Run.Alike.throw _
    | some account => exact Run.Alike.pure _

theorem getBalance_parallel (id : AccountId) :
    Run.Parallel (Paired related) (getBalance b id) (getBalance c id) :=
  (getAccount_parallel parallels id).bind fun _ => Run.Alike.pure _

theorem update_parallel (id : AccountId) (delta : Balance) :
    Run.Parallel (Paired related) (update b id delta) (update c id delta) := by
  refine ensureInitialized_parallel.bind fun _ =>
    (observe_parallel parallels id).bind fun found => ?_
  cases found with
  | none =>
      dsimp only
      split
      · exact write_parallel parallels id none delta
      · exact Run.Alike.throw _
  | some balance =>
      dsimp only
      cases balance.add? delta with
      | none => exact Run.Alike.throw _
      | some sum =>
          dsimp only
          split
          · exact Run.Alike.throw _
          · exact write_parallel parallels id (some balance) sum

theorem commit_parallel : Run.Parallel (Paired related) (commit b) (commit c) := by
  refine ensureInitialized_parallel.bind fun _ => Run.Parallel.intro fun {s t} paired => ?_
  rw [Run.get_bind_apply, Run.get_bind_apply, paired.staging]
  cases t.staging with
  | none => exact ⟨rfl, paired⟩
  | some staging =>
      refine Run.Agrees.agrees (Run.Alike.bind (setStaging_parallel none) fun _ => ?_) paired trivial
      dsimp only
      split
      · exact Run.Alike.pure _
      · exact onMedium_parallel (parallels.flush _)

/-- Whatever is listed, the stores stay as they are. -/
theorem accounts_paired (paired : Paired related s t) :
    Paired related (accounts b s).2 (accounts c t).2 := by
  cases hopened : t.initialized with
  | true =>
      rw [accounts_of_opened (paired.initialized.trans hopened), accounts_of_opened hopened]
      exact paired.withMedium (parallels.loadAll paired.medium)
  | false =>
      rw [accounts_of_closed (paired.initialized.trans hopened), accounts_of_closed hopened]
      exact paired

/-- An operation that does not list the accounts is answered alike. -/
theorem perform_parallel {op : Op} (unlisted : op ≠ .accounts) :
    Run.Parallel (Paired related) (perform b op) (perform c op) := by
  cases op with
  | start => exact (start_parallel parallels).map _
  | close => exact (close_parallel parallels).map _
  | create id balance => exact (create_parallel parallels id balance).map _
  | contains id => exact (contains_parallel parallels id).map _
  | getAccount id => exact (getAccount_parallel parallels id).map _
  | getBalance id => exact (getBalance_parallel parallels id).map _
  | update id delta => exact (update_parallel parallels id delta).map _
  | accounts => exact absurd rfl unlisted
  | begin => exact begin_parallel.map _
  | commit => exact (commit_parallel parallels).map _
  | rollback => exact rollback_parallel.map _

/-- After any operation the stores are paired again. -/
theorem perform_paired (op : Op) (paired : Paired related s t) :
    Paired related (perform b op s).2 (perform c op t).2 := by
  by_cases hlisting : op = .accounts
  · subst hlisting
    rw [perform, Run.map_apply, perform, Run.map_apply]
    exact accounts_paired parallels paired
  · exact ((perform_parallel parallels hlisting).agrees paired trivial).2

end

end Store

end Clearinghouse
