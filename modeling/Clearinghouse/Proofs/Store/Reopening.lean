/-
# What outlives a session

A store may be opened and closed any number of times, and once it is closed a new store over
the same medium may take its place. The reference for such a life remembers the accounts that
its last session left behind; a transaction that is open when a session ends is forgotten. A
medium says which accounts are found by the next session: those that were left behind, or none.
While a session lasts the store goes on beside one over a table in memory, so only its ends
have to be looked at.
-/

import Clearinghouse.Proofs.Store.Mirroring
import Clearinghouse.Proofs.Store.Refinement

namespace Clearinghouse

open Store

/-! ## The reference -/

namespace Reference

/-- The committed accounts, while the reference is open. -/
def committed? : Reference → Option Table
  | closed => none
  | opened committed _ => some committed

/-- The reference is in the middle of a session. -/
def isOpen (r : Reference) : Bool := r.committed?.isSome

/-- The reference has a working copy. -/
def inTransaction : Reference → Bool
  | closed => false
  | opened _ working => working.isSome

/-- An open reference does not ask what opening would find. -/
theorem perform_of_opened (found found' : Table) (op : Op) (committed : Table)
    (working : Option Table) :
    perform found op (opened committed working) = perform found' op (opened committed working) := by
  cases op <;> rfl

end Reference

/-- A reference, and the accounts that were committed when it was last open. -/
structure Lasting where
  left : Table
  now : Reference

/-- A reference performs an operation and remembers what it has committed. Opening it finds
what `opens` says of the accounts left behind. -/
def Lasting.perform (opens : Table → Table) (op : Op) (lasting : Lasting) :
    Except StoreError Answer × Lasting :=
  let (answer, now) := Reference.perform (opens lasting.left) op lasting.now
  (answer, ⟨now.committed?.getD lasting.left, now⟩)

/-! ## Lives -/

namespace Store

/-- What happens in the life of a store: it performs an operation, or once it is closed a new
one takes its place. -/
inductive Turn
  | call (op : Op)
  | renewal
  deriving DecidableEq

/-- The operations of a life. -/
def Turn.Names (keeps : AccountId → Prop) : Turn → Prop
  | call op => op.Names keeps
  | renewal => True

instance {keeps : AccountId → Prop} [DecidablePred keeps] : DecidablePred (Turn.Names keeps) :=
  fun turn => by cases turn <;> unfold Turn.Names <;> infer_instance

/-- What the operations of a life are answered, and what has become of the store. A new store
has the medium as `renew` says. -/
def live {S : Type} (b : Backend S) (renew : S → S) :
    List Turn → Store S → List (Op × Except StoreError Answer) × Store S
  | [], s => ([], s)
  | .call op :: rest, s =>
    let (answer, s) := perform b op s
    let (answers, s) := live b renew rest s
    ((op, answer) :: answers, s)
  | .renewal :: rest, s => live b renew rest (if s.initialized then s else .new (renew s.medium))

end Store

/-- What the reference answers to the operations of a life, and what has become of it. -/
def Lasting.live (opens : Table → Table) :
    List Turn → Lasting → List (Op × Except StoreError Answer) × Lasting
  | [], lasting => ([], lasting)
  | .call op :: rest, lasting =>
    let (answer, lasting) := lasting.perform opens op
    let (answers, lasting) := live opens rest lasting
    ((op, answer) :: answers, lasting)
  | .renewal :: rest, lasting => live opens rest lasting

/-- To connect to the medium succeeds and finds a table. -/
def Backend.Finds {S : Type} (b : Backend S) (shows : S → Table → Prop) (m : S) (table : Table) :
    Prop :=
  (b.connect m).1 = .ok () ∧ shows (b.connect m).2 table

/-- A medium that a session leaves as a new store finds it, with what `opens` says of the
accounts that were committed. A medium that does not list all accounts still shows them
one by one after it was asked for a list. -/
structure Backend.Reopens {S : Type} (b : Backend S) (renew : S → S) (opens : Table → Table)
    (listsAll : Bool) (keeps : AccountId → Prop) (within : S → Prop) (shows : S → Table → Prop) :
    Prop extends b.Tracks keeps within shows where
  loadAll : listsAll = true →
    Run.Alike within shows (tabulate <$> b.loadAll) (get : ExceptT StoreError (StateM Table) Table)
  loadAll_shows : ∀ {m table}, shows m table → shows (b.loadAll m).2 table
  loadAll_within : ∀ {m}, within (b.loadAll m).2 → within m
  disconnect : ∀ {m table}, shows m table → (b.disconnect m).1 = .ok () ∧
    b.Finds shows (b.disconnect m).2 (opens table) ∧ renew (b.disconnect m).2 = (b.disconnect m).2
  disconnect_within : ∀ {m}, within (b.disconnect m).2 → within m
  renew_within : ∀ {m}, within (renew m) → within m

namespace Store

variable {S : Type} {b : Backend S} {renew : S → S} {opens : Table → Table} {listsAll : Bool}
  {keeps : AccountId → Prop} {within : S → Prop} {shows : S → Table → Prop}

/-- The answer counts: it is no list of accounts, or else the medium lists all of them. -/
def Heard (listsAll : Bool) (op : Op) : Prop := op = .accounts → listsAll = true

instance (listsAll : Bool) : DecidablePred (Heard listsAll) := fun op =>
  inferInstanceAs (Decidable (op = .accounts → listsAll = true))

/-- A store and the reference in the middle of their lives. A closed store is as good as new,
and its medium has what the reference has left behind; an open one is the twin of a store
over a table that stands for the reference. -/
inductive Lives (b : Backend S) (renew : S → S) (opens : Table → Table)
    (keeps : AccountId → Prop) (shows : S → Table → Prop) : Store S → Lasting → Prop
  | closed {m : S} {left : Table} (finds : b.Finds shows m (opens left)) (renewed : renew m = m) :
      Lives b renew opens keeps shows (.new m) ⟨left, .closed⟩
  | opened {s : Store S} {t : Store Table} (twins : Twins keeps shows s t) :
      Lives b renew opens keeps shows s ⟨t.medium, t.reference id⟩

/-! ## A store over a table in memory -/

theorem memory_keeps : Memory.backend.Keeps (fun _ => True) (id : Table → Table) where
  toShows := Memory.backend_serves.toShows
  toBooks := Memory.backend_serves.toBooks
  connect_sound _ := trivial
  disconnect_sound _ := trivial

theorem not_interrupts_memory (m : Table) (e : StoreError) (op : Op) :
    ¬ Interrupts Memory.backend m e op := by
  have hwrite : ∀ id, ¬ WriteFails Memory.backend id m e := by
    rintro id (hload | ⟨change, -, hflush⟩)
    · cases hload
    · cases hflush
  cases op with
  | create id | update id => exact hwrite id
  | commit =>
      rintro ⟨changes, -, hflush⟩
      cases hflush
  | begin | rollback => exact not_false
  | start | close | contains | getAccount | getBalance | accounts => exact fun failed => by cases failed

/-- An open store over a table in memory is the reference. -/
theorem perform_memory {t : Store Table} (coherent : t.Coherent (fun _ => True) id)
    (opened : t.initialized = true) (found : Table) (op : Op) :
    ((perform Memory.backend op t).1, (perform Memory.backend op t).2.reference id) =
      Reference.perform found op (t.reference id) := by
  have settled : t.Settled (fun _ => True) id :=
    ⟨coherent, fun closed => by cases opened.symm.trans closed⟩
  obtain hanswer | ⟨e, hinterrupts, -, -⟩ := (perform_accords memory_keeps settled op).1
  · rw [hanswer, reference_of_opened opened]
    exact Reference.perform_of_opened ..
  · exact absurd hinterrupts (not_interrupts_memory _ _ _)

/-! ## One turn -/

section

variable {s : Store S} {lasting : Lasting}

theorem close_apply (opened : s.initialized = true) :
    close b s = ((b.disconnect s.medium).1, .new (b.disconnect s.medium).2) := by
  unfold close
  rw [ensureInitialized_bind opened, Run.modify_bind_apply]
  rfl

/-- The reference for an open store remembers what the store has committed. -/
theorem perform_lasting {t : Store Table} (opened : t.initialized = true)
    (coherent : t.Coherent (fun _ => True) id) {op : Op}
    (opened' : (perform Memory.backend op t).2.initialized = true) :
    Lasting.perform opens op ⟨t.medium, t.reference id⟩ =
      ((perform Memory.backend op t).1, ⟨(perform Memory.backend op t).2.medium,
        (perform Memory.backend op t).2.reference id⟩) := by
  have hperform := perform_memory coherent opened (opens t.medium) op
  rw [Lasting.perform, ← hperform, reference_of_opened opened']
  rfl

variable (reopens : b.Reopens renew opens listsAll keeps within shows)
include reopens

/-- Inside a session the store answers as the reference does. -/
theorem Twins.step {t : Store Table} (twins : Twins keeps shows s t) {op : Op}
    (named : op.Names keeps) (bounded : within (perform b op s).2.medium) :
    (Heard listsAll op →
        (perform b op s).1 = (Lasting.perform opens op ⟨t.medium, t.reference id⟩).1) ∧
      Lives b renew opens keeps shows (perform b op s).2
        (Lasting.perform opens op ⟨t.medium, t.reference id⟩).2 := by
  have hcoherent : t.Coherent (fun _ => True) id := twins.coherent
  by_cases hclose : op = .close
  · subst hclose
    obtain ⟨hanswer, hfinds, hrenewed⟩ := reopens.disconnect twins.medium
    rw [Lasting.perform, reference_of_opened twins.opened', perform, Run.map_apply,
      close_apply twins.opened, hanswer]
    exact ⟨fun _ => rfl, .closed hfinds hrenewed⟩
  -- A list that does not count is only asked for: it leaves the twins as they are.
  by_cases hheard : Heard listsAll op
  · have hlists : op = .accounts → Matches keeps within shows (accounts b) (accounts Memory.backend) :=
      fun hop => accounts_matches (reopens.loadAll (hheard hop))
    obtain ⟨hanswer, htwins⟩ :=
      (perform_matches reopens.toTracks named hclose hlists).agrees twins bounded
    rw [perform_lasting twins.opened' hcoherent htwins.opened']
    exact ⟨fun _ => hanswer, .opened htwins⟩
  · obtain rfl : op = .accounts := Decidable.byContradiction fun hop => hheard fun h => absurd h hop
    have hlisted : (perform b .accounts s).2 = { s with medium := (b.loadAll s.medium).2 } := by
      rw [perform, Run.map_apply, accounts_of_opened twins.opened]
    have hkept : (perform Memory.backend .accounts t).2 = t := by
      rw [perform, Run.map_apply, accounts_of_opened twins.opened']
      rfl
    rw [perform_lasting twins.opened' hcoherent (by rw [hkept]; exact twins.opened'), hlisted, hkept]
    exact ⟨fun heard => absurd heard hheard, .opened (twins.withMedium (reopens.loadAll_shows twins.medium))⟩

omit reopens in
/-- A closed store finds what was left behind once it is opened. -/
theorem step_of_closed {m : S} {left : Table} (finds : b.Finds shows m (opens left))
    (renewed : renew m = m) (op : Op) :
    (perform b op (.new m)).1 = (Lasting.perform opens op ⟨left, .closed⟩).1 ∧
      Lives b renew opens keeps shows (perform b op (.new m)).2
        (Lasting.perform opens op ⟨left, .closed⟩).2 := by
  by_cases hstart : op = .start
  · subst hstart
    obtain ⟨hanswer, hshows⟩ := finds
    have htwins : Twins keeps shows ⟨(b.connect m).2, true, none⟩ ⟨opens left, true, none⟩ :=
      ⟨hshows, rfl, rfl, rfl, nofun, nofun⟩
    rw [perform, Run.map_apply, start_of_closed rfl, new, hanswer]
    exact ⟨rfl, .opened htwins⟩
  · have hclosed : Lasting.perform opens op ⟨left, .closed⟩ =
        (.error .notInitialized, ⟨left, .closed⟩) := by
      cases op <;> first | exact absurd rfl hstart | rfl
    rw [perform_of_closed rfl hstart, hclosed]
    exact ⟨rfl, .closed finds renewed⟩

/-- Once the medium has left its bounds, no operation leads back within them. -/
theorem within_of_perform {op : Op} (named : op.Names keeps)
    (bounded : within (perform b op s).2.medium) : within s.medium := by
  cases hopened : s.initialized with
  | false =>
      by_cases hstart : op = .start
      · subst hstart
        rw [perform, Run.map_apply] at bounded
        exact (start_matches reopens.toTracks).earlier bounded
      · rwa [perform_of_closed hopened hstart] at bounded
  | true =>
      by_cases hclose : op = .close
      · subst hclose
        rw [perform, Run.map_apply, close_apply hopened] at bounded
        exact reopens.disconnect_within bounded
      by_cases haccounts : op = .accounts
      · subst haccounts
        rw [perform, Run.map_apply, accounts_of_opened hopened] at bounded
        exact reopens.loadAll_within bounded
      · exact (perform_matches reopens.toTracks named hclose
          fun hop => absurd hop haccounts).earlier bounded

/-- One operation in the life of a store. -/
theorem Lives.step (lives : Lives b renew opens keeps shows s lasting) {op : Op}
    (named : op.Names keeps) (bounded : within (perform b op s).2.medium) :
    (Heard listsAll op → (perform b op s).1 = (lasting.perform opens op).1) ∧
      Lives b renew opens keeps shows (perform b op s).2 (lasting.perform opens op).2 := by
  cases lives with
  | closed finds renewed =>
      obtain ⟨hanswer, hlives⟩ := step_of_closed finds renewed op
      exact ⟨fun _ => hanswer, hlives⟩
  | opened twins => exact twins.step reopens named bounded

omit reopens in
/-- A new store takes the place of a closed one unnoticed. -/
theorem Lives.renewed (lives : Lives b renew opens keeps shows s lasting) :
    (if s.initialized then s else .new (renew s.medium)) = s := by
  cases lives with
  | closed finds renewed => simp only [new, renewed]; rfl
  | opened twins => rw [if_pos twins.opened]

/-! ## Whole lives -/

theorem within_of_live {turns : List Turn} (named : ∀ turn ∈ turns, turn.Names keeps)
    (bounded : within (live b renew turns s).2.medium) : within s.medium := by
  induction turns generalizing s with
  | nil => exact bounded
  | cons turn rest ih =>
      have hrest : ∀ turn ∈ rest, turn.Names keeps :=
        fun later hmem => named later (List.mem_cons_of_mem turn hmem)
      cases turn with
      | call op => exact within_of_perform reopens (named _ List.mem_cons_self) (ih hrest bounded)
      | renewal =>
          have hwithin := ih hrest bounded
          split at hwithin
          · exact hwithin
          · exact reopens.renew_within hwithin

/-- The answers that count are those of the reference, and so is what becomes of the store. -/
theorem Lives.live {turns : List Turn} (lives : Lives b renew opens keeps shows s lasting)
    (named : ∀ turn ∈ turns, turn.Names keeps)
    (bounded : within (live b renew turns s).2.medium) :
    (live b renew turns s).1.filter (Heard listsAll ·.1) =
        (lasting.live opens turns).1.filter (Heard listsAll ·.1) ∧
      Lives b renew opens keeps shows (Store.live b renew turns s).2
        (lasting.live opens turns).2 := by
  induction turns generalizing s lasting with
  | nil => exact ⟨rfl, lives⟩
  | cons turn rest ih =>
      have hrest : ∀ turn ∈ rest, turn.Names keeps :=
        fun later hmem => named later (List.mem_cons_of_mem turn hmem)
      cases turn with
      | call op =>
          obtain ⟨hanswer, hlives⟩ := lives.step reopens (named _ List.mem_cons_self)
            (within_of_live reopens hrest bounded)
          obtain ⟨hanswers, hlater⟩ := ih hlives hrest bounded
          refine ⟨?_, hlater⟩
          have hlive : (Store.live b renew (.call op :: rest) s).1 =
              (op, (perform b op s).1) :: (Store.live b renew rest (perform b op s).2).1 := rfl
          have hreference : (lasting.live opens (.call op :: rest)).1 =
              (op, (lasting.perform opens op).1) ::
                ((lasting.perform opens op).2.live opens rest).1 := rfl
          rw [hlive, hreference, List.filter_cons, List.filter_cons, hanswers]
          by_cases hheard : Heard listsAll op
          · rw [hanswer hheard]
          · simp [hheard]
      | renewal =>
          rw [Store.live, lives.renewed] at bounded ⊢
          exact ih lives hrest bounded

omit reopens in
theorem Lives.initialized (lives : Lives b renew opens keeps shows s lasting) :
    s.initialized = lasting.now.isOpen := by
  cases lives with
  | closed finds renewed => rfl
  | opened twins => rw [twins.opened, reference_of_opened twins.opened']; rfl

omit reopens in
theorem Lives.inTransaction (lives : Lives b renew opens keeps shows s lasting) :
    s.inTransaction = lasting.now.inTransaction := by
  cases lives with
  | closed finds renewed => rfl
  | @opened _ t twins =>
      rw [twins.inTransaction, reference_of_opened twins.opened', Reference.inTransaction]
      cases t.inTransaction <;> rfl

end

end Store

end Clearinghouse
