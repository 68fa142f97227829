/-
# Stores side by side

A store over any medium is set beside a store over a table in memory. The medium mirrors
the table if it answers the same calls in the same way, for the accounts that every medium
can keep and as long as it has room. Then the two stores answer every operation of a
session alike: what they stage is the same, and what they flush is admissible for the table.
-/

import Clearinghouse.Medium.RowStore
import Clearinghouse.Proofs.Agreement
import Clearinghouse.Proofs.Medium.Memory
import Clearinghouse.Proofs.Store.Operations

namespace Clearinghouse

/-- An identifier that every medium can keep an account under: a positive number that is
no larger than the largest signed one. -/
def Portable (id : AccountId) : Prop := 0 < id.toNat ∧ id.toNat ≤ RowStore.maxId

instance : DecidablePred Portable := fun id => inferInstanceAs (Decidable (0 < id.toNat ∧ _))

/-- A medium keeps track of a table, for the accounts that it can keep. It answers as the table
does, and shows the table afterwards. Once it has left its bounds, no call leads back within
them. -/
structure Backend.Tracks {S : Type} (b : Backend S) (keeps : AccountId → Prop) (within : S → Prop)
    (shows : S → Table → Prop) : Prop where
  connect : ∀ {m}, within (b.connect m).2 → within m
  load : ∀ id, Run.Agrees within (fun m table => shows m table ∧ keeps id) (b.load id)
    (Memory.backend.load id) fun _ => shows
  flush : ∀ changes, Run.Agrees within
    (fun m table => shows m table ∧ table.Admits changes ∧ ∀ change ∈ changes, keeps change.id)
    (b.flush changes) (Memory.backend.flush changes) fun _ => shows

/-- A medium mirrors a table if it lists the accounts, too. -/
structure Backend.Mirrors {S : Type} (b : Backend S) (keeps : AccountId → Prop) (within : S → Prop)
    (shows : S → Table → Prop) : Prop extends b.Tracks keeps within shows where
  /-- The accounts may be listed in any order. -/
  loadAll : Run.Alike within shows (Store.tabulate <$> b.loadAll)
    (get : ExceptT StoreError (StateM Table) Table)

/-- Of the accounts that a medium can keep, one may ask for some only. -/
theorem Backend.Mirrors.restrict {S : Type} {b : Backend S} {keeps keeps' : AccountId → Prop}
    {within : S → Prop} {shows : S → Table → Prop} (mirrors : b.Mirrors keeps within shows)
    (kept : ∀ id, keeps' id → keeps id) : b.Mirrors keeps' within shows where
  connect := mirrors.connect
  load id := (mirrors.load id).imp (fun hbefore => ⟨hbefore.1, kept id hbefore.2⟩) fun hshows => hshows
  loadAll := mirrors.loadAll
  flush changes := (mirrors.flush changes).imp (fun hbefore => ⟨hbefore.1, hbefore.2.1,
    fun change hmem => kept _ (hbefore.2.2 change hmem)⟩) fun hshows => hshows

namespace Store

variable {S α β : Type} {b : Backend S} {keeps : AccountId → Prop} {within : S → Prop}
  {shows : S → Table → Prop}

/-- An open store and one over the table that its medium shows. Their transactions are the
same, and name accounts that the medium can keep. -/
structure Twins (keeps : AccountId → Prop) (shows : S → Table → Prop) (s : Store S)
    (t : Store Table) : Prop where
  medium : shows s.medium t.medium
  opened : s.initialized = true
  opened' : t.initialized = true
  staging : s.staging = t.staging
  faithful : ∀ {staging}, t.staging = some staging → staging.Faithful t.medium
  named : ∀ {staging id entry}, t.staging = some staging → staging[id]? = some entry →
    keeps id

/-- A step and one on a store over a table go alike. -/
abbrev Matches (keeps : AccountId → Prop) (within : S → Prop) (shows : S → Table → Prop)
    (act : Store S → α × Store S) (act' : Store Table → α × Store Table) : Prop :=
  Run.Alike (fun s => within s.medium) (Twins keeps shows) act act'

/-- The table that a store over a table shows. -/
def shown (t : Store Table) : Table := t.visible fun table => table

section

variable {s : Store S} {t : Store Table} {id : AccountId}

theorem Twins.staged? (twins : Twins keeps shows s t) (id : AccountId) :
    s.staged? id = t.staged? id := by
  rw [Store.staged?, twins.staging, Store.staged?]

theorem Twins.inTransaction (twins : Twins keeps shows s t) :
    s.inTransaction = t.inTransaction := by
  rw [Store.inTransaction, twins.staging, Store.inTransaction]

theorem Twins.coherent (twins : Twins keeps shows s t) :
    t.Coherent (fun _ => True) fun table => table :=
  ⟨trivial, twins.faithful⟩

/-- A medium that shows the same table takes the place of another. -/
theorem Twins.withMedium (twins : Twins keeps shows s t) {m : S} (hshows : shows m t.medium) :
    Twins keeps shows { s with medium := m } t where
  medium := hshows
  opened := twins.opened
  opened' := twins.opened'
  staging := twins.staging
  faithful := twins.faithful
  named := twins.named

theorem Twins.withStaging (twins : Twins keeps shows s t) {staging : Option Staging}
    (faithful : ∀ {entries}, staging = some entries → Staging.Faithful entries t.medium)
    (named : ∀ {entries : Staging} {id entry}, staging = some entries →
      entries[id]? = some entry → keeps id) :
    Twins keeps shows { s with staging } { t with staging } where
  medium := twins.medium
  opened := twins.opened
  opened' := twins.opened'
  staging := rfl
  faithful := faithful
  named := named

/-- Both transactions copy a committed account. -/
theorem Twins.copied (twins : Twins keeps shows s t) {balance : Balance}
    (committed : t.medium[id]? = some balance) (named : keeps id) :
    Twins keeps shows (copied id balance s) (copied id balance t) := by
  have hcopied : Store.copied id balance s =
      { s with staging := t.staging.map (·.insert id ⟨some balance, balance, false⟩) } := by
    rw [Store.copied, twins.staging]
  rw [hcopied]
  apply twins.withStaging
  · intro entries hentries
    obtain ⟨staging, hstaging, rfl⟩ := Option.map_eq_some_iff.mp hentries
    exact (twins.faithful hstaging).insert_read committed
  · intro entries other entry hentries hentry
    obtain ⟨staging, hstaging, rfl⟩ := Option.map_eq_some_iff.mp hentries
    by_cases hid : id = other
    · exact hid ▸ named
    · rw [Std.ExtTreeMap.getElem?_insert, if_neg (by simpa using hid)] at hentry
      exact twins.named hstaging hentry

theorem shown_of_idle (idle : t.staging = none) : t.shown = t.medium :=
  visible_of_idle _ idle

theorem shown_of_staging {staging : Staging} (transaction : t.staging = some staging) :
    t.shown = staging.onto t.medium :=
  visible_of_staging transaction

theorem shown_of_unstaged (unstaged : t.staged? id = none) : t.shown[id]? = t.medium[id]? := by
  rw [shown, getElem?_visible, unstaged]
  rfl

end

/-! ## Reading -/

section

variable {s : Store S} {id : AccountId}

theorem start_of_opened (opened : s.initialized = true) :
    start b s = (.error .alreadyInitialized, s) := by
  rw [start, Run.get_bind_apply, if_pos opened]
  rfl

/-- A closed store takes hold of its medium. -/
theorem start_of_closed (closed : s.initialized = false) :
    start b s = match (b.connect s.medium).1 with
      | .ok () => (.ok (), { s with medium := (b.connect s.medium).2, initialized := true })
      | .error e => (.error e, { s with medium := (b.connect s.medium).2 }) := by
  have hconnect : onMedium b.connect s =
    ((b.connect s.medium).1, { s with medium := (b.connect s.medium).2 }) := rfl
  have hstart : start b s = (onMedium b.connect >>= fun _ =>
      modify fun s => { s with initialized := true }) s := by
    rw [start, Run.get_bind_apply, closed]
    rfl
  rw [hstart]
  cases hanswer : (b.connect s.medium).1 with
  | ok =>
      rw [hanswer] at hconnect
      exact Run.bind_of_ok hconnect
  | error e =>
      rw [hanswer] at hconnect
      exact Run.bind_of_error hconnect

/-- A balance is written to the transaction, and else flushed as a change of its own. -/
theorem write_apply {observed : Option Balance} {balance : Balance} :
    write b id observed balance s =
      match s.staging with
      | some staging => (.ok (), { s with staging := some (staging.write id observed balance) })
      | none => onMedium (b.flush [⟨id, observed, balance⟩]) s := by
  rw [write, Run.get_bind_apply]
  cases s.staging <;> rfl

end

/-- The accounts of a table under the open transaction. -/
def listing (committed : Table) : Step (Store S) (List Account) := fun s =>
  (.ok ((s.staging.getD ∅).onto committed).accounts, s)

variable (b) in
/-- Accounts are listed from what the medium lists, entered in a table. -/
theorem accounts_eq : accounts b =
    ensureInitialized >>= fun _ => onMedium (tabulate <$> b.loadAll) >>= listing := by
  have htabulated : (onMedium b.loadAll >>= fun listed => listing (tabulate listed)) =
      onMedium (tabulate <$> b.loadAll) >>= listing := by
    funext s
    have hload : onMedium b.loadAll s =
      ((b.loadAll s.medium).1, { s with medium := (b.loadAll s.medium).2 }) := rfl
    have hmap : onMedium (tabulate <$> b.loadAll) s =
        ((b.loadAll s.medium).1.map tabulate, { s with medium := (b.loadAll s.medium).2 }) := by
      rw [onMedium, Run.onPart_apply, Run.map_apply]
    cases hanswer : (b.loadAll s.medium).1 with
    | error e =>
        rw [hanswer] at hload hmap
        rw [Run.bind_of_error hload, Run.bind_of_error hmap]
    | ok listed =>
        rw [hanswer] at hload hmap
        rw [Run.bind_of_ok hload, Run.bind_of_ok hmap]
  rw [← htabulated]
  rfl

/-- An open store lists what its medium lists, with the staged accounts in place of the
committed ones. -/
theorem accounts_of_opened {s : Store S} (opened : s.initialized = true) :
    accounts b s = ((b.loadAll s.medium).1.map fun listed =>
        ((s.staging.getD ∅).onto (tabulate listed)).accounts,
      { s with medium := (b.loadAll s.medium).2 }) := by
  have hload : onMedium (tabulate <$> b.loadAll) s =
      ((b.loadAll s.medium).1.map tabulate, { s with medium := (b.loadAll s.medium).2 }) := by
    rw [onMedium, Run.onPart_apply, Run.map_apply]
  rw [accounts_eq, ensureInitialized_bind opened]
  cases hanswer : (b.loadAll s.medium).1 with
  | ok listed =>
      rw [hanswer] at hload
      rw [Run.bind_of_ok hload]
      rfl
  | error e =>
      rw [hanswer] at hload
      rw [Run.bind_of_error hload]
      rfl

theorem accounts_of_closed {s : Store S} (closed : s.initialized = false) :
    accounts b s = (.error .notInitialized, s) := by
  rw [accounts, ensureInitialized_bind_of_closed closed]

/-- What the table lists, entered in a table, is the table. -/
theorem tabulate_memory : tabulate <$> Memory.backend.loadAll = get := by
  funext table
  have htable : tabulate table.accounts = table :=
    Table.tabulate_eq_of_mem_iff fun _ => Table.mem_accounts
  rw [Run.map_apply]
  exact congrArg (fun table' => (Except.ok table', table)) htable

/-- A store that is open goes on. -/
theorem ensureInitialized_matches :
    Matches keeps within shows (ensureInitialized : Step (Store S) Unit) ensureInitialized := by
  have hkept : ∀ {M : Type} (s : Store M), (ensureInitialized s).2 = s := by
    intro M s
    rw [ensureInitialized, Run.get_bind_apply]
    cases s.initialized <;> rfl
  have hopened : ∀ {M : Type} {s : Store M}, s.initialized = true →
      (ensureInitialized s).1 = .ok () := by
    intro M s opened
    rw [ensureInitialized, Run.get_bind_apply, opened]
    rfl
  exact .of_read hkept hkept fun twins => (hopened twins.opened).trans (hopened twins.opened').symm

/-- A call of the media that only reads the table goes alike on the stores. -/
theorem onMedium_agrees {act : Step S α} {act' : Step Table α} {before : S → Table → Prop}
    (agrees : Run.Agrees within before act act' fun _ => shows)
    (kept : ∀ table, (act' table).2 = table) :
    Run.Agrees (fun s : Store S => within s.medium)
      (fun s t => Twins keeps shows s t ∧ before s.medium t.medium) (onMedium act) (onMedium act')
      fun _ => Twins keeps shows where
  earlier := agrees.earlier
  agrees {s t} hbefore hwithin := by
    obtain ⟨hanswer, hshows⟩ := agrees.agrees hbefore.2 hwithin
    rw [kept] at hshows
    have hsame : (onMedium act' t).2 = t :=
      congrArg (fun m => { t with medium := m }) (kept t.medium)
    rw [hsame]
    exact ⟨hanswer, hbefore.1.withMedium hshows⟩

/-- Opening or dropping a transaction goes alike. -/
theorem setStaging_matches {staging : Option Staging}
    (fresh : ∀ entries, staging = some entries → entries = ∅) :
    Matches keeps within shows (modify fun s => { s with staging } : Step (Store S) Unit)
      (modify fun t => { t with staging } : Step (Store Table) Unit) where
  earlier hwithin := hwithin
  agrees twins _ := by
    refine ⟨rfl, twins.withStaging (fun {entries} hentries => ?_)
      fun {entries id entry} hentries hentry => ?_⟩
    · rw [fresh entries hentries]
      exact Staging.faithful_empty
    · simp [fresh entries hentries] at hentry

theorem begin_matches : Matches keeps within shows (begin : Step (Store S) Unit) begin := by
  have hopens : Matches keeps within shows
      (modify fun s => { s with staging := some ∅ } : Step (Store S) Unit)
      (modify fun t => { t with staging := some ∅ } : Step (Store Table) Unit) :=
    setStaging_matches fun _ hentries => (Option.some_inj.mp hentries).symm
  refine ensureInitialized_matches.bind fun _ => ?_
  refine Run.Alike.branch (fun twins => twins.inTransaction) ?_ hopens
  exact (Run.Alike.throw _).bind fun _ => hopens

theorem rollback_matches : Matches keeps within shows (rollback : Step (Store S) Unit) rollback :=
  ensureInitialized_matches.bind fun _ => setStaging_matches fun _ hentries => by cases hentries

section

variable (tracks : b.Tracks keeps within shows) {id : AccountId}
include tracks

variable (id) in
theorem load_agrees :
    Run.Agrees (fun s : Store S => within s.medium) (fun s t => Twins keeps shows s t ∧ keeps id)
      (onMedium (b.load id)) (onMedium (Memory.backend.load id)) fun _ => Twins keeps shows :=
  (onMedium_agrees (tracks.load id) fun _ => rfl).imp
    (fun hbefore => ⟨hbefore.1, hbefore.1.medium, hbefore.2⟩) fun twins => twins

/-- Looking at an account finds what is shown of it. -/
theorem peek_agrees :
    Run.Agrees (fun s : Store S => within s.medium) (fun s t => Twins keeps shows s t ∧ keeps id)
      (peek b id) (peek Memory.backend id)
      fun answer s t =>
        Twins keeps shows s t ∧ ∀ found, answer = .ok found → found = t.shown[id]? where
  earlier {s} hwithin := by
    rw [peek_apply] at hwithin
    cases hstaged : s.staged? id with
    | some entry => rwa [hstaged] at hwithin
    | none =>
        rw [hstaged] at hwithin
        exact (load_agrees tracks id).earlier hwithin
  agrees {s t} hbefore hwithin := by
    have hstaged := hbefore.1.staged? id
    rw [peek_apply] at hwithin
    rw [peek_apply, peek_apply, ← hstaged]
    cases hentry : s.staged? id with
    | some entry =>
        refine ⟨rfl, hbefore.1, fun found hfound => ?_⟩
        rw [shown, getElem?_visible, ← hstaged, hentry, ← Except.ok.inj hfound]
        rfl
    | none =>
        rw [hentry] at hwithin hstaged
        obtain ⟨hanswer, htwins⟩ := (load_agrees tracks id).agrees hbefore hwithin
        have hanswer' : (b.load id s.medium).1 = .ok (t.medium.account? id) := hanswer
        rw [hanswer']
        refine ⟨rfl, htwins, fun found hfound => ?_⟩
        rw [← Except.ok.inj hfound]
        have hshown : t.shown[id]? = t.medium[id]? := shown_of_unstaged hstaged.symm
        change (t.medium.account? id).map (·.balance) = t.shown[id]?
        simp [hshown, Table.account?, Function.comp_def]

/-- Observing an account finds what is shown of it. -/
theorem observe_agrees :
    Run.Agrees (fun s : Store S => within s.medium) (fun s t => Twins keeps shows s t ∧ keeps id)
      (observe b id) (observe Memory.backend id)
      fun answer s t =>
        Twins keeps shows s t ∧ ∀ found, answer = .ok found → found = t.shown[id]? where
  earlier {s} hwithin := by
    rw [observe_apply] at hwithin
    cases hstaged : s.staged? id with
    | some entry => rwa [hstaged] at hwithin
    | none =>
        rw [hstaged] at hwithin
        apply (load_agrees tracks id).earlier
        dsimp only at hwithin
        split at hwithin <;> exact hwithin
  agrees {s t} hbefore hwithin := by
    have hstaged := hbefore.1.staged? id
    rw [observe_apply] at hwithin
    rw [observe_apply, observe_apply, ← hstaged]
    cases hentry : s.staged? id with
    | some entry =>
        refine ⟨rfl, hbefore.1, fun found hfound => ?_⟩
        rw [shown, getElem?_visible, ← hstaged, hentry, ← Except.ok.inj hfound]
        rfl
    | none =>
        rw [hentry] at hwithin hstaged
        have hloaded : within (loaded b id s).medium := by
          dsimp only at hwithin
          split at hwithin <;> exact hwithin
        obtain ⟨hanswer, htwins⟩ := (load_agrees tracks id).agrees hbefore hloaded
        have hanswer' : (b.load id s.medium).1 = .ok (t.medium.account? id) := hanswer
        have hmemory : (Memory.backend.load id t.medium).1 = .ok (t.medium.account? id) := rfl
        rw [hanswer', hmemory]
        cases hcommitted : t.medium[id]? with
        | none =>
            simp only [Table.account?, hcommitted, Option.map_none]
            refine ⟨trivial, htwins, fun found hfound => ?_⟩
            rw [← Except.ok.inj hfound, ← hcommitted]
            exact (shown_of_unstaged hstaged.symm).symm
        | some balance =>
            simp only [Table.account?, hcommitted, Option.map_some]
            have hreached := hbefore.1.coherent.reaches_copied hstaged.symm hcommitted
            refine ⟨trivial, htwins.copied hcommitted hbefore.2, fun found hfound => ?_⟩
            have hshown : (copied id balance t).shown = t.shown := hreached.visible
            change found = (copied id balance t).shown[id]?
            rw [hshown, shown_of_unstaged hstaged.symm, ← Except.ok.inj hfound, hcommitted]

/-! ## Writing -/

/-- Outside a transaction admissible changes are flushed to both media. -/
theorem flush_agrees (changes : List Change) :
    Run.Agrees (fun s : Store S => within s.medium)
      (fun s t => Twins keeps shows s t ∧ t.staging = none ∧ t.medium.Admits changes ∧
        ∀ change ∈ changes, keeps change.id)
      (onMedium (b.flush changes)) (onMedium (Memory.backend.flush changes))
      fun _ => Twins keeps shows where
  earlier := (tracks.flush changes).earlier
  agrees {s t} hbefore hwithin := by
    obtain ⟨twins, hidle, hadmits, hnamed⟩ := hbefore
    obtain ⟨hanswer, hshows⟩ :=
      (tracks.flush changes).agrees ⟨twins.medium, hadmits, hnamed⟩ hwithin
    refine ⟨hanswer, hshows, twins.opened, twins.opened', twins.staging, ?_, ?_⟩
    · intro staging hstaging
      cases hidle.symm.trans hstaging
    · intro staging other entry hstaging
      cases hidle.symm.trans hstaging

/-- A balance is written against what is shown of the account. -/
theorem write_agrees (observed : Option Balance) (balance : Balance) :
    Run.Agrees (fun s : Store S => within s.medium)
      (fun s t => (Twins keeps shows s t ∧ keeps id) ∧ observed = t.shown[id]?)
      (write b id observed balance) (write Memory.backend id observed balance)
      fun _ => Twins keeps shows where
  earlier {s} hwithin := by
    rw [write_apply] at hwithin
    cases hstaging : s.staging with
    | some staging => rwa [hstaging] at hwithin
    | none =>
        rw [hstaging] at hwithin
        exact (flush_agrees tracks _).earlier hwithin
  agrees {s t} hbefore hwithin := by
    obtain ⟨⟨twins, hnamed⟩, hobserved⟩ := hbefore
    rw [write_apply] at hwithin
    rw [write_apply, write_apply, ← twins.staging]
    cases hstaging : s.staging with
    | some staging =>
        have hstaging' : t.staging = some staging := twins.staging.symm.trans hstaging
        rw [shown_of_staging hstaging'] at hobserved
        refine ⟨rfl, twins.withStaging ?_ ?_⟩
        · rintro _ ⟨rfl⟩
          rw [hobserved]
          exact (twins.faithful hstaging').write balance
        · rintro _ other entry ⟨rfl⟩ hentry
          by_cases hid : id = other
          · exact hid ▸ hnamed
          · rw [Staging.write_eq_insert, Std.ExtTreeMap.getElem?_insert,
              if_neg (by simpa using hid)] at hentry
            exact twins.named hstaging' hentry
    | none =>
        have hstaging' : t.staging = none := twins.staging.symm.trans hstaging
        rw [hstaging] at hwithin
        rw [shown_of_idle hstaging'] at hobserved
        refine (flush_agrees tracks _).agrees
          ⟨twins, hstaging', Table.admits_singleton hobserved, ?_⟩ hwithin
        intro change hmem
        rwa [List.mem_singleton.mp hmem]

/-! ## Operations -/

theorem contains_matches (named : keeps id) :
    Matches keeps within shows (contains b id) (contains Memory.backend id) := by
  refine ensureInitialized_matches.bind fun _ => ?_
  refine Run.Agrees.bind ((peek_agrees tracks).imp (fun twins => ⟨twins, named⟩)
    fun hafter => hafter.1) (fun _ => Run.Alike.pure _) fun twins => twins

theorem create_matches (named : keeps id) (balance : Balance) :
    Matches keeps within shows (create b id balance) (create Memory.backend id balance) := by
  refine ensureInitialized_matches.bind fun _ => ?_
  refine Run.Agrees.bind ((peek_agrees tracks).imp (fun twins => ⟨twins, named⟩)
    fun hafter => hafter) (fun {_ found} _ => ?_) fun hafter => hafter.1
  cases found with
  | none =>
      exact (write_agrees tracks none balance).imp
        (fun hfound => ⟨⟨hfound.1, named⟩, hfound.2 none rfl⟩) fun twins => twins
  | some held =>
      exact (Run.Alike.throw _).imp (fun hfound => hfound.1) fun twins => twins

theorem update_matches (named : keeps id) (delta : Balance) :
    Matches keeps within shows (update b id delta) (update Memory.backend id delta) := by
  refine ensureInitialized_matches.bind fun _ => ?_
  refine Run.Agrees.bind ((observe_agrees tracks).imp (fun twins => ⟨twins, named⟩)
    fun hafter => hafter) (fun {_ found} _ => ?_) fun hafter => hafter.1
  have hwrite : ∀ balance, Run.Agrees (fun s : Store S => within s.medium)
      (fun s t => Twins keeps shows s t ∧
        ∀ answer, (.ok found : Except StoreError (Option Balance)) = .ok answer →
          answer = t.shown[id]?)
      (write b id found balance) (write Memory.backend id found balance)
      fun _ => Twins keeps shows := fun balance =>
    (write_agrees tracks found balance).imp
      (fun hfound => ⟨⟨hfound.1, named⟩, hfound.2 found rfl⟩) fun twins => twins
  have hfail : ∀ e : StoreError, Run.Agrees (fun s : Store S => within s.medium)
      (fun s t => Twins keeps shows s t ∧
        ∀ answer, (.ok found : Except StoreError (Option Balance)) = .ok answer →
          answer = t.shown[id]?)
      (throw e : Step (Store S) Unit) (throw e : Step (Store Table) Unit)
      fun _ => Twins keeps shows := fun e =>
    (Run.Alike.throw e).imp (fun hfound => hfound.1) fun twins => twins
  cases found with
  | none =>
      dsimp only
      split
      · exact hwrite delta
      · exact hfail _
  | some balance =>
      dsimp only
      cases balance.add? delta with
      | none => exact hfail _
      | some sum =>
          dsimp only
          split
          · exact hfail _
          · exact hwrite sum

theorem getAccount_matches (named : keeps id) :
    Matches keeps within shows (getAccount b id) (getAccount Memory.backend id) := by
  refine ensureInitialized_matches.bind fun _ => ?_
  refine Run.Alike.branch (fun twins => twins.inTransaction) ?_ ?_
  · refine Run.Agrees.bind ((observe_agrees tracks).imp (fun twins => ⟨twins, named⟩)
      fun hafter => hafter.1) (fun {_ found} _ => ?_) fun twins => twins
    cases found with
    | none => exact Run.Alike.throw _
    | some balance => exact Run.Alike.pure _
  · refine Run.Agrees.bind ((load_agrees tracks id).imp (fun twins => ⟨twins, named⟩)
      fun twins => twins) (fun {_ found} _ => ?_) fun twins => twins
    cases found with
    | none => exact Run.Alike.throw _
    | some account => exact Run.Alike.pure _

theorem getBalance_matches (named : keeps id) :
    Matches keeps within shows (getBalance b id) (getBalance Memory.backend id) :=
  (getAccount_matches tracks named).bind fun _ => Run.Alike.pure _

omit tracks in
theorem accounts_matches (lists : Run.Alike within shows (tabulate <$> b.loadAll)
      (get : ExceptT StoreError (StateM Table) Table)) :
    Matches keeps within shows (accounts b) (accounts Memory.backend) := by
  rw [accounts_eq, accounts_eq, tabulate_memory]
  refine ensureInitialized_matches.bind fun _ => ?_
  refine Run.Agrees.bind ((onMedium_agrees lists fun _ => rfl).imp
    (fun twins => ⟨twins, twins.medium⟩) fun twins => twins) (fun {_ committed} _ => ?_)
    fun twins => twins
  refine Run.Alike.of_read (fun _ => rfl) (fun _ => rfl) fun {s t} twins => ?_
  rw [listing, listing, twins.staging]

/-! ## Transactions and the life cycle -/

/-- What a commit hands down is admissible for the table, and named by the session. -/
theorem commit_matches : Matches keeps within shows (commit b) (commit Memory.backend) where
  earlier {s} hwithin := by
    cases hopened : s.initialized with
    | false => rwa [commit, ensureInitialized_bind_of_closed hopened] at hwithin
    | true =>
        cases hstaging : s.staging with
        | none => rwa [commit_of_idle hopened hstaging] at hwithin
        | some staging =>
            rw [commit_of_staging hopened hstaging] at hwithin
            split at hwithin
            · exact hwithin
            · exact (flush_agrees tracks staging.changes).earlier hwithin
  agrees {s t} twins hwithin := by
    cases hstaging : t.staging with
    | none =>
        rw [commit_of_idle twins.opened (twins.staging.trans hstaging),
          commit_of_idle twins.opened' hstaging]
        exact ⟨rfl, twins⟩
    | some staging =>
        have hdropped : Twins keeps shows (dropped s) (dropped t) :=
          twins.withStaging (fun hentries => by cases hentries) fun hentries => by cases hentries
        rw [commit_of_staging twins.opened (twins.staging.trans hstaging)] at hwithin ⊢
        rw [commit_of_staging twins.opened' hstaging]
        by_cases hchanges : staging.changes = []
        · rw [if_pos hchanges, if_pos hchanges]
          exact ⟨rfl, hdropped⟩
        · rw [if_neg hchanges] at hwithin
          rw [if_neg hchanges, if_neg hchanges]
          refine (flush_agrees tracks staging.changes).agrees
            ⟨hdropped, rfl, (twins.faithful hstaging).admits_changes, ?_⟩ hwithin
          intro change hmem
          obtain ⟨entry, hentry, -⟩ := Staging.mem_changes.mp hmem
          exact twins.named hstaging hentry

/-- A store that is open cannot be opened. -/
theorem start_matches : Matches keeps within shows (start b) (start Memory.backend) where
  earlier {s} hwithin := by
    cases hopened : s.initialized with
    | true => rwa [start_of_opened hopened] at hwithin
    | false =>
        apply tracks.connect
        rw [start_of_closed hopened] at hwithin
        split at hwithin <;> exact hwithin
  agrees {s t} twins hwithin := by
    rw [start_of_opened twins.opened, start_of_opened twins.opened']
    exact ⟨rfl, twins⟩

end

/-! ## Sessions -/

/-- The accounts that an operation names are among those that a medium can keep. -/
def Op.Names (keeps : AccountId → Prop) : Op → Prop
  | .create id _ | .contains id | .getAccount id | .getBalance id | .update id _ => keeps id
  | .start | .close | .accounts | .begin | .commit | .rollback => True

instance {keeps : AccountId → Prop} [DecidablePred keeps] : DecidablePred (Op.Names keeps) :=
  fun op => by cases op <;> unfold Op.Names <;> infer_instance

/-- An operation of a session: it does not close the store, and it names an account that
every medium can keep. -/
def Op.InSession : Op → Prop
  | .close => False
  | .create id _ | .contains id | .getAccount id | .getBalance id | .update id _ => Portable id
  | .start | .accounts | .begin | .commit | .rollback => True

instance : DecidablePred Op.InSession := fun op => by
  cases op <;> unfold Op.InSession <;> infer_instance

theorem Op.InSession.names {op : Op} (session : op.InSession) : op.Names Portable := by
  cases op with
  | create | contains | getAccount | getBalance | update => exact session
  | start | close | accounts | begin | commit | rollback => trivial

theorem Op.InSession.stays {op : Op} (session : op.InSession) : op ≠ .close := by
  rintro rfl
  exact session

variable (b) in
/-- Runs operations one after the other, and answers what each of them answered. -/
def answers (ops : List Op) : StateM (Store S) (List (Except StoreError Answer)) :=
  ops.mapM fun op => (perform b op).run

/-- Until it is closed, a store whose medium keeps track of a table answers as one over the
table. -/
theorem perform_matches (tracks : b.Tracks keeps within shows) {op : Op}
    (named : op.Names keeps) (stays : op ≠ .close)
    (lists : op = .accounts →
      Matches keeps within shows (accounts b) (accounts Memory.backend)) :
    Matches keeps within shows (perform b op) (perform Memory.backend op) := by
  cases op with
  | start => exact (start_matches tracks).map _
  | close => exact absurd rfl stays
  | create id balance => exact (create_matches tracks named balance).map _
  | contains id => exact (contains_matches tracks named).map _
  | getAccount id => exact (getAccount_matches tracks named).map _
  | getBalance id => exact (getBalance_matches tracks named).map _
  | update id delta => exact (update_matches tracks named delta).map _
  | accounts => exact (lists rfl).map _
  | begin => exact begin_matches.map _
  | commit => exact (commit_matches tracks).map _
  | rollback => exact rollback_matches.map _

/-- A session over a medium that mirrors a table is one over the table. -/
theorem answers_matches (mirrors : b.Mirrors Portable within shows) {ops : List Op}
    (session : ∀ op ∈ ops, op.InSession) :
    Matches Portable within shows (answers b ops) (answers Memory.backend ops) :=
  Run.Alike.mapM fun op hmem =>
    perform_matches mirrors.toTracks (session op hmem).names (session op hmem).stays
      fun _ => accounts_matches mirrors.loadAll

end Store

end Clearinghouse
