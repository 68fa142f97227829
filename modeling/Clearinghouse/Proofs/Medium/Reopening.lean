/-
# Committed accounts survive a session

Each kind of medium leaves a session as a new store finds it. A tree of keys, a database in a
file, a cache and a ledger keep the committed accounts for the next session; a table in memory
and a database in memory give them up. A ledger cannot list its accounts, so a store that has
just been opened on one does not list those of earlier sessions, though it finds each of them.
-/

import Clearinghouse.Proofs.Application.Sessions
import Clearinghouse.Proofs.Medium.Directories
import Clearinghouse.Proofs.Medium.Sharing
import Clearinghouse.Proofs.Store.Reopening
import Clearinghouse.Proofs.Store.Steady

namespace Clearinghouse

section

variable {S : Type} {b : Backend S} {keeps : AccountId → Prop} {within : S → Prop}
  {shows : S → Table → Prop}

/-- What the calls of a session preserve may be counted on besides. -/
theorem Backend.Mirrors.and {holds : S → Prop} (mirrors : b.Mirrors keeps within shows)
    (load : ∀ id, Run.Along (Run.Preserved holds) (b.load id))
    (loadAll : Run.Along (Run.Preserved holds) b.loadAll)
    (flush : ∀ changes, Run.Along (Run.Preserved holds) (b.flush changes)) :
    b.Mirrors keeps within fun m table => shows m table ∧ holds m where
  connect := mirrors.connect
  load id := ⟨(mirrors.load id).earlier, fun {m table} hbefore hwithin =>
    have hagrees := (mirrors.load id).agrees ⟨hbefore.1.1, hbefore.2⟩ hwithin
    ⟨hagrees.1, hagrees.2, load id m hbefore.1.2⟩⟩
  loadAll := ⟨mirrors.loadAll.earlier, fun {m table} hbefore hwithin => by
    obtain ⟨hanswer, hshows⟩ := mirrors.loadAll.agrees hbefore.1 hwithin
    refine ⟨hanswer, hshows, ?_⟩
    rw [Run.map_apply]
    exact loadAll m hbefore.2⟩
  flush changes := ⟨(mirrors.flush changes).earlier, fun {m table} hbefore hwithin =>
    have hagrees := (mirrors.flush changes).agrees ⟨hbefore.1.1, hbefore.2⟩ hwithin
    ⟨hagrees.1, hagrees.2, flush changes m hbefore.1.2⟩⟩

/-- A medium that mirrors a table without bounds reopens if it does so after a session. -/
theorem Backend.Mirrors.reopens (mirrors : b.Mirrors keeps (fun _ => True) shows) {renew : S → S}
    {opens : Table → Table} (disconnect : ∀ {m table}, shows m table → (b.disconnect m).1 = .ok () ∧
      b.Finds shows (b.disconnect m).2 (opens table) ∧
      renew (b.disconnect m).2 = (b.disconnect m).2) :
    b.Reopens renew opens true keeps (fun _ => True) shows where
  toTracks := mirrors.toTracks
  loadAll _ := mirrors.loadAll
  loadAll_shows {m table} hshows := by
    have hlisted := (mirrors.loadAll.agrees hshows trivial).2
    rwa [Run.map_apply] at hlisted
  loadAll_within _ := trivial
  disconnect := disconnect
  disconnect_within _ := trivial
  renew_within _ := trivial

end

/-! ## Media with room for everything -/

theorem Memory.backend_reopens :
    backend.Reopens (fun _ => ∅) (fun _ => ∅) true (fun _ => True) (fun _ => True)
      fun m table => m = table :=
  backend_mirrors.reopens fun _ => ⟨rfl, ⟨rfl, rfl⟩, rfl⟩

/-- A tree of keys that was given up can be held again. -/
theorem KeyStore.backend_reopens :
    backend.Reopens (fun state => (⟨state.1.path, false⟩, state.2)) id true (fun _ => True)
      (fun _ => True) Shows := by
  refine backend_mirrors.reopens ?_
  rintro ⟨⟨path, isHeld⟩, files⟩ table ⟨held, found, stands, denotes⟩
  obtain rfl : isHeld = true := held
  have hreleased : (backend.disconnect (⟨path, true⟩, files)) =
      (.ok (), (⟨path, false⟩, files.insert (Path.parse path) (.keys found false))) := by
    have hstands : files[Path.parse path]? = some (.keys found true) := stands
    simp [backend_disconnect, release, hstands]
  have hconnect : backend.connect (⟨path, false⟩, files.insert (Path.parse path) (.keys found false)) =
      (.ok (), (⟨path, true⟩, (files.insert (Path.parse path) (.keys found false)).insert
        (Path.parse path) (.keys found true))) := by
    rw [backend_connect, connect, Run.get_bind_apply]
    simp
    rfl
  rw [hreleased]
  refine ⟨rfl, ⟨by rw [hconnect], ?_⟩, rfl⟩
  rw [hconnect]
  exact ⟨rfl, found, by simp, denotes⟩

/-- A cache goes on while nobody is connected to it. -/
theorem Cache.InProcess.backend_reopens :
    (backend client).Reopens (fun state => (⟨state.1.settings, none⟩, state.2)) id true
      (fun _ => True) (fun _ => True) Shows := by
  refine backend_mirrors.reopens ?_
  rintro ⟨⟨settings, connection⟩, cache⟩ table ⟨connected, on, whole, denotes⟩
  have hguard : ensureOn cache = (.ok (), cache) := by
    rw [ensureOn, Run.get_bind_apply, show cache.isOff = false from on]
    rfl
  have hconnect : (backend client).connect (⟨settings, none⟩, cache) =
      (.ok (), (⟨settings, some ()⟩, cache)) :=
    (Run.get_bind_apply _ _).trans ((Run.bind_of_ok (run_of_ok hguard)).trans
      (Run.bind_of_ok (run_of_ok hguard)))
  have hdisconnect : (backend client).disconnect (⟨settings, connection⟩, cache) =
      (.ok (), (⟨settings, none⟩, cache)) := rfl
  rw [hdisconnect]
  refine ⟨rfl, ⟨by rw [hconnect], ?_⟩, rfl⟩
  rw [hconnect]
  exact ⟨rfl, on, whole, denotes⟩

/-! ## Rows -/

namespace RowStore

/-- The database of a path is below its directories. -/
def Placed (path : String) (state : State) : Prop :=
  state.1.path = path ∧ (path ≠ inMemory → state.2.HasDirectories (parentOf path))

/-- A database is not among the directories above it. -/
theorem not_prefix_parentOf {path : String} (nonempty : Path.parse path ≠ []) :
    ¬ Path.parse path <+: parentOf path := by
  intro initial
  have hlength := initial.length_le
  rw [parentOf, List.length_dropLast] at hlength
  have hpositive := List.length_pos_iff.mpr nonempty
  omega

variable {path : String}

theorem placed_setRows (table : Table) :
    Run.Along (Run.Preserved (Placed path)) (setRows table) := by
  rintro ⟨handle, files⟩ ⟨rfl, directories⟩
  rw [setRows, Run.modify_apply]
  dsimp only
  split
  · exact ⟨rfl, directories⟩
  · exact ⟨rfl, fun file => (directories file).insert not_prefix_parentOf _⟩

theorem placed_flush (changes : List Change) :
    Run.Along (Run.Preserved (Placed path)) (backend.flush changes) := by
  intro state placed
  obtain ⟨e, hrun⟩ | ⟨table, -, hrun⟩ := flush_cases changes state
  · rwa [hrun]
  · rw [hrun]
    exact placed_setRows _ state placed

theorem placed_mirrors : backend.Mirrors Keepable (fun _ => True)
    fun state table => Shows state table ∧ Placed path state :=
  backend_mirrors.and (fun account => (load_kept account).untouched.preserved)
    loadAll_kept.untouched.preserved placed_flush

/-- The rows of a database in a file stand at its path. -/
theorem Shows.stands {state : State} {table : Table} (shows : Shows state table)
    (file : state.1.path ≠ inMemory) :
    state.2[Path.parse state.1.path]? = some (.rows table) := by
  rw [Shows, rows, Run.get_bind_apply] at shows
  dsimp only at shows
  cases hconnected : state.1.isConnected with
  | false =>
      rw [hconnected] at shows
      cases shows
  | true =>
      rw [hconnected, Bool.not_true, if_neg Bool.false_ne_true, if_neg file] at shows
      cases hnode : state.2[Path.parse state.1.path]? with
      | none =>
          rw [hnode] at shows
          cases shows
      | some node =>
          rw [hnode] at shows
          cases node with
          | rows found =>
              obtain rfl : found = table := Except.ok.inj (congrArg Prod.fst shows)
              rfl
          | directory | file _ | keys _ _ => cases shows

/-- Of the rows that a session leaves behind, a new store finds those in a file. -/
def surviving (path : String) (left : Table) : Table := if path = inMemory then ∅ else left

/-- Rows in a file stay there, and rows in memory go with the connection. -/
theorem backend_reopens :
    backend.Reopens (fun state => (⟨path, false, ∅⟩, state.2)) (surviving path) true Keepable
      (fun _ => True) fun state table => Shows state table ∧ Placed path state := by
  refine placed_mirrors.reopens ?_
  rintro ⟨⟨path, isConnected, found⟩, files⟩ table ⟨shows, rfl, directories⟩
  have hdisconnect : backend.disconnect (⟨path, isConnected, found⟩, files) =
      (.ok (), (⟨path, false, ∅⟩, files)) := rfl
  have hconnect : backend.connect (⟨path, false, ∅⟩, files) =
      (.ok (), (⟨path, true, ∅⟩, files)) ∧ Shows (⟨path, true, ∅⟩, files) (surviving path table) := by
    have hrun : backend.connect (⟨path, false, ∅⟩, files) = _ := Run.get_bind_apply _ _
    rw [hrun, surviving, Shows, rows, Run.get_bind_apply]
    by_cases hmemory : path = inMemory
    · simp only [if_pos hmemory]
      exact ⟨rfl, rfl⟩
    · have hstands : files[Path.parse path]? = some (.rows table) := shows.stands hmemory
      simp only [if_neg hmemory, (directories hmemory).makeDirectories, Run.set_bind_apply,
        hstands]
      exact ⟨rfl, rfl⟩
  rw [hdisconnect]
  exact ⟨rfl, ⟨by rw [hconnect.1], by rw [hconnect.1]; exact ⟨hconnect.2, rfl, directories⟩⟩, rfl⟩

/-- A connection to a database in a file finds its rows or makes an empty one, once the
directories are there. -/
theorem exists_of_connect {state : State} (file : state.1.path ≠ inMemory)
    (connected : (backend.connect state).1 = .ok ()) :
    ∃ made table files, state.2.makeDirectories (parentOf state.1.path) = some made ∧
      backend.connect state = (.ok (), (⟨state.1.path, true, ∅⟩, files)) ∧
      files[Path.parse state.1.path]? = some (.rows table) ∧
      (files = made ∨ files = made.insert (Path.parse state.1.path) (.rows ∅)) := by
  obtain ⟨⟨path, isConnected, found⟩, files⟩ := state
  have hrun : backend.connect (⟨path, isConnected, found⟩, files) = _ := Run.get_bind_apply _ _
  rw [hrun] at connected ⊢
  dsimp only at file connected ⊢
  rw [if_neg file] at connected ⊢
  cases hmakes : files.makeDirectories (parentOf path) with
  | none =>
      rw [hmakes] at connected
      cases connected
  | some made =>
      have hstands : (made.insert (Path.parse path) (.rows ∅))[Path.parse path]? =
          some (.rows ∅) := by simp
      rw [hmakes] at connected
      dsimp only at connected ⊢
      rw [Run.set_bind_apply] at connected ⊢
      cases hnode : made[Path.parse path]? with
      | none =>
          rw [hnode] at connected
          dsimp only at connected ⊢
          split
          · next hdirectory =>
              rw [if_pos hdirectory] at connected
              cases connected
          · exact ⟨made, ∅, _, rfl, rfl, hstands, .inr rfl⟩
      | some node =>
          rw [hnode] at connected
          cases node with
          | rows table => exact ⟨made, table, made, rfl, rfl, hnode, .inl rfl⟩
          | file content =>
              cases content with
              | nil => exact ⟨made, ∅, _, rfl, rfl, hstands, .inr rfl⟩
              | cons byte rest => cases connected
          | directory | keys _ _ => cases connected

/-- A connection that succeeds leaves the directories of its database there. -/
theorem placed_connect {state : State} (connected : (backend.connect state).1 = .ok ()) :
    Placed state.1.path (backend.connect state).2 := by
  by_cases hmemory : state.1.path = inMemory
  · obtain ⟨⟨path, isConnected, found⟩, files⟩ := state
    obtain rfl : path = inMemory := hmemory
    exact ⟨rfl, fun file => absurd rfl file⟩
  · obtain ⟨made, table, files, hmakes, hconnect, -, hfiles⟩ := exists_of_connect hmemory connected
    have hthere := Files.hasDirectories_of_made hmakes
    rw [hconnect]
    refine ⟨rfl, fun _ => ?_⟩
    obtain rfl | rfl := hfiles
    · exact hthere
    · exact hthere.insert not_prefix_parentOf _

end RowStore

/-! ## Ledgers -/

/-- A medium that answers as one that keeps track of a table keeps track of it, too. -/
theorem Backend.Tracks.of_parallels {S : Type} {b : Backend S} {keeps : AccountId → Prop}
    {within : S → Prop} {related : S → S → Prop} {shows : S → Table → Prop}
    (tracks : b.Tracks keeps within shows) (parallels : b.Parallels b related)
    (same : ∀ {m m'}, related m m' → (within m ↔ within m')) :
    b.Tracks keeps within fun m table => ∃ m', related m m' ∧ shows m' table where
  connect := tracks.connect
  load id := by
    refine ⟨(tracks.load id).earlier, ?_⟩
    rintro m table ⟨⟨m', hrelated, hshows⟩, kept⟩ hwithin
    obtain ⟨hanswer, hlater⟩ := (parallels.load id).agrees hrelated trivial
    obtain ⟨hfound, hshown⟩ := (tracks.load id).agrees ⟨hshows, kept⟩ ((same hlater).mp hwithin)
    exact ⟨hanswer.trans hfound, _, hlater, hshown⟩
  flush changes := by
    refine ⟨(tracks.flush changes).earlier, ?_⟩
    rintro m table ⟨⟨m', hrelated, hshows⟩, admits⟩ hwithin
    obtain ⟨hanswer, hlater⟩ := (parallels.flush changes).agrees hrelated trivial
    obtain ⟨hfound, hshown⟩ :=
      (tracks.flush changes).agrees ⟨hshows, admits⟩ ((same hlater).mp hwithin)
    exact ⟨hanswer.trans hfound, _, hlater, hshown⟩

namespace Ledger

variable {draw : Book → TransferNumber}

/-- The store is connected to a ledger that comes to the table, whichever of its accounts the
store knows. -/
structure ComesTo (state : State Book) (table : Table) : Prop where
  connected : state.1.isConnected = true
  unarmed : state.2.failAfter = none
  denotes : state.2.Denotes table

/-- Such a store would show the table if it knew all accounts. -/
theorem comesTo_iff {state : State Book} {table : Table} :
    ComesTo state table ↔ ∃ state', SameView state state' ∧ Shows state' table := by
  constructor
  · rintro ⟨connected, unarmed, denotes⟩
    refine ⟨({ state.1 with known := .ofList table.keys }, state.2), rfl, connected, unarmed,
      denotes, fun id => ?_⟩
    rw [Std.ExtTreeSet.mem_ofList, List.contains_iff_mem, Std.ExtTreeMap.mem_keys,
      Std.ExtTreeMap.isSome_getElem?_iff_mem]
  · rintro ⟨state', same, shows⟩
    refine ⟨same.isConnected.trans shows.connected, ?_, ?_⟩
    · rw [same.ledger]
      exact shows.unarmed
    · rw [same.ledger]
      exact shows.denotes

theorem backend_tracks (fresh : Fresh draw) :
    (backend (Book.serviceWith draw)).Tracks (0 < ·.toNat) (fun state => state.2.WithinBounds)
      ComesTo := by
  have hbounds : ∀ {state state' : State Book}, SameView state state' →
      (state.2.WithinBounds ↔ state'.2.WithinBounds) := fun same => by rw [same.ledger]
  have htracks := (backend_mirrors fresh).toTracks.of_parallels
    (backend_looksOnly (Book.lookup_kept draw)).parallels hbounds
  rwa [show ComesTo = _ from funext₂ fun _ _ => propext comesTo_iff]

/-- The system account is there already. -/
theorem Book.Denotes.system_exists {book : Book} {table : Table} (denotes : book.Denotes table) :
    book.accountRejection? (.new systemAccount) = some .exists := by
  have hthere : book.accounts.contains systemAccount = true := by
    rw [Std.ExtTreeMap.contains_eq_isSome_getElem?]
    exact denotes.system
  have hnumber : (LedgerAccount.new systemAccount).number ≠ 0 := Nat.succ_ne_zero _
  have hledger : (LedgerAccount.new systemAccount).ledger ≠ 0 := Nat.one_ne_zero
  rw [accountRejection?, if_neg hnumber, if_neg hledger]
  exact if_pos hthere

/-- A ledger keeps its accounts, but a new store does not know them. -/
theorem backend_reopens (fresh : Fresh draw) :
    (backend (Book.serviceWith draw)).Reopens
      (fun state => (⟨state.1.settings, false, ∅⟩, state.2)) id false (0 < ·.toNat)
      (fun state => state.2.WithinBounds) ComesTo where
  toTracks := backend_tracks fresh
  loadAll := nofun
  loadAll_shows {state table} comes := by
    have hsame : SameView ((backend (Book.serviceWith draw)).loadAll state).2 state :=
      loadAll_seen (Book.lookup_kept draw) state
    obtain ⟨state', hview, hshows⟩ := comesTo_iff.mp comes
    exact comesTo_iff.mpr ⟨state', hsame.trans hview, hshows⟩
  loadAll_within {state} bounded := by
    have hsame : SameView ((backend (Book.serviceWith draw)).loadAll state).2 state :=
      loadAll_seen (Book.lookup_kept draw) state
    rwa [← hsame.ledger]
  disconnect {state table} comes := by
    have hrejection : state.2.accountRejection? (.new systemAccount) = some .exists :=
      comes.denotes.system_exists
    have hconnect : (backend (Book.serviceWith draw)).connect (⟨state.1.settings, false, ∅⟩, state.2) =
        (.ok (), (⟨state.1.settings, true, ∅⟩, state.2)) := by
      refine (connect_apply draw _).trans ?_
      rw [hrejection]
    have hdisconnect : (backend (Book.serviceWith draw)).disconnect state =
        (.ok (), (⟨state.1.settings, false, ∅⟩, state.2)) := rfl
    rw [hdisconnect]
    refine ⟨rfl, ⟨by rw [hconnect], ?_⟩, rfl⟩
    rw [hconnect]
    exact ⟨rfl, comes.unarmed, comes.denotes⟩
  disconnect_within bounded := bounded
  renew_within bounded := bounded

end Ledger

/-! ## Media of all kinds -/

/-- The media that a store can have to itself. -/
inductive OwnMedium
  /-- A table in memory. -/
  | memory
  /-- A tree of keys in a directory. -/
  | keyStore
  /-- A database at a path, which may stand for one in memory. -/
  | rowStore (path : String)
  /-- A cache in the same process. -/
  | cache
  /-- A ledger in the same process, which draws numbers that are not in use. -/
  | ledger (draw : Ledger.Book → Ledger.TransferNumber) (fresh : Ledger.Fresh draw)

namespace OwnMedium

def State : OwnMedium → Type
  | memory => Table
  | keyStore => KeyStore.State
  | rowStore _ => RowStore.State
  | cache => Cache.State Unit Cache.InProcess
  | ledger .. => Ledger.State Ledger.Book

def backend : (medium : OwnMedium) → Backend medium.State
  | memory => Memory.backend
  | keyStore => KeyStore.backend
  | rowStore _ => RowStore.backend
  | cache => Cache.backend Cache.InProcess.client
  | ledger draw _ => Ledger.backend (Ledger.Book.serviceWith draw)

/-- The medium as a new store with the same settings has it: nobody is connected to it. -/
def renew : (medium : OwnMedium) → medium.State → medium.State
  | memory, _ => (∅ : Table)
  | keyStore, state => (⟨state.1.path, false⟩, state.2)
  | rowStore path, state => (⟨path, false, ∅⟩, state.2)
  | cache, state => (⟨state.1.settings, none⟩, state.2)
  | ledger .., state => (⟨state.1.settings, false, ∅⟩, state.2)

/-- What the next session finds of the accounts that were committed. -/
def opens : OwnMedium → Table → Table
  | memory => fun _ => ∅
  | rowStore path => RowStore.surviving path
  | keyStore | cache | ledger .. => id

/-- The medium lists all accounts, also those that a store has not asked for. -/
def listsAll : OwnMedium → Bool
  | memory | keyStore | rowStore _ | cache => true
  | ledger .. => false

/-- The medium can keep an account under an identifier. -/
def Keeps : OwnMedium → AccountId → Prop
  | memory | keyStore | cache => fun _ => True
  | rowStore _ => RowStore.Keepable
  | ledger .. => (0 < ·.toNat)

/-- Only a ledger has bounds: those of its counters. -/
def Within : (medium : OwnMedium) → medium.State → Prop
  | memory | keyStore | rowStore _ | cache => fun _ => True
  | ledger .. => fun (state : Ledger.State Ledger.Book) => state.2.WithinBounds

/-- A store that is connected to the medium finds a table on it. -/
def Shows : (medium : OwnMedium) → medium.State → Table → Prop
  | memory => fun m table => m = table
  | keyStore => KeyStore.Shows
  | rowStore _ => RowStore.Shows
  | cache => Cache.InProcess.Shows
  | ledger .. => Ledger.ComesTo

/-- Every medium leaves a session as a new store finds it. -/
theorem exists_lives (medium : OwnMedium) {m : medium.State} {left : Table}
    (finds : medium.backend.Finds medium.Shows (medium.renew m) (medium.opens left)) :
    ∃ shows, medium.backend.Reopens medium.renew medium.opens medium.listsAll medium.Keeps
        medium.Within shows ∧
      Store.Lives medium.backend medium.renew medium.opens medium.Keeps shows
        (.new (medium.renew m)) ⟨left, .closed⟩ := by
  cases medium with
  | memory => exact ⟨_, Memory.backend_reopens, .closed finds rfl⟩
  | keyStore => exact ⟨_, KeyStore.backend_reopens, .closed finds rfl⟩
  | rowStore path =>
      exact ⟨_, RowStore.backend_reopens,
        .closed ⟨finds.1, finds.2, RowStore.placed_connect finds.1⟩ rfl⟩
  | cache => exact ⟨_, Cache.InProcess.backend_reopens, .closed finds rfl⟩
  | ledger draw fresh => exact ⟨_, Ledger.backend_reopens fresh, .closed finds rfl⟩

/-- A store may be opened, closed and renewed as often as one likes. Whatever it is asked for,
it answers as the reference does that keeps its committed accounts between sessions, or that
finds none of them if the medium is in memory; an open transaction is forgotten in any case.
Only the lists of accounts on a ledger are another matter. The medium may have accounts from
before; a ledger has to stay within its bounds. -/
theorem committed_accounts_survive (medium : OwnMedium) {m : medium.State} {left : Table}
    (finds : medium.backend.Finds medium.Shows (medium.renew m) (medium.opens left))
    {turns : List Store.Turn} (named : ∀ turn ∈ turns, turn.Names medium.Keeps)
    (bounded : medium.Within
      (Store.live medium.backend medium.renew turns (.new (medium.renew m))).2.medium) :
    let life := Store.live medium.backend medium.renew turns (.new (medium.renew m))
    let reference := Lasting.live medium.opens turns ⟨left, .closed⟩
    life.1.filter (Store.Heard medium.listsAll ·.1) =
        reference.1.filter (Store.Heard medium.listsAll ·.1) ∧
      life.2.initialized = reference.2.now.isOpen ∧
      life.2.inTransaction = reference.2.now.inTransaction := by
  intro life reference
  obtain ⟨shows, hreopens, hlives⟩ := medium.exists_lives finds
  obtain ⟨hanswers, hlater⟩ := hlives.live hreopens named bounded
  exact ⟨hanswers, hlater.initialized, hlater.inTransaction⟩

/-- A database in a file, across three sessions of two stores. The first transaction is open
when its session ends. -/
theorem rows_survive_in_a_file :
    let medium : OwnMedium := .rowStore "data/bank.db"
    let state : RowStore.State := (⟨"data/bank.db", false, ∅⟩, ∅)
    let turns : List Store.Turn := [.call .start, .call (.create 1 5), .call .begin,
      .call (.update 1 3), .call (.create 2 9), .call .close, .call (.getBalance 1), .renewal,
      .call .start, .call .begin, .call (.update 1 (-2)), .call .commit, .call .close,
      .call .start, .call .accounts]
    ((Store.live medium.backend medium.renew turns (.new state)).1.map Prod.snd).drop 6 =
      [.error .notInitialized, .ok .done, .ok .done, .ok .done, .ok .done, .ok .done, .ok .done,
        .ok (.accounts [⟨1, 3⟩])] := by
  intro medium state turns
  have hopens : RowStore.backend.Opens (fun _ => True) RowStore.Shows state :=
    RowStore.opens (rfl : RowStore.Handle.new "data/bank.db" = .ok state.1) rfl rfl rfl
  have hfinds : medium.backend.Finds medium.Shows (medium.renew state) (medium.opens ∅) :=
    ⟨hopens.connected, hopens.blank⟩
  have hnamed : ∀ turn ∈ turns, turn.Names medium.Keeps :=
    (by decide +kernel : ∀ turn ∈ turns, turn.Names RowStore.Keepable)
  have hanswers := (medium.committed_accounts_survive hfinds hnamed trivial).1
  have hheard : ∀ answers : List (Store.Op × Except StoreError Store.Answer),
      answers.filter (Store.Heard medium.listsAll ·.1) = answers :=
    fun answers => List.filter_eq_self.mpr fun _ _ => decide_eq_true fun _ => rfl
  rw [hheard, hheard] at hanswers
  have hstate : medium.renew state = state := rfl
  rw [hstate] at hanswers
  rw [hanswers]
  decide +kernel

end OwnMedium

end Clearinghouse
