/-
# Lists with some accounts more

A medium that lists the accounts that were looked at lists more of them after some were looked
at besides. The list of a store is then longer by some of those accounts, or it fails because
one of them cannot be read.
-/

import Clearinghouse.Proofs.Store.Following
import Mathlib.Data.List.Sort

namespace Clearinghouse

/-- Two lists of accounts, of which the second may have been asked for after accounts were
looked at: it may have some of those besides, and it fails if one of those cannot be read. -/
inductive Gains (look : AccountId → Except StoreError (Option Account)) (probed : AccountId → Prop) :
    Except StoreError (List Account) → Except StoreError (List Account) → Prop
  | same (answer : Except StoreError (List Account)) : Gains look probed answer answer
  | more {listed longer : List Account} (sublist : listed.Sublist longer)
      (found : ∀ account ∈ longer, account ∉ listed →
        probed account.id ∧ look account.id = .ok (some account)) :
      Gains look probed (.ok listed) (.ok longer)
  | unreadable {answer : Except StoreError (List Account)} {id : AccountId} {e : StoreError}
      (looked : probed id) (failed : look id = .error e) : Gains look probed answer (.error e)

variable {look : AccountId → Except StoreError (Option Account)} {probed : AccountId → Prop}

/-! ## Looking at one account after the other -/

variable (look) in
/-- The accounts of a list of identifiers, without those that do not exist. -/
def lookAll : List AccountId → Except StoreError (List Account)
  | [] => .ok []
  | id :: rest =>
    match look id with
    | .error e => .error e
    | .ok none => lookAll rest
    | .ok (some account) => (lookAll rest).map (account :: ·)

theorem lookAll_cons (id : AccountId) (rest : List AccountId) :
    lookAll look (id :: rest) =
      match look id with
      | .error e => .error e
      | .ok none => lookAll look rest
      | .ok (some account) => (lookAll look rest).map (account :: ·) := rfl

/-- Whatever is listed was found, and it was found in the order of the identifiers. -/
theorem lookAll_found (own : ∀ id account, look id = .ok (some account) → account.id = id)
    {ids : List AccountId} {listed : List Account} (answered : lookAll look ids = .ok listed) :
    (listed.map Account.id).Sublist ids ∧
      ∀ account ∈ listed, look account.id = .ok (some account) := by
  induction ids generalizing listed with
  | nil =>
      cases answered
      exact ⟨List.nil_sublist [], nofun⟩
  | cons id rest ih =>
      rw [lookAll_cons] at answered
      cases hlook : look id with
      | error e =>
          rw [hlook] at answered
          cases answered
      | ok found =>
          rw [hlook] at answered
          cases found with
          | none =>
              obtain ⟨hsublist, hfound⟩ := ih answered
              exact ⟨hsublist.cons id, hfound⟩
          | some first =>
              cases hlater : lookAll look rest with
              | error e =>
                  rw [hlater] at answered
                  cases answered
              | ok later =>
                  rw [hlater] at answered
                  cases answered
                  obtain rfl := own id first hlook
                  obtain ⟨hsublist, hfound⟩ := ih hlater
                  exact ⟨hsublist.cons_cons _, List.forall_mem_cons.mpr ⟨hlook, hfound⟩⟩

/-- If every identifier has an account that can be read, all of them are listed. -/
theorem lookAll_of_found (own : ∀ id account, look id = .ok (some account) → account.id = id)
    {ids : List AccountId} (found : ∀ id ∈ ids, ∃ account, look id = .ok (some account)) :
    ∃ listed, lookAll look ids = .ok listed ∧ listed.map Account.id = ids := by
  induction ids with
  | nil => exact ⟨[], rfl, rfl⟩
  | cons id rest ih =>
      obtain ⟨⟨account, hlook⟩, hrest⟩ := List.forall_mem_cons.mp found
      obtain ⟨listed, hlisted, hids⟩ := ih hrest
      refine ⟨account :: listed, ?_, ?_⟩
      · rw [lookAll_cons, hlook, hlisted]
        rfl
      · rw [List.map_cons, hids, own id account hlook]

namespace Gains

/-- Both lists begin with one more account. -/
theorem cons (account : Account) {answer answer' : Except StoreError (List Account)}
    (gains : Gains look probed answer answer') :
    Gains look probed (answer.map (account :: ·)) (answer'.map (account :: ·)) := by
  cases gains with
  | same => exact .same _
  | more sublist found =>
      refine .more (sublist.cons_cons account) fun other hmem hother => ?_
      obtain rfl | hmem := List.mem_cons.mp hmem
      · exact absurd List.mem_cons_self hother
      · exact found other hmem fun hlisted => hother (List.mem_cons_of_mem account hlisted)
  | unreadable looked failed => exact .unreadable looked failed

/-- The second list begins with an account more. -/
theorem cons_right {account : Account} {answer answer' : Except StoreError (List Account)}
    (gains : Gains look probed answer answer')
    (found : probed account.id ∧ look account.id = .ok (some account)) :
    Gains look probed answer (answer'.map (account :: ·)) := by
  have hfirst : ∀ {listed longer : List Account},
      (∀ other ∈ longer, other ∉ listed → probed other.id ∧ look other.id = .ok (some other)) →
      ∀ other ∈ account :: longer, other ∉ listed →
        probed other.id ∧ look other.id = .ok (some other) := by
    intro listed longer hlonger other hmem hother
    obtain rfl | hmem := List.mem_cons.mp hmem
    · exact found
    · exact hlonger other hmem hother
  cases gains with
  | same =>
      cases answer with
      | error e => exact .same _
      | ok listed =>
          exact .more (List.sublist_cons_self account listed)
            (hfirst fun other hmem hother => absurd hmem hother)
  | more sublist hlonger => exact .more (sublist.cons account) (hfirst hlonger)
  | unreadable looked failed => exact .unreadable looked failed

/-- Who looks at some more identifiers lists some more accounts. -/
theorem of_sublist {ids ids' : List AccountId} (sublist : ids.Sublist ids')
    (own : ∀ id account, look id = .ok (some account) → account.id = id)
    (distinct : ids'.Nodup) (gained : ∀ id ∈ ids', id ∈ ids ∨ probed id) :
    Gains look probed (lookAll look ids) (lookAll look ids') := by
  induction sublist with
  | slnil => exact .same _
  | @cons ids ids' id sublist ih =>
      obtain ⟨hnew, hdistinct⟩ := List.nodup_cons.mp distinct
      have hprobed : probed id :=
        (gained id List.mem_cons_self).resolve_left fun hmem => hnew (sublist.subset hmem)
      have hrest := ih hdistinct fun other hmem => gained other (List.mem_cons_of_mem id hmem)
      rw [lookAll_cons]
      cases hlook : look id with
      | error e => exact .unreadable hprobed hlook
      | ok found =>
          cases found with
          | none => exact hrest
          | some account =>
              obtain rfl := own id account hlook
              exact hrest.cons_right ⟨hprobed, hlook⟩
  | @cons_cons ids ids' id sublist ih =>
      obtain ⟨hnew, hdistinct⟩ := List.nodup_cons.mp distinct
      have hrest := ih hdistinct fun other hmem =>
        (gained other (List.mem_cons_of_mem id hmem)).imp_left fun hold =>
          (List.mem_cons.mp hold).resolve_left (ne_of_mem_of_not_mem hmem hnew)
      rw [lookAll_cons, lookAll_cons]
      cases look id with
      | error e => exact .same _
      | ok found =>
          cases found with
          | none => exact hrest
          | some account => exact hrest.cons account

end Gains

/-! ## The lists of stores -/

namespace Store

variable {S : Type} {b : Backend S} {s s' : Store S}

/-- What a store lists that finds the accounts of a list on its medium. -/
def overlaid (s : Store S) (listed : List Account) : List Account :=
  ((s.staging.getD ∅).onto (tabulate listed)).accounts

theorem mem_overlaid {listed : List Account} {account : Account}
    (shown : ∀ account ∈ listed, look account.id = .ok (some account)) :
    account ∈ s.overlaid listed ↔
      (s.staging.getD ∅)[account.id]?.map (·.balance) = some account.balance ∨
        (s.staging.getD ∅)[account.id]? = none ∧ account ∈ listed := by
  have htabulated : (tabulate listed)[account.id]? = some account.balance ↔ account ∈ listed := by
    refine ⟨Table.exists_mem_of_tabulate, fun hmem => ?_⟩
    rw [Table.tabulate_eq_recordAll]
    refine Table.getElem?_recordAll_of_agree ⟨account.id, none, account.balance⟩
      (List.mem_map_of_mem hmem) ?_
    simp only [List.forall_mem_map]
    intro other hother hid
    have hlook := shown other hother
    rw [hid, shown account hmem] at hlook
    cases hlook
    rfl
  rw [overlaid, Table.mem_accounts, Staging.getElem?_onto]
  cases (s.staging.getD ∅)[account.id]? with
  | none => simpa using htabulated
  | some entry => simp

/-- The lists of stores ascend, so one that has all accounts of another has them in the same
order. -/
theorem overlaid_sublist {listed longer : List Account}
    (contained : s.overlaid listed ⊆ s.overlaid longer) :
    (s.overlaid listed).Sublist (s.overlaid longer) := by
  have hascending : ∀ listed, (s.overlaid listed).Pairwise
      fun first later => first.id < later.id := fun _ => Table.accounts_ascending _
  have hantisymm : Std.Antisymm fun first later : Account => first.id < later.id :=
    ⟨fun first later hless hmore => absurd hmore (UInt64.lt_asymm hless)⟩
  have hdistinct : (s.overlaid listed).Nodup := (hascending listed).imp fun hless hsame =>
    UInt64.ne_of_lt hless (congrArg Account.id hsame)
  exact List.sublist_of_subperm_of_pairwise (List.subperm_of_subset hdistinct contained)
    (hascending listed) (hascending longer)

/-- If a medium lists some accounts more, so does a store. -/
theorem accounts_gains (opened : s.initialized = s'.initialized) (staging : s.staging = s'.staging)
    (gains : Gains look probed (b.loadAll s.medium).1 (b.loadAll s'.medium).1)
    (shown : ∀ listed, (b.loadAll s'.medium).1 = .ok listed → ∀ account ∈ listed,
      look account.id = .ok (some account)) :
    Gains look probed (accounts b s).1 (accounts b s').1 := by
  have hoverlaid : s.overlaid = s'.overlaid := by
    funext listed
    rw [overlaid, overlaid, staging]
  cases hopened : s'.initialized with
  | false =>
      rw [accounts_of_closed hopened, accounts_of_closed (opened.trans hopened)]
      exact .same _
  | true =>
      rw [accounts_of_opened hopened, accounts_of_opened (opened.trans hopened)]
      change Gains look probed ((b.loadAll s.medium).1.map s.overlaid)
        ((b.loadAll s'.medium).1.map s'.overlaid)
      rw [hoverlaid]
      generalize (b.loadAll s.medium).1 = answer, (b.loadAll s'.medium).1 = answer' at gains shown
      cases gains with
      | same => exact .same _
      | unreadable looked failed => exact .unreadable looked failed
      | @more listed longer sublist found =>
          have hlonger := shown longer rfl
          have hlisted : ∀ account ∈ listed, look account.id = .ok (some account) :=
            fun account hmem => hlonger account (sublist.subset hmem)
          refine .more (overlaid_sublist fun account hmem => ?_) fun account hmem hother => ?_
          · exact ((mem_overlaid hlisted).mp hmem).elim
              (fun hstaged => (mem_overlaid hlonger).mpr (.inl hstaged))
              fun hold => (mem_overlaid hlonger).mpr (.inr ⟨hold.1, sublist.subset hold.2⟩)
          · obtain hstaged | ⟨hunstaged, hmem⟩ := (mem_overlaid hlonger).mp hmem
            · exact absurd ((mem_overlaid hlisted).mpr (.inl hstaged)) hother
            · exact found account hmem fun hold =>
                hother ((mem_overlaid hlisted).mpr (.inr ⟨hunstaged, hold⟩))

end Store

end Clearinghouse
