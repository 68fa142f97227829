/-
# A ledger commit reports exactly what was booked

A commit on a ledger has no promise to land as a whole, but its answer can be relied
on. If it succeeds, every change is booked and nothing else is. If it reports a partial
commit, the changes before the reported number are booked, the one at that number has
at most an account with nothing on it, and those after it left no trace. With any other
failure the ledger is as it was.
-/

import Clearinghouse.Proofs.Ledger.Booking

namespace Clearinghouse.Ledger

/-- The same account later, its balance moved by `delta`. -/
structure LedgerAccount.Nets (account : LedgerAccount) (delta : Int) (later : LedgerAccount) :
    Prop where
  number : later.number = account.number
  ledger : later.ledger = account.ledger
  code : later.code = account.code
  net : later.net = account.net + delta

namespace Book

/-- From one ledger to another exactly these changes were booked. -/
structure Booked (before : Book) (changes : List Change) (after : Book) : Prop where
  /-- The account of a change exists, since now if the change creates it, and has moved
  by what the change says. -/
  account : ∀ change ∈ changes, ∃ earlier later,
    (if change.isCreation then
        before.accounts[change.id.toNat]? = none ∧ earlier = .new change.id.toNat
      else before.accounts[change.id.toNat]? = some earlier) ∧
    after.accounts[change.id.toNat]? = some later ∧ earlier.Nets change.delta later
  /-- The system account has taken the opposite side. -/
  system : ∃ earlier later, before.accounts[systemAccount]? = some earlier ∧
    after.accounts[systemAccount]? = some later ∧
    earlier.Nets (-(changes.map Change.delta).sum) later
  /-- Any other account is the same record as before, or still does not exist. -/
  others : ∀ n, n ≠ systemAccount → (∀ change ∈ changes, change.id.toNat ≠ n) →
    after.accounts[n]? = before.accounts[n]?
  /-- No transfer is lost, and there is one more for every change that moves anything. -/
  transfers : ∀ used ∈ before.transfers, used ∈ after.transfers
  count : after.transfers.size = before.transfers.size + (changes.filter (·.delta ≠ 0)).length

/-- Every account is within bounds. -/
def WithinBounds (book : Book) : Prop :=
  ∀ (n : AccountNumber) (account : LedgerAccount), book.accounts[n]? = some account →
    account.Bounded

instance (book : Book) : Decidable book.WithinBounds :=
  decidable_of_iff (∀ entry ∈ book.accounts.toList, entry.2.Bounded) <| by
    simp only [Prod.forall, Std.ExtTreeMap.mem_toList_iff_getElem?_eq_some, WithinBounds]

variable {before mid after : Book} {changes : List Change} {change : Change} {wrote : Bool}

/-- Of changes that ascend by identifier only one is about an account. -/
theorem movement_of_mem (ascending : changes.Pairwise fun first later => first.id < later.id)
    (named : change ∈ changes) : movement changes change.id.toNat = change.delta := by
  unfold movement
  rw [if_neg (toNat_ne_systemAccount change.id)]
  induction changes with
  | nil => cases named
  | cons first rest ih =>
      obtain ⟨hfirst, hrest⟩ := List.pairwise_cons.mp ascending
      rcases List.mem_cons.mp named with rfl | hnamed
      · have hnone : rest.filter (·.id.toNat = change.id.toNat) = [] := by
          apply List.filter_eq_nil_iff.mpr
          intro later hlater
          have hless := UInt64.lt_iff_toNat_lt.mp (hfirst later hlater)
          simp only [decide_eq_true_eq]
          omega
        rw [List.filter_cons_of_pos (by simp), hnone]
        simp
      · have hless := UInt64.lt_iff_toNat_lt.mp (hfirst change hnamed)
        have hother : ¬ first.id.toNat = change.id.toNat := by omega
        rw [List.filter_cons_of_neg (by simpa using hother)]
        exact ih hrest hnamed

theorem account_of_some {n : AccountNumber} {found : LedgerAccount}
    (there : before.accounts[n]? = some found) : before.account n = found := by
  rw [account, there, Option.getD_some]

/-- Within bounds the exact movement is that of the balance. -/
theorem nets_of_moves {account later : LedgerAccount} {delta : Int}
    (moves : account.Moves delta later) (bounded : later.Bounded) : account.Nets delta later where
  number := moves.number
  ledger := moves.ledger
  code := moves.code
  net := by rw [bounded.net, (moves.bounded bounded).net, moves.posted]

/-- What was recorded of ascending changes, told account by account. -/
theorem Recorded.booked (recorded : Recorded before changes after)
    (system : before.accounts[systemAccount]?.isSome)
    (ascending : changes.Pairwise fun first later => first.id < later.id)
    (named : ∀ change ∈ changes, change.isCreation = false →
      before.accounts[change.id.toNat]?.isSome) (bounded : after.WithinBounds) :
    Booked before changes after where
  account change hmem := by
    have hafter : after.accounts[change.id.toNat]?.isSome := by
      rw [recorded.present]
      cases hcreation : change.isCreation with
      | true => exact .inr ⟨change, hmem, hcreation, rfl⟩
      | false => exact .inl (named change hmem hcreation)
    obtain ⟨later, hlater⟩ := Option.isSome_iff_exists.mp hafter
    have hmoves := recorded.moves change.id.toNat
    rw [movement_of_mem ascending hmem, account_of_some hlater] at hmoves
    refine ⟨before.account change.id.toNat, later, ?_, hlater,
      nets_of_moves hmoves (bounded _ _ hlater)⟩
    split
    · next hcreation =>
        have habsent := recorded.created change hmem hcreation
        exact ⟨habsent, by rw [Book.account, habsent, Option.getD_none]⟩
    · next hcreation =>
        obtain ⟨earlier, hearlier⟩ := Option.isSome_iff_exists.mp
          (named change hmem (Bool.not_eq_true _ ▸ hcreation))
        rw [account_of_some hearlier, hearlier]
  system := by
    obtain ⟨earlier, hearlier⟩ := Option.isSome_iff_exists.mp system
    obtain ⟨later, hlater⟩ :=
      Option.isSome_iff_exists.mp ((recorded.present systemAccount).mpr (.inl system))
    have hmoves := recorded.moves systemAccount
    rw [account_of_some hearlier, account_of_some hlater, movement, if_pos rfl] at hmoves
    exact ⟨earlier, later, hearlier, hlater, nets_of_moves hmoves (bounded _ _ hlater)⟩
  others := recorded.others
  transfers := recorded.transfers
  count := recorded.count

/-- What is broken off loses nothing of what was there. -/
theorem Stopped.kept (stopped : mid.Stopped change wrote after) :
    after.transfers = mid.transfers ∧
      ∀ n : AccountNumber, mid.accounts[n]?.isSome →
        after.accounts[n]? = mid.accounts[n]? := by
  unfold Stopped at stopped
  split at stopped
  · obtain ⟨-, habsent, hsame⟩ := stopped
    obtain ⟨haccounts, htransfers⟩ := Prod.mk.inj hsame
    refine ⟨htransfers, fun n hthere => ?_⟩
    have hother : (LedgerAccount.new change.id.toNat).number ≠ n := by
      rintro rfl
      rw [LedgerAccount.new, habsent] at hthere
      cases hthere
    rw [haccounts, addAccount, Std.ExtTreeMap.getElem?_insert]
    simp [hother]
  · obtain ⟨haccounts, htransfers⟩ := Prod.mk.inj stopped
    exact ⟨htransfers, fun n _ => by rw [haccounts]⟩

/-- Once anything was written the ledger differs from what it was. -/
theorem content_ne_of_wrote (recorded : Recorded before changes mid)
    (stopped : mid.Stopped change wrote after)
    (effective : (changes.any isEffective || wrote) = true) :
    after.content ≠ before.content := by
  intro hsame
  obtain ⟨haccounts, htransfers⟩ := Prod.mk.inj hsame
  obtain ⟨hkept, haccount⟩ := stopped.kept
  rw [Bool.or_eq_true, List.any_eq_true] at effective
  rcases effective with ⟨done, hdone, heffective⟩ | hwrote
  · rw [isEffective, Bool.or_eq_true, decide_eq_true_eq] at heffective
    rcases heffective with hcreation | hmoves
    · -- The account of a creation was not there before.
      have hmid := (recorded.present done.id.toNat).mpr (.inr ⟨done, hdone, hcreation, rfl⟩)
      have hafter := haccount _ hmid
      rw [haccounts, recorded.created done hdone hcreation] at hafter
      rw [← hafter] at hmid
      cases hmid
    · -- A movement left one more transfer.
      have hcounted : done ∈ changes.filter (·.delta ≠ 0) := by simp [hdone, hmoves]
      have hpositive := List.length_pos_of_mem hcounted
      have hcount := recorded.count
      rw [← hkept, htransfers] at hcount
      omega
  · rw [Stopped, if_pos hwrote] at stopped
    obtain ⟨-, habsent, hadded⟩ := stopped
    have hnew : after.accounts[change.id.toNat]?.isSome := by
      rw [(Prod.mk.inj hadded).1, addAccount]
      simp [LedgerAccount.new]
    rw [haccounts] at hnew
    have hmid := (recorded.present change.id.toNat).mpr (.inl hnew)
    rw [habsent] at hmid
    cases hmid

theorem Stopped.withinBounds (stopped : mid.Stopped change wrote after)
    (bounded : after.WithinBounds) : mid.WithinBounds := by
  intro n account hfound
  refine bounded n account ?_
  rw [stopped.kept.2 n (by simp [hfound]), hfound]

end Book

/-- Changes of ascending accounts, of which those that create nothing name existing
ones, are booked on a ledger that has a system account. Whatever fails on the way, the
answer tells what became of them. -/
theorem flush_reports_what_was_booked (draw : Book → TransferNumber) (handle : Handle)
    (before : Book) (changes : List Change)
    (system : before.accounts[systemAccount]?.isSome)
    (ascending : changes.Pairwise fun first later => first.id < later.id)
    (named : ∀ change ∈ changes, change.isCreation = false →
      before.accounts[change.id.toNat]?.isSome)
    (bounded : ((backend (Book.serviceWith draw)).flush changes (handle, before)).2.2.WithinBounds) :
    match (backend (Book.serviceWith draw)).flush changes (handle, before) with
    | (.ok (), _, after) => before.Booked changes after
    | (.error (.partialCommit name applied total _), _, after) =>
      name = "ledger" ∧ total = changes.length ∧
        ∃ k change wrote mid, applied = some k ∧ changes[k]? = some change ∧
          before.Booked (changes.take k) mid ∧ mid.Stopped change wrote after ∧
          after.content ≠ before.content
    | (.error _, _, after) => after.content = before.content := by
  have hbooking := bookAll_booking handle (Book.serviceWith_keeps draw)
    (Book.Recorded.nil rfl : Book.Recorded before [] before) changes.length changes
  have hflush : (backend (Book.serviceWith draw)).flush changes (handle, before) =
      bookAll (Book.serviceWith draw) changes.length 0 false changes (handle, before) := rfl
  have hcandid : ∀ e, ((backend (Book.serviceWith draw)).flush changes (handle, before)).1 =
      .error e → ¬ e.IsPartialCommit →
      ((backend (Book.serviceWith draw)).flush changes (handle, before)).2.2.content =
        before.content :=
    fun e => (backend_candid (Book.serviceWith_keeps draw).candid).flush_content
  rw [hflush] at bounded hcandid ⊢
  rw [List.length_nil, List.any_nil] at hbooking
  generalize bookAll (Book.serviceWith draw) changes.length 0 false changes (handle, before) =
    result at hbooking bounded hcandid
  cases hbooking with
  | done recorded => exact recorded.booked system ascending named bounded
  | @failed first last change mid wrote e later after split recorded stopped whole =>
      rw [List.nil_append] at recorded hcandid ⊢
      have hlisted : ∀ any ∈ first, any ∈ changes := by
        rw [split]
        exact fun any hmem => List.mem_append_left _ hmem
      have hordered : first.Pairwise fun first later => first.id < later.id := by
        rw [split] at ascending
        exact (List.pairwise_append.mp ascending).1
      have hbooked := recorded.booked system hordered
        (fun any hmem => named any (hlisted any hmem)) (stopped.withinBounds bounded)
      have htake : changes.take first.length = first := by rw [split, List.take_left']; rfl
      by_cases hwrote : (first.any Book.isEffective || wrote) = true
      · rw [if_pos hwrote]
        refine ⟨rfl, rfl, first.length, change, wrote, mid, rfl, ?_, ?_, stopped,
          Book.content_ne_of_wrote recorded stopped hwrote⟩
        · rw [split]
          simp
        · rwa [htake]
      · rw [if_neg hwrote] at hcandid ⊢
        have hsame : after.content = before.content := hcandid e rfl whole
        cases e with
        | partialCommit => exact absurd ⟨_, _, _, _, rfl⟩ whole
        | _ => exact hsame

/-- The second transfer of a commit fails, and its account has been created. -/
theorem interrupted_flush_reports_what_was_booked :
    let before : Book :=
      ⟨((∅ : Std.ExtTreeMap AccountNumber LedgerAccount).insert systemAccount
          (.new systemAccount)).insert 1 (.new 1), ∅, some 1⟩
    let changes : List Change := [⟨1, some 0, 7⟩, ⟨2, none, 5⟩]
    let handle : Handle := ⟨⟨["3000"], 0, false⟩, true, ∅⟩
    let after := ((backend (Book.serviceWith Book.freshNumber)).flush changes (handle, before)).2.2
    ∃ k change wrote mid, some 1 = some k ∧ changes[k]? = some change ∧
      before.Booked (changes.take k) mid ∧ mid.Stopped change wrote after ∧
      after.content ≠ before.content := by
  intro before changes handle after
  have hreports := flush_reports_what_was_booked Book.freshNumber handle before changes
    (by decide +kernel) (by decide +kernel) (by decide +kernel) (by decide +kernel)
  have hanswer : ((backend (Book.serviceWith Book.freshNumber)).flush changes (handle, before)).1 =
      .error (.partialCommit "ledger" (some 1) 2
        "failed to create transfer: ledger service unavailable: injected failure") := by
    rfl
  generalize hrun : (backend (Book.serviceWith Book.freshNumber)).flush changes
    (handle, before) = result at hreports hanswer
  obtain ⟨answer, later, last⟩ := result
  subst hanswer
  have hafter : after = last := congrArg (fun run => run.2.2) hrun
  rw [hafter]
  exact hreports.2.2

end Clearinghouse.Ledger
