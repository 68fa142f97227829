/-
# What a ledger commit does to what accounts hold

An account of a ledger holds its credits less its debits. Whether a commit is booked in
full or breaks off, an account has moved by what its change says or not at all.
-/

import Clearinghouse.Proofs.Ledger.Commit
import Clearinghouse.Proofs.Store.Settling

namespace Clearinghouse.Ledger

namespace Book

/-- What an account holds; nothing if it does not exist. -/
def total (book : Book) (id : AccountId) : Int := (book.account id.toNat).posted

theorem total_congr {book other : Book} (same : book.content = other.content) :
    book.total = other.total := by
  funext id
  rw [total, account, (Prod.mk.inj same).1, total, account]

variable {before mid after : Book} {changes : List Change} {change : Change} {wrote : Bool}

/-- A broken off change has booked nothing on any account. -/
theorem Stopped.total (stopped : mid.Stopped change wrote after) : after.total = mid.total := by
  unfold Stopped at stopped
  split at stopped
  · obtain ⟨hcreation, habsent, hsame⟩ := stopped
    have hprepare : mid.prepare change = mid.addAccount (.new change.id.toNat) := by
      rw [prepare, hcreation, if_pos rfl]
    rw [← hprepare] at hsame
    rw [total_congr hsame]
    funext id
    rw [Book.total, account_prepare fun _ => habsent, Book.total]
  · exact total_congr stopped

/-- What was recorded moved an account by its change, if it has one. -/
theorem Recorded.total (recorded : Recorded before changes after)
    (ascending : changes.Pairwise fun first later => first.id < later.id) (id : AccountId) :
    after.total id = before.total id ∨
      ∃ change ∈ changes, change.id = id ∧ after.total id = before.total id + change.delta := by
  by_cases hnamed : ∃ change ∈ changes, change.id = id
  · obtain ⟨change, hmem, rfl⟩ := hnamed
    have hmoved := (recorded.moves change.id.toNat).posted
    rw [movement_of_mem ascending hmem] at hmoved
    exact .inr ⟨change, hmem, rfl, hmoved⟩
  · have hothers := recorded.others id.toNat (toNat_ne_systemAccount id) fun change hmem hid =>
      hnamed ⟨change, hmem, UInt64.toNat_inj.mp hid⟩
    exact .inl (by rw [Book.total, account, hothers, Book.total, account])

end Book

theorem backend_settles {L : Type} {service : Service L} {book : L → Book}
    (keeps : service.Keeps book) : (backend service).Settles fun state => (book state.2).total where
  load_total id state :=
    Book.total_congr ((backend_candid keeps.candid).load_content id state)
  flush_total {state changes} ascending _ id := by
    have hbooking := flush_booking keeps changes state
    generalize (backend service).flush changes state = result at hbooking
    cases hbooking with
    | done recorded => exact recorded.total ascending id
    | @failed first last change mid wrote e later after split recorded stopped whole =>
        rw [List.nil_append] at recorded
        rw [split] at ascending ⊢
        rw [stopped.total]
        obtain hkept | ⟨change, hmem, hmoved⟩ :=
          recorded.total (List.pairwise_append.mp ascending).1 id
        · exact .inl hkept
        · exact .inr ⟨change, List.mem_append_left _ hmem, hmoved⟩

end Clearinghouse.Ledger
