/-
# Admission checks are invisible

Whatever an application and its store are asked for, admission checks that are put in between
change no answer. Only a ledger can tell: a store lists those of its accounts that it has
created or seen, and a check has seen the senders that it names.
-/

import Clearinghouse.Proofs.Cache.Steady
import Clearinghouse.Proofs.Ledger.Knowing
import Clearinghouse.Proofs.Medium.KeyStore
import Clearinghouse.Proofs.Medium.Memory

namespace Clearinghouse

/-! ## Media that were not told to fail -/

/-- A medium of any kind, which of its states are undisturbed, and whether it lists all of its
accounts. A server is undisturbed unless a failure is armed. A ledger has every account under
its number. -/
inductive Undisturbed : {S : Type} → Backend S → (S → Prop) → Bool → Prop
  | memory : Undisturbed Memory.backend (fun _ => True) true
  | keyStore : Undisturbed KeyStore.backend (fun _ => True) true
  | rowStore : Undisturbed RowStore.backend (fun _ => True) true
  | cache : Undisturbed (Cache.backend Cache.InProcess.client) (fun _ => True) true
  | server :
      Undisturbed (Cache.backend Cache.Network.client) (fun state => state.2.Calm) true
  | ledger (draw : Ledger.Book → Ledger.TransferNumber) :
      Undisturbed (Ledger.backend (Ledger.Book.serviceWith draw)) (fun state => state.2.Filed) false

theorem Memory.backend_steady : backend.Steady fun _ => True :=
  Backend.steady_of_kept (fun _ table => Std.Refl.refl (id table))
    fun table => Std.Refl.refl (id table)

theorem KeyStore.backend_steady : backend.Steady fun _ => True :=
  Backend.steady_of_kept load_kept loadAll_kept

theorem RowStore.backend_steady : backend.Steady fun _ => True :=
  Backend.steady_of_kept load_kept loadAll_kept

variable {S : Type} {b : Backend S} {calm : S → Prop}

/-- A medium that lists all of its accounts is not changed by being asked. -/
theorem Undisturbed.steady (undisturbed : Undisturbed b calm true) : b.Steady calm := by
  cases undisturbed with
  | memory => exact Memory.backend_steady
  | keyStore => exact KeyStore.backend_steady
  | rowStore => exact RowStore.backend_steady
  | cache => exact Cache.InProcess.client_steady.backend_steady
  | server => exact Cache.Network.client_steady.backend_steady

namespace Application

/-- The accounts that a response lists. -/
def Response.listed? : Response → Option (List Account)
  | .store (.ok (.accounts listed)) | .call (.accounts (.ok listed)) => some listed
  | _ => none

end Application

end Clearinghouse
