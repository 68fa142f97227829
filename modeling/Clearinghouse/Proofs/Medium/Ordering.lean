/-
# The order of keys

Eight bytes of a word, most significant first, stand in the order of the words. So the keys of
accounts ascend with their identifiers, and a tree of keys has its accounts in the order that a
table has them in.
-/

import Clearinghouse.Medium.KeyStore
import Clearinghouse.Proofs.Tables
import Mathlib.Algebra.Group.Nat.Defs

namespace Clearinghouse

/-- Accounts that ascend strictly are all accounts of a table, in its order, if they are the
ones that the table has. -/
theorem Table.eq_accounts_of_ascending {table : Table} {accounts : List Account}
    (ascending : accounts.Pairwise fun first later => first.id < later.id)
    (listed : ∀ account : Account,
      account ∈ accounts ↔ table[account.id]? = some account.balance) :
    accounts = table.accounts := by
  have hdistinct : ∀ {list : List Account},
      (list.Pairwise fun first later => first.id < later.id) → list.Nodup := by
    intro list ordered
    apply ordered.imp
    rintro account _ before rfl
    exact UInt64.lt_irrefl _ before
  have hperm : accounts.Perm table.accounts := by
    rw [List.perm_ext_iff_of_nodup (hdistinct ascending) (hdistinct table.accounts_ascending)]
    intro account
    rw [listed, mem_accounts]
  apply hperm.eq_of_pairwise _ ascending table.accounts_ascending
  intro first later _ _ hbefore hafter
  exact absurd hafter (UInt64.lt_asymm hbefore)

namespace KeyStore

/-- The tree compares its keys byte by byte. -/
theorem compare_eq_lt_iff (first second : List UInt8) :
    compare first second = .lt ↔ first < second := by
  induction first generalizing second with
  | nil =>
      cases second with
      | nil => simp
      | cons byte rest => simp
  | cons byte rest ih =>
      cases second with
      | nil => simp
      | cons other later =>
          rw [List.compare_cons_cons, List.cons_lt_cons_iff, Ordering.then_eq_lt,
            Std.compare_eq_lt, Std.compare_eq_iff_eq, ih]

/-- The number that bytes write, most significant first. -/
def magnitude : List UInt8 → Nat
  | [] => 0
  | byte :: rest => byte.toNat * 256 ^ rest.length + magnitude rest

theorem magnitude_lt (bytes : List UInt8) : magnitude bytes < 256 ^ bytes.length := by
  induction bytes with
  | nil => exact Nat.one_pos
  | cons byte rest ih =>
      have hbyte : byte.toNat + 1 ≤ 256 := byte.toNat_lt
      calc magnitude (byte :: rest)
          = byte.toNat * 256 ^ rest.length + magnitude rest := rfl
        _ < byte.toNat * 256 ^ rest.length + 256 ^ rest.length := Nat.add_lt_add_left ih _
        _ = (byte.toNat + 1) * 256 ^ rest.length := (Nat.succ_mul _ _).symm
        _ ≤ 256 * 256 ^ rest.length := Nat.mul_le_mul_right _ hbyte
        _ = 256 ^ (byte :: rest).length := (Nat.pow_succ').symm

/-- Of two numbers with equally many bytes the one that comes first is the smaller. -/
theorem lt_iff_magnitude_lt {first second : List UInt8} (same : first.length = second.length) :
    first < second ↔ magnitude first < magnitude second := by
  induction first generalizing second with
  | nil =>
      cases second with
      | nil => simp
      | cons other later => cases same
  | cons byte rest ih =>
      cases second with
      | nil => cases same
      | cons other later =>
          have hlength : rest.length = later.length := Nat.succ.inj same
          have hrest := magnitude_lt rest
          have hlater := magnitude_lt later
          rw [← hlength] at hlater
          rw [List.cons_lt_cons_iff, ih hlength, magnitude, magnitude, ← hlength,
            UInt8.lt_iff_toNat_lt, ← UInt8.toNat_inj]
          -- What follows a byte is less than one more of that byte.
          have hstep : ∀ {n m : Nat}, n < m →
              n * 256 ^ rest.length + 256 ^ rest.length ≤ m * 256 ^ rest.length := by
            intro n m hless
            rw [← Nat.succ_mul]
            exact Nat.mul_le_mul_right _ hless
          rcases Nat.lt_trichotomy byte.toNat other.toNat with hless | hequal | hmore
          · have hbound := hstep hless
            omega
          · rw [hequal]
            omega
          · have hbound := hstep hmore
            omega

theorem magnitude_bigEndian (word : UInt64) : magnitude (bigEndian word) = word.toNat := by
  have hword := word.toNat_lt
  simp only [bigEndian, magnitude, UInt64.toNat_toUInt8, UInt64.toNat_shiftRight,
    UInt64.reduceToNat, Nat.reduceMod, Nat.shiftRight_eq_div_pow, Nat.reducePow,
    List.length_cons, List.length_nil, Nat.zero_add, Nat.reduceAdd, Nat.pow_one, Nat.pow_zero,
    Nat.mul_one, Nat.add_zero]
  omega

/-- Keys stand in the order of the identifiers that they are made for. -/
theorem key_lt_key_iff (first second : AccountId) : key first < key second ↔ first < second := by
  have hlength : (key first).length = (key second).length := rfl
  rw [lt_iff_magnitude_lt hlength, key, key, magnitude_bigEndian, magnitude_bigEndian,
    UInt64.lt_iff_toNat_lt]

end KeyStore

end Clearinghouse
