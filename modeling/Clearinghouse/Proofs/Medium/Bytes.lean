/-
# Accounts as bytes

A word is read back from its eight bytes, so the keys of different accounts differ and
the value of an account is read back as it was written.
-/

import Clearinghouse.Medium.KeyStore

namespace Clearinghouse.KeyStore

/-- The lowest byte and the word of the others. -/
theorem wordOf_cons {word : UInt64} {rest : List UInt8} (higher : wordOf rest = word >>> 8) :
    wordOf (word.toUInt8 :: rest) = word := by
  have hbyte : word.toNat % 2 ^ 8 < 2 ^ 8 := Nat.mod_lt _ (by decide)
  have hword := word.toNat_lt
  have height : (8 : UInt64).toNat % 64 = 8 := rfl
  apply UInt64.toNat_inj.mp
  change ((wordOf rest <<< 8) ||| word.toUInt8.toUInt64).toNat = word.toNat
  rw [higher, UInt64.toNat_or, UInt64.toNat_shiftLeft, UInt64.toNat_shiftRight,
    UInt8.toNat_toUInt64, UInt64.toNat_toUInt8, height, Nat.shiftRight_eq_div_pow,
    Nat.shiftLeft_eq, Nat.mod_eq_of_lt (by omega), ← Nat.shiftLeft_eq,
    ← Nat.shiftLeft_add_eq_or_of_lt hbyte, Nat.shiftLeft_eq]
  omega

theorem shiftRight_add (word first later : UInt64)
    (below : first.toNat + later.toNat < 64) :
    word >>> (first + later) = word >>> first >>> later := by
  have hsum : (first + later).toNat = first.toNat + later.toNat := by
    rw [UInt64.toNat_add]
    omega
  apply UInt64.toNat_inj.mp
  rw [UInt64.toNat_shiftRight, UInt64.toNat_shiftRight, UInt64.toNat_shiftRight, hsum,
    ← Nat.shiftRight_add]
  congr 1
  omega

theorem wordOf_littleEndian (word : UInt64) : wordOf (littleEndian word) = word := by
  have hnothing : word >>> 56 >>> 8 = 0 := by
    have hword := word.toNat_lt
    apply UInt64.toNat_inj.mp
    rw [UInt64.toNat_shiftRight, UInt64.toNat_shiftRight, ← Nat.shiftRight_add,
      Nat.shiftRight_eq_div_pow]
    exact Nat.div_eq_of_lt hword
  -- From the highest byte down, each byte completes the word of those above it.
  have h56 : wordOf [(word >>> 56).toUInt8] = word >>> 56 := wordOf_cons hnothing.symm
  have h48 := wordOf_cons (h56.trans (shiftRight_add word 48 8 (by decide)))
  have h40 := wordOf_cons (h48.trans (shiftRight_add word 40 8 (by decide)))
  have h32 := wordOf_cons (h40.trans (shiftRight_add word 32 8 (by decide)))
  have h24 := wordOf_cons (h32.trans (shiftRight_add word 24 8 (by decide)))
  have h16 := wordOf_cons (h24.trans (shiftRight_add word 16 8 (by decide)))
  have h8 := wordOf_cons (h16.trans (shiftRight_add word 8 8 (by decide)))
  exact wordOf_cons h8

/-- A key tells the account that it was made for. -/
theorem key_injective {id other : AccountId} (same : key id = key other) : id = other := by
  have hbytes : bigEndian id = bigEndian other := same
  rw [← wordOf_littleEndian id, littleEndian, hbytes]
  exact wordOf_littleEndian other

/-- An account is read back as it was written. -/
theorem decode_encode (account : Account) : decode (encode account) = .ok account := by
  have hlong : ¬ (encode account).length < 16 := Nat.lt_irrefl 16
  have hid : (encode account).take 8 = littleEndian account.id := rfl
  have hbalance : ((encode account).drop 8).take 8 = littleEndian account.balance.toUInt64 := rfl
  rw [decode, if_neg hlong, hid, hbalance, wordOf_littleEndian, wordOf_littleEndian]
  rfl

end Clearinghouse.KeyStore
