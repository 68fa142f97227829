/-
# Decimal numbers

Whole numbers are written without leading zeros, and read back from any run of
digits. A reader of unsigned numbers also takes leading zeros and one plus
sign, so it accepts more than is ever written. The laws below say that reading
undoes writing and that what is written is a run of digits.
-/

namespace Clearinghouse.Text.Decimal

/-- The digits of a number, most significant first. -/
def digits (n : Nat) : List Char :=
  if n < 10 then [Nat.digitChar n] else digits (n / 10) ++ [Nat.digitChar (n % 10)]
termination_by n

/-- A whole number with its sign; zero and positive numbers carry none. -/
def ofInt : Int → List Char
  | .ofNat n => digits n
  | .negSucc n => '-' :: digits (n + 1)

/-- The value of one digit. -/
def digitValue (c : Char) : Nat := c.toNat - '0'.toNat

/-- The value of a run of digits. -/
def value (cs : List Char) : Nat :=
  cs.foldl (fun n c => 10 * n + digitValue c) 0

/-- Reads a run of digits, which must not be empty. -/
def toNat? (cs : List Char) : Option Nat :=
  if cs ≠ [] ∧ cs.all Char.isDigit then some (value cs) else none

/-- Reads an unsigned number, which may carry a plus sign. -/
def toUnsigned? : List Char → Option Nat
  | '+' :: cs => toNat? cs
  | cs => toNat? cs

/-- Reads an identifier: an unsigned number that fits a 64-bit word. -/
def toWord? (cs : List Char) : Option UInt64 :=
  (toUnsigned? cs).bind fun n => if n < UInt64.size then some (UInt64.ofNat n) else none

theorem digitChar_isDigit {d : Nat} (h : d < 10) : (Nat.digitChar d).isDigit := by
  revert d
  decide

theorem digitValue_digitChar {d : Nat} (h : d < 10) : digitValue (Nat.digitChar d) = d := by
  revert d
  decide

theorem digits_ne_nil (n : Nat) : digits n ≠ [] := by
  rw [digits]
  split <;> simp

theorem isDigit_of_mem_digits {n : Nat} {c : Char} (h : c ∈ digits n) : c.isDigit := by
  induction n using Nat.strongRecOn with
  | ind n ih =>
    rw [digits] at h
    split at h
    · next hn =>
      rw [List.mem_singleton] at h
      exact h ▸ digitChar_isDigit hn
    · next hn =>
      rw [List.mem_append, List.mem_singleton] at h
      rcases h with h | h
      · exact ih (n / 10) (by omega) h
      · exact h ▸ digitChar_isDigit (by omega)

theorem value_append_singleton (cs : List Char) (c : Char) :
    value (cs ++ [c]) = 10 * value cs + digitValue c := by
  simp [value, List.foldl_append]

/-- Reading undoes writing. -/
theorem value_digits (n : Nat) : value (digits n) = n := by
  induction n using Nat.strongRecOn with
  | ind n ih =>
    rw [digits]
    split
    · next hn => simp [value, digitValue_digitChar hn]
    · next hn =>
      rw [value_append_singleton, ih (n / 10) (by omega), digitValue_digitChar (by omega)]
      omega

theorem toNat?_digits (n : Nat) : toNat? (digits n) = some n := by
  have hall : (digits n).all Char.isDigit := List.all_eq_true.mpr fun _ => isDigit_of_mem_digits
  rw [toNat?, if_pos ⟨digits_ne_nil n, hall⟩, value_digits]

end Clearinghouse.Text.Decimal
