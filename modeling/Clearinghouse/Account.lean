/-
# Accounts and balances

An account is an identifier and a balance. Identifiers are unsigned and
balances signed 64-bit words, so every value that a medium can hand back is in
range by its type. Sums are taken over the integers and come back to a word
only when they fit, which is what `Balance.add?` says.
-/

namespace Clearinghouse

/-- The number an account is known by. -/
abbrev AccountId := UInt64

/-- An amount of money held, owed or moved. -/
abbrev Balance := Int64

/-- An account as a store reports it. -/
structure Account where
  id : AccountId
  balance : Balance
  deriving DecidableEq, Repr, Inhabited

/-- The integers that a balance can hold. -/
def Balance.InRange (n : Int) : Prop :=
  Int64.minValue.toInt ≤ n ∧ n ≤ Int64.maxValue.toInt

instance (n : Int) : Decidable (Balance.InRange n) :=
  inferInstanceAs (Decidable (_ ∧ _))

/-- The balance that stands for an integer, if there is one. -/
def Balance.ofInt? (n : Int) : Option Balance :=
  if Balance.InRange n then some (Int64.ofInt n) else none

/-- The sum of a balance and a movement; nothing when the exact sum leaves the
range of a balance. -/
def Balance.add? (balance delta : Balance) : Option Balance :=
  Balance.ofInt? (balance.toInt + delta.toInt)

theorem Balance.inRange_toInt (b : Balance) : Balance.InRange b.toInt :=
  ⟨b.minValue_le_toInt, b.toInt_le⟩

/-- An accepted integer is the value of the balance it becomes. -/
theorem Balance.ofInt?_eq_some_iff {n : Int} {b : Balance} :
    Balance.ofInt? n = some b ↔ b.toInt = n := by
  unfold Balance.ofInt?
  split
  · next h =>
    have hn : (Int64.ofInt n).toInt = n :=
      Int64.toInt_ofInt_of_le h.1 (Int.lt_of_le_of_lt h.2 (by decide))
    constructor
    · rintro ⟨rfl⟩
      exact hn
    · intro hb
      rw [Option.some_inj, ← Int64.toInt_inj, hn, hb]
  · next h =>
    constructor
    · rintro ⟨⟩
    · rintro rfl
      exact absurd b.inRange_toInt h

end Clearinghouse
