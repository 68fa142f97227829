/-
# Clusters are read back as they are shown

The number of a cluster may be written with or without a mark before its hexadecimal digits,
with any number of leading zeros and in letters of either case. None of its digits is taken for
a part of the mark, so each of these texts is read as the cluster that it was written for. A
number in a configuration stands for the same cluster as its hexadecimal text.
-/

import Clearinghouse.Config.Storage

namespace Clearinghouse

namespace Text.Hex

/-- The digits of a number are those of some values, which come to the number. -/
theorem exists_values (n : Nat) : ∃ values : List Nat, values ≠ [] ∧ (∀ d ∈ values, d < 16) ∧
    digits n = values.map digit ∧ values.foldl (16 * · + ·) 0 = n := by
  induction n using Nat.strongRecOn with
  | ind n ih =>
      rw [digits]
      split
      · next hn => exact ⟨[n], List.cons_ne_nil _ _, by simpa using hn, rfl, by simp⟩
      · next hn =>
          -- The digits before the last one are those of the sixteenth part.
          obtain ⟨values, hnonempty, hsmall, hdigits, hvalue⟩ := ih (n / 16) (by omega)
          refine ⟨values ++ [n % 16], by simp, ?_, by simp [hdigits], ?_⟩
          · simp only [List.mem_append, List.mem_singleton]
            rintro d (hmem | rfl)
            · exact hsmall d hmem
            · omega
          · rw [List.foldl_append, hvalue, List.foldl_cons, List.foldl_nil]
            omega

end Text.Hex

namespace Ledger.ClusterId

/-! ## Spellings -/

/-- What may stand before the digits. -/
inductive Mark
  | absent
  | small
  | capital

def Mark.text : Mark → List Char
  | absent => []
  | small => ['0', 'x']
  | capital => ['0', 'X']

/-- A way to write a number in hexadecimal digits. -/
structure Spelling where
  mark : Mark
  /-- How many zeros stand before the first digit. -/
  zeros : Nat
  /-- The letters among the digits are capitals. -/
  inCapitals : Bool

/-- A digit in small letters or in capitals. -/
def letter (inCapitals : Bool) (d : Nat) : Char :=
  if inCapitals then (Text.Hex.digit d).toUpper else Text.Hex.digit d

/-- The text of a number. -/
def Spelling.text (spelling : Spelling) (n : Nat) : String :=
  let digits := Text.Hex.digits n
  String.ofList (spelling.mark.text ++ (List.replicate spelling.zeros '0' ++
    if spelling.inCapitals then digits.map Char.toUpper else digits))

/-- What is shown is one of the spellings. -/
theorem text_eq (id : ClusterId) : text id = (⟨.small, 0, false⟩ : Spelling).text id.toNat := rfl

/-- Leading zeros are digits like the others, and none of them counts. -/
theorem exists_toList_text (spelling : Spelling) (n : Nat) : ∃ values : List Nat, values ≠ [] ∧
    (∀ d ∈ values, d < 16) ∧ values.foldl (16 * · + ·) 0 = n ∧
    (spelling.text n).toList = spelling.mark.text ++ values.map (letter spelling.inCapitals) := by
  obtain ⟨mark, zeros, inCapitals⟩ := spelling
  obtain ⟨values, hnonempty, hsmall, hdigits, hvalue⟩ := Text.Hex.exists_values n
  refine ⟨List.replicate zeros 0 ++ values, by simp [hnonempty], ?_, ?_, ?_⟩
  · intro d hmem
    rcases List.mem_append.mp hmem with hzero | hlater
    · rw [List.eq_of_mem_replicate hzero]
      decide
    · exact hsmall d hlater
  · have hzeros : (List.replicate zeros 0).foldl (16 * · + ·) 0 = 0 := by
      induction zeros with
      | zero => rfl
      | succ zeros ih => exact ih
    rw [List.foldl_append, hzeros, hvalue]
  · have hzero : letter inCapitals 0 = '0' := by
      cases inCapitals <;> rfl
    rw [Spelling.text, String.toList_ofList, List.map_append, List.map_replicate, hzero, hdigits]
    cases inCapitals with
    | false => rfl
    | true => simp [letter]

/-! ## Reading digits -/

/-- The number of some digits with one more digit after them. -/
def extend? (n : Nat) (c : Char) : Option Nat :=
  if c.toNat < 128 then (Text.Hex.digitValue? (UInt8.ofNat c.toNat)).map (16 * n + ·) else none

theorem value?_eq_foldlM {cs : List Char} (nonempty : cs ≠ []) :
    value? cs = cs.foldlM extend? 0 := if_neg nonempty

/-- A digit of either case tells its value. -/
theorem digitValue?_letter (inCapitals : Bool) {d : Nat} (small : d < 16) :
    (letter inCapitals d).toNat < 128 ∧
      Text.Hex.digitValue? (UInt8.ofNat (letter inCapitals d).toNat) = some d := by
  revert inCapitals d
  decide

/-- No digit is a letter of a mark or a sign. -/
theorem letter_notMem (inCapitals : Bool) {d : Nat} (small : d < 16) :
    letter inCapitals d ∉ ['x', 'X', '+'] := by
  revert inCapitals d
  decide

theorem foldlM_extend?_letter (inCapitals : Bool) {values : List Nat}
    (small : ∀ d ∈ values, d < 16) (n : Nat) :
    (values.map (letter inCapitals)).foldlM extend? n = some (values.foldl (16 * · + ·) n) := by
  induction values generalizing n with
  | nil => rfl
  | cons d rest ih =>
      obtain ⟨hascii, hvalue⟩ := digitValue?_letter inCapitals (small d List.mem_cons_self)
      have hextend : extend? n (letter inCapitals d) = some (16 * n + d) := by
        rw [extend?, if_pos hascii, hvalue, Option.map_some]
      rw [List.map_cons, List.foldlM_cons, hextend]
      exact ih (fun later hmem => small later (List.mem_cons_of_mem d hmem)) _

/-! ## Marks -/

/-- A text without the letter of a mark carries no such mark. -/
theorem stripMarks_of_notMem {mark : Char} {cs : List Char} (absent : mark ∉ cs) :
    stripMarks mark cs = cs := by
  unfold stripMarks
  split
  · next c rest =>
      have hother : c ≠ mark := by
        rintro rfl
        simp at absent
      rw [if_neg hother]
  · rfl

/-- A mark is taken off, and nothing but the mark. -/
theorem stripMarks_text (mark : Mark) {cs : List Char} (small : 'x' ∉ cs) (capital : 'X' ∉ cs) :
    stripMarks 'X' (stripMarks 'x' (mark.text ++ cs)) = cs := by
  cases mark with
  | absent =>
      rw [Mark.text, List.nil_append, stripMarks_of_notMem small, stripMarks_of_notMem capital]
  | small =>
      have hmarked : stripMarks 'x' (Mark.small.text ++ cs) = stripMarks 'x' cs := rfl
      rw [hmarked, stripMarks_of_notMem small, stripMarks_of_notMem capital]
  | capital =>
      -- The first pass looks for the other mark and leaves this one to the second.
      have hkept : stripMarks 'x' (Mark.capital.text ++ cs) = Mark.capital.text ++ cs := rfl
      have hmarked : stripMarks 'X' (Mark.capital.text ++ cs) = stripMarks 'X' cs := rfl
      rw [hkept, hmarked, stripMarks_of_notMem capital]

/-- A number of 128 bits is read back from any of its spellings. -/
theorem parse?_text (spelling : Spelling) (id : ClusterId) :
    parse? (spelling.text id.toNat) = some id := by
  obtain ⟨values, hnonempty, hsmall, hvalue, htext⟩ := exists_toList_text spelling id.toNat
  have habsent : ∀ c ∈ ['x', 'X', '+'], c ∉ values.map (letter spelling.inCapitals) := by
    intro c hc hmem
    obtain ⟨d, hd, rfl⟩ := List.mem_map.mp hmem
    exact letter_notMem _ (hsmall d hd) hc
  have hstripped : stripMarks 'X' (stripMarks 'x' (spelling.text id.toNat).toList) =
      values.map (letter spelling.inCapitals) := by
    rw [htext]
    exact stripMarks_text _ (habsent _ (by simp)) (habsent _ (by simp))
  have hread : value? (values.map (letter spelling.inCapitals)) = some id.toNat := by
    rw [value?_eq_foldlM (by simpa using hnonempty), foldlM_extend?_letter _ hsmall, hvalue]
  have hfits : id.toNat < Nat.pow 2 128 := id.isLt
  unfold parse?
  dsimp only
  rw [hstripped]
  split
  · next rest hsigned =>
      exact absurd (hsigned ▸ List.mem_cons_self) (habsent '+' (by simp))
  · rw [hread, Option.bind_eq_bind, Option.bind_some, if_pos hfits, BitVec.ofNat_toNat]
    simp

/-- Whatever is shown of a cluster is accepted in a configuration and stands for that cluster
again, and so does its number in any other spelling. A number stands for the cluster that any
spelling of it stands for. -/
theorem clusters_survive_printing (spelling : Spelling) (id : ClusterId) (n : UInt64) :
    Config.Storage.cluster? (.text (text id)) = some id ∧
      Config.Storage.cluster? (.text (spelling.text id.toNat)) = some id ∧
      Config.Storage.cluster? (.integer n.toNat) = some (ofWord n) ∧
      Config.Storage.cluster? (.text (spelling.text n.toNat)) = some (ofWord n) := by
  have htext : ∀ text, Config.Storage.cluster? (.text text) = parse? text := fun _ => rfl
  have hword : (ofWord n).toNat = n.toNat := by
    have hfits := n.toNat_lt
    rw [ofWord, BitVec.toNat_ofNat]
    omega
  have hnumber : Config.Document.unsigned? (.integer n.toNat) = some n := by
    have hrange : (0 : Int) ≤ n.toNat ∧ (n.toNat : Int) < UInt64.size :=
      ⟨Int.natCast_nonneg _, Int.ofNat_lt.mpr n.toNat_lt⟩
    rw [Config.Document.unsigned?, if_pos hrange, Int.toNat_natCast, UInt64.ofNat_toNat]
  refine ⟨?_, ?_, ?_, ?_⟩
  · rw [htext, text_eq, parse?_text]
  · rw [htext, parse?_text]
  · rw [Config.Storage.cluster?, hnumber]
  · rw [htext, ← hword, parse?_text]

end Ledger.ClusterId

end Clearinghouse
