/-
# Reading back what was written

Whole numbers are read back as written wherever no digit, point or exponent follows
them, and a record is read back field by field. Every statement is about the bytes at
the front of what remains, and says what remains afterwards, so the pieces of a
document can be put together.
-/

import Clearinghouse.Json.Reader
import Clearinghouse.Json.Writer

namespace Clearinghouse.Json

/-! ## Bytes of plain characters -/

/-- The bytes of characters that take one byte each. -/
def plain (cs : List Char) : List UInt8 := cs.flatMap Text.Utf8.encodeChar

theorem plain_append (first rest : List Char) : plain (first ++ rest) = plain first ++ plain rest :=
  List.flatMap_append

theorem plain_cons (c : Char) (cs : List Char) :
    plain (c :: cs) = Text.Utf8.encodeChar c ++ plain cs := List.flatMap_cons

theorem toNat_of_isDigit {c : Char} (digit : c.isDigit) : 48 ≤ c.toNat ∧ c.toNat ≤ 57 := by
  simpa [Char.isDigit, UInt32.le_iff_toNat_le] using digit

/-- A digit is one byte. -/
theorem encodeChar_of_isDigit {c : Char} (digit : c.isDigit) :
    Text.Utf8.encodeChar c = [UInt8.ofNat c.toNat] := by
  have hrange := toNat_of_isDigit digit
  rw [Text.Utf8.encodeChar, if_pos (by omega)]

namespace Number

theorem toNat_ofNat_of_isDigit {c : Char} (digit : c.isDigit) :
    (UInt8.ofNat c.toNat).toNat = c.toNat := by
  have hrange := toNat_of_isDigit digit
  simp
  omega

theorem isDigit_ofNat {c : Char} (digit : c.isDigit) : isDigit (UInt8.ofNat c.toNat) = true := by
  have hrange := toNat_of_isDigit digit
  have hvalue := toNat_ofNat_of_isDigit digit
  rw [isDigit, Bool.and_eq_true, decide_eq_true_eq, decide_eq_true_eq, UInt8.le_iff_toNat_le,
    UInt8.le_iff_toNat_le, hvalue]
  exact hrange

theorem digitValue_ofNat {c : Char} (digit : c.isDigit) :
    digitValue (UInt8.ofNat c.toNat) = Text.Decimal.digitValue c := by
  rw [digitValue, toNat_ofNat_of_isDigit digit]
  rfl

/-! ## Digits -/

/-- The value of digits that follow a number. -/
def continued (n : Nat) (bytes : List UInt8) : Nat :=
  bytes.foldl (fun n d => 10 * n + digitValue d) n

theorem le_continued (n : Nat) (bytes : List UInt8) : n ≤ continued n bytes := by
  induction bytes generalizing n with
  | nil => exact Nat.le_refl n
  | cons d ds ih => exact Nat.le_trans (by omega) (ih (10 * n + digitValue d))

/-- Digits that come to a number of 64 bits are all taken. -/
theorem absorb_eq {n : Nat} {bytes : List UInt8} (fits : continued n bytes < UInt64.size) :
    absorb n bytes = (continued n bytes, bytes.length, 0) := by
  induction bytes generalizing n with
  | nil => rfl
  | cons d ds ih =>
      have hnext : 10 * n + digitValue d < UInt64.size :=
        Nat.lt_of_le_of_lt (le_continued _ ds) fits
      rw [absorb, if_pos hnext, ih fits]
      rfl

/-- The bytes of a number. -/
def digitBytes (n : Nat) : List UInt8 := plain (Text.Decimal.digits n)

theorem plain_digits {cs : List Char} (digits : ∀ c ∈ cs, c.isDigit) :
    plain cs = cs.map fun c => UInt8.ofNat c.toNat := by
  induction cs with
  | nil => rfl
  | cons c cs ih =>
      rw [plain_cons, encodeChar_of_isDigit (digits c List.mem_cons_self),
        ih fun later hlater => digits later (List.mem_cons_of_mem c hlater)]
      rfl

theorem digitBytes_eq (n : Nat) :
    digitBytes n = (Text.Decimal.digits n).map fun c => UInt8.ofNat c.toNat :=
  plain_digits fun _ => Text.Decimal.isDigit_of_mem_digits

theorem isDigit_of_mem_digitBytes {n : Nat} {byte : UInt8} (listed : byte ∈ digitBytes n) :
    isDigit byte = true := by
  rw [digitBytes_eq] at listed
  obtain ⟨c, hc, rfl⟩ := List.mem_map.mp listed
  exact isDigit_ofNat (Text.Decimal.isDigit_of_mem_digits hc)

theorem continued_digitBytes (n : Nat) : continued 0 (digitBytes n) = n := by
  have hvalue : ∀ (cs : List Char) (m : Nat), (∀ c ∈ cs, c.isDigit) →
      continued m (cs.map fun c => UInt8.ofNat c.toNat) =
        cs.foldl (fun n c => 10 * n + Text.Decimal.digitValue c) m := by
    intro cs
    induction cs with
    | nil => intro _ _; rfl
    | cons c cs ih =>
        intro m hdigits
        rw [List.map_cons, continued, List.foldl_cons, List.foldl_cons,
          digitValue_ofNat (hdigits c List.mem_cons_self)]
        exact ih _ fun later hlater => hdigits later (List.mem_cons_of_mem c hlater)
  rw [digitBytes_eq, hvalue _ _ fun _ => Text.Decimal.isDigit_of_mem_digits]
  exact Text.Decimal.value_digits n

theorem digitBytes_ne_nil (n : Nat) : digitBytes n ≠ [] := by
  rw [digitBytes_eq]
  simpa using Text.Decimal.digits_ne_nil n

/-- Only zero begins with the digit zero. -/
theorem head?_digits {n : Nat} (positive : 0 < n) :
    (Text.Decimal.digits n).head? ≠ some '0' := by
  induction n using Nat.strongRecOn with
  | ind n ih =>
      rw [Text.Decimal.digits]
      split
      · next hsmall =>
          have hnonzero : ∀ d < 10, 0 < d → Nat.digitChar d ≠ '0' := by decide
          simpa using hnonzero n hsmall positive
      · next hlarge =>
          have hhead := ih (n / 10) (by omega) (by omega)
          cases hdigits : Text.Decimal.digits (n / 10) with
          | nil => exact absurd hdigits (Text.Decimal.digits_ne_nil _)
          | cons c cs =>
              rw [hdigits] at hhead
              exact hhead

/-- A number of several digits does not begin with zero. -/
theorem digitBytes_ne_zero_cons (n : Nat) (second : UInt8) (rest : List UInt8) :
    digitBytes n ≠ 0x30 :: second :: rest := by
  intro heq
  rw [digitBytes_eq] at heq
  by_cases hpositive : 0 < n
  · have hhead := head?_digits hpositive
    cases hdigits : Text.Decimal.digits n with
    | nil => exact Text.Decimal.digits_ne_nil n hdigits
    | cons c cs =>
        rw [hdigits] at heq hhead
        obtain ⟨hfirst, -⟩ := List.cons.inj heq
        have hdigit : c.isDigit :=
          Text.Decimal.isDigit_of_mem_digits (hdigits ▸ List.mem_cons_self)
        have hcode : c.toNat = 48 := by
          rw [← toNat_ofNat_of_isDigit hdigit]
          exact congrArg UInt8.toNat hfirst
        apply hhead
        rw [List.head?_cons, Option.some_inj]
        exact Char.ext (UInt32.toNat_inj.mp hcode)
  · obtain rfl : n = 0 := by omega
    rw [Text.Decimal.digits] at heq
    simp at heq

/-- What follows is neither a digit nor part of a fraction or an exponent. -/
def Ends (rest : List UInt8) : Prop :=
  ∀ byte, rest.head? = some byte → isDigit byte = false ∧ byte ≠ 0x2e ∧ byte ≠ 0x65 ∧ byte ≠ 0x45

theorem splitDigits_append {digits rest : List UInt8}
    (digit : ∀ byte ∈ digits, isDigit byte = true) (ends : Ends rest) :
    splitDigits (digits ++ rest) = (digits, rest) := by
  have hrest : rest.takeWhile isDigit = [] ∧ rest.dropWhile isDigit = rest := by
    cases rest with
    | nil => exact ⟨rfl, rfl⟩
    | cons byte rest =>
        have hbyte := (ends byte rfl).1
        simp [hbyte]
  rw [splitDigits, List.takeWhile_append_of_pos digit, List.dropWhile_append_of_pos digit, hrest.1,
    hrest.2, List.append_nil]

/-- A number of 64 bits is read back, with or without a sign before it. -/
theorem readUnsigned_digitBytes {n : Nat} (fits : n < UInt64.size) {rest : List UInt8}
    (ends : Ends rest) (isNegative : Bool) :
    readUnsigned isNegative (digitBytes n ++ rest) =
      (integer isNegative n).map fun value => (value, rest) := by
  have hsplit : splitDigits (digitBytes n ++ rest) = (digitBytes n, rest) :=
    splitDigits_append (fun _ => isDigit_of_mem_digitBytes) ends
  have habsorb : absorb 0 (digitBytes n) = (continued 0 (digitBytes n), _, 0) :=
    absorb_eq (by rwa [continued_digitBytes])
  rw [continued_digitBytes] at habsorb
  unfold readUnsigned
  rw [hsplit]
  split
  · next heq => exact absurd (Prod.mk.inj heq).1 (digitBytes_ne_nil n)
  · next heq => exact absurd (Prod.mk.inj heq).1 (digitBytes_ne_nil n)
  · next heq => exact absurd (Prod.mk.inj heq).1 (digitBytes_ne_zero_cons n _ _)
  · next heq =>
      obtain ⟨rfl, rfl⟩ := Prod.mk.inj heq
      rw [habsorb]
      dsimp only
      split
      · exact absurd rfl (ends 0x2e rfl).2.1
      · exact absurd rfl (ends 0x65 rfl).2.2.1
      · exact absurd rfl (ends 0x45 rfl).2.2.2
      · rw [if_pos rfl]
        cases integer isNegative n <;> rfl

theorem digitBytes_head (n : Nat) :
    ∃ byte bytes, digitBytes n = byte :: bytes ∧ isDigit byte = true := by
  cases hbytes : digitBytes n with
  | nil => exact absurd hbytes (digitBytes_ne_nil n)
  | cons byte bytes =>
      exact ⟨byte, bytes, rfl, isDigit_of_mem_digitBytes (hbytes ▸ List.mem_cons_self)⟩

/-- An unsigned number is read back. -/
theorem read_natural {n : Nat} (fits : n < UInt64.size) {rest : List UInt8} (ends : Ends rest) :
    read (digitBytes n ++ rest) = .ok (.natural (UInt64.ofNat n), rest) := by
  obtain ⟨byte, bytes, hbytes, hdigit⟩ := digitBytes_head n
  have hunsigned := readUnsigned_digitBytes fits ends false
  unfold read
  split
  · next heq =>
      rw [hbytes] at heq
      obtain ⟨rfl, -⟩ := List.cons.inj heq
      cases hdigit
  · exact hunsigned

/-- A negative number is read back. -/
theorem read_negative {n : Nat} (fits : n < Nat.pow 2 63) {rest : List UInt8} (ends : Ends rest) :
    read (0x2d :: digitBytes (n + 1) ++ rest) = .ok (.negative n, rest) := by
  have hword : n + 1 < UInt64.size := by
    have hlimit : Nat.pow 2 63 < UInt64.size := by decide
    omega
  have hinteger : integer true (n + 1) = .ok (.negative n) := by
    unfold integer
    simp only [Bool.not_true, Bool.false_eq_true, if_false]
    rw [if_pos ⟨Nat.succ_pos n, fits⟩, Nat.add_sub_cancel]
  have hunsigned := readUnsigned_digitBytes hword ends true
  rw [hinteger] at hunsigned
  exact hunsigned

end Number

/-! ## Values as readers see them -/

namespace Reader

variable {α D : Type}

/-- The next byte is shown unless it is white space. -/
theorem peek_cons {byte : UInt8} (dark : isSpace byte = false) (rest : List UInt8) :
    peek (byte :: rest) = .ok (some byte, byte :: rest) := by
  change Except.ok (((byte :: rest).dropWhile isSpace).head?, (byte :: rest).dropWhile isSpace) = _
  rw [List.dropWhile_cons_of_neg (by simp [dark])]
  rfl

/-- Readers follow one another. -/
theorem bind_of_ok {first : Reader α} {next : α → Reader D} {bytes rest : List UInt8} {a : α}
    (reads : first bytes = .ok (a, rest)) : (first >>= next) bytes = next a rest := by
  simp only [bind, StateT.bind, reads, Except.bind]

/-- The byte may begin a number. -/
def startsNumber (byte : UInt8) : Bool := byte == 0x2d || Number.isDigit byte

theorem isSpace_of_startsNumber {byte : UInt8} (starts : startsNumber byte = true) :
    isSpace byte = false := by
  cases hspace : isSpace byte with
  | false => rfl
  | true =>
      simp only [isSpace, Bool.or_eq_true, beq_iff_eq] at hspace
      rcases hspace with ((rfl | rfl) | rfl) | rfl <;> cases starts

theorem number_of_read {expected : String} {byte : UInt8} {bytes rest : List UInt8}
    {value : Number} (starts : startsNumber byte = true)
    (reads : Number.read (byte :: bytes) = .ok (value, rest)) :
    number expected (byte :: bytes) = .ok (value, rest) := by
  rw [number, bind_of_ok (peek_cons (isSpace_of_startsNumber starts) bytes)]
  have hstarts : byte = 0x2d ∨ Number.isDigit byte = true := by
    simpa [startsNumber] using starts
  simp only [if_pos hstarts]
  exact reads

/-- An unsigned word is read back. -/
theorem unsigned_digitBytes (word : UInt64) {rest : List UInt8} (ends : Number.Ends rest) :
    unsigned (Number.digitBytes word.toNat ++ rest) = .ok (word, rest) := by
  obtain ⟨byte, bytes, hbytes, hdigit⟩ := Number.digitBytes_head word.toNat
  have hread := Number.read_natural word.toNat_lt ends
  rw [UInt64.ofNat_toNat] at hread
  rw [hbytes, List.cons_append] at hread ⊢
  rw [unsigned, bind_of_ok (number_of_read (by simp [startsNumber, hdigit]) hread)]
  rfl

/-- A signed word is read back. -/
theorem signed_number (word : Int64) {rest : List UInt8} (ends : Number.Ends rest) :
    signed (plain (Writer.number word.toInt) ++ rest) = .ok (word, rest) := by
  have hlower := word.le_toInt
  have hupper := word.toInt_lt
  have hback : Int64.ofInt word.toInt = word := Int64.ofInt_toInt word
  cases hvalue : word.toInt with
  | ofNat n =>
      rw [hvalue] at hupper hback
      have hsmall : n < Nat.pow 2 63 := Int.ofNat_lt.mp hupper
      have hword : n < UInt64.size := Nat.lt_trans hsmall (by decide)
      have hsame : (UInt64.ofNat n).toNat = n := UInt64.toNat_ofNat_of_lt hword
      obtain ⟨byte, bytes, hbytes, hdigit⟩ := Number.digitBytes_head n
      have hread := Number.read_natural hword ends
      change signed (Number.digitBytes n ++ rest) = _
      rw [hbytes, List.cons_append] at hread ⊢
      rw [signed, bind_of_ok (number_of_read (by simp [startsNumber, hdigit]) hread)]
      simp only [hsame, if_pos hsmall]
      exact congrArg (fun word => Except.ok (word, rest)) hback
  | negSucc n =>
      rw [hvalue] at hlower hback
      have hsmall : n < Nat.pow 2 63 := by
        have hbound : (-(2 ^ 63) : Int) ≤ Int.negSucc n := hlower
        have hpower : (Nat.pow 2 63 : Int) = 2 ^ 63 := by norm_cast
        omega
      have hread := Number.read_negative hsmall ends
      have hbytes : plain (Writer.number (Int.negSucc n)) = 0x2d :: Number.digitBytes (n + 1) := rfl
      rw [hbytes]
      rw [List.cons_append] at hread ⊢
      rw [signed, bind_of_ok (number_of_read rfl hread)]
      exact congrArg (fun word => Except.ok (word, rest)) hback

/-! ## Fields of a record -/

/-- What stands before a field: a comma, unless it is the first. -/
def lead (isFirst : Bool) : List UInt8 := if isFirst then [] else [0x2c]

@[simp]
theorem advance_bind_apply (next : Unit → Reader α) (byte : UInt8) (bytes : List UInt8) :
    (advance >>= next) (byte :: bytes) = next () bytes := rfl

theorem nextName_of_read {isFirst : Bool} {bytes rest : List UInt8} {name : String}
    (named : Quoted.read bytes = .ok (name, rest)) :
    nextName isFirst (lead isFirst ++ 0x22 :: bytes) = .ok (some name, rest) := by
  have hname : (do return some (← ofFunction Quoted.read) : Reader (Option String)) bytes =
      .ok (some name, rest) := bind_of_ok named
  rw [nextName]
  cases isFirst with
  | true =>
      have hbytes : lead true ++ 0x22 :: bytes = 0x22 :: bytes := rfl
      rw [hbytes, bind_of_ok (peek_cons rfl bytes)]
      exact hname
  | false =>
      have hbytes : lead false ++ 0x22 :: bytes = 0x2c :: 0x22 :: bytes := rfl
      rw [hbytes, bind_of_ok (peek_cons rfl (0x22 :: bytes))]
      dsimp only
      rw [if_neg (by decide), if_neg (by decide), if_pos rfl, advance_bind_apply,
        bind_of_ok (peek_cons rfl bytes)]
      exact hname

/-- A closing bracket ends the fields. -/
theorem nextName_closing (isFirst : Bool) (rest : List UInt8) :
    nextName isFirst (0x7d :: rest) = .ok (none, 0x7d :: rest) := by
  rw [nextName, bind_of_ok (peek_cons rfl rest)]
  rfl

theorem colon_cons (rest : List UInt8) : colon (0x3a :: rest) = .ok ((), rest) := by
  rw [colon, bind_of_ok (peek_cons rfl rest)]
  rfl

theorem close_cons (rest : List UInt8) : close true (0x7d :: rest) = .ok ((), rest) := by
  rw [close, bind_of_ok (peek_cons rfl rest)]
  rfl

variable {fields : List (Field D)} {draft draft' : D}

/-- A field that is known and not set yet is read into the draft. -/
theorem members_of_field {field : Field D} {fuel : Nat} {isFirst : Bool}
    {bytes value rest : List UInt8} {name : String}
    (named : Quoted.read bytes = .ok (name, 0x3a :: value))
    (known : fields.find? (·.name == name) = some field) (unset : field.isSet draft = false)
    (reads : field.read draft value = .ok (draft', rest)) :
    members fields (fuel + 1) isFirst draft (lead isFirst ++ 0x22 :: bytes) =
      members fields fuel false draft' rest := by
  rw [members, bind_of_ok (nextName_of_read named)]
  simp only [known, unset]
  change (colon >>= _) (0x3a :: value) = _
  rw [bind_of_ok (colon_cons value), bind_of_ok reads]

theorem members_closing (fuel : Nat) (isFirst : Bool) (rest : List UInt8) :
    members fields (fuel + 1) isFirst draft (0x7d :: rest) = .ok (draft, 0x7d :: rest) := by
  rw [members, bind_of_ok (nextName_closing isFirst rest)]
  rfl

/-- A record whose fields are all set is read. -/
theorem record_of_members {what : String} {empty : D} {bytes rest : List UInt8}
    (reads : members fields (bytes.length + 1) true empty bytes = .ok (draft, 0x7d :: rest))
    (complete : fields.find? (!·.isSet draft) = none) :
    record what fields empty (0x7b :: bytes) = .ok (draft, rest) := by
  rw [record, bind_of_ok (peek_cons rfl bytes)]
  have hget : (get : Reader (List UInt8)) bytes = .ok (bytes, bytes) := rfl
  simp only [advance_bind_apply]
  rw [bind_of_ok hget, bind_of_ok reads]
  simp only [complete]
  rw [bind_of_ok (close_cons rest)]
  rfl

/-- A document is read if nothing follows it. -/
theorem document_of_read {reader : Reader α} {bytes : List UInt8} {a : α}
    (reads : reader bytes = .ok (a, [])) : document reader bytes = .ok a := by
  rw [document, reads]
  rfl

end Reader

end Clearinghouse.Json
