/-
# The texts of accounts in a cache

An account written as a text is read back as it was, and its key tells its identifier.
A pattern made of escaped text and a star matches the keys that start with the text, so
the keys of accounts are found again, whatever stands before their identifiers.
-/

import Clearinghouse.Cache.Backend
import Clearinghouse.Proofs.Json.RoundTrip

namespace Clearinghouse.Cache

open Json

/-! ## Values -/

/-- The bytes of an account. -/
theorem encode_bytes (account : Account) :
    Text.Utf8.encode (encode account) =
      0x7b :: (Reader.lead true ++ 0x22 :: 0x69 :: 0x64 :: 0x22 :: 0x3a ::
        (Number.digitBytes account.id.toNat ++
          (Reader.lead false ++ 0x22 :: 0x62 :: 0x61 :: 0x6c :: 0x61 :: 0x6e :: 0x63 :: 0x65 ::
            0x22 :: 0x3a :: (plain (Writer.number account.balance.toInt) ++ [0x7d])))) := by
  have hwritten : Writer.account account =
      ("\x7b\"id\":".toList ++ Text.Decimal.digits account.id.toNat) ++
        (",\"balance\":".toList ++ Writer.number account.balance.toInt ++ ['\x7d']) := by
    simp [Writer.account, Writer.record, Writer.commaSeparated, Writer.text, Writer.number,
      Text.Decimal.ofInt]
  rw [Text.Utf8.encode, encode, String.toList_ofList]
  change plain _ = _
  rw [hwritten, plain_append, plain_append, plain_append, plain_append]
  simp only [List.append_assoc]
  rfl

theorem ends_comma (rest : List UInt8) : Number.Ends (0x2c :: rest) := by
  rintro _ ⟨rfl⟩
  decide

theorem ends_brace (rest : List UInt8) : Number.Ends (0x7d :: rest) := by
  rintro _ ⟨rfl⟩
  decide

/-- An account is read back as it was written. -/
theorem decode_encode (key : String) (account : Account) :
    decode key (encode account) = .ok account := by
  let balanceBytes := plain (Writer.number account.balance.toInt) ++ [0x7d]
  let later : List UInt8 := 0x22 :: 0x62 :: 0x61 :: 0x6c :: 0x61 :: 0x6e :: 0x63 :: 0x65 :: 0x22 ::
    0x3a :: balanceBytes
  let idBytes := Number.digitBytes account.id.toNat ++ (Reader.lead false ++ later)
  let bytes : List UInt8 := 0x22 :: 0x69 :: 0x64 :: 0x22 :: 0x3a :: idBytes
  have hid : ∀ fuel, Reader.members fields (fuel + 1) true {} (Reader.lead true ++ bytes) =
      Reader.members fields fuel false { id? := some account.id } (Reader.lead false ++ later) := by
    intro fuel
    have hname : Quoted.read (0x69 :: 0x64 :: 0x22 :: 0x3a :: idBytes) =
        .ok ("id", 0x3a :: idBytes) := rfl
    have hread : Reader.unsigned idBytes = .ok (account.id, Reader.lead false ++ later) :=
      Reader.unsigned_digitBytes account.id (ends_comma later)
    exact Reader.members_of_field hname rfl rfl (Reader.bind_of_ok hread)
  have hbalance : ∀ fuel, Reader.members fields (fuel + 1) false { id? := some account.id }
      (Reader.lead false ++ later) =
      Reader.members fields fuel false ⟨some account.id, some account.balance⟩ [0x7d] := by
    intro fuel
    have hname : Quoted.read (0x62 :: 0x61 :: 0x6c :: 0x61 :: 0x6e :: 0x63 :: 0x65 :: 0x22 ::
        0x3a :: balanceBytes) = .ok ("balance", 0x3a :: balanceBytes) := rfl
    have hread : Reader.signed balanceBytes = .ok (account.balance, [0x7d]) :=
      Reader.signed_number account.balance (ends_brace [])
    exact Reader.members_of_field hname rfl rfl (Reader.bind_of_ok hread)
  have hmembers : Reader.members fields ((Reader.lead true ++ bytes).length + 1) true {}
      (Reader.lead true ++ bytes) = .ok (⟨some account.id, some account.balance⟩, [0x7d]) := by
    obtain ⟨fuel, hfuel⟩ : ∃ fuel, (Reader.lead true ++ bytes).length + 1 = fuel + 1 + 1 + 1 :=
      ⟨idBytes.length + 3, rfl⟩
    rw [hfuel, hid, hbalance, Reader.members_closing]
  have hrecord : Reader.record "struct Account" fields {}
      (0x7b :: (Reader.lead true ++ bytes)) =
      .ok (⟨some account.id, some account.balance⟩, []) :=
    Reader.record_of_members hmembers rfl
  rw [decode, encode_bytes]
  have hread : reader (0x7b :: (Reader.lead true ++ bytes)) = .ok (account, []) :=
    Reader.bind_of_ok hrecord
  exact congrArg (Except.mapError _) (Reader.document_of_read hread)

/-! ## Keys -/

theorem toWord?_digits (word : UInt64) :
    Text.Decimal.toWord? (Text.Decimal.digits word.toNat) = some word := by
  have hunsigned : Text.Decimal.toUnsigned? (Text.Decimal.digits word.toNat) =
      Text.Decimal.toNat? (Text.Decimal.digits word.toNat) := by
    unfold Text.Decimal.toUnsigned?
    split
    · next heq =>
        have hdigit : '+'.isDigit :=
          Text.Decimal.isDigit_of_mem_digits (heq ▸ List.mem_cons_self)
        cases hdigit
    · rfl
  rw [Text.Decimal.toWord?, hunsigned, Text.Decimal.toNat?_digits, Option.bind_some,
    if_pos word.toNat_lt, UInt64.ofNat_toNat]

namespace Settings

variable (settings : Settings)

/-- A key tells the identifier it was made for. -/
theorem id?_key (id : AccountId) : settings.id? (settings.key id) = some id := by
  have hkey : (settings.key id).toList =
      settings.keyStart.toList ++ Text.Decimal.digits id.toNat := by
    rw [key, String.toList_append, String.toList_ofList]
  rw [id?, hkey, if_pos (by simp), List.drop_left, toWord?_digits]

theorem key_injective {id other : AccountId} (same : settings.key id = settings.key other) :
    id = other := by
  have hid := settings.id?_key id
  rw [same, id?_key] at hid
  exact (Option.some_inj.mp hid).symm

end Settings

namespace Glob

/-- Before any pattern, escaped text asks for the text itself. -/
theorem parse_escape_append (text pattern : List Char) :
    parse (escape text ++ pattern) = (text ++ (parse pattern).1, (parse pattern).2) := by
  induction text with
  | nil => rfl
  | cons c text ih =>
      rw [escape, List.flatMap_cons]
      change parse ((if isSpecial c then ['\\', c] else [c]) ++ escape text ++ pattern) = _
      rw [List.append_assoc]
      split
      · rw [List.cons_append, List.cons_append, List.nil_append, parse, ih]
        rfl
      · next hplain =>
          -- Any other character stands for itself, whatever comes after it.
          have hstar : c ≠ '*' := fun h => hplain (h ▸ rfl)
          have hbackslash : c ≠ '\\' := fun h => hplain (h ▸ rfl)
          rw [List.cons_append, List.nil_append, parse, ih]
          · rfl
          · exact fun h _ => hstar h
          · exact fun h _ => hbackslash h
          · exact fun _ _ h _ => hbackslash h

/-- Escaped text and a star ask for the text and any rest. -/
theorem parse_escape (text : List Char) : parse (escape text ++ ['*']) = (text, true) := by
  rw [parse_escape_append]
  exact congrArg (·, true) (List.append_nil text)

/-- So the pattern matches the keys that start with the text. -/
theorem accepts_escape (text key : List Char) :
    accepts (escape text ++ ['*']) key = text.isPrefixOf key := by
  rw [accepts, parse_escape]
  rfl

/-- Matching undoes escaping: whatever characters a text has, its escaped form and a star match
the keys that start with the text, and the escaped form alone matches the text only. -/
theorem escaped_matches_itself (text key : List Char) :
    (accepts (escape text ++ ['*']) key ↔ text <+: key) ∧
      (accepts (escape text) key ↔ key = text) := by
  constructor
  · rw [accepts_escape, List.isPrefixOf_iff_prefix]
  · have hparse : parse (escape text) = (text, false) := by
      have happended := parse_escape_append text []
      rwa [List.append_nil, parse, List.append_nil] at happended
    rw [accepts, hparse]
    exact beq_iff_eq

/-- Left as it is, a backslash at the end of a text would take the star for itself. -/
example : accepts ['a', '\\', '*'] "a\\1".toList = false ∧
    accepts (escape ['a', '\\'] ++ ['*']) "a\\1".toList = true := by decide

end Glob

end Clearinghouse.Cache
