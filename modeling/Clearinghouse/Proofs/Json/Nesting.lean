/-
# Reading back what was written inside something else

A text without escapes is read back as written. Lists and records are read back if the
values inside them are: the elements of a list one after the other, and the fields of a
record one after the other into a draft. What is inside may again be a text, a list or a
record, so whole documents follow from their parts.
-/

import Clearinghouse.Proofs.Json.RoundTrip

namespace Clearinghouse.Json

/-! ## Texts -/

/-- The character stands for itself in a text and takes one byte. -/
def Verbatim (c : Char) : Prop := 0x20 ≤ c.toNat ∧ c.toNat < 0x80 ∧ c ≠ '"' ∧ c ≠ '\\'

instance : DecidablePred Verbatim := fun c =>
  inferInstanceAs (Decidable (0x20 ≤ c.toNat ∧ c.toNat < 0x80 ∧ c ≠ '"' ∧ c ≠ '\\'))

namespace Verbatim

variable {c : Char}

theorem toNat_byte (verbatim : Verbatim c) : (UInt8.ofNat c.toNat).toNat = c.toNat := by
  have hbound := verbatim.2.1
  rw [UInt8.toNat_ofNat']
  omega

theorem encodeChar_eq (verbatim : Verbatim c) :
    Text.Utf8.encodeChar c = [UInt8.ofNat c.toNat] := by
  rw [Text.Utf8.encodeChar, if_pos verbatim.2.1]

/-- Its byte is not the byte of another character of one byte. -/
theorem byte_ne (verbatim : Verbatim c) {other : Char} (small : other.toNat < 0x80)
    (differs : c ≠ other) : UInt8.ofNat c.toNat ≠ UInt8.ofNat other.toNat := by
  intro hsame
  have hvalue := congrArg UInt8.toNat hsame
  rw [verbatim.toNat_byte, UInt8.toNat_ofNat', Nat.mod_eq_of_lt (by omega)] at hvalue
  exact differs (Char.ext (UInt32.toNat_inj.mp hvalue))

theorem plain_cons (verbatim : Verbatim c) (cs : List Char) :
    plain (c :: cs) = UInt8.ofNat c.toNat :: plain cs := by
  rw [Json.plain_cons, verbatim.encodeChar_eq]
  rfl

end Verbatim

/-- A given text is checked one character after the other. -/
theorem verbatim_of_all {cs : List Char} (checked : cs.all (decide <| Verbatim ·) = true) :
    ∀ c ∈ cs, Verbatim c := by
  simpa using checked

section

variable {cs : List Char} (verbatim : ∀ c ∈ cs, Verbatim c)
include verbatim

theorem decode?_plain : Text.Utf8.decode? (plain cs) = some cs := by
  induction cs with
  | nil => rfl
  | cons c cs ih =>
      have hc := verbatim c List.mem_cons_self
      have hrest := ih fun later hlater => verbatim later (List.mem_cons_of_mem c hlater)
      rw [hc.plain_cons, Text.Utf8.decode?.eq_def]
      simp only [hc.toNat_byte, hc.2.1, if_true, hrest, Option.map_some, Char.ofNat_toNat]

theorem readBytes_plain (rest : List UInt8) :
    Quoted.readBytes (plain cs ++ 0x22 :: rest) = .ok (plain cs, rest) := by
  induction cs with
  | nil =>
      change Quoted.readBytes (0x22 :: rest) = _
      rw [Quoted.readBytes.eq_def]
      rfl
  | cons c cs ih =>
      have hc := verbatim c List.mem_cons_self
      have hrest := ih fun later hlater => verbatim later (List.mem_cons_of_mem c hlater)
      have hquote : UInt8.ofNat c.toNat ≠ 0x22 := hc.byte_ne (by decide) hc.2.2.1
      have hescape : UInt8.ofNat c.toNat ≠ 0x5c := hc.byte_ne (by decide) hc.2.2.2
      have hprintable : ¬ UInt8.ofNat c.toNat < 0x20 := by
        rw [UInt8.lt_iff_toNat_lt, hc.toNat_byte]
        exact Nat.not_lt.mpr hc.1
      rw [hc.plain_cons, List.cons_append, Quoted.readBytes.eq_def]
      dsimp only
      rw [if_neg hquote, if_neg hescape, if_neg hprintable, hrest]
      rfl

theorem read_plain (rest : List UInt8) :
    Quoted.read (plain cs ++ 0x22 :: rest) = .ok (String.ofList cs, rest) := by
  have htext : Text.Utf8.text? (plain cs) = some (String.ofList cs) := by
    rw [Text.Utf8.text?, decode?_plain verbatim, Option.map_some]
  rw [Quoted.read, readBytes_plain verbatim]
  simp only [bind, Except.bind, htext]
  rfl

end

/-- The bytes of a text with its quotes. -/
theorem plain_text (cs : List Char) :
    plain (Writer.text cs) = 0x22 :: (plain cs ++ [0x22]) := by
  rw [Writer.text, List.cons_append, plain_cons, plain_append]
  rfl

theorem plain_number (n : Nat) : plain (Writer.number n) = Number.digitBytes n := rfl

namespace Reader

variable {α D : Type}

theorem unsigned_number (word : UInt64) {rest : List UInt8} (ends : Number.Ends rest) :
    unsigned (plain (Writer.number word.toNat) ++ rest) = .ok (word, rest) := by
  rw [plain_number, unsigned_digitBytes word ends]

/-- A text is read back. -/
theorem text_plain {cs : List Char} (verbatim : ∀ c ∈ cs, Verbatim c) (expected : String)
    (rest : List UInt8) :
    text expected (plain (Writer.text cs) ++ rest) = .ok (String.ofList cs, rest) := by
  rw [plain_text, List.cons_append, List.append_assoc, text, bind_of_ok (peek_cons rfl _)]
  exact read_plain verbatim rest

/-! ## Lists -/

/-- The bytes of documents of which each but the first follows a comma. -/
def joined (isFirst : Bool) : List Writer.Document → List UInt8
  | [] => []
  | d :: ds => lead isFirst ++ (plain d ++ joined false ds)

theorem plain_commaSeparated (ds : List Writer.Document) :
    plain (Writer.commaSeparated ds) = joined true ds := by
  induction ds with
  | nil => rfl
  | cons d ds ih =>
      cases ds with
      | nil => exact (List.append_nil _).symm
      | cons next ds =>
          have hcomma : joined true (d :: next :: ds) = plain d ++ 0x2c :: joined true (next :: ds) :=
            rfl
          rw [hcomma, Writer.commaSeparated, plain_append, plain_cons, ih]
          · rfl
          · exact List.cons_ne_nil _ _

/-- Documents that are not empty take at least as many bytes as there are of them. -/
theorem length_le_joined {ds : List Writer.Document} (nonempty : ∀ d ∈ ds, plain d ≠ [])
    (isFirst : Bool) : ds.length ≤ (joined isFirst ds).length := by
  induction ds generalizing isFirst with
  | nil => exact Nat.le_refl 0
  | cons d ds ih =>
      have hd := List.length_pos_iff.mpr (nonempty d List.mem_cons_self)
      have hrest := ih (fun later hlater => nonempty later (List.mem_cons_of_mem d hlater)) false
      rw [joined, List.length_append, List.length_append, List.length_cons]
      omega

/-- The document begins with a byte that begins a value and ends no list. -/
def Opens (d : Writer.Document) : Prop :=
  ∃ byte bytes, plain d = byte :: bytes ∧ isSpace byte = false ∧ byte ≠ 0x5d

theorem Opens.plain_ne_nil {d : Writer.Document} (opens : Opens d) : plain d ≠ [] := by
  obtain ⟨byte, bytes, hbytes, -⟩ := opens
  rw [hbytes]
  exact List.cons_ne_nil _ _

theorem hasElement_lead {d : Writer.Document} (opens : Opens d) (isFirst : Bool)
    (rest : List UInt8) :
    hasElement isFirst (lead isFirst ++ (plain d ++ rest)) = .ok (true, plain d ++ rest) := by
  obtain ⟨byte, bytes, hbytes, hdark, hinside⟩ := opens
  rw [hbytes, List.cons_append, hasElement]
  cases isFirst with
  | true =>
      change (peek >>= _) (byte :: (bytes ++ rest)) = _
      rw [bind_of_ok (peek_cons hdark _)]
      simp only [if_neg hinside, if_true]
      rfl
  | false =>
      change (peek >>= _) (0x2c :: byte :: (bytes ++ rest)) = _
      rw [bind_of_ok (peek_cons rfl _)]
      dsimp only
      rw [if_neg (by decide), if_neg (by decide), if_pos rfl, advance_bind_apply,
        bind_of_ok (peek_cons hdark _)]
      dsimp only
      rw [if_neg hinside]
      rfl

theorem hasElement_closing (isFirst : Bool) (rest : List UInt8) :
    hasElement isFirst (0x5d :: rest) = .ok (false, 0x5d :: rest) := by
  rw [hasElement, bind_of_ok (peek_cons rfl rest)]
  rfl

section

variable {item : Reader α} {write : α → Writer.Document} {xs : List α}
  (reads : ∀ x ∈ xs, ∀ rest, item (plain (write x) ++ rest) = .ok (x, rest))
  (opens : ∀ x ∈ xs, Opens (write x))
include reads opens

/-- The elements of a list are read back one after the other. -/
theorem elements_joined {fuel : Nat} (enough : xs.length < fuel) (isFirst : Bool)
    (rest : List UInt8) :
    elements item fuel isFirst (joined isFirst (xs.map write) ++ 0x5d :: rest) =
      .ok (xs, 0x5d :: rest) := by
  induction xs generalizing fuel isFirst with
  | nil =>
      obtain ⟨fuel, rfl⟩ := Nat.exists_eq_add_one.mpr enough
      rw [elements, List.map_nil, joined, List.nil_append, bind_of_ok (hasElement_closing _ _)]
      rfl
  | cons x xs ih =>
      obtain ⟨fuel, rfl⟩ := Nat.exists_eq_add_one.mpr (Nat.zero_lt_of_lt enough)
      have hhead := reads x List.mem_cons_self (joined false (xs.map write) ++ 0x5d :: rest)
      have hrest := ih (fun later hlater => reads later (List.mem_cons_of_mem x hlater))
        (fun later hlater => opens later (List.mem_cons_of_mem x hlater))
        (Nat.lt_of_succ_lt_succ enough) false
      rw [elements, List.map_cons, joined, List.append_assoc, List.append_assoc,
        bind_of_ok (hasElement_lead (opens x List.mem_cons_self) isFirst _)]
      simp only [if_true]
      rw [bind_of_ok hhead, bind_of_ok hrest]
      rfl

/-- A list is read back if its elements are. -/
theorem list_plain (rest : List UInt8) :
    list item (plain (Writer.list (xs.map write)) ++ rest) = .ok (xs, rest) := by
  have hbytes : plain (Writer.list (xs.map write)) ++ rest =
      0x5b :: (joined true (xs.map write) ++ 0x5d :: rest) := by
    rw [Writer.list, List.cons_append, plain_cons, plain_append, plain_commaSeparated]
    simp only [List.append_assoc]
    rfl
  have henough : xs.length < (joined true (xs.map write) ++ 0x5d :: rest).length + 1 := by
    have hnonempty : ∀ d ∈ xs.map write, plain d ≠ [] := by
      intro d hmem
      obtain ⟨x, hx, rfl⟩ := List.mem_map.mp hmem
      exact (opens x hx).plain_ne_nil
    have hlength := length_le_joined hnonempty true
    rw [List.length_map] at hlength
    rw [List.length_append]
    omega
  have hget : ∀ bytes, (get : Reader (List UInt8)) bytes = .ok (bytes, bytes) := fun _ => rfl
  have hclose : close false (0x5d :: rest) = .ok ((), rest) := by
    rw [close, bind_of_ok (peek_cons rfl rest)]
    rfl
  rw [hbytes, list, bind_of_ok (peek_cons rfl _)]
  simp only [advance_bind_apply]
  rw [bind_of_ok (hget _), bind_of_ok (elements_joined reads opens henough true rest),
    bind_of_ok hclose]
  rfl

end

/-! ## Records -/

/-- The document of a named field. -/
def memberDocument (member : List Char × Writer.Document) : Writer.Document :=
  Writer.text member.1 ++ ':' :: member.2

theorem plain_memberDocument (name : List Char) (value : Writer.Document) :
    plain (memberDocument (name, value)) = 0x22 :: (plain name ++ 0x22 :: 0x3a :: plain value) := by
  rw [memberDocument, plain_append, plain_text, plain_cons, List.cons_append, List.append_assoc]
  rfl

/-- What stands between a value of a record and what follows it. -/
def Delimits (byte : UInt8) : Prop := byte = 0x2c ∨ byte = 0x7d

theorem Delimits.ends {byte : UInt8} (delimits : Delimits byte) (rest : List UInt8) :
    Number.Ends (byte :: rest) := by
  rintro _ ⟨rfl⟩
  rcases delimits with rfl | rfl <;> decide

/-- Written fields, each of which is known and not set yet, fill a draft one after the
other. -/
inductive Fills (fields : List (Field D)) : D → List (List Char × Writer.Document) → D → Prop
  | done (draft : D) : Fills fields draft [] draft
  | step {draft draft' final : D} {name : List Char} {value : Writer.Document}
      {later : List (List Char × Writer.Document)} {field : Field D}
      (verbatim : ∀ c ∈ name, Verbatim c)
      (known : fields.find? (·.name == String.ofList name) = some field)
      (unset : field.isSet draft = false)
      (reads : ∀ byte rest, Delimits byte →
        field.read draft (plain value ++ byte :: rest) = .ok (draft', byte :: rest))
      (fills : Fills fields draft' later final) : Fills fields draft ((name, value) :: later) final

variable {fields : List (Field D)} {draft final : D}
  {written : List (List Char × Writer.Document)}

/-- The fields of a record are read back one after the other. -/
theorem Fills.members_eq (fills : Fills fields draft written final) {fuel : Nat}
    (enough : written.length < fuel) (isFirst : Bool) (rest : List UInt8) :
    members fields fuel isFirst draft
        (joined isFirst (written.map memberDocument) ++ 0x7d :: rest) =
      .ok (final, 0x7d :: rest) := by
  induction fills generalizing fuel isFirst with
  | done draft =>
      obtain ⟨fuel, rfl⟩ := Nat.exists_eq_add_one.mpr enough
      exact members_closing fuel isFirst rest
  | @step draft draft' final name value later field verbatim known unset reads fills ih =>
      obtain ⟨fuel, rfl⟩ := Nat.exists_eq_add_one.mpr (Nat.zero_lt_of_lt enough)
      -- After the value comes the comma of the next field or the bracket.
      obtain ⟨byte, bytes, hdelimits, hafter⟩ : ∃ byte bytes, Delimits byte ∧
          joined false (later.map memberDocument) ++ 0x7d :: rest = byte :: bytes := by
        cases later with
        | nil => exact ⟨0x7d, rest, .inr rfl, rfl⟩
        | cons next later => exact ⟨0x2c, _, .inl rfl, rfl⟩
      have hnamed := read_plain verbatim
        (0x3a :: (plain value ++ (joined false (later.map memberDocument) ++ 0x7d :: rest)))
      have hread := reads byte bytes hdelimits
      rw [← hafter] at hread
      have hmember : members fields (fuel + 1) isFirst draft _ = members fields fuel false draft' _ :=
        members_of_field hnamed known unset hread
      rw [List.map_cons, joined, plain_memberDocument, ← ih (Nat.lt_of_succ_lt_succ enough) false,
        ← hmember]
      simp only [List.append_assoc, List.cons_append]

/-- A record is read back if its fields fill a draft. -/
theorem Fills.record_eq (fills : Fills fields draft written final) (what : String)
    (complete : fields.find? (!·.isSet final) = none) (rest : List UInt8) :
    record what fields draft (plain (Writer.record written) ++ rest) = .ok (final, rest) := by
  have hbytes : plain (Writer.record written) ++ rest =
      0x7b :: (joined true (written.map memberDocument) ++ 0x7d :: rest) := by
    have hwritten : Writer.record written =
        '\x7b' :: Writer.commaSeparated (written.map memberDocument) ++ ['\x7d'] := rfl
    rw [hwritten, List.cons_append, plain_cons, plain_append, plain_commaSeparated]
    simp only [List.append_assoc]
    rfl
  have henough : written.length <
      (joined true (written.map memberDocument) ++ 0x7d :: rest).length + 1 := by
    have hnonempty : ∀ d ∈ written.map memberDocument, plain d ≠ [] := by
      intro d hmem
      obtain ⟨⟨name, value⟩, -, rfl⟩ := List.mem_map.mp hmem
      rw [plain_memberDocument]
      exact List.cons_ne_nil _ _
    have hlength := length_le_joined hnonempty true
    rw [List.length_map] at hlength
    rw [List.length_append]
    omega
  rw [hbytes]
  exact record_of_members (fills.members_eq henough true rest) complete

/-- A record opens with its bracket. -/
theorem opens_record (written : List (List Char × Writer.Document)) :
    Opens (Writer.record written) :=
  ⟨0x7b, _, rfl, rfl, by decide⟩

end Reader

end Clearinghouse.Json
