import AccessWeave.Json.Reader
import AccessWeave.Json.Writer
import Mathlib.Data.List.Basic

/-!
# Written documents are read back

Whatever can be spelled is read back from its written form. Blanks stand only between items,
where the reader skips them, and a number is followed by a comma, a new line or nothing, so it
ends where it was meant to. The reader is given more fuel than there are bytes, which is why
nesting has no bound. What the parts of a document mean is left open here.
-/

namespace AccessWeave.Json

open Decimal (Digit digitByte digitOfByte digit_of_byte_digit_byte zeroDigit)

/-! ## Digits and numbers -/

theorem read_digits_written (digits : List Digit) (rest : List UInt8)
    (stop : ∀ byte ∈ rest.head?, digitOfByte byte = none) :
    readDigits (digits.map digitByte ++ rest) = (digits, rest) := by
  induction digits with
  | nil =>
      cases rest with
      | nil => rfl
      | cons byte rest =>
          have noDigit : digitOfByte byte = none := stop byte rfl
          simp only [List.map_nil, List.nil_append, readDigits, noDigit]
  | cons digit digits induction =>
      simp only [List.map_cons, List.cons_append, readDigits, digit_of_byte_digit_byte, induction]

/-- A number literal that follows the format: a digit before the point, no zero in front of
other digits, and a digit in the exponent. -/
structure NumberLiteral.Spelled (literal : NumberLiteral) : Prop where
  whole : literal.whole ≠ []
  leading : literal.whole.length = 1 ∨ ∀ digit ∈ literal.whole.head?, digit.val ≠ 0
  exponent : ∀ exponent ∈ literal.exponent, exponent.digits ≠ []

/-- What may stand behind a value that was written: a comma, a new line or nothing. -/
def Delimited (suffix : List UInt8) : Prop :=
  ∀ byte ∈ suffix.head?, byte = 0x2C ∨ byte = 0x0A

theorem Delimited.no_digit {suffix : List UInt8} (delimited : Delimited suffix) :
    ∀ byte ∈ suffix.head?, digitOfByte byte = none := by
  intro byte first
  rcases delimited byte first with rfl | rfl <;> rfl

theorem read_whole_written {whole : List Digit} {rest : List UInt8} (present : whole ≠ [])
    (leading : whole.length = 1 ∨ ∀ digit ∈ whole.head?, digit.val ≠ 0)
    (stop : ∀ byte ∈ rest.head?, digitOfByte byte = none) :
    readWhole (whole.map digitByte ++ rest) = some (whole, rest) := by
  rw [readWhole, read_digits_written whole rest stop]
  match whole with
  | [] => exact (present rfl).elim
  | [digit] => rfl
  | digit :: second :: digits =>
      have nonzero : digit.val ≠ 0 := by
        rcases leading with single | nonzero
        · simp at single
        · exact nonzero digit rfl
      simp only [if_neg nonzero]

theorem read_fraction_written (fraction : List Digit) (rest : List UInt8)
    (stop : ∀ byte ∈ rest.head?, digitOfByte byte = none) (noPoint : rest.head? ≠ some 0x2E) :
    readFraction ((if fraction.isEmpty then [] else 0x2E :: fraction.map digitByte) ++ rest) =
      some (fraction, rest) := by
  cases fraction with
  | nil =>
      simp only [List.isEmpty_nil, if_true, List.nil_append]
      unfold readFraction
      split
      · next point => exact (noPoint rfl).elim
      · rfl
  | cons digit fraction =>
      simp only [List.isEmpty_cons, Bool.false_eq_true, if_false, List.cons_append, readFraction]
      simp only [read_digits_written (digit :: fraction) rest stop]

theorem read_exponent_written (exponent : Option Exponent)
    (digits : ∀ item ∈ exponent, item.digits ≠ []) {suffix : List UInt8}
    (delimited : Delimited suffix) :
    readExponent (writeExponent exponent ++ suffix) = some (exponent, suffix) := by
  cases exponent with
  | none =>
      cases suffix with
      | nil => rfl
      | cons byte rest =>
          rcases delimited byte rfl with rfl | rfl <;> rfl
  | some exponent =>
      rcases exponent with ⟨negative, size⟩
      have present : size ≠ [] := digits _ rfl
      have read : readExponentDigits negative (size.map digitByte ++ suffix) =
          some (some ⟨negative, size⟩, suffix) := by
        rw [readExponentDigits, read_digits_written size suffix delimited.no_digit]
        cases size with
        | nil => exact (present rfl).elim
        | cons digit size => rfl
      cases negative with
      | true => simpa [writeExponent, readExponent] using read
      | false => simpa [writeExponent, readExponent] using read

/-- What may stand behind the whole part of a number, or behind its fraction. -/
theorem exponent_no_digit (exponent : Option Exponent) {suffix : List UInt8}
    (delimited : Delimited suffix) :
    (∀ byte ∈ (writeExponent exponent ++ suffix).head?, digitOfByte byte = none) ∧
      (writeExponent exponent ++ suffix).head? ≠ some 0x2E := by
  cases exponent with
  | none =>
      refine ⟨delimited.no_digit, ?_⟩
      intro point
      rcases delimited 0x2E point with impossible | impossible <;> cases impossible
  | some exponent =>
      constructor
      · intro byte first
        cases first
        rfl
      · intro point
        cases point

theorem read_unsigned_written {literal : NumberLiteral} (spelled : literal.Spelled)
    {suffix : List UInt8} (delimited : Delimited suffix) :
    readUnsigned literal.negative
        (literal.whole.map digitByte
          ++ ((if literal.fraction.isEmpty then [] else 0x2E :: literal.fraction.map digitByte)
          ++ (writeExponent literal.exponent ++ suffix))) = some (literal, suffix) := by
  rcases exponent_no_digit literal.exponent delimited with ⟨noDigit, noPoint⟩
  have behindWhole : ∀ byte ∈ ((if literal.fraction.isEmpty then []
      else 0x2E :: literal.fraction.map digitByte)
        ++ (writeExponent literal.exponent ++ suffix)).head?, digitOfByte byte = none := by
    split
    · exact noDigit
    · intro byte first
      cases first
      rfl
  rw [readUnsigned, read_whole_written spelled.whole spelled.leading behindWhole]
  simp only [Option.bind_eq_bind, Option.bind_some,
    read_fraction_written literal.fraction _ noDigit noPoint,
    read_exponent_written literal.exponent spelled.exponent delimited]

theorem digit_byte_cases (digit : Digit) :
    digitByte digit ∈ [0x30, 0x31, 0x32, 0x33, 0x34, 0x35, 0x36, 0x37, 0x38, 0x39] := by
  revert digit
  decide

/-- The first byte of a number: its sign or its first digit. -/
theorem write_number_head {literal : NumberLiteral} (spelled : literal.Spelled) :
    ∃ byte rest, writeNumber literal = byte :: rest ∧
      byte ∈ [0x2D, 0x30, 0x31, 0x32, 0x33, 0x34, 0x35, 0x36, 0x37, 0x38, 0x39] := by
  cases whole : literal.whole with
  | nil => exact (spelled.whole whole).elim
  | cons digit digits =>
      cases sign : literal.negative with
      | true => exact ⟨0x2D, _, by simp [writeNumber, sign]; rfl, by decide⟩
      | false =>
          refine ⟨digitByte digit, _, by simp [writeNumber, sign, whole]; rfl, ?_⟩
          exact List.mem_cons_of_mem _ (digit_byte_cases digit)

theorem read_number_written {literal : NumberLiteral} (spelled : literal.Spelled)
    {suffix : List UInt8} (delimited : Delimited suffix) :
    readNumber (writeNumber literal ++ suffix) = some (literal, suffix) := by
  have read := read_unsigned_written spelled delimited
  cases sign : literal.negative with
  | true =>
      rw [sign] at read
      simpa only [writeNumber, sign, if_true, List.append_assoc, List.cons_append,
        List.nil_append, readNumber] using read
  | false =>
      rw [sign] at read
      cases whole : literal.whole with
      | nil => exact (spelled.whole whole).elim
      | cons digit digits =>
          simp only [writeNumber, sign, Bool.false_eq_true, if_false, List.nil_append, whole,
            List.map_cons, List.cons_append, List.append_assoc]
          rw [whole, List.map_cons, List.cons_append] at read
          unfold readNumber
          split
          · next rest minus =>
              have head := (List.cons.inj minus).1
              have among := digit_byte_cases digit
              rw [head] at among
              exact absurd among (by decide)
          · exact read

/-! ## Strings -/

theorem hex_value_written : ∀ value < 16, hexValue (hexDigitByte value) = some value := by
  decide

theorem control_letters : ∀ byte : UInt8, byte < 0x20 →
    hexQuad 0x30 0x30 (hexDigitByte (byte.toNat / 16)) (hexDigitByte (byte.toNat % 16)) =
      some byte.toNat := by
  intro byte control
  have bound : byte.toNat < 32 := control
  have high := hex_value_written (byte.toNat / 16) (by omega)
  have low := hex_value_written (byte.toNat % 16) (by omega)
  have zero : hexValue 0x30 = some 0 := rfl
  simp only [hexQuad, zero, high, low, Option.bind_eq_bind, Option.bind_some, Option.some.injEq]
  omega

/-- The three ways in which a byte of a string is written. -/
theorem escape_byte_cases (byte : UInt8) :
    (∃ letter, escapeByte byte = [0x5C, letter] ∧ letter ≠ 0x75 ∧
      letterEscape letter = some byte) ∨
    (byte < 0x20 ∧ escapeByte byte =
      [0x5C, 0x75, 0x30, 0x30, hexDigitByte (byte.toNat / 16), hexDigitByte (byte.toNat % 16)]) ∨
    (byte ≠ 0x22 ∧ byte ≠ 0x5C ∧ ¬byte < 0x20 ∧ escapeByte byte = [byte]) := by
  by_cases quote : byte = 0x22
  · exact Or.inl ⟨0x22, by rw [quote]; rfl, by decide, by rw [quote]; rfl⟩
  by_cases backslash : byte = 0x5C
  · exact Or.inl ⟨0x5C, by rw [backslash]; rfl, by decide, by rw [backslash]; rfl⟩
  by_cases back : byte = 0x08
  · exact Or.inl ⟨0x62, by rw [back]; rfl, by decide, by rw [back]; rfl⟩
  by_cases form : byte = 0x0C
  · exact Or.inl ⟨0x66, by rw [form]; rfl, by decide, by rw [form]; rfl⟩
  by_cases line : byte = 0x0A
  · exact Or.inl ⟨0x6E, by rw [line]; rfl, by decide, by rw [line]; rfl⟩
  by_cases start : byte = 0x0D
  · exact Or.inl ⟨0x72, by rw [start]; rfl, by decide, by rw [start]; rfl⟩
  by_cases tab : byte = 0x09
  · exact Or.inl ⟨0x74, by rw [tab]; rfl, by decide, by rw [tab]; rfl⟩
  rw [escapeByte, if_neg quote, if_neg backslash, if_neg back, if_neg form, if_neg line,
    if_neg start, if_neg tab]
  by_cases control : byte < 0x20
  · exact Or.inr (Or.inl ⟨control, if_pos control⟩)
  · exact Or.inr (Or.inr ⟨quote, backslash, control, if_neg control⟩)

theorem read_raw_letter {letter byte : UInt8} (plain : letter ≠ 0x75)
    (named : letterEscape letter = some byte) (rest : List UInt8) :
    readRaw (0x5C :: letter :: rest) =
      (readRaw rest).map fun found => (0x5C :: letter :: found.1, found.2) := by
  rw [readRaw.eq_def]
  split
  · next empty => cases empty
  · next quote => cases (List.cons.inj quote).1
  · next unicode =>
      obtain ⟨letterIs, _⟩ := List.cons.inj (List.cons.inj unicode).2
      exact (plain letterIs).elim
  · next same =>
      obtain ⟨rfl, rfl⟩ := List.cons.inj (List.cons.inj same).2
      cases readRaw rest <;> simp [named]
  · next outside same =>
      obtain ⟨rfl, rfl⟩ := List.cons.inj same
      exact (outside letter rest rfl rfl).elim

theorem read_raw_control {byte : UInt8} (control : byte < 0x20) (rest : List UInt8) :
    readRaw (0x5C :: 0x75 :: 0x30 :: 0x30 :: hexDigitByte (byte.toNat / 16) ::
        hexDigitByte (byte.toNat % 16) :: rest) =
      (readRaw rest).map fun found =>
        (0x5C :: 0x75 :: 0x30 :: 0x30 :: hexDigitByte (byte.toNat / 16) ::
          hexDigitByte (byte.toNat % 16) :: found.1, found.2) := by
  cases read : readRaw rest <;> simp [readRaw, control_letters byte control, read]

theorem read_raw_plain {byte : UInt8} (noQuote : byte ≠ 0x22) (noBackslash : byte ≠ 0x5C)
    (noControl : ¬byte < 0x20) (rest : List UInt8) :
    readRaw (byte :: rest) =
      (readRaw rest).map fun found => (byte :: found.1, found.2) := by
  rw [readRaw.eq_def]
  split
  · next empty => cases empty
  · next quote => exact (noQuote (List.cons.inj quote).1).elim
  · next unicode => exact (noBackslash (List.cons.inj unicode).1).elim
  · next escaped => exact (noBackslash (List.cons.inj escaped).1).elim
  · next same =>
      obtain ⟨rfl, rfl⟩ := List.cons.inj same
      cases readRaw rest <;> simp [noBackslash, noControl]

theorem read_raw_escape (bytes suffix : List UInt8) :
    readRaw (escape bytes ++ 0x22 :: suffix) = some (escape bytes, suffix) := by
  induction bytes with
  | nil => simp [escape, readRaw]
  | cons byte bytes induction =>
      have front : escape (byte :: bytes) = escapeByte byte ++ escape bytes := rfl
      rw [front, List.append_assoc]
      rcases escape_byte_cases byte with
        ⟨letter, written, plain, named⟩ | ⟨control, written⟩ |
          ⟨noQuote, noBackslash, noControl, written⟩
      · rw [written, List.cons_append, List.cons_append, List.nil_append,
          read_raw_letter plain named, induction]
        rfl
      · simp only [written, List.cons_append, List.nil_append]
        rw [read_raw_control control, induction]
        rfl
      · rw [written, List.cons_append, List.nil_append,
          read_raw_plain noQuote noBackslash noControl, induction]
        rfl

theorem read_raw_text (text : String) (suffix : List UInt8) :
    readRaw (rawOfText text ++ 0x22 :: suffix) = some (rawOfText text, suffix) :=
  read_raw_escape (Text.toBytes text) suffix

/-! ## Documents -/

mutual

/-- A document that can be written: its strings and names spell texts, its numbers follow the
format. -/
def Document.Spelled : Document → Prop
  | .number literal => literal.Spelled
  | .string raw => ∃ text, raw = rawOfText text
  | .array items => ItemsSpelled items
  | .object members => MembersSpelled members
  | _ => True

def ItemsSpelled : List Document → Prop
  | [] => True
  | item :: items => item.Spelled ∧ ItemsSpelled items

def MembersSpelled : List (List UInt8 × Document) → Prop
  | [] => True
  | (name, value) :: members =>
      (∃ text, name = rawOfText text) ∧ value.Spelled ∧ MembersSpelled members

end

/-- Blanks in front of something else are passed over. -/
theorem skip_new_line (depth : Nat) (rest : List UInt8) :
    skipBlanks (newLine depth ++ rest) = skipBlanks rest := by
  have spaces : ∀ count, skipBlanks (List.replicate count 0x20 ++ rest) = skipBlanks rest := by
    intro count
    induction count with
    | zero => rfl
    | succ count induction =>
        rw [List.replicate_succ, List.cons_append, skipBlanks, if_pos (by decide), induction]
  rw [newLine, List.cons_append, skipBlanks, if_pos (by decide), spaces]

theorem skip_no_blank {byte : UInt8} (solid : isJsonBlank byte = false) (rest : List UInt8) :
    skipBlanks (byte :: rest) = byte :: rest := by
  rw [skipBlanks, solid, if_neg Bool.false_ne_true]

/-- What stands behind an item or a member: the next one or the closing bracket. -/
theorem write_items_delimited (depth : Nat) (items : List Document) (suffix : List UInt8) :
    Delimited (writeItems depth items ++ suffix) := by
  intro byte first
  cases items with
  | nil =>
      cases first
      exact Or.inr rfl
  | cons item items =>
      simp only [writeItems, List.cons_append, List.nil_append, List.append_assoc,
        List.head?_cons, Option.mem_some_iff] at first
      exact Or.inl first.symm

theorem write_members_delimited (depth : Nat) (members : List (List UInt8 × Document))
    (suffix : List UInt8) : Delimited (writeMembers depth members ++ suffix) := by
  intro byte first
  cases members with
  | nil =>
      cases first
      exact Or.inr rfl
  | cons member members =>
      rcases member with ⟨name, value⟩
      simp only [writeMembers, List.cons_append, List.nil_append, List.append_assoc,
        List.head?_cons, Option.mem_some_iff] at first
      exact Or.inl first.symm

/-! What follows the first byte of a document is told by that byte. -/

theorem read_number_document {byte : UInt8} {input rest suffix : List UInt8}
    {literal : NumberLiteral} (starts : skipBlanks input = byte :: rest)
    (first : byte ∈ [0x2D, 0x30, 0x31, 0x32, 0x33, 0x34, 0x35, 0x36, 0x37, 0x38, 0x39])
    (read : readNumber (byte :: rest) = some (literal, suffix)) (fuel : Nat) :
    readDocument (fuel + 1) input = some (.number literal, suffix) := by
  simp only [List.mem_cons, List.not_mem_nil, or_false] at first
  rcases first with rfl | rfl | rfl | rfl | rfl | rfl | rfl | rfl | rfl | rfl | rfl <;>
    simp [readDocument, starts, read]

theorem read_array_document {input rest afterItem suffix : List UInt8} {item : Document}
    {items : List Document} {fuel : Nat} (starts : skipBlanks input = 0x5B :: rest)
    (open' : (skipBlanks rest).head? ≠ some 0x5D)
    (readItem : readDocument fuel rest = some (item, afterItem))
    (readRest : readItems fuel afterItem = some (items, suffix)) :
    readDocument (fuel + 1) input = some (.array (item :: items), suffix) := by
  simp only [readDocument, starts]
  split
  · next closed => simp [closed] at open'
  · simp [readItem, readRest]

theorem read_object_document {input rest afterMember suffix : List UInt8}
    {member : List UInt8 × Document} {members : List (List UInt8 × Document)} {fuel : Nat}
    (starts : skipBlanks input = 0x7B :: rest) (open' : (skipBlanks rest).head? ≠ some 0x7D)
    (readFirst : readMember fuel rest = some (member, afterMember))
    (readRest : readMembers fuel afterMember = some (members, suffix)) :
    readDocument (fuel + 1) input = some (.object (member :: members), suffix) := by
  simp only [readDocument, starts]
  split
  · next closed => simp [closed] at open'
  · simp [readFirst, readRest]

theorem read_next_item {rest afterItem suffix : List UInt8} {item : Document}
    {items : List Document} {fuel : Nat}
    (readItem : readDocument fuel rest = some (item, afterItem))
    (readRest : readItems fuel afterItem = some (items, suffix)) :
    readItems (fuel + 1) (0x2C :: rest) = some (item :: items, suffix) := by
  rw [readItems, skip_no_blank (by decide)]
  simp [readItem, readRest]

theorem read_next_member {rest afterMember suffix : List UInt8}
    {member : List UInt8 × Document} {members : List (List UInt8 × Document)} {fuel : Nat}
    (readFirst : readMember fuel rest = some (member, afterMember))
    (readRest : readMembers fuel afterMember = some (members, suffix)) :
    readMembers (fuel + 1) (0x2C :: rest) = some (member :: members, suffix) := by
  rw [readMembers, skip_no_blank (by decide)]
  simp [readFirst, readRest]

/-- No written document begins with a closing bracket or with a blank. -/
theorem write_document_head {document : Document} (spelled : document.Spelled) (depth : Nat) :
    ∃ byte rest, writeDocument depth document = byte :: rest ∧
      isJsonBlank byte = false ∧ byte ≠ 0x5D := by
  cases document with
  | null => exact ⟨_, _, rfl, rfl, by decide⟩
  | boolean value => cases value <;> exact ⟨_, _, rfl, rfl, by decide⟩
  | number literal =>
      have starts : ∀ byte ∈ [0x2D, 0x30, 0x31, 0x32, 0x33, 0x34, 0x35, 0x36, 0x37, 0x38, 0x39],
          isJsonBlank byte = false ∧ byte ≠ 0x5D := by decide +kernel
      rcases write_number_head spelled with ⟨byte, rest, written, among⟩
      exact ⟨byte, rest, written, starts byte among⟩
  | string raw => exact ⟨_, _, rfl, rfl, by decide⟩
  | array items =>
      cases items with
      | nil => exact ⟨_, _, rfl, rfl, by decide⟩
      | cons item items => exact ⟨0x5B, _, by simp [writeDocument]; rfl, rfl, by decide⟩
  | object members =>
      cases members with
      | nil => exact ⟨_, _, rfl, rfl, by decide⟩
      | cons member members => exact ⟨0x7B, _, by simp [writeDocument]; rfl, rfl, by decide⟩

/-- Behind the blanks in front of it, a written document begins at once. -/
theorem skip_to_document {document : Document} (spelled : document.Spelled) (depth : Nat)
    (suffix : List UInt8) :
    skipBlanks (writeDocument depth document ++ suffix) =
      writeDocument depth document ++ suffix := by
  rcases write_document_head spelled depth with ⟨byte, rest, written, solid, _⟩
  rw [written, List.cons_append, skip_no_blank solid]

/-- Behind the new line in front of it, an item begins. -/
theorem skip_to_item {item : Document} (spelled : item.Spelled) (depth : Nat)
    (behind : List UInt8) :
    skipBlanks (newLine depth ++ (writeDocument depth item ++ behind)) =
      writeDocument depth item ++ behind := by
  rw [skip_new_line, skip_to_document spelled]

/-- Behind the blank that follows a colon, a value begins. -/
theorem skip_to_value {value : Document} (spelled : value.Spelled) (depth : Nat)
    (behind : List UInt8) :
    skipBlanks (0x20 :: (writeDocument depth value ++ behind)) =
      writeDocument depth value ++ behind := by
  rw [skipBlanks, if_pos (by decide), skip_to_document spelled]

/-- An array with an item does not close before it. -/
theorem item_opens_array {item : Document} (spelled : item.Spelled) (depth : Nat)
    (behind : List UInt8) :
    (skipBlanks (newLine depth ++ (writeDocument depth item ++ behind))).head? ≠ some 0x5D := by
  rcases write_document_head spelled depth with ⟨byte, rest, written, _, noBracket⟩
  rw [skip_to_item spelled, written]
  intro bracket
  exact noBracket (Option.some.inj bracket)

/-- An object with a member does not close before it. -/
theorem member_opens_object (raw : List UInt8) (depth : Nat) (behind : List UInt8) :
    (skipBlanks (newLine depth ++ (writeString raw ++ behind))).head? ≠ some 0x7D := by
  rw [skip_new_line, writeString, List.cons_append, List.cons_append, skip_no_blank (by decide)]
  simp

theorem expect_front (word suffix : List UInt8) : expect word (word ++ suffix) = some suffix := by
  rw [expect, List.isPrefixOf?_eq_some_iff_append_eq]

/-- A member is read once its value is. -/
theorem read_member_written (text : String) {value : Document} {fuel : Nat} (depth : Nat)
    {afterColon suffix : List UInt8}
    (read : readDocument fuel afterColon = some (value, suffix)) :
    readMember (fuel + 1)
        (newLine depth ++ (writeString (rawOfText text) ++ 0x3A :: afterColon)) =
      some ((rawOfText text, value), suffix) := by
  have name := read_raw_text text (0x3A :: afterColon)
  rw [readMember, skip_new_line]
  simp only [writeString, List.cons_append, List.append_assoc, List.nil_append]
  rw [skip_no_blank (by decide)]
  simp [name, skip_no_blank, isJsonBlank, read]

mutual

theorem read_document_written {document : Document} (fuel : Nat) (spelled : document.Spelled)
    {depth : Nat} {input suffix : List UInt8}
    (starts : skipBlanks input = writeDocument depth document ++ suffix)
    (delimited : Delimited suffix) (enough : (writeDocument depth document).length ≤ fuel) :
    readDocument fuel input = some (document, suffix) := by
  obtain ⟨fuel, rfl⟩ : ∃ less, fuel = less + 1 := by
    rcases write_document_head spelled depth with ⟨byte, rest, written, _⟩
    rw [written, List.length_cons] at enough
    exact ⟨fuel - 1, by omega⟩
  match document with
  | .null =>
      have word : expect [0x75, 0x6C, 0x6C] (0x75 :: 0x6C :: 0x6C :: suffix) = some suffix :=
        expect_front [0x75, 0x6C, 0x6C] suffix
      simp [readDocument, starts, writeDocument, nullWord, word]
  | .boolean true =>
      have word : expect [0x72, 0x75, 0x65] (0x72 :: 0x75 :: 0x65 :: suffix) = some suffix :=
        expect_front [0x72, 0x75, 0x65] suffix
      simp [readDocument, starts, writeDocument, trueWord, word]
  | .boolean false =>
      have word : expect [0x61, 0x6C, 0x73, 0x65] (0x61 :: 0x6C :: 0x73 :: 0x65 :: suffix) =
          some suffix :=
        expect_front [0x61, 0x6C, 0x73, 0x65] suffix
      simp [readDocument, starts, writeDocument, falseWord, word]
  | .number literal =>
      rcases write_number_head spelled with ⟨byte, rest, written, among⟩
      have read := read_number_written spelled delimited
      rw [writeDocument, written, List.cons_append] at starts
      rw [written, List.cons_append] at read
      exact read_number_document starts among read fuel
  | .string raw =>
      rcases spelled with ⟨text, rfl⟩
      simp [readDocument, starts, writeDocument, writeString, read_raw_text]
  | .array [] => simp [readDocument, starts, writeDocument, skipBlanks, isJsonBlank]
  | .array (item :: items) =>
      rcases spelled with ⟨itemSpelled, itemsSpelled⟩
      simp only [writeDocument, List.length_append, List.length_cons, List.length_nil] at enough
      simp only [writeDocument, List.append_assoc, List.cons_append, List.nil_append] at starts
      have readItem := read_document_written fuel itemSpelled
        (skip_to_item itemSpelled (depth + 1) _) (write_items_delimited depth items suffix)
        (by omega)
      have readRest := read_items_written depth fuel suffix itemsSpelled (by omega)
      exact read_array_document starts (item_opens_array itemSpelled (depth + 1) _) readItem
        readRest
  | .object [] => simp [readDocument, starts, writeDocument, skipBlanks, isJsonBlank]
  | .object ((name, value) :: members) =>
      rcases spelled with ⟨⟨text, rfl⟩, valueSpelled, membersSpelled⟩
      simp only [writeDocument, writeString, List.length_append, List.length_cons,
        List.length_nil] at enough
      simp only [writeDocument, List.append_assoc, List.cons_append, List.nil_append] at starts
      obtain ⟨fuel, rfl⟩ : ∃ less, fuel = less + 1 := ⟨fuel - 1, by omega⟩
      have readValue := read_document_written fuel valueSpelled
        (skip_to_value valueSpelled (depth + 1) _) (write_members_delimited depth members suffix)
        (by omega)
      have readFirst := read_member_written text (depth + 1) readValue
      have readRest := read_members_written depth (fuel + 1) suffix membersSpelled (by omega)
      have opens := member_opens_object (rawOfText text) (depth + 1)
        (0x3A :: 0x20 :: (writeDocument (depth + 1) value
          ++ (writeMembers depth members ++ suffix)))
      exact read_object_document starts opens readFirst readRest

theorem read_items_written {items : List Document} (depth fuel : Nat) (suffix : List UInt8)
    (spelled : ItemsSpelled items)
    (enough : (writeItems depth items).length ≤ fuel) :
    readItems fuel (writeItems depth items ++ suffix) = some (items, suffix) := by
  match items with
  | [] =>
      obtain ⟨fuel, rfl⟩ : ∃ less, fuel = less + 1 := by
        simp only [writeItems, List.length_append, List.length_cons] at enough
        exact ⟨fuel - 1, by omega⟩
      rw [writeItems, List.append_assoc, readItems, skip_new_line, List.cons_append,
        skip_no_blank (by decide)]
      rfl
  | item :: items =>
      rcases spelled with ⟨itemSpelled, itemsSpelled⟩
      simp only [writeItems, List.length_append, List.length_cons, List.length_nil] at enough
      obtain ⟨fuel, rfl⟩ : ∃ less, fuel = less + 1 := ⟨fuel - 1, by omega⟩
      have readItem := read_document_written fuel itemSpelled
        (skip_to_item itemSpelled (depth + 1) _) (write_items_delimited depth items suffix)
        (by omega)
      have readRest := read_items_written depth fuel suffix itemsSpelled (by omega)
      simp only [writeItems, List.append_assoc, List.cons_append, List.nil_append]
      exact read_next_item readItem readRest

theorem read_members_written {members : List (List UInt8 × Document)} (depth fuel : Nat)
    (suffix : List UInt8) (spelled : MembersSpelled members)
    (enough : (writeMembers depth members).length ≤ fuel) :
    readMembers fuel (writeMembers depth members ++ suffix) = some (members, suffix) := by
  match members with
  | [] =>
      obtain ⟨fuel, rfl⟩ : ∃ less, fuel = less + 1 := by
        simp only [writeMembers, List.length_append, List.length_cons] at enough
        exact ⟨fuel - 1, by omega⟩
      rw [writeMembers, List.append_assoc, readMembers, skip_new_line, List.cons_append,
        skip_no_blank (by decide)]
      rfl
  | (name, value) :: members =>
      rcases spelled with ⟨⟨text, rfl⟩, valueSpelled, membersSpelled⟩
      simp only [writeMembers, writeString, List.length_append, List.length_cons,
        List.length_nil] at enough
      obtain ⟨fuel, rfl⟩ : ∃ less, fuel = less + 2 := ⟨fuel - 2, by omega⟩
      have readValue := read_document_written fuel valueSpelled
        (skip_to_value valueSpelled (depth + 1) _) (write_members_delimited depth members suffix)
        (by omega)
      have readFirst := read_member_written text (depth + 1) readValue
      have readRest := read_members_written depth (fuel + 1) suffix membersSpelled (by omega)
      simp only [writeMembers, List.append_assoc, List.cons_append, List.nil_append]
      exact read_next_member readFirst readRest

end

/-- What was written is read back. -/
theorem read_write {document : Document} (spelled : document.Spelled) :
    read (write document) = some document := by
  have starts : skipBlanks (write document) = writeDocument 0 document ++ [] := by
    have skipped := skip_to_document spelled 0 []
    rw [List.append_nil] at skipped ⊢
    exact skipped
  have whole := read_document_written ((write document).length + 1) spelled starts
    (fun _ none => by cases none) (Nat.le_succ _)
  rw [read, whole]
  rfl

end AccessWeave.Json
