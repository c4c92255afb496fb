import AccessWeave.Json.Record
import AccessWeave.Proofs.Json.Spelling

/-!
# Parts of documents mean what they were made of

Texts, integers, lists and records are made into documents that can be written, and a reader
that expects them gets back what they were made of. An integer has to fit sixty-four bits, with
or without sign; a text may hold anything. Floating point numbers are left out here.
-/

namespace AccessWeave.Json

open Decimal (Digit digitsOf lastDigit value_of_digits_of)

/-! ## Texts -/

theorem character_of_control : ∀ code < 32, characterBytes code = [UInt8.ofNat code] := by
  decide

theorem unescape_letter {letter byte : UInt8} (plain : letter ≠ 0x75)
    (named : letterEscape letter = some byte) (rest : List UInt8) :
    unescape (0x5C :: letter :: rest) = (unescape rest).map (byte :: ·) := by
  rw [unescape.eq_def]
  split
  · next empty => cases empty
  · next unicode =>
      obtain ⟨letterIs, _⟩ := List.cons.inj (List.cons.inj unicode).2
      exact (plain letterIs).elim
  · next same =>
      obtain ⟨rfl, rfl⟩ := List.cons.inj (List.cons.inj same).2
      cases unescape rest <;> simp [named]
  · next outside same =>
      obtain ⟨rfl, rfl⟩ := List.cons.inj same
      exact (outside letter rest rfl rfl).elim

theorem unescape_control {byte : UInt8} (control : byte < 0x20) (rest : List UInt8) :
    unescape (0x5C :: 0x75 :: 0x30 :: 0x30 :: hexDigitByte (byte.toNat / 16) ::
        hexDigitByte (byte.toNat % 16) :: rest) = (unescape rest).map (byte :: ·) := by
  have bound : byte.toNat < 32 := control
  have high : isHighSurrogate byte.toNat = false := by
    simp [isHighSurrogate]
    omega
  have low : isLowSurrogate byte.toNat = false := by
    simp [isLowSurrogate]
    omega
  cases read : unescape rest <;>
    simp [unescape, control_letters byte control, high, low, read,
      character_of_control byte.toNat bound]

theorem unescape_plain {byte : UInt8} (noBackslash : byte ≠ 0x5C) (rest : List UInt8) :
    unescape (byte :: rest) = (unescape rest).map (byte :: ·) := by
  rw [unescape.eq_def]
  split
  · next empty => cases empty
  · next unicode => exact (noBackslash (List.cons.inj unicode).1).elim
  · next escaped => exact (noBackslash (List.cons.inj escaped).1).elim
  · next same =>
      obtain ⟨rfl, rfl⟩ := List.cons.inj same
      cases unescape rest <;> simp [noBackslash]

theorem unescape_escape (bytes : List UInt8) : unescape (escape bytes) = some bytes := by
  induction bytes with
  | nil => simp [escape, unescape]
  | cons byte bytes induction =>
      have front : escape (byte :: bytes) = escapeByte byte ++ escape bytes := rfl
      rw [front]
      rcases escape_byte_cases byte with
        ⟨letter, written, plain, named⟩ | ⟨control, written⟩ | ⟨_, noBackslash, _, written⟩
      · rw [written, List.cons_append, List.cons_append, List.nil_append,
          unescape_letter plain named, induction]
        rfl
      · simp only [written, List.cons_append, List.nil_append]
        rw [unescape_control control, induction]
        rfl
      · rw [written, List.cons_append, List.nil_append, unescape_plain noBackslash, induction]
        rfl

theorem text_of_raw_text (text : String) : textOfRaw (rawOfText text) = some text := by
  rw [textOfRaw, rawOfText, unescape_escape]
  exact Text.of_bytes_to_bytes text

/-! ## Integers -/

theorem digits_of_ne_nil (value : Nat) : digitsOf value ≠ [] := by
  rw [digitsOf]
  split <;> simp

/-- Only zero begins with a zero. -/
theorem digits_of_leading {value : Nat} (positive : 0 < value) :
    ∀ digit ∈ (digitsOf value).head?, digit.val ≠ 0 := by
  induction value using Nat.strongRecOn with
  | ind value induction =>
      rw [digitsOf]
      split
      · next small =>
          intro digit first
          cases first
          simp only [lastDigit]
          omega
      · next large =>
          rw [List.head?_append_of_ne_nil _ (digits_of_ne_nil _)]
          exact induction (value / 10) (by omega) (by omega)

theorem digits_of_spelled (value : Nat) :
    (digitsOf value).length = 1 ∨ ∀ digit ∈ (digitsOf value).head?, digit.val ≠ 0 := by
  rcases Nat.eq_zero_or_pos value with zero | positive
  · left
    rw [zero, digitsOf]
    rfl
  · exact Or.inr (digits_of_leading positive)

theorem NumberLiteral.of_int_spelled (value : Int) : (NumberLiteral.ofInt value).Spelled :=
  ⟨digits_of_ne_nil _, digits_of_spelled _, fun _ none => by cases none⟩

theorem NumberLiteral.quantity_of_int (value : Int) (least : Int64.minValue.toInt ≤ value)
    (greatest : value < UInt64.size) :
    (NumberLiteral.ofInt value).quantity = some (.integer value) := by
  have isWhole : (NumberLiteral.ofInt value).isWhole = true := rfl
  have magnitude : Decimal.valueOf (NumberLiteral.ofInt value).whole = value.natAbs :=
    value_of_digits_of value.natAbs
  by_cases sign : value < 0
  · have negative : (NumberLiteral.ofInt value).negative = true := by simpa [ofInt] using sign
    have positive : 0 < value.natAbs := by omega
    have same : -(value.natAbs : Int) = value := by omega
    simp only [quantity, isWhole, magnitude, negative, positive, same, Bool.not_true,
      Bool.and_false, Bool.false_and, Bool.false_eq_true, if_false, Bool.and_self, decide_true,
      least, if_true]
  · have negative : (NumberLiteral.ofInt value).negative = false := by
      simpa [ofInt] using sign
    have bound : value.natAbs < UInt64.size := by omega
    have same : (value.natAbs : Int) = value := by omega
    simp [quantity, isWhole, magnitude, negative, bound, same]

namespace Document

theorem integer_of_int (least greatest value : Int) (bounds : least ≤ value ∧ value ≤ greatest)
    (smallest : Int64.minValue.toInt ≤ least) (largest : greatest < UInt64.size) :
    (ofInt value).integer? least greatest = some value := by
  have meaning := NumberLiteral.quantity_of_int value (by omega) (by omega)
  simp [ofInt, integer?, meaning, bounds]

theorem natural_of_int {bound value : Nat} (below : value < bound) (most : bound ≤ UInt64.size) :
    (ofInt value).natural? bound = some value := by
  have integer := integer_of_int 0 (bound - 1) value (by omega) (by decide) (by omega)
  rw [natural?, integer]
  rfl

theorem uint8_of_int (value : UInt8) : (ofInt value.toNat).uint8? = some value := by
  rw [uint8?, natural_of_int value.toNat_lt (by decide)]
  simp

theorem uint16_of_int (value : UInt16) : (ofInt value.toNat).uint16? = some value := by
  rw [uint16?, natural_of_int value.toNat_lt (by decide)]
  simp

theorem uint32_of_int (value : UInt32) : (ofInt value.toNat).uint32? = some value := by
  rw [uint32?, natural_of_int value.toNat_lt (by decide)]
  simp

theorem int32_of_int (value : Int32) : (ofInt value.toInt).int32? = some value := by
  rw [int32?, integer_of_int _ _ _ ⟨value.minValue_le_toInt, value.toInt_le⟩ (by decide)
    (by decide)]
  simp

theorem int64_of_int (value : Int64) : (ofInt value.toInt).int64? = some value := by
  rw [int64?, integer_of_int _ _ _ ⟨value.minValue_le_toInt, value.toInt_le⟩ (by decide)
    (by decide)]
  simp

/-! ## Records -/

theorem map_m_of_each {Value Other : Type} {read : Value → Option Other}
    {target : Value → Other} {values : List Value}
    (each : ∀ value ∈ values, read value = some (target value)) :
    values.mapM read = some (values.map target) := by
  induction values with
  | nil => rfl
  | cons value values induction =>
      rw [List.forall_mem_cons] at each
      rw [List.mapM_cons, each.1, induction each.2]
      rfl

theorem map_m_is_some {Value Other : Type} {read : Value → Option Other} {values : List Value} :
    (values.mapM read).isSome = true ↔ ∀ value ∈ values, (read value).isSome = true := by
  induction values with
  | nil => simp
  | cons value values induction =>
      rw [List.forall_mem_cons, ← induction, List.mapM_cons]
      cases read value <;> cases values.mapM read <;> simp

theorem map_m_same {Value : Type} {read : Value → Option Value} {values : List Value} :
    values.mapM read = some values ↔ ∀ value ∈ values, read value = some value := by
  induction values with
  | nil => simp
  | cons value values induction =>
      rw [List.forall_mem_cons, ← induction, List.mapM_cons]
      cases read value <;> cases values.mapM read <;> simp

theorem text_of_text (text : String) : (ofText text).text? = some text := text_of_raw_text text

theorem word_of_text (text : String) : (ofText text).word? = some text := by
  simp [word?, ofText, choice?, text_of_raw_text]

/-- What each item means is what the list means. -/
theorem list_of_list {Value Other : Type} (write : Value → Document)
    (read : Document → Option Other) (values : List Value) :
    (ofList write values).list? read = values.mapM fun value => read (write value) := by
  rw [ofList, list?, List.mapM_map]
  rfl

theorem list_of_same {Value : Type} {write : Value → Document} {read : Document → Option Value}
    (same : ∀ value, read (write value) = some value) (values : List Value) :
    (ofList write values).list? read = some values := by
  rw [list_of_list]
  exact map_m_same.mpr fun value _ => same value

theorem required_of_some {Value : Type} (read : Document → Option Value) (document : Document) :
    required? read (some document) = read document := rfl

/-- A part that may be absent: nothing is null, and something is not. -/
theorem absent_or_of_option {Value Other : Type} {write : Value → Document}
    (solid : ∀ value, write value ≠ .null) (read : Document → Option Other)
    (value : Option Value) :
    absentOr? read (some (ofOption write value)) =
      value.elim (some none) fun present => (read (write present)).map some := by
  cases value with
  | none => rfl
  | some present =>
      simp only [absentOr?, ofOption, Option.elim_some]
      unfold optional?
      split
      · next null => exact (solid present null).elim
      · rfl

theorem absent_or_text (value : Option String) :
    absentOr? text? (some (ofOption ofText value)) = some value := by
  rw [absent_or_of_option (fun _ null => by cases null)]
  cases value with
  | none => rfl
  | some text => simp [text_of_text]

theorem choice_of_field (name : String) (content : Document) :
    (ofFields [(name, content)]).choice? = some (name, some content) := by
  simp [ofFields, choice?, text_of_raw_text]

theorem named_of_distinct {fields : List (String × Document)}
    (distinct : (fields.map Prod.fst).Nodup) {field : String × Document}
    (member : field ∈ fields) : named field.1 fields = [field.2] := by
  induction fields with
  | nil => cases member
  | cons first fields induction =>
      rw [List.map_cons, List.nodup_cons] at distinct
      rcases List.mem_cons.mp member with rfl | later
      · have others : named field.1 fields = [] := by
          apply List.filterMap_eq_nil_iff.mpr
          intro other among
          have differs : other.1 ≠ field.1 := by
            intro same
            exact distinct.1 (same ▸ List.mem_map_of_mem among)
          simp [differs]
        rw [named, List.filterMap_cons_some (b := field.2) (by simp)]
        exact congrArg (field.2 :: ·) others
      · have differs : first.1 ≠ field.1 := by
          intro same
          exact distinct.1 (same ▸ List.mem_map_of_mem later)
        rw [named, List.filterMap_cons_none (by simp [differs])]
        exact induction distinct.2 later

/-- Every field of a record is found under its name, when no name is used twice. -/
theorem fields_of_fields {fields : List (String × Document)}
    (distinct : (fields.map Prod.fst).Nodup) :
    (ofFields fields).fields? (fields.map Prod.fst) =
      some (fields.map fun field => some field.2) := by
  have spelled : ((fields.map fun field => (rawOfText field.1, field.2)).mapM
      fun member => do
        let name ← textOfRaw member.1
        some (name, member.2)) = some fields := by
    have each : ∀ field ∈ fields, (do
        let name ← textOfRaw (rawOfText field.1)
        some (name, field.2)) = some (id field) := by
      intro field _
      simp [text_of_raw_text]
    have whole := map_m_of_each each
    rw [List.map_id] at whole
    rw [List.mapM_map]
    exact whole
  change (List.mapM (fun member : List UInt8 × Document => do
      let name ← textOfRaw member.1
      some (name, member.2))
    (fields.map fun field : String × Document => (rawOfText field.1, field.2))).bind _ = _
  rw [spelled, Option.bind_some, List.mapM_map]
  apply map_m_of_each
  intro field member
  simp only [Function.comp_apply, named_of_distinct distinct member]

/-! ## What can be written -/

theorem of_text_spelled (text : String) : (ofText text).Spelled := ⟨text, rfl⟩

theorem of_int_spelled (value : Int) : (ofInt value).Spelled := NumberLiteral.of_int_spelled value

theorem of_list_spelled {Value : Type} {write : Value → Document} {values : List Value}
    (each : ∀ value ∈ values, (write value).Spelled) : (ofList write values).Spelled := by
  have items : ItemsSpelled (values.map write) := by
    induction values with
    | nil => trivial
    | cons value values induction =>
        rw [List.forall_mem_cons] at each
        exact ⟨each.1, induction each.2⟩
  exact items

theorem of_option_spelled {Value : Type} {write : Value → Document} {value : Option Value}
    (each : ∀ present ∈ value, (write present).Spelled) : (ofOption write value).Spelled := by
  cases value with
  | none => trivial
  | some present => exact each present rfl

theorem of_fields_spelled {fields : List (String × Document)}
    (each : ∀ field ∈ fields, field.2.Spelled) : (ofFields fields).Spelled := by
  have members : MembersSpelled (fields.map fun field => (rawOfText field.1, field.2)) := by
    induction fields with
    | nil => trivial
    | cons field fields induction =>
        rw [List.forall_mem_cons] at each
        exact ⟨⟨field.1, rfl⟩, each.1, induction each.2⟩
  exact members

end Document

end AccessWeave.Json
