import AccessWeave.Proofs.Class.ClassExact

/-!
# Classes whose stored form can be counted

A length is stored in eight bytes. A stored form holds every text and every item of a sequence,
so a class whose stored form has no more bytes than that can count has no length that does not
fit. Every byte string in memory is that short.
-/

namespace AccessWeave.Payload

variable {Value : Type} {fits : Value → Prop} {encode : Value → List UInt8}

/-- What a value's code can be counted in, the value fits. -/
def Counted (fits : Value → Prop) (encode : Value → List UInt8) : Prop :=
  ∀ value, (encode value).length < UInt64.size → fits value

theorem encoded_member_length {value : Value} {values : List Value} (member : value ∈ values) :
    (encode value).length ≤ (encodeList encode values).length := by
  have inside : (encode value).Sublist (values.flatMap encode) := by
    rw [List.flatMap_def]
    exact List.sublist_flatten_of_mem (List.mem_map_of_mem member)
  rw [encodeList, List.length_append]
  exact Nat.le_trans inside.length_le (Nat.le_add_left _ _)

theorem encoded_count (some : ∀ value, 0 < (encode value).length) (values : List Value) :
    values.length ≤ (encodeList encode values).length := by
  have codes : values.length ≤ (values.flatMap encode).length := by
    induction values with
    | nil => exact Nat.le_refl 0
    | cons value values induction =>
        have first := some value
        rw [List.flatMap_cons, List.length_append, List.length_cons]
        omega
  rw [encodeList, List.length_append]
  omega

theorem list_counted (some : ∀ value, 0 < (encode value).length) (each : Counted fits encode) :
    Counted (ListFits fits) (encodeList encode) := by
  intro values short
  have count := encoded_count some values
  refine ⟨by omega, fun value member => each value ?_⟩
  have size : (encode value).length ≤ (encodeList encode values).length :=
    encoded_member_length member
  omega

theorem option_counted (each : Counted fits encode) :
    Counted (OptionFits fits) (encodeOption encode) := by
  intro value short item present
  subst present
  rw [encodeOption, List.length_cons] at short
  exact each item (by omega)

theorem text_counted : Counted TextFits encodeText := by
  intro text short
  rw [encodeText, List.length_append] at short
  rw [TextFits]
  omega

theorem encoded_text_length (text : String) : 0 < (encodeText text).length := by
  rw [encodeText, List.length_append, encode_number_length]
  omega

theorem signature_counted : Counted SignatureFits encodeSignature := by
  intro target short
  simp only [encodeSignature, List.length_append] at short
  exact ⟨text_counted _ (by omega), text_counted _ (by omega), text_counted _ (by omega)⟩

theorem constant_counted : Counted ConstantFits encodeConstant := by
  intro constant short
  cases constant with
  | string value =>
      rw [encodeConstant, List.length_append] at short
      exact text_counted value (by omega)
  | type name =>
      rw [encodeConstant, List.length_append] at short
      exact text_counted name (by omega)
  | _ => trivial

theorem encoded_byte_length (byte : UInt8) : 0 < (encodeByte byte).length := Nat.one_pos

theorem byte_counted : Counted (fun _ => True) encodeByte := fun _ _ => trivial

theorem label_counted : Counted (fun _ => True) encodeLabel := fun _ _ => trivial

theorem encoded_label_length (label : Label) : (encodeLabel label).length = 4 :=
  encode_number_length 4 _

theorem instruction_counted : Counted InstructionFits encodeInstruction := by
  intro instruction short
  cases instruction with
  | invoke target =>
      rw [encodeInstruction, List.length_append] at short
      exact signature_counted target (by omega)
  | loadConst constant =>
      rw [encodeInstruction, List.length_append] at short
      exact constant_counted constant (by omega)
  | switch opcode default targets =>
      rw [encodeInstruction, List.length_append] at short
      have positive (label : Label) : 0 < (encodeLabel label).length := by
        rw [encoded_label_length]
        omega
      exact list_counted positive label_counted targets (by omega)
  | plain opcode operands =>
      rw [encodeInstruction, List.length_append] at short
      exact list_counted encoded_byte_length byte_counted operands (by omega)
  | _ => trivial

theorem encoded_instruction_length (instruction : Instruction) :
    4 ≤ (encodeInstruction instruction).length := by
  cases instruction <;>
    simp only [encodeInstruction, encodeIndex, List.length_append, encode_number_length] <;> omega

theorem handler_counted : Counted HandlerFits encodeHandler := by
  intro handler short
  simp only [encodeHandler, List.length_append] at short
  exact option_counted text_counted _ (by omega)

theorem frame_counted : Counted FrameFits encodeFrame := by
  intro frame short
  simp only [encodeFrame, List.length_append] at short
  have texts := list_counted encoded_text_length text_counted
  exact ⟨texts _ (by omega), texts _ (by omega)⟩

theorem body_counted : Counted BodyFits encodeBody := by
  intro body short
  simp only [encodeBody, List.length_append] at short
  have instruction (value : Instruction) : 0 < (encodeInstruction value).length :=
    Nat.lt_of_lt_of_le (by decide) (encoded_instruction_length value)
  have handler (value : Handler) : 0 < (encodeHandler value).length := by
    simp only [encodeHandler, List.length_append, encoded_label_length]
    omega
  have frame (value : StackMapFrame) : 0 < (encodeFrame value).length := by
    simp only [encodeFrame, List.length_append, encoded_label_length]
    omega
  exact ⟨list_counted instruction instruction_counted _ (by omega),
    list_counted handler handler_counted _ (by omega),
    list_counted frame frame_counted _ (by omega)⟩

theorem method_counted : Counted MethodFits encodeMethod := by
  intro method short
  simp only [encodeMethod, List.length_append] at short
  exact ⟨text_counted _ (by omega), text_counted _ (by omega),
    option_counted body_counted _ (by omega)⟩

theorem attribute_counted : Counted AttributeFits encodeAttribute := by
  intro note short
  simp only [encodeAttribute, List.length_append] at short
  exact ⟨text_counted _ (by omega),
    list_counted encoded_byte_length byte_counted _ (by omega)⟩

/-- A class fits when its code can be counted. -/
theorem class_counted : Counted ClassFits encodeClass := by
  intro file short
  simp only [encodeClass, List.length_append] at short
  have method (value : Method) : 0 < (encodeMethod value).length := by
    have name := encoded_text_length value.name
    simp only [encodeMethod, List.length_append]
    omega
  have note (value : Attribute) : 0 < (encodeAttribute value).length := by
    have name := encoded_text_length value.name
    simp only [encodeAttribute, List.length_append]
    omega
  exact ⟨text_counted _ (by omega), option_counted text_counted _ (by omega),
    list_counted method method_counted _ (by omega),
    list_counted note attribute_counted _ (by omega)⟩

end AccessWeave.Payload
