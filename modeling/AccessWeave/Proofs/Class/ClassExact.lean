import AccessWeave.Proofs.Class.PayloadExact

/-!
# The payload of a class is exact

Each part of a class is read by an exact decoder, from its numbers up to the class itself. A
class fits when all its texts and sequences do; nothing else about it matters, and nothing is
claimed about whether its bodies verify.
-/

namespace AccessWeave.Payload

/-- The index of a choice is read back in front of its content. -/
theorem read_index {Result : Type} {index : Nat} (bound : index < 256 ^ 4) (rest : List UInt8)
    (next : Nat × List UInt8 → Option Result) :
    (decodeNumber 4 (encodeIndex index ++ rest) >>= next) = next (index, rest) :=
  (number_exact 4).read_front bound rest next

theorem byte_exact : Exact (fun _ => True) encodeByte decodeByte := by
  intro input byte suffix
  cases input with
  | nil => simp [decodeByte, encodeByte]
  | cons head rest => simp [decodeByte, encodeByte]

theorem uint16_exact : Exact (fun _ => True) encodeUInt16 decodeUInt16 :=
  (number_exact 2).converted UInt16.ofNat UInt16.toNat (fun value => value.toNat_lt)
    (fun _ => UInt16.ofNat_toNat) (fun _ bound => UInt16.toNat_ofNat_of_lt' bound)

theorem uint32_exact : Exact (fun _ => True) encodeUInt32 decodeUInt32 :=
  (number_exact 4).converted UInt32.ofNat UInt32.toNat (fun value => value.toNat_lt)
    (fun _ => UInt32.ofNat_toNat) (fun _ bound => UInt32.toNat_ofNat_of_lt' bound)

theorem uint64_exact : Exact (fun _ => True) encodeUInt64 decodeUInt64 :=
  (number_exact 8).converted UInt64.ofNat UInt64.toNat (fun value => value.toNat_lt)
    (fun _ => UInt64.ofNat_toNat) (fun _ bound => UInt64.toNat_ofNat_of_lt' bound)

theorem label_exact : Exact (fun _ => True) encodeLabel decodeLabel :=
  uint32_exact.converted Label.mk Label.number (fun _ => trivial) (fun _ => rfl) (fun _ _ => rfl)

theorem kind_exact : Exact (fun _ => True) encodeKind decodeKind := by
  intro input kind suffix
  constructor
  · intro read
    rcases (number_exact 4).bind_iff.mp read with ⟨index, rest, ⟨_, rfl⟩, chosen⟩
    dsimp only at chosen
    split at chosen <;> cases chosen <;> exact ⟨trivial, rfl⟩
  · rintro ⟨_, rfl⟩
    cases kind <;> exact read_index (by decide) suffix _

def SignatureFits (target : Signature) : Prop :=
  TextFits target.owner ∧ TextFits target.name ∧ TextFits target.descriptor

def ConstantFits : Constant → Prop
  | .string value => TextFits value
  | .type name => TextFits name
  | _ => True

def InstructionFits : Instruction → Prop
  | .invoke target => SignatureFits target
  | .loadConst constant => ConstantFits constant
  | .switch _ _ targets => ListFits (fun _ => True) targets
  | .plain _ operands => ListFits (fun _ => True) operands
  | _ => True

def HandlerFits (handler : Handler) : Prop := OptionFits TextFits handler.catchType

def FrameFits (frame : StackMapFrame) : Prop :=
  ListFits TextFits frame.locals ∧ ListFits TextFits frame.stack

def BodyFits (body : Body) : Prop :=
  ListFits InstructionFits body.instructions ∧ ListFits HandlerFits body.handlers ∧
    ListFits FrameFits body.frames

def MethodFits (method : Method) : Prop :=
  TextFits method.name ∧ TextFits method.descriptor ∧ OptionFits BodyFits method.body

def AttributeFits (note : Attribute) : Prop :=
  TextFits note.name ∧ ListFits (fun _ => True) note.data

def ClassFits (file : ClassFile) : Prop :=
  TextFits file.name ∧ OptionFits TextFits file.superName ∧ ListFits MethodFits file.methods ∧
    ListFits AttributeFits file.attributes

theorem signature_exact : Exact SignatureFits encodeSignature decodeSignature := by
  intro input target suffix
  constructor
  · intro read
    simp only [decodeSignature, kind_exact.bind_iff, text_exact.bind_iff] at read
    rcases read with ⟨kind, _, ⟨_, rfl⟩, owner, _, ⟨ownerFits, rfl⟩, name, _, ⟨nameFits, rfl⟩,
      descriptor, _, ⟨descriptorFits, rfl⟩, same⟩
    cases same
    exact ⟨⟨ownerFits, nameFits, descriptorFits⟩, by simp [encodeSignature]⟩
  · rintro ⟨⟨ownerFits, nameFits, descriptorFits⟩, rfl⟩
    simp only [encodeSignature, decodeSignature, List.append_assoc,
      kind_exact.read_front trivial, text_exact.read_front ownerFits,
      text_exact.read_front nameFits, text_exact.read_front descriptorFits]

theorem constant_exact : Exact ConstantFits encodeConstant decodeConstant := by
  intro input constant suffix
  constructor
  · intro read
    rcases (number_exact 4).bind_iff.mp read with ⟨index, rest, ⟨_, rfl⟩, chosen⟩
    dsimp only at chosen
    split at chosen
    · rcases uint32_exact.bind_iff.mp chosen with ⟨value, _, ⟨_, rfl⟩, same⟩
      cases same
      exact ⟨trivial, by simp [encodeConstant, encodeIndex]⟩
    · rcases uint64_exact.bind_iff.mp chosen with ⟨value, _, ⟨_, rfl⟩, same⟩
      cases same
      exact ⟨trivial, by simp [encodeConstant, encodeIndex]⟩
    · rcases uint32_exact.bind_iff.mp chosen with ⟨pattern, _, ⟨_, rfl⟩, same⟩
      cases same
      exact ⟨trivial, by simp [encodeConstant, encodeIndex]⟩
    · rcases uint64_exact.bind_iff.mp chosen with ⟨pattern, _, ⟨_, rfl⟩, same⟩
      cases same
      exact ⟨trivial, by simp [encodeConstant, encodeIndex]⟩
    · rcases text_exact.bind_iff.mp chosen with ⟨value, _, ⟨fitting, rfl⟩, same⟩
      cases same
      exact ⟨fitting, by simp [encodeConstant, encodeIndex]⟩
    · rcases text_exact.bind_iff.mp chosen with ⟨name, _, ⟨fitting, rfl⟩, same⟩
      cases same
      exact ⟨fitting, by simp [encodeConstant, encodeIndex]⟩
    · cases chosen
  · rintro ⟨fitting, rfl⟩
    cases constant with
    | int value =>
        rw [encodeConstant, List.append_assoc, decodeConstant, read_index (by decide)]
        exact (uint32_exact.read_front trivial suffix _).trans (by simp)
    | long value =>
        rw [encodeConstant, List.append_assoc, decodeConstant, read_index (by decide)]
        exact (uint64_exact.read_front trivial suffix _).trans (by simp)
    | float pattern =>
        rw [encodeConstant, List.append_assoc, decodeConstant, read_index (by decide)]
        exact uint32_exact.read_front trivial suffix _
    | double pattern =>
        rw [encodeConstant, List.append_assoc, decodeConstant, read_index (by decide)]
        exact uint64_exact.read_front trivial suffix _
    | string value =>
        rw [encodeConstant, List.append_assoc, decodeConstant, read_index (by decide)]
        exact text_exact.read_front fitting suffix _
    | type name =>
        rw [encodeConstant, List.append_assoc, decodeConstant, read_index (by decide)]
        exact text_exact.read_front fitting suffix _

theorem instruction_exact : Exact InstructionFits encodeInstruction decodeInstruction := by
  intro input instruction suffix
  constructor
  · intro read
    rcases (number_exact 4).bind_iff.mp read with ⟨index, rest, ⟨_, rfl⟩, chosen⟩
    dsimp only at chosen
    split at chosen
    · rcases signature_exact.bind_iff.mp chosen with ⟨target, _, ⟨fitting, rfl⟩, same⟩
      cases same
      exact ⟨fitting, by simp [encodeInstruction, encodeIndex]⟩
    · rcases constant_exact.bind_iff.mp chosen with ⟨constant, _, ⟨fitting, rfl⟩, same⟩
      cases same
      exact ⟨fitting, by simp [encodeInstruction, encodeIndex]⟩
    · rcases label_exact.bind_iff.mp chosen with ⟨label, _, ⟨_, rfl⟩, same⟩
      cases same
      exact ⟨trivial, by simp [encodeInstruction, encodeIndex]⟩
    · simp only [byte_exact.bind_iff, label_exact.bind_iff] at chosen
      rcases chosen with ⟨opcode, _, ⟨_, rfl⟩, target, _, ⟨_, rfl⟩, same⟩
      cases same
      exact ⟨trivial, by simp [encodeInstruction, encodeIndex]⟩
    · simp only [byte_exact.bind_iff, label_exact.bind_iff,
        (list_exact label_exact).bind_iff] at chosen
      rcases chosen with ⟨opcode, _, ⟨_, rfl⟩, default, _, ⟨_, rfl⟩, targets, _, ⟨fitting, rfl⟩,
        same⟩
      cases same
      exact ⟨fitting, by simp [encodeInstruction, encodeIndex]⟩
    · simp only [byte_exact.bind_iff, (list_exact byte_exact).bind_iff] at chosen
      rcases chosen with ⟨opcode, _, ⟨_, rfl⟩, operands, _, ⟨fitting, rfl⟩, same⟩
      cases same
      exact ⟨fitting, by simp [encodeInstruction, encodeIndex]⟩
    · cases chosen
  · rintro ⟨fitting, rfl⟩
    cases instruction with
    | invoke target =>
        rw [encodeInstruction, List.append_assoc, decodeInstruction, read_index (by decide)]
        exact signature_exact.read_front fitting suffix _
    | loadConst constant =>
        rw [encodeInstruction, List.append_assoc, decodeInstruction, read_index (by decide)]
        exact constant_exact.read_front fitting suffix _
    | label label =>
        rw [encodeInstruction, List.append_assoc, decodeInstruction, read_index (by decide)]
        exact label_exact.read_front trivial suffix _
    | branch opcode target =>
        rw [encodeInstruction, List.append_assoc, List.append_assoc, decodeInstruction,
          read_index (by decide)]
        exact (byte_exact.read_front trivial _ _).trans (label_exact.read_front trivial suffix _)
    | switch opcode default targets =>
        simp only [encodeInstruction, List.append_assoc]
        rw [decodeInstruction, read_index (by decide)]
        exact (byte_exact.read_front trivial _ _).trans
          ((label_exact.read_front trivial _ _).trans
            ((list_exact label_exact).read_front fitting suffix _))
    | plain opcode operands =>
        rw [encodeInstruction, List.append_assoc, List.append_assoc, decodeInstruction,
          read_index (by decide)]
        exact (byte_exact.read_front trivial _ _).trans
          ((list_exact byte_exact).read_front fitting suffix _)

theorem handler_exact : Exact HandlerFits encodeHandler decodeHandler := by
  intro input handler suffix
  constructor
  · intro read
    simp only [decodeHandler, label_exact.bind_iff, (option_exact text_exact).bind_iff] at read
    rcases read with ⟨start, _, ⟨_, rfl⟩, finish, _, ⟨_, rfl⟩, target, _, ⟨_, rfl⟩, catchType, _,
      ⟨fitting, rfl⟩, same⟩
    cases same
    exact ⟨fitting, by simp [encodeHandler]⟩
  · rintro ⟨fitting, rfl⟩
    simp only [encodeHandler, decodeHandler, List.append_assoc, label_exact.read_front trivial,
      (option_exact text_exact).read_front fitting]

theorem frame_exact : Exact FrameFits encodeFrame decodeFrame := by
  intro input frame suffix
  constructor
  · intro read
    simp only [decodeFrame, label_exact.bind_iff, (list_exact text_exact).bind_iff] at read
    rcases read with ⟨label, _, ⟨_, rfl⟩, locals, _, ⟨localsFit, rfl⟩, stack, _, ⟨stackFits, rfl⟩,
      same⟩
    cases same
    exact ⟨⟨localsFit, stackFits⟩, by simp [encodeFrame]⟩
  · rintro ⟨⟨localsFit, stackFits⟩, rfl⟩
    simp only [encodeFrame, decodeFrame, List.append_assoc, label_exact.read_front trivial,
      (list_exact text_exact).read_front localsFit, (list_exact text_exact).read_front stackFits]

theorem body_exact : Exact BodyFits encodeBody decodeBody := by
  intro input body suffix
  constructor
  · intro read
    simp only [decodeBody, uint16_exact.bind_iff, (list_exact instruction_exact).bind_iff,
      (list_exact handler_exact).bind_iff, (list_exact frame_exact).bind_iff] at read
    rcases read with ⟨maxStack, _, ⟨_, rfl⟩, maxLocals, _, ⟨_, rfl⟩, instructions, _,
      ⟨instructionsFit, rfl⟩, handlers, _, ⟨handlersFit, rfl⟩, frames, _, ⟨framesFit, rfl⟩, same⟩
    cases same
    exact ⟨⟨instructionsFit, handlersFit, framesFit⟩, by simp [encodeBody]⟩
  · rintro ⟨⟨instructionsFit, handlersFit, framesFit⟩, rfl⟩
    simp only [encodeBody, decodeBody, List.append_assoc, uint16_exact.read_front trivial,
      (list_exact instruction_exact).read_front instructionsFit,
      (list_exact handler_exact).read_front handlersFit,
      (list_exact frame_exact).read_front framesFit]

theorem method_exact : Exact MethodFits encodeMethod decodeMethod := by
  intro input method suffix
  constructor
  · intro read
    simp only [decodeMethod, text_exact.bind_iff, uint16_exact.bind_iff,
      (option_exact body_exact).bind_iff] at read
    rcases read with ⟨name, _, ⟨nameFits, rfl⟩, descriptor, _, ⟨descriptorFits, rfl⟩, flags, _,
      ⟨_, rfl⟩, body, _, ⟨bodyFits, rfl⟩, same⟩
    cases same
    exact ⟨⟨nameFits, descriptorFits, bodyFits⟩, by simp [encodeMethod]⟩
  · rintro ⟨⟨nameFits, descriptorFits, bodyFits⟩, rfl⟩
    simp only [encodeMethod, decodeMethod, List.append_assoc, text_exact.read_front nameFits,
      text_exact.read_front descriptorFits, uint16_exact.read_front trivial,
      (option_exact body_exact).read_front bodyFits]

theorem attribute_exact : Exact AttributeFits encodeAttribute decodeAttribute := by
  intro input note suffix
  constructor
  · intro read
    simp only [decodeAttribute, text_exact.bind_iff, (list_exact byte_exact).bind_iff] at read
    rcases read with ⟨name, _, ⟨nameFits, rfl⟩, data, _, ⟨dataFits, rfl⟩, same⟩
    cases same
    exact ⟨⟨nameFits, dataFits⟩, by simp [encodeAttribute]⟩
  · rintro ⟨⟨nameFits, dataFits⟩, rfl⟩
    simp only [encodeAttribute, decodeAttribute, List.append_assoc, text_exact.read_front nameFits,
      (list_exact byte_exact).read_front dataFits]

theorem class_exact : Exact ClassFits encodeClass decodeClass := by
  intro input file suffix
  constructor
  · intro read
    simp only [decodeClass, text_exact.bind_iff, (option_exact text_exact).bind_iff,
      (list_exact method_exact).bind_iff, (list_exact attribute_exact).bind_iff] at read
    rcases read with ⟨name, _, ⟨nameFits, rfl⟩, superName, _, ⟨superFits, rfl⟩, methods, _,
      ⟨methodsFit, rfl⟩, attributes, _, ⟨attributesFit, rfl⟩, same⟩
    cases same
    exact ⟨⟨nameFits, superFits, methodsFit, attributesFit⟩, by simp [encodeClass]⟩
  · rintro ⟨⟨nameFits, superFits, methodsFit, attributesFit⟩, rfl⟩
    simp only [encodeClass, decodeClass, List.append_assoc, text_exact.read_front nameFits,
      (option_exact text_exact).read_front superFits,
      (list_exact method_exact).read_front methodsFit,
      (list_exact attribute_exact).read_front attributesFit]

end AccessWeave.Payload
