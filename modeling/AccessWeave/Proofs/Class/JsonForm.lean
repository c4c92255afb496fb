import AccessWeave.Proofs.Class.BinaryForm
import AccessWeave.Proofs.Json.Numbers

/-!
# The JSON form of a class

A class is described by a document that can be written, and the document is read back from its
text. Every part but a floating point literal then means what it was; such a literal is written
as a decimal, or as null when it is not finite, and means whatever that decimal means. So the
class that is read back is the one that was written, with every literal replaced by what its
decimal means, and there is none when a literal means nothing.
-/

namespace AccessWeave

open Json (Document)
open Json.Document

/-! ## What is read back -/

namespace Constant

/-- Whether the literal is written as a decimal. -/
def isFloating : Constant → Bool
  | .float _ => true
  | .double _ => true
  | _ => false

/-- The literal that the description of a literal means. -/
def reread? : Constant → Option Constant
  | .float pattern =>
      (Json.ofPattern Decimal.binary32 Json.fixedRange32 pattern.toNat).float32?.map .float
  | .double pattern =>
      (Json.ofPattern Decimal.binary64 Json.fixedRange64 pattern.toNat).float64?.map .double
  | constant => some constant

theorem reread_of_not_floating {constant : Constant} (whole : constant.isFloating = false) :
    constant.reread? = some constant := by
  cases constant <;> first | rfl | cases whole

end Constant

/-! Literals stand in instructions, these in bodies and those in methods. -/

def Instruction.mapConstant? (replace : Constant → Option Constant) :
    Instruction → Option Instruction
  | .loadConst constant => (replace constant).map .loadConst
  | instruction => some instruction

def Body.mapConstants? (replace : Constant → Option Constant) (body : Body) : Option Body :=
  (body.instructions.mapM (Instruction.mapConstant? replace)).map fun instructions =>
    { body with instructions }

def Method.mapConstants? (replace : Constant → Option Constant) (method : Method) :
    Option Method :=
  (method.body.elim (some none) fun body => (body.mapConstants? replace).map some).map fun body =>
    { method with body }

/-- The class with every literal replaced, when there is something to replace each with. -/
def ClassFile.mapConstants? (replace : Constant → Option Constant) (file : ClassFile) :
    Option ClassFile :=
  (file.methods.mapM (Method.mapConstants? replace)).map fun methods => { file with methods }

def Instruction.constant? : Instruction → Option Constant
  | .loadConst constant => some constant
  | _ => none

/-- The literals of all bodies of the class. -/
def ClassFile.constants (file : ClassFile) : List Constant :=
  file.methods.flatMap fun method =>
    method.body.elim [] fun body => body.instructions.filterMap Instruction.constant?

/-- The literals that are written as decimals. -/
def ClassFile.floatingConstants (file : ClassFile) : List Constant :=
  file.constants.filter Constant.isFloating

section Constants

variable {replace : Constant → Option Constant}

theorem Instruction.map_constant_is_some {instruction : Instruction} :
    (instruction.mapConstant? replace).isSome = true ↔
      ∀ constant ∈ instruction.constant?, (replace constant).isSome = true := by
  cases instruction <;> simp [mapConstant?, constant?]

theorem Instruction.map_constant_same {instruction : Instruction} :
    instruction.mapConstant? replace = some instruction ↔
      ∀ constant ∈ instruction.constant?, replace constant = some constant := by
  cases instruction <;> simp [mapConstant?, constant?]

theorem ClassFile.forall_constants {file : ClassFile} {property : Constant → Prop} :
    (∀ constant ∈ file.constants, property constant) ↔
      ∀ method ∈ file.methods, ∀ body ∈ method.body, ∀ instruction ∈ body.instructions,
        ∀ constant ∈ instruction.constant?, property constant := by
  simp only [constants, List.forall_mem_flatMap]
  apply forall₂_congr
  intro method _
  cases method.body with
  | none => simp
  | some body =>
      simp only [Option.elim_some, List.mem_filterMap, Option.mem_def, Option.some.injEq,
        forall_eq', forall_exists_index, and_imp]
      exact ⟨fun each instruction member constant found => each constant instruction member found,
        fun each constant instruction member found => each instruction member constant found⟩

theorem ClassFile.map_constants_is_some {file : ClassFile} :
    (file.mapConstants? replace).isSome = true ↔
      ∀ constant ∈ file.constants, (replace constant).isSome = true := by
  rw [ClassFile.forall_constants, ClassFile.mapConstants?, Option.isSome_map, map_m_is_some]
  apply forall₂_congr
  intro method _
  rw [Method.mapConstants?, Option.isSome_map]
  cases method.body with
  | none => simp
  | some body =>
      simp only [Option.elim_some, Option.isSome_map, Body.mapConstants?, map_m_is_some,
        Instruction.map_constant_is_some, Option.mem_some_iff, forall_eq']

theorem Body.map_constants_same {body : Body} :
    body.mapConstants? replace = some body ↔ ∀ instruction ∈ body.instructions,
      ∀ constant ∈ instruction.constant?, replace constant = some constant := by
  rcases body with ⟨maxStack, maxLocals, instructions, handlers, frames⟩
  simp only [← Instruction.map_constant_same, ← map_m_same, mapConstants?]
  cases instructions.mapM (Instruction.mapConstant? replace) <;> simp

theorem Method.map_constants_same {method : Method} :
    method.mapConstants? replace = some method ↔ ∀ body ∈ method.body,
      ∀ instruction ∈ body.instructions, ∀ constant ∈ instruction.constant?,
        replace constant = some constant := by
  rcases method with ⟨name, descriptor, accessFlags, body⟩
  cases body with
  | none => simp [mapConstants?]
  | some body =>
      simp only [Option.mem_some_iff, forall_eq', ← Body.map_constants_same, mapConstants?]
      cases read : body.mapConstants? replace <;> simp [read]

theorem ClassFile.map_constants_same {file : ClassFile} :
    file.mapConstants? replace = some file ↔
      ∀ constant ∈ file.constants, replace constant = some constant := by
  rcases file with ⟨name, superName, methods, attributes⟩
  rw [ClassFile.forall_constants]
  simp only [← Method.map_constants_same, ← map_m_same, mapConstants?]
  cases methods.mapM (Method.mapConstants? replace) <;> simp

theorem ClassFile.forall_floating {file : ClassFile} {property : Constant → Prop}
    (others : ∀ constant, constant.isFloating = false → property constant) :
    (∀ constant ∈ file.floatingConstants, property constant) ↔
      ∀ constant ∈ file.constants, property constant := by
  constructor
  · intro each constant member
    cases floating : constant.isFloating with
    | false => exact others constant floating
    | true => exact each constant (List.mem_filter.mpr ⟨member, floating⟩)
  · intro each constant member
    exact each constant (List.mem_of_mem_filter member)

end Constants

/-! ## Reading a description -/

namespace Label

theorem document_read (label : Label) : ofDocument? label.describe = some label := by
  rw [ofDocument?, describe, uint32_of_int]
  rfl

end Label

theorem InvokeKind.document_read (kind : InvokeKind) :
    InvokeKind.ofDocument? (ofText kind.word) = some kind := by
  rw [InvokeKind.ofDocument?, word_of_text]
  cases kind <;> rfl

theorem Signature.document_read (target : Signature) :
    ofDocument? target.describe = some target := by
  have found : target.describe.fields? ["kind", "owner", "name", "descriptor"] = some _ :=
    fields_of_fields (by simp)
  rw [ofDocument?, found]
  simp [required_of_some, text_of_text, InvokeKind.document_read]

theorem Constant.document_read (constant : Constant) :
    ofDocument? constant.describe = constant.reread? := by
  cases constant <;> rw [ofDocument?, describe, choice_of_field] <;>
    simp [reread?, int32_of_int, int64_of_int, text_of_text]

namespace Instruction

theorem branch_document_read (opcode : UInt8) (target : Label) :
    branchOfDocument?
        (ofFields [("opcode", describeByte opcode), ("target", target.describe)]) =
      some (.branch opcode target) := by
  have found : (ofFields [("opcode", describeByte opcode), ("target", target.describe)]).fields?
      ["opcode", "target"] = some _ := fields_of_fields (by simp)
  rw [branchOfDocument?, found]
  simp [required_of_some, describeByte, uint8_of_int, Label.document_read]

theorem switch_document_read (opcode : UInt8) (default : Label) (targets : List Label) :
    switchOfDocument?
        (ofFields [("opcode", describeByte opcode), ("default", default.describe),
          ("targets", ofList Label.describe targets)]) =
      some (.switch opcode default targets) := by
  have found : (ofFields [("opcode", describeByte opcode), ("default", default.describe),
      ("targets", ofList Label.describe targets)]).fields? ["opcode", "default", "targets"] =
        some _ := fields_of_fields (by simp)
  rw [switchOfDocument?, found]
  simp [required_of_some, describeByte, uint8_of_int, Label.document_read,
    list_of_same Label.document_read]

theorem byte_document_read (byte : UInt8) : (describeByte byte).uint8? = some byte :=
  uint8_of_int byte

theorem plain_document_read (opcode : UInt8) (operands : List UInt8) :
    plainOfDocument?
        (ofFields [("opcode", describeByte opcode), ("operands", ofList describeByte operands)]) =
      some (.plain opcode operands) := by
  have found : (ofFields [("opcode", describeByte opcode),
      ("operands", ofList describeByte operands)]).fields? ["opcode", "operands"] = some _ :=
    fields_of_fields (by simp)
  rw [plainOfDocument?, found]
  simp [required_of_some, byte_document_read, list_of_same byte_document_read]

theorem document_read (instruction : Instruction) :
    ofDocument? instruction.describe = instruction.mapConstant? Constant.reread? := by
  cases instruction <;> rw [ofDocument?, describe, choice_of_field] <;>
    simp [mapConstant?, Signature.document_read, Constant.document_read, Label.document_read,
      branch_document_read, switch_document_read, plain_document_read]

end Instruction

theorem Handler.document_read (handler : Handler) :
    ofDocument? handler.describe = some handler := by
  have found : handler.describe.fields? ["start", "end", "handler", "catch_type"] = some _ :=
    fields_of_fields (by simp)
  rw [ofDocument?, found]
  simp [required_of_some, Label.document_read, absent_or_text]

theorem StackMapFrame.document_read (frame : StackMapFrame) :
    ofDocument? frame.describe = some frame := by
  have found : frame.describe.fields? ["label", "locals", "stack"] = some _ :=
    fields_of_fields (by simp)
  rw [ofDocument?, found]
  simp [required_of_some, Label.document_read, list_of_same text_of_text]

theorem Attribute.document_read (note : Attribute) :
    ofDocument? note.describe = some note := by
  have found : note.describe.fields? ["name", "data"] = some _ := fields_of_fields (by simp)
  rw [ofDocument?, found]
  simp [required_of_some, text_of_text, list_of_same Instruction.byte_document_read]

theorem Body.document_read (body : Body) :
    ofDocument? body.describe = body.mapConstants? Constant.reread? := by
  have found : body.describe.fields?
      ["max_stack", "max_locals", "instructions", "handlers", "frames"] = some _ :=
    fields_of_fields (by simp)
  rw [ofDocument?, found]
  simp [required_of_some, uint16_of_int, list_of_list, Instruction.document_read,
    list_of_same Handler.document_read, list_of_same StackMapFrame.document_read, mapConstants?]
  cases body.instructions.mapM (Instruction.mapConstant? Constant.reread?) <;> rfl

theorem Method.document_read (method : Method) :
    ofDocument? method.describe = method.mapConstants? Constant.reread? := by
  have found : method.describe.fields? ["name", "descriptor", "access_flags", "body"] = some _ :=
    fields_of_fields (by simp)
  have solid : ∀ body : Body, body.describe ≠ .null := fun _ null => by cases null
  rw [ofDocument?, found]
  simp [required_of_some, text_of_text, uint16_of_int, Body.document_read,
    absent_or_of_option solid, mapConstants?]
  exact Option.map_eq_bind.symm

theorem ClassFile.document_read (file : ClassFile) :
    ofDocument? file.describe = file.mapConstants? Constant.reread? := by
  have found : file.describe.fields? ["name", "super_name", "methods", "attributes"] = some _ :=
    fields_of_fields (by simp)
  rw [ofDocument?, found]
  simp [required_of_some, text_of_text, absent_or_text, list_of_list, Method.document_read,
    list_of_same Attribute.document_read, mapConstants?]
  exact Option.map_eq_bind.symm

/-! ## Writing a description -/

theorem Label.describe_spelled (label : Label) : label.describe.Spelled := of_int_spelled _

theorem describe_byte_spelled (byte : UInt8) : (describeByte byte).Spelled := of_int_spelled _

theorem Signature.describe_spelled (target : Signature) : target.describe.Spelled :=
  of_fields_spelled (by simp [of_text_spelled])

theorem Constant.describe_spelled (constant : Constant) : constant.describe.Spelled := by
  have single (pattern : UInt32) := Json.of_pattern_spelled Decimal.binary32
    (by decide) Json.fixed_range_32_proper pattern.toNat
  have double (pattern : UInt64) := Json.of_pattern_spelled Decimal.binary64
    (by decide) Json.fixed_range_64_proper pattern.toNat
  cases constant <;>
    exact of_fields_spelled (by simp [of_int_spelled, of_text_spelled, single, double])

theorem Instruction.describe_spelled (instruction : Instruction) :
    instruction.describe.Spelled := by
  cases instruction <;> apply of_fields_spelled <;>
    simp [Signature.describe_spelled, Constant.describe_spelled, Label.describe_spelled,
      describe_byte_spelled, of_fields_spelled, of_list_spelled]

theorem Handler.describe_spelled (handler : Handler) : handler.describe.Spelled :=
  of_fields_spelled (by simp [Label.describe_spelled, of_option_spelled, of_text_spelled])

theorem StackMapFrame.describe_spelled (frame : StackMapFrame) : frame.describe.Spelled :=
  of_fields_spelled (by simp [Label.describe_spelled, of_list_spelled, of_text_spelled])

theorem Attribute.describe_spelled (note : Attribute) : note.describe.Spelled :=
  of_fields_spelled (by simp [of_text_spelled, of_list_spelled, describe_byte_spelled])

theorem Body.describe_spelled (body : Body) : body.describe.Spelled :=
  of_fields_spelled (by simp [of_int_spelled, of_list_spelled, Instruction.describe_spelled,
    Handler.describe_spelled, StackMapFrame.describe_spelled])

theorem Method.describe_spelled (method : Method) : method.describe.Spelled :=
  of_fields_spelled (by simp [of_text_spelled, of_int_spelled, of_option_spelled,
    Body.describe_spelled])

theorem ClassFile.describe_spelled (file : ClassFile) : file.describe.Spelled :=
  of_fields_spelled (by simp [of_text_spelled, of_option_spelled, of_list_spelled,
    Method.describe_spelled, Attribute.describe_spelled])

/-! ## The stored form -/

/-- The class that is read back from the JSON form of a class. -/
def ClassFile.reread? (file : ClassFile) : Option ClassFile :=
  file.mapConstants? Constant.reread?

namespace Codec

theorem decode_json_bytes_of (file : ClassFile) :
    Codec.json.decode (Codec.json.bytesOf file) =
      file.reread?.elim (.error .malformed) .ok := by
  have readBack := Json.read_write file.describe_spelled
  show decodeJson (Json.write file.describe) = _
  rw [decodeJson, readBack, Option.bind_some, ClassFile.document_read, ClassFile.reread?]
  cases file.mapConstants? Constant.reread? <;> rfl

/-- Writing a class that verifies and reading it gives the class back, whatever its texts, its
numbers and its lists hold, when it has no floating point literal. -/
theorem json_form_is_read_back (file : ClassFile) (sound : file.fault? = none)
    (whole : ∀ constant ∈ file.constants, constant.isFloating = false) :
    ∃ bytes, Codec.json.encode file = .ok bytes ∧ Codec.json.decode bytes = .ok file := by
  have same : file.reread? = some file :=
    ClassFile.map_constants_same.mpr fun constant member =>
      Constant.reread_of_not_floating (whole constant member)
  refine ⟨_, encode_ok_iff.mpr ⟨sound, rfl⟩, ?_⟩
  rw [decode_json_bytes_of, same, Option.elim_some]

/-- A class with texts that have to be escaped, integers at their limits, parts that are absent
and lists that are empty. -/
def awkwardClass : ClassFile :=
  { name := "app/\"Quoted\"\\Back"
    superName := none
    methods :=
      [{ name := "t\tn\nz\u0000d\u007f", descriptor := "(\u2028😀)V", accessFlags := 0xFFFF
         body := some
           { maxStack := 0xFFFF
             maxLocals := 0
             instructions :=
               [.label ⟨0⟩, .loadConst (.int Int32.minValue), .loadConst (.long Int64.minValue),
                .loadConst (.string "\u0001\\/\""), .loadConst (.type ""), .switch 170 ⟨0⟩ [],
                .plain 255 [], .label ⟨0xFFFFFFFF⟩]
             handlers := [⟨⟨0⟩, ⟨0xFFFFFFFF⟩, ⟨0⟩, none⟩]
             frames := [⟨⟨0⟩, [], ["top"]⟩] } },
       { name := "", descriptor := "", accessFlags := 0, body := none }]
    attributes := [⟨"", [0, 127, 255]⟩] }

theorem awkward_class_is_read_back :
    awkwardClass.fault? = none ∧
      (∀ constant ∈ awkwardClass.constants, constant.isFloating = false) ∧
      ∃ bytes, Codec.json.encode awkwardClass = .ok bytes ∧
        Codec.json.decode bytes = .ok awkwardClass := by
  have sound : awkwardClass.fault? = none := by decide +kernel
  have whole : ∀ constant ∈ awkwardClass.constants, constant.isFloating = false := by
    decide +kernel
  exact ⟨sound, whole, json_form_is_read_back awkwardClass sound whole⟩

end Codec

end AccessWeave
