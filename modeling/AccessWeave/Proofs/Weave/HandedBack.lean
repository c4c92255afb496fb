import AccessWeave.Proofs.Class.Counted
import AccessWeave.Proofs.Class.JsonForm
import AccessWeave.Proofs.Weave.Idempotence
import AccessWeave.Proofs.Weave.Verification

/-!
# What a transformer hands back

Guards bring no floating point literal with them, so what becomes of the bytes that are handed
back is decided by the literals of the class that was read. The binary form keeps their bits and
is read back as the woven class. The JSON form is read back with every such literal replaced by
what its decimal means, and not at all when one of them means nothing.
-/

namespace AccessWeave

open Instruction (guardSequence)

namespace Body

/-- Weaving brings no floating point literal into a body and takes none out. -/
theorem woven_floating (body : Body) (rules : List Rule) (context : WeaveContext) :
    ((weaveBody body rules context).body.instructions.filterMap Instruction.constant?).filter
        Constant.isFloating =
      (body.instructions.filterMap Instruction.constant?).filter Constant.isFloating := by
  have inserted {final : List Instruction} {rules : List Rule}
      (insertions : Insertions body.instructions rules final) :
      (final.filterMap Instruction.constant?).filter Constant.isFloating =
        (body.instructions.filterMap Instruction.constant?).filter Constant.isFloating := by
    rw [List.filter_filterMap, List.filter_filterMap]
    exact insertions.filter_map_eq fun _ => rfl
  have outcome := weave_body_outcome body rules context
  generalize (weaveBody body rules context).body = final at outcome ⊢
  generalize (weaveBody body rules context).result = result at outcome
  cases outcome with
  | kept _ => rfl
  | grown _ insertions _ _ => exact inserted insertions
  | overflow _ insertions _ _ => exact inserted insertions

end Body

namespace Transformer

theorem woven_floating_constants {transformer : Transformer} {file : ClassFile} {report : Report}
    (done : (transformer.weaveClass file).result = .ok report) :
    (transformer.weaveClass file).file.floatingConstants = file.floatingConstants := by
  rcases weave_class_cases transformer file with ⟨_, same⟩ | ⟨_, _, _, _, _, _, stopped⟩
  · simp only [same, ClassFile.floatingConstants, ClassFile.constants, List.filter_flatMap,
      List.flatMap_map]
    congr 1
    funext method
    cases present : method.body with
    | none => rw [Method.woven_of_bodiless present, present]
    | some body =>
        simp only [Method.woven_body present]
        exact body.woven_floating _ _
  · rw [stopped] at done
    cases done

/-- Changed bytes are read back as the woven class when they are in binary form. In JSON form
they are read back when every floating point literal of the class means something as a decimal,
as the woven class with those literals for its own; this is the woven class itself exactly when
each of them is what its decimal means. -/
theorem output_is_read_back_iff (transformer : Transformer) (bytes out : List UInt8)
    (report : Report) (changed : transformer.transform bytes = .ok (report, some out)) :
    ∃ file, transformer.codec.decode bytes = .ok file ∧
      (transformer.weaveClass file).result = .ok report ∧
      (transformer.codec = .binary → out.length < UInt64.size →
        Codec.binary.decode out = .ok (transformer.weaveClass file).file) ∧
      (transformer.codec = .json →
        ((∃ again, Codec.json.decode out = .ok again) ↔
          ∀ constant ∈ file.floatingConstants, constant.reread?.isSome = true) ∧
        (∀ again, Codec.json.decode out = .ok again ↔
          (transformer.weaveClass file).file.mapConstants? Constant.reread? = some again) ∧
        (Codec.json.decode out = .ok (transformer.weaveClass file).file ↔
          ∀ constant ∈ file.floatingConstants, constant.reread? = some constant)) := by
  rcases transform_some changed with ⟨file, decoded, done, _, rfl⟩
  have floating := woven_floating_constants done
  refine ⟨file, decoded, done, ?_, ?_⟩
  · intro binary counted
    rw [binary] at counted ⊢
    rw [Codec.bytesOf, List.length_append] at counted
    have fitting := Payload.class_counted _ (Nat.lt_of_le_of_lt (Nat.le_add_left _ _) counted)
    rw [Codec.decode]
    exact Codec.decode_bytes_of fitting
  · intro json
    have readBack (again : ClassFile) :
        Codec.json.decode (Codec.json.bytesOf (transformer.weaveClass file).file) = .ok again ↔
          (transformer.weaveClass file).file.mapConstants? Constant.reread? = some again := by
      rw [Codec.decode_json_bytes_of, ClassFile.reread?]
      cases (transformer.weaveClass file).file.mapConstants? Constant.reread? <;> simp
    rw [json, ← floating]
    refine ⟨?_, readBack, ?_⟩
    · simp only [readBack]
      rw [← Option.isSome_iff_exists, ClassFile.map_constants_is_some]
      exact (ClassFile.forall_floating fun constant whole => by
        rw [Constant.reread_of_not_floating whole]; rfl).symm
    · rw [readBack, ClassFile.map_constants_same]
      exact (ClassFile.forall_floating fun _ => Constant.reread_of_not_floating).symm

/-- The rules for the calls that perform an operation, on classes in JSON form. -/
def jsonWeaver : Transformer := ⟨Rule.standard, .json, .allRules⟩

/-- A class with one literal in front of a call to guard. -/
def literalClass (literal : Constant) : ClassFile where
  name := "app/Wide"
  superName := none
  methods :=
    [⟨"stop", "()V", 0x0009,
      some
        { maxStack := 2
          maxLocals := 0
          instructions :=
            [.loadConst literal, .invoke Operation.runtimeExit.signature, .plain 177 []]
          handlers := []
          frames := [] }⟩]
  attributes := []

/-- A text of the same class in which the literal is a number as it is written. -/
def literalDocument (name : String) (number : Json.NumberLiteral) : Json.Document :=
  let constant := Json.Document.ofFields [(name, .number number)]
  let call := Instruction.describe (.invoke Operation.runtimeExit.signature)
  let body := Json.Document.ofFields
    [("max_stack", Json.Document.ofInt 2), ("max_locals", Json.Document.ofInt 0),
     ("instructions", .array
       [Json.Document.ofFields [("load_const", constant)], call,
        Instruction.describe (.plain 177 [])]),
     ("handlers", .array []), ("frames", .array [])]
  let method := Json.Document.ofFields
    [("name", Json.Document.ofText "stop"), ("descriptor", Json.Document.ofText "()V"),
     ("access_flags", Json.Document.ofInt 9), ("body", body)]
  Json.Document.ofFields
    [("name", Json.Document.ofText "app/Wide"), ("methods", .array [method]),
     ("attributes", .array [])]

/-- One times ten to a power of two digits. -/
def powerNumber (negative : Bool) (tens ones : Decimal.Digit) : Json.NumberLiteral :=
  ⟨false, [1], [], some ⟨negative, [tens, ones]⟩⟩

/-- Ten to the thirty-ninth is infinite in four bytes, so it is handed back as null and the
class is lost. One divided by ten to the twenty-fourth is handed back as a decimal that means
the next smaller number. -/
theorem literals_are_not_handed_back :
    (∃ out, jsonWeaver.transform
        (Json.write (literalDocument "float" (powerNumber false 3 9))) =
          .ok (⟨"app/Wide", [⟨"stop()V", .runtimeExit⟩]⟩, some out) ∧
      Codec.json.decode out = .error .malformed) ∧
    ∃ out again, jsonWeaver.transform
        (Json.write (literalDocument "double" (powerNumber true 2 4))) =
          .ok (⟨"app/Wide", [⟨"stop()V", .runtimeExit⟩]⟩, some out) ∧
      Codec.json.decode (Json.write (literalDocument "double" (powerNumber true 2 4))) =
        .ok (literalClass (.double 4247835366853742248)) ∧
      Codec.json.decode out = .ok again ∧
      again ≠ (jsonWeaver.weaveClass (literalClass (.double 4247835366853742248))).file ∧
      again = (jsonWeaver.weaveClass (literalClass (.double 4247835366853742247))).file :=
  ⟨⟨Codec.json.bytesOf (jsonWeaver.weaveClass (literalClass (.float 0x7F800000))).file,
      by decide +kernel⟩,
    Codec.json.bytesOf
      (jsonWeaver.weaveClass (literalClass (.double 4247835366853742248))).file,
    (jsonWeaver.weaveClass (literalClass (.double 4247835366853742247))).file,
    by decide +kernel⟩

/-- A class with a literal that is exactly a decimal of two digits. -/
theorem plain_literal_is_handed_back :
    ∃ out, jsonWeaver.transform (Codec.json.bytesOf (literalClass (.double 0x3FF8000000000000))) =
        .ok (⟨"app/Wide", [⟨"stop()V", .runtimeExit⟩]⟩, some out) ∧
      Codec.json.decode out =
        .ok (jsonWeaver.weaveClass (literalClass (.double 0x3FF8000000000000))).file := by
  have changed : jsonWeaver.transform
      (Codec.json.bytesOf (literalClass (.double 0x3FF8000000000000))) =
        .ok (⟨"app/Wide", [⟨"stop()V", .runtimeExit⟩]⟩, some (Codec.json.bytesOf
          (jsonWeaver.weaveClass (literalClass (.double 0x3FF8000000000000))).file)) := by
    decide +kernel
  rcases output_is_read_back_iff jsonWeaver _ _ _ changed with ⟨file, decoded, _, _, json⟩
  have fileIs : Codec.json.decode
      (Codec.json.bytesOf (literalClass (.double 0x3FF8000000000000))) =
        .ok (literalClass (.double 0x3FF8000000000000)) := by decide +kernel
  obtain rfl := Except.ok.inj (decoded.symm.trans fileIs)
  exact ⟨_, changed, (json rfl).2.2.mpr (by decide +kernel)⟩

end Transformer

end AccessWeave
