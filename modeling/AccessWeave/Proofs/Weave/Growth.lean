import AccessWeave.Proofs.Class.Counted
import AccessWeave.Proofs.Weave.Classes
import Mathlib.Data.List.Perm.Subperm
import Mathlib.Data.List.ProdSigma

/-!
# How far weaving lets a class grow

Whatever the list of rules, a stream gets at most one guard for each operation and each
signature that it calls. A call takes more bytes than the guards that it can cause have
instructions, so the instructions of a woven body can still be counted where the stored class
that it came from could: weaving leaves a class that fits. The bound is crude on purpose.
-/

namespace AccessWeave

open Instruction (loadConst invoke guardSequence)
open Payload

theorem mem_of_not_covered {operation : Operation} {signature : Signature}
    {stream : List Instruction} (uncovered : ¬Covered operation signature stream) :
    invoke signature ∈ stream := by
  by_contra absent
  exact uncovered (.absent absent)

namespace Weaving

variable {rules inserted : List Rule} {stream final : List Instruction}

theorem inserted_sublist (weaving : Weaving rules stream inserted final) :
    inserted.Sublist rules := by
  induction weaving with
  | done => exact List.Sublist.slnil
  | kept _ _ induction => exact induction.cons _
  | inserted _ _ _ _ induction => exact induction.cons_cons _

theorem grows (weaving : Weaving rules stream inserted final) :
    final.length = stream.length + 2 * inserted.length := by
  induction weaving with
  | done => rfl
  | kept _ _ induction => exact induction
  | inserted _ _ _ _ induction =>
      rw [induction]
      simp only [List.length_append, List.length_cons, guardSequence, List.length_nil]
      omega

/-- A guard is put in only for a signature that was not covered from the start. -/
theorem inserted_uncovered (weaving : Weaving rules stream inserted final)
    (foreign : ∀ rule ∈ rules, rule.signature ≠ guardEntry) :
    ∀ rule ∈ inserted, ¬Covered rule.operation rule.signature stream := by
  induction weaving with
  | done => exact fun _ none => absurd none List.not_mem_nil
  | kept _ _ induction =>
      exact induction fun rule member => foreign rule (List.mem_cons_of_mem _ member)
  | inserted site uncovered _ rest induction =>
      have foreignRest := (List.forall_mem_cons.mp foreign).2
      intro other member
      rcases List.mem_cons.mp member with rfl | later
      · exact uncovered
      · have outside := foreignRest other (rest.inserted_sublist.subset later)
        exact mt (Covered.insert _ outside site) (induction foreignRest other later)

/-- No operation and signature are guarded twice. -/
theorem inserted_distinct (weaving : Weaving rules stream inserted final)
    (foreign : ∀ rule ∈ rules, rule.signature ≠ guardEntry) :
    (inserted.map fun rule => (rule.operation, rule.signature)).Nodup := by
  induction weaving with
  | done => exact List.nodup_nil
  | kept _ _ induction =>
      exact induction fun rule member => foreign rule (List.mem_cons_of_mem _ member)
  | @inserted rule _ _ _ _ _ _ _ covered rest induction =>
      have foreignRest := (List.forall_mem_cons.mp foreign).2
      rw [List.map_cons, List.nodup_cons]
      refine ⟨?_, induction foreignRest⟩
      intro repeated
      rcases List.mem_map.mp repeated with ⟨other, later, same⟩
      obtain ⟨sameOperation, sameSignature⟩ := Prod.mk.inj same
      have uncovered := rest.inserted_uncovered foreignRest other later
      rw [sameOperation, sameSignature] at uncovered
      exact uncovered covered

theorem inserted_count (weaving : Weaving rules stream inserted final)
    (foreign : ∀ rule ∈ rules, rule.signature ≠ guardEntry) :
    inserted.length ≤ 3 * (stream.filterMap Instruction.invoked?).length := by
  have called : (inserted.map fun rule => (rule.operation, rule.signature)) ⊆
      Operation.all ×ˢ stream.filterMap Instruction.invoked? := by
    intro pair inside
    rcases List.mem_map.mp inside with ⟨rule, member, rfl⟩
    apply List.mem_product.mpr
    constructor
    · cases rule.operation <;> decide
    · have present := mem_of_not_covered (weaving.inserted_uncovered foreign rule member)
      exact List.mem_filterMap.mpr ⟨_, present, rfl⟩
  have bound := (List.subperm_of_subset (weaving.inserted_distinct foreign) called).length_le
  rw [List.length_map, List.length_product] at bound
  exact bound

end Weaving

theorem encoded_call_length (target : Signature) :
    28 ≤ (encodeInstruction (invoke target)).length := by
  have kind : (encodeKind target.kind).length = 4 := by
    cases target.kind <;> exact encode_number_length 4 _
  simp only [encodeInstruction, encodeIndex, encodeSignature, encodeText, List.length_append,
    encode_number_length, kind]
  omega

/-- The bytes of a stream leave room for six more instructions for each call. -/
theorem encoded_stream_length (stream : List Instruction) :
    stream.length + 6 * (stream.filterMap Instruction.invoked?).length ≤
      (stream.flatMap encodeInstruction).length := by
  induction stream with
  | nil => simp
  | cons instruction stream induction =>
      rw [List.flatMap_cons, List.length_append, List.length_cons, List.filterMap_cons]
      cases called : instruction.invoked? with
      | none =>
          have size := encoded_instruction_length instruction
          dsimp only
          omega
      | some target =>
          have isCall : instruction = invoke target :=
            is_call_to_iff.mp (by simp [Instruction.isCallTo, called])
          have size := encoded_call_length target
          rw [isCall, List.length_cons]
          omega

theorem guard_sequence_fits (operation : Operation) :
    ∀ instruction ∈ guardSequence operation, InstructionFits instruction := by
  have key : TextFits operation.key := by
    cases operation <;> (unfold TextFits; decide)
  have entry : SignatureFits guardEntry := by
    refine ⟨?_, ?_, ?_⟩ <;> (unfold TextFits; decide)
  intro instruction inside
  simp only [guardSequence, List.mem_cons, List.not_mem_nil, or_false] at inside
  rcases inside with rfl | rfl
  · exact key
  · exact entry

theorem Weaving.fits {rules inserted : List Rule} {stream final : List Instruction}
    (weaving : Weaving rules stream inserted final)
    (foreign : ∀ rule ∈ rules, rule.signature ≠ guardEntry)
    (fitting : ListFits InstructionFits stream)
    (stored : (encodeList encodeInstruction stream).length < UInt64.size) :
    ListFits InstructionFits final := by
  constructor
  · have grown := weaving.grows
    have guards := weaving.inserted_count foreign
    have size := encoded_stream_length stream
    rw [encodeList, List.length_append] at stored
    omega
  · apply weaving.preserves (fun stream => ∀ instruction ∈ stream, InstructionFits instruction)
      _ fitting.2
    intro left right operation _ each instruction inside
    rcases List.mem_append.mp inside with early | late
    · rcases List.mem_append.mp early with before | guard
      · exact each instruction (List.mem_append_left _ before)
      · exact guard_sequence_fits operation instruction guard
    · exact each instruction (List.mem_append_right _ late)

theorem WeaveBody.fits {rules inserted : List Rule} {body woven : Body}
    (weaving : WeaveBody rules body (.ok inserted) woven)
    (foreign : ∀ rule ∈ rules, rule.signature ≠ guardEntry) (fitting : BodyFits body)
    (stored : (encodeBody body).length < UInt64.size) : BodyFits woven := by
  have smaller : (encodeList encodeInstruction body.instructions).length < UInt64.size := by
    simp only [encodeBody, List.length_append] at stored
    omega
  cases weaving with
  | unchanged _ => exact fitting
  | grown weaving _ _ => exact ⟨weaving.fits foreign fitting.1 smaller, fitting.2⟩

theorem encoded_body_length {file : ClassFile} {method : Method} {body : Body}
    (member : method ∈ file.methods) (present : method.body = some body) :
    (encodeBody body).length ≤ (encodeClass file).length := by
  have inClass : (encodeMethod method).length ≤ (encodeList encodeMethod file.methods).length :=
    encoded_member_length member
  have inMethod : (encodeBody body).length ≤ (encodeMethod method).length := by
    simp only [encodeMethod, present, encodeOption, List.length_append, List.length_cons]
    omega
  simp only [encodeClass, List.length_append]
  omega

/-- What a stored class is woven into can be stored as well. -/
theorem Transformer.woven_class_fits {transformer : Transformer} {file : ClassFile}
    {report : Report} (foreign : ∀ rule ∈ transformer.rules, rule.signature ≠ guardEntry)
    (fitting : ClassFits file) (stored : (encodeClass file).length < UInt64.size)
    (done : (transformer.weaveClass file).result = .ok report) :
    ClassFits (transformer.weaveClass file).file := by
  rcases weave_class_done foreign done with ⟨woven, weaving, fileIs, _⟩
  rcases fitting with ⟨nameFits, superFits, ⟨count, methodsFit⟩, attributesFit⟩
  rw [fileIs]
  refine ⟨nameFits, superFits, ⟨?_, ?_⟩, attributesFit⟩
  · rw [weaving.length_eq]
    exact count
  · intro after inside
    rcases weaving.member inside with ⟨method, member, wovenMethod⟩
    have methodFits := methodsFit method member
    cases wovenMethod with
    | bodiless _ => exact methodFits
    | @woven before _ _ body weaving =>
        have bodyFits := methodFits.2.2 before body
        have smaller := encoded_body_length member body
        refine ⟨methodFits.1, methodFits.2.1, ?_⟩
        intro item same
        cases same
        exact weaving.fits (applicable_foreign foreign file) bodyFits (by omega)

end AccessWeave
