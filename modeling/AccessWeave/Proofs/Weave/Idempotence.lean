import AccessWeave.Proofs.Class.BinaryForm
import AccessWeave.Proofs.Weave.Growth
import AccessWeave.Proofs.Weave.Preservation

/-!
# Weaving a woven class again

Weaving leaves every body covering the signatures of all its rules, those that were not tried
included, and a covered body is left alone. So a class that was woven, stored and read again
has nothing left to weave for rules with the same operations and signatures, wherever they
want their guards, in whatever order they come and whichever of them are tried.
-/

namespace AccessWeave

open Instruction (invoke)

/-- Whether the bodies of a class cover the signatures of some rules. -/
def ClassFile.CoveredFor (file : ClassFile) (rules : List Rule) : Prop :=
  ∀ method ∈ file.methods, ∀ body, method.body = some body →
    ∀ rule ∈ rules, Covered rule.operation rule.signature body.instructions

namespace Transformer

/-- Whether a transformer's rules guard no calls but those of some rules, by the same
operations. -/
def GuardsAs (transformer : Transformer) (rules : List Rule) : Prop :=
  ∀ rule ∈ transformer.rules, ∃ earlier ∈ rules,
    rule.operation = earlier.operation ∧ rule.signature = earlier.signature

/-- Transforms stored classes one after another, each as the last one left it. -/
def inTurn : List Transformer → List UInt8 →
    Except TransformError (List Report × List UInt8)
  | [], bytes => .ok ([], bytes)
  | transformer :: later, bytes => do
      let (report, changed) ← transformer.transform bytes
      let (reports, final) ← inTurn later (changed.getD bytes)
      .ok (report :: reports, final)

/-- A rule is tried, unless no body of the class calls its signature. -/
theorem applicable_or_uncalled {transformer : Transformer} {rule : Rule} (file : ClassFile)
    (member : rule ∈ transformer.rules) :
    rule ∈ transformer.applicableRules file ∨
      ∀ method ∈ file.methods, ∀ body, method.body = some body →
        invoke rule.signature ∉ body.instructions := by
  cases dispatch : transformer.dispatch with
  | allRules =>
      left
      rw [applicableRules, dispatch]
      exact member
  | referencedOwners =>
      by_cases owned : rule.signature.owner ∈ file.callOwners
      · left
        rw [applicableRules, dispatch]
        simpa using And.intro member owned
      · right
        intro method inside body present called
        exact owned (file.mem_call_owners inside present called)

theorem woven_class_covered {transformer : Transformer} {file : ClassFile} {report : Report}
    (foreign : ∀ rule ∈ transformer.rules, rule.signature ≠ guardEntry)
    (done : (transformer.weaveClass file).result = .ok report) :
    (transformer.weaveClass file).file.CoveredFor transformer.rules := by
  rcases weave_class_done foreign done with ⟨woven, weaving, fileIs, _⟩
  rw [fileIs]
  intro after inside body present rule member
  rcases weaving.member inside with ⟨method, among, wovenMethod⟩
  cases wovenMethod with
  | bodiless none =>
      rw [none] at present
      cases present
  | @woven before _ _ bodyBefore weaving =>
      cases present
      rcases applicable_or_uncalled file member with tried | uncalled
      · exact weaving.covers (applicable_foreign foreign file) tried
      · have unseen := uncalled method among before bodyBefore
        cases weaving with
        | unchanged _ => exact .absent unseen
        | grown chain _ _ => exact .absent (chain.keeps_uncalled (foreign rule member) unseen)

theorem covered_class_idle {transformer : Transformer} {file : ClassFile}
    (foreign : ∀ rule ∈ transformer.rules, rule.signature ≠ guardEntry)
    (covered : file.CoveredFor transformer.rules) :
    (transformer.weaveClass file).result = .ok ⟨file.name, []⟩ := by
  rcases weave_class_spec foreign file with ⟨result, woven, weaving, _, reportIs⟩
  have idle := weaving.idle fun method inside body present rule tried =>
    covered method inside body present rule (mem_of_mem_applicable tried)
  exact (reportIs _).mpr ⟨[], idle.1, rfl⟩

/-- Bytes come back changed only for a class that was read, woven and found to verify. -/
theorem transform_some {transformer : Transformer} {bytes out : List UInt8} {report : Report}
    (changed : transformer.transform bytes = .ok (report, some out)) :
    ∃ file, transformer.codec.decode bytes = .ok file ∧
      (transformer.weaveClass file).result = .ok report ∧
      (transformer.weaveClass file).file.fault? = none ∧
      out = transformer.codec.bytesOf (transformer.weaveClass file).file := by
  cases decoded : transformer.codec.decode bytes with
  | error error => simp [transform, decoded] at changed
  | ok file =>
      cases done : (transformer.weaveClass file).result with
      | error error => simp [transform, decoded, done] at changed
      | ok woven =>
          simp only [transform, decoded, done] at changed
          split_ifs at changed
          · cases written : transformer.codec.encode (transformer.weaveClass file).file with
            | error error => simp [written] at changed
            | ok encoded =>
                simp only [written] at changed
                cases changed
                rcases Codec.encode_ok_iff.mp written with ⟨sound, spelled⟩
                exact ⟨file, rfl, done, sound, spelled⟩
          · cases changed

theorem transform_of_idle {transformer : Transformer} {bytes : List UInt8} {file : ClassFile}
    (decoded : transformer.codec.decode bytes = .ok file)
    (idle : (transformer.weaveClass file).result = .ok ⟨file.name, []⟩) :
    transformer.transform bytes = .ok (⟨file.name, []⟩, none) := by
  simp [transform, decoded, idle, Report.isModified]

theorem in_turn_of_idle {later : List Transformer} {bytes : List UInt8} {report : Report}
    (idle : ∀ transformer ∈ later, transformer.transform bytes = .ok (report, none)) :
    inTurn later bytes = .ok (later.map fun _ => report, bytes) := by
  induction later with
  | nil => rfl
  | cons transformer later induction =>
      rw [List.forall_mem_cons] at idle
      have rest := induction idle.2
      simp only [inTurn, idle.1, Option.getD_none, bind, Except.bind, rest, List.map_cons]

theorem GuardsAs.foreign {transformer : Transformer} {rules : List Rule}
    (within : transformer.GuardsAs rules) (foreign : ∀ rule ∈ rules, rule.signature ≠ guardEntry) :
    ∀ rule ∈ transformer.rules, rule.signature ≠ guardEntry := by
  intro rule member
  rcases within rule member with ⟨earlier, among, _, sameSignature⟩
  rw [sameSignature]
  exact foreign earlier among

theorem GuardsAs.covered {file : ClassFile} {rules : List Rule}
    {transformer : Transformer} (within : transformer.GuardsAs rules)
    (covered : file.CoveredFor rules) : file.CoveredFor transformer.rules := by
  intro method inside body present rule member
  rcases within rule member with ⟨earlier, among, sameOperation, sameSignature⟩
  rw [sameOperation, sameSignature]
  exact covered method inside body present earlier among

theorem reported_name {transformer : Transformer} {file : ClassFile} {report : Report}
    (foreign : ∀ rule ∈ transformer.rules, rule.signature ≠ guardEntry)
    (done : (transformer.weaveClass file).result = .ok report) :
    report.className = (transformer.weaveClass file).file.name := by
  rcases weave_class_done foreign done with ⟨woven, _, fileIs, reported⟩
  rw [fileIs, reported]

/-- A stored class is woven into one that fits, if the bytes of the stored class can be
counted in eight bytes themselves. -/
theorem woven_class_of_stored_fits {transformer : Transformer} {file : ClassFile}
    {bytes : List UInt8} {report : Report}
    (foreign : ∀ rule ∈ transformer.rules, rule.signature ≠ guardEntry)
    (counted : bytes.length < UInt64.size) (decoded : Codec.decodeBinary bytes = .ok file)
    (done : (transformer.weaveClass file).result = .ok report) :
    Payload.ClassFits (transformer.weaveClass file).file := by
  rcases Codec.decode_binary_iff.mp decoded with ⟨fitting, suffix, rfl⟩
  apply woven_class_fits foreign fitting _ done
  simp only [Codec.bytesOf, List.length_append] at counted
  omega

/-- A stored class that weaving changed is not changed again by rules for the same operations
and signatures, however they are placed, ordered and chosen, and however often that is tried.
A byte string has no more bytes than a number of sixty-four bits can count, as every one in
memory does; without that the new number of instructions could not be written. -/
theorem reweaving_changes_nothing (rules : List Rule) (dispatch : Dispatch)
    (bytes out : List UInt8) (report : Report)
    (foreign : ∀ rule ∈ rules, rule.signature ≠ guardEntry)
    (counted : bytes.length < UInt64.size)
    (changed : (Transformer.mk rules .binary dispatch).transform bytes = .ok (report, some out))
    (later : List Transformer)
    (same : ∀ transformer ∈ later, transformer.codec = .binary ∧ transformer.GuardsAs rules) :
    (∀ transformer ∈ later,
      transformer.transform out = .ok (⟨report.className, []⟩, none)) ∧
    inTurn later out = .ok (later.map fun _ => ⟨report.className, []⟩, out) := by
  let first : Transformer := ⟨rules, .binary, dispatch⟩
  rcases transform_some changed with ⟨file, decoded, done, _, rfl⟩
  have covered : (first.weaveClass file).file.CoveredFor rules := woven_class_covered foreign done
  have reported : report.className = (first.weaveClass file).file.name :=
    reported_name foreign done
  have readBack := Codec.decode_bytes_of (woven_class_of_stored_fits foreign counted decoded done)
  have idle : ∀ transformer ∈ later,
      transformer.transform (Codec.binary.bytesOf (first.weaveClass file).file) =
        .ok (⟨report.className, []⟩, none) := by
    intro transformer member
    rcases same transformer member with ⟨binary, within⟩
    rw [reported]
    apply transform_of_idle
    · rw [binary]
      exact readBack
    · exact covered_class_idle (within.foreign foreign) (within.covered covered)
  exact ⟨idle, in_turn_of_idle idle⟩

/-- A class whose stored form is woven before the call, then at the start, then by rules that
are tried only where their owners are called. -/
theorem reweaving_evading_class :
    ∃ out,
      (∀ rule ∈ Rule.standard, rule.signature ≠ guardEntry) ∧
      (Codec.binary.bytesOf evadingClass).length < UInt64.size ∧
      (Transformer.mk Rule.standard .binary .allRules).transform
        (Codec.binary.bytesOf evadingClass) =
          .ok (⟨"app/Stopper", [⟨"stop()V", .runtimeExit⟩]⟩, some out) ∧
      inTurn
        [⟨Rule.placed .methodEntry, .binary, .allRules⟩, ⟨Rule.standard.reverse, .binary,
          .referencedOwners⟩] out = .ok ([⟨"app/Stopper", []⟩, ⟨"app/Stopper", []⟩], out) := by
  let later : List Transformer :=
    [⟨Rule.placed .methodEntry, .binary, .allRules⟩, ⟨Rule.standard.reverse, .binary,
      .referencedOwners⟩]
  have foreign : ∀ rule ∈ Rule.standard, rule.signature ≠ guardEntry := by decide
  have counted : (Codec.binary.bytesOf evadingClass).length < UInt64.size := by decide +kernel
  have changed : (Transformer.mk Rule.standard .binary .allRules).transform
      (Codec.binary.bytesOf evadingClass) =
        .ok (⟨"app/Stopper", [⟨"stop()V", .runtimeExit⟩]⟩,
          some (Codec.binary.bytesOf ((ofRules Rule.standard).weaveClass evadingClass).file)) := by
    decide +kernel
  have same : ∀ transformer ∈ later,
      transformer.codec = .binary ∧ transformer.GuardsAs Rule.standard := by
    unfold GuardsAs
    decide
  exact ⟨_, foreign, counted, changed,
    (reweaving_changes_nothing Rule.standard .allRules _ _ _ foreign counted changed later
      same).2⟩

end Transformer

end AccessWeave
