import AccessWeave.Proofs.Class.BinaryForm
import AccessWeave.Proofs.Class.WellFormed
import AccessWeave.Proofs.Weave.Failure
import AccessWeave.Proofs.Weave.Preservation

/-!
# Verification before and after weaving

A guard has no label and no jump, so all that verification takes of a woven stream is what it took
of the original one. What weaving changes for it is the declared stack alone. One more slot does
no harm, so a class that verifies is woven into one that does. It can do good, though: a body in
which some frame is one entry too deep verifies once it has a guard. That is the only fault that
weaving takes away, and nothing asks for it before the class is written.
-/

namespace AccessWeave

open Instruction (invoke)

namespace Insertions

/-- With guards put in, a body is well formed exactly when it is without them. -/
theorem well_formed_iff {body : Body} {inserted : List Rule} {final : List Instruction}
    (insertions : Insertions body.instructions inserted final) (maxStack : UInt16) :
    ({ body with instructions := final, maxStack } : Body).WellFormed ↔
      ({ body with maxStack } : Body).WellFormed := by
  rw [Body.well_formed_iff_labels, Body.well_formed_iff_labels]
  simp only [Body.labels, insertions.labels_eq, insertions.targets_eq]

end Insertions

namespace Body

variable {body : Body}

theorem WellFormed.with_slot (wellFormed : body.WellFormed) (room : body.maxStack ≠ 65535) :
    ({ body with maxStack := body.maxStack + 1 } : Body).WellFormed := by
  refine ⟨wellFormed.once, wellFormed.targets, wellFormed.handlers, ?_⟩
  intro frame inside
  rcases wellFormed.frames frame inside with ⟨defined, fits⟩
  refine ⟨defined, ?_⟩
  dsimp only
  rw [slot_added (slot_left_iff.mpr room)]
  omega

/-- Whether the only fault of the body are frames that are one entry deeper than the declared
stack. -/
def OneSlotShort (body : Body) : Prop :=
  (∃ label, body.verify =
    .error (.frameExceedsMaxStack label (body.maxStack.toNat + 1) body.maxStack)) ∧
  ({ body with maxStack := body.maxStack + 1 } : Body).verify = .ok ()

/-- A body that fails and would not with one more slot is short of that slot only. -/
theorem one_slot_short_of_mended (broken : body.verify ≠ .ok ())
    (mended : ({ body with maxStack := body.maxStack + 1 } : Body).WellFormed) :
    body.OneSlotShort := by
  refine ⟨?_, verify_ok_iff.mpr mended⟩
  have sound : ({ body with frames := [] } : Body).WellFormed :=
    ⟨mended.once, mended.targets, mended.handlers, fun _ none => absurd none List.not_mem_nil⟩
  have faulty : body.fault? ≠ none := mt (fun none => by rw [verify, none]) broken
  rcases Option.ne_none_iff_exists'.mp faulty with ⟨error, found⟩
  have deep := found
  rw [fault_of_frames sound] at deep
  rcases List.exists_of_findSome?_eq_some deep with ⟨frame, inside, fault⟩
  rcases mended.frames frame inside with ⟨defined, fits⟩
  have slots : (body.maxStack + 1).toNat ≤ body.maxStack.toNat + 1 := by
    rw [UInt16.toNat_add]
    exact Nat.mod_le _ _
  dsimp only at fits
  rw [frameFault] at fault
  cases place : body.position? frame.label with
  | none => exact (position_none_iff.mp place defined).elim
  | some index =>
      simp only [place] at fault
      split_ifs at fault with shallow
      have depth : frame.stack.length = body.maxStack.toNat + 1 := by omega
      cases fault
      refine ⟨frame.label, ?_⟩
      rw [verify, found, depth]

theorem OneSlotShort.broken (short : body.OneSlotShort) : body.verify ≠ .ok () := by
  rcases short.1 with ⟨label, failed⟩
  rw [failed]
  exact nofun

theorem OneSlotShort.has_room (short : body.OneSlotShort) : body.maxStack ≠ 65535 := by
  rcases short with ⟨⟨label, failed⟩, mended⟩
  intro full
  -- With the largest stack one more slot is none at all.
  have sound := verify_ok_iff.mp mended
  have fits : body.verify = .ok () := by
    refine verify_ok_iff.mpr ⟨sound.once, sound.targets, sound.handlers, ?_⟩
    intro frame inside
    rcases sound.frames frame inside with ⟨defined, shallow⟩
    refine ⟨defined, Nat.le_trans shallow ?_⟩
    dsimp only
    rw [full]
    decide
  rw [fits] at failed
  cases failed

end Body

section Bodies

variable {body : Body} {rules : List Rule} {context : WeaveContext}

/-- A body verifies after weaving exactly when it did before, or when it was short of one slot
and got it with a guard. -/
theorem woven_body_verifies_iff :
    (weaveBody body rules context).body.verify = .ok () ↔
      body.verify = .ok () ∨
        body.OneSlotShort ∧ ∃ rule ∈ rules, rule.Unprotected body.instructions := by
  have outcome := weave_body_outcome body rules context
  generalize (weaveBody body rules context).result = result at outcome
  generalize (weaveBody body rules context).body = left at outcome ⊢
  cases outcome with
  | kept guarded =>
      constructor
      · exact Or.inl
      · rintro (sound | ⟨_, rule, member, unguarded⟩)
        · exact sound
        · exact (guarded rule member unguarded).elim
  | grown unguarded insertions _ room =>
      rw [Body.verify_ok_iff, insertions.well_formed_iff]
      constructor
      · intro mended
        by_cases sound : body.verify = .ok ()
        · exact Or.inl sound
        · exact Or.inr ⟨Body.one_slot_short_of_mended sound mended, unguarded⟩
      · rintro (sound | ⟨short, _⟩)
        · exact (Body.verify_ok_iff.mp sound).with_slot room
        · exact Body.verify_ok_iff.mp short.2
  | overflow _ insertions _ full =>
      rw [Body.verify_ok_iff, insertions.well_formed_iff body.maxStack, ← Body.verify_ok_iff]
      constructor
      · exact Or.inl
      · rintro (sound | ⟨short, _⟩)
        · exact sound
        · exact (short.has_room full).elim

theorem broken_body_stays_broken_iff :
    (body.verify ≠ .ok () → (weaveBody body rules context).body.verify ≠ .ok ()) ↔
      ¬(body.OneSlotShort ∧ ∃ rule ∈ rules, rule.Unprotected body.instructions) := by
  constructor
  · rintro stays ⟨short, unguarded⟩
    exact stays short.broken (woven_body_verifies_iff.mpr (Or.inr ⟨short, unguarded⟩))
  · intro beyond broken sound
    rcases woven_body_verifies_iff.mp sound with kept | mended
    · exact broken kept
    · exact beyond mended

end Bodies

namespace Transformer

open Method (woven sites)

variable {transformer : Transformer} {file : ClassFile}

theorem woven_class_fault_none_iff {report : Report}
    (done : (transformer.weaveClass file).result = .ok report) :
    (transformer.weaveClass file).file.fault? = none ↔
      ∀ method ∈ file.methods, ∀ body, method.body = some body →
        body.verify = .ok () ∨
          body.OneSlotShort ∧
            ∃ rule ∈ transformer.rules, rule.Unprotected body.instructions := by
  rcases weave_class_cases transformer file with ⟨_, same⟩ | ⟨_, _, _, _, _, _, stopped⟩
  · rw [same, ClassFile.fault_none_iff]
    dsimp only
    rw [List.forall_mem_map]
    refine forall₂_congr fun method inside => ?_
    cases present : method.body with
    | none => simp [Method.woven_of_bodiless present, present]
    | some body =>
        rw [Method.woven_body present]
        simp only [Option.some.injEq, forall_eq', weaveMethodBody, woven_body_verifies_iff,
          unprotected_applicable_iff inside present]
  · rw [stopped] at done
    cases done

/-- A class that verifies is woven into one that does, which both codecs then write, unless some
method needs a guard and has no slot left; then the error names the first such method. The rules
may be any, also one for the calls of the guard itself. -/
theorem weaving_keeps_class_verified (transformer : Transformer) (file : ClassFile)
    (sound : ∀ method ∈ file.methods, ∀ body, method.body = some body → body.verify = .ok ()) :
    (∀ report, (transformer.weaveClass file).result = .ok report →
      (∀ method ∈ (transformer.weaveClass file).file.methods,
        ∀ body, method.body = some body → body.verify = .ok ()) ∧
      ∀ codec : Codec, codec.encode (transformer.weaveClass file).file =
        .ok (codec.bytesOf (transformer.weaveClass file).file)) ∧
    ((∃ error, (transformer.weaveClass file).result = .error error) ↔
      ∃ method ∈ file.methods, method.Overflows transformer.rules) ∧
    ∀ error, (transformer.weaveClass file).result = .error error →
      ∃ earlier method later,
        file.methods = earlier ++ method :: later ∧
        (∀ item ∈ earlier, ¬item.Overflows transformer.rules) ∧
        method.Overflows transformer.rules ∧
        error = .weave file.name method.qualifiedName (.stackOverflow 65535) := by
  refine ⟨fun report done => ?_, weave_class_fails_iff, fun error => weave_class_failure⟩
  have noFault := (woven_class_fault_none_iff done).mpr
    fun method inside body present => Or.inl (sound method inside body present)
  exact ⟨ClassFile.fault_none_iff.mp noFault,
    fun codec => Codec.encode_ok_iff.mpr ⟨noFault, rfl⟩⟩

theorem weaving_keeps_evading_class_verified :
    (∀ method ∈ evadingClass.methods,
      ∀ body, method.body = some body → body.verify = .ok ()) ∧
    (∀ method ∈ ((ofRules Rule.standard).weaveClass evadingClass).file.methods,
      ∀ body, method.body = some body → body.verify = .ok ()) ∧
    (∀ method ∈ crowdedClass.methods,
      ∀ body, method.body = some body → body.verify = .ok ()) ∧
    ∃ earlier method later,
      crowdedClass.methods = earlier ++ method :: later ∧
      (∀ item ∈ earlier, ¬item.Overflows Rule.standard) ∧
      method.Overflows Rule.standard ∧
      TransformError.weave "app/Crowd" "full()V" (.stackOverflow 65535) =
        .weave crowdedClass.name method.qualifiedName (.stackOverflow 65535) := by
  have evadingSound : ∀ method ∈ evadingClass.methods,
      ∀ body, method.body = some body → body.verify = .ok () :=
    ClassFile.fault_none_iff.mp (by decide +kernel)
  have crowdedSound : ∀ method ∈ crowdedClass.methods,
      ∀ body, method.body = some body → body.verify = .ok () :=
    ClassFile.fault_none_iff.mp (by decide +kernel)
  have done : ((ofRules Rule.standard).weaveClass evadingClass).result =
      .ok ⟨"app/Stopper", [⟨"stop()V", .runtimeExit⟩]⟩ := by decide +kernel
  have failed : ((ofRules Rule.standard).weaveClass crowdedClass).result =
      .error (.weave "app/Crowd" "full()V" (.stackOverflow 65535)) := by decide +kernel
  have kept := weaving_keeps_class_verified (ofRules Rule.standard) evadingClass evadingSound
  have stopped := weaving_keeps_class_verified (ofRules Rule.standard) crowdedClass crowdedSound
  exact ⟨evadingSound, (kept.1 _ done).1, crowdedSound, stopped.2.2 _ failed⟩

/-- A guard that is put in is reported. -/
theorem site_of_unprotected {method : Method} {body : Body} {rules : List Rule}
    (present : method.body = some body)
    (unguarded : ∃ rule ∈ rules, rule.Unprotected body.instructions)
    (fits : ¬method.Overflows rules) : method.sites rules ≠ [] := by
  have outcome := weave_body_outcome body rules (WeaveContext.ofSize rules.length)
  rcases Method.outcome_ok_iff.mpr fits with ⟨inserted, finished⟩
  have result := finished
  rw [Method.outcome_of_body present, weaveMethodBody] at result
  rw [result] at outcome
  generalize (weaveBody body rules _).body = left at outcome
  rw [sites, finished]
  cases outcome with
  | kept guarded =>
      rcases unguarded with ⟨rule, member, found⟩
      exact (guarded rule member found).elim
  | grown _ _ some _ => exact mt List.map_eq_nil_iff.mp some

/-- The bytes of a class with a broken body come back as an error or not at all exactly when some
method overflows, or when some body is broken in a way that weaving does not mend. -/
theorem broken_class_stopped_iff {bytes : List UInt8}
    (decoded : transformer.codec.decode bytes = .ok file)
    (broken : ∃ method ∈ file.methods, ∃ body,
      method.body = some body ∧ body.verify ≠ .ok ()) :
    ((∃ error, transformer.transform bytes = .error error) ∨
        transformer.transform bytes = .ok (⟨file.name, []⟩, none)) ↔
      ∃ method ∈ file.methods, method.Overflows transformer.rules ∨
        ∃ body, method.body = some body ∧ body.verify ≠ .ok () ∧
          ¬(body.OneSlotShort ∧
            ∃ rule ∈ transformer.rules, rule.Unprotected body.instructions) := by
  rcases weave_class_cases transformer file with
    ⟨fits, same⟩ | ⟨_, failing, _, split, _, overflows, stopped⟩
  · have done := congrArg WovenClass.result same
    have fault := woven_class_fault_none_iff done
    by_cases idle : file.methods.flatMap (sites (transformer.applicableRules file)) = []
    · refine iff_of_true (Or.inr ?_) ?_
      · simp [transform, decoded, done, idle, Report.isModified]
      · rcases broken with ⟨method, inside, body, present, failing⟩
        refine ⟨method, inside, Or.inr ⟨body, present, failing, ?_⟩⟩
        rintro ⟨_, unguarded⟩
        have tried := (unprotected_applicable_iff inside present).mpr unguarded
        have room := mt (overflows_applicable_iff inside).mp (fits method inside)
        exact site_of_unprotected present tried room
          (List.flatMap_eq_nil_iff.mp idle method inside)
    · -- Some guard was put in, so the codec decides, and it looks at the woven class only.
      have written : (∃ error, transformer.transform bytes = .error error) ∨
          transformer.transform bytes = .ok (⟨file.name, []⟩, none) ↔
          (transformer.weaveClass file).file.fault? ≠ none := by
        cases found : (transformer.weaveClass file).file.fault? with
        | none => simp [transform, decoded, done, idle, Report.isModified, Codec.encode, found]
        | some => simp [transform, decoded, done, idle, Report.isModified, Codec.encode, found]
      rw [written, ne_eq, fault]
      constructor
      · intro faulty
        by_contra mended
        apply faulty
        intro method inside body present
        by_contra neither
        rw [not_or] at neither
        exact mended ⟨method, inside, Or.inr ⟨body, present, neither⟩⟩
      · rintro ⟨method, inside, overflows | ⟨body, present, failing, unmended⟩⟩ sound
        · exact fits method inside overflows
        · exact (sound method inside body present).elim failing unmended
  · have inside : failing ∈ file.methods := by simp [split]
    refine iff_of_true (Or.inl ?_) ⟨failing, inside, Or.inl overflows⟩
    exact ⟨.weave file.name failing.qualifiedName (.stackOverflow 65535), by
      simp [transform, decoded, stopped]⟩

/-- The one fault that weaving takes away: a body that fails verification passes it afterwards
only if its frames are at most one entry too deep and it gets a guard. So a class with a broken
body is written only if that is the fault of every broken body it has. -/
theorem only_a_missing_slot_is_mended (body : Body) (rules : List Rule) (context : WeaveContext)
    (transformer : Transformer) (bytes : List UInt8) (file : ClassFile)
    (decoded : transformer.codec.decode bytes = .ok file)
    (broken : ∃ method ∈ file.methods, ∃ code,
      method.body = some code ∧ code.verify ≠ .ok ()) :
    ((body.verify ≠ .ok () → (weaveBody body rules context).body.verify ≠ .ok ()) ↔
      ¬(body.OneSlotShort ∧ ∃ rule ∈ rules, rule.Unprotected body.instructions)) ∧
    (((∃ error, transformer.transform bytes = .error error) ∨
        transformer.transform bytes = .ok (⟨file.name, []⟩, none)) ↔
      ∃ method ∈ file.methods, method.Overflows transformer.rules ∨
        ∃ code, method.body = some code ∧ code.verify ≠ .ok () ∧
          ¬(code.OneSlotShort ∧
            ∃ rule ∈ transformer.rules, rule.Unprotected code.instructions)) :=
  ⟨broken_body_stays_broken_iff, broken_class_stopped_iff decoded broken⟩

/-- Two operands where one is declared. -/
def shallowBody : Body where
  maxStack := 1
  maxLocals := 0
  instructions := [.label ⟨0⟩, invoke Operation.runtimeExit.signature, .plain 0xb1 []]
  handlers := []
  frames := [⟨⟨0⟩, [], ["java/lang/Runtime", "int"]⟩]

def shallowClass : ClassFile where
  name := "app/Shallow"
  superName := none
  methods := [⟨"stop", "()V", 0x0009, some shallowBody⟩]
  attributes := []

/-- A jump to a label that is not there. -/
def astrayBody : Body where
  maxStack := 2
  maxLocals := 0
  instructions := [invoke Operation.runtimeExit.signature, .branch 0xa7 ⟨7⟩]
  handlers := []
  frames := []

def astrayClass : ClassFile := { shallowClass with
  methods := [⟨"stop", "()V", 0x0009, some astrayBody⟩] }

theorem missing_slot_is_mended_and_missing_label_is_not :
    shallowBody.verify ≠ .ok () ∧
    (shallowBody.OneSlotShort ∧
      ∃ rule ∈ Rule.standard, rule.Unprotected shallowBody.instructions) ∧
    astrayBody.verify = .error (.undefinedLabel ⟨7⟩ (.instruction 1)) ∧
    ((∃ error, (ofRules Rule.standard).transform (Codec.binary.bytesOf astrayClass) =
        .error error) ∨
      (ofRules Rule.standard).transform (Codec.binary.bytesOf astrayClass) =
        .ok (⟨"app/Shallow", []⟩, none)) := by
  have shallow : shallowBody.verify ≠ .ok () := by decide
  have verified : (weaveBody shallowBody Rule.standard (WeaveContext.ofSize 3)).body.verify =
      .ok () := by decide
  have astray : astrayBody.verify = .error (.undefinedLabel ⟨7⟩ (.instruction 1)) := by decide
  have broken : astrayBody.verify ≠ .ok () := by
    rw [astray]
    exact nofun
  have beyond : ¬(astrayBody.OneSlotShort ∧
      ∃ rule ∈ Rule.standard, rule.Unprotected astrayBody.instructions) := by
    rintro ⟨⟨⟨label, deep⟩, _⟩, _⟩
    rw [astray] at deep
    cases deep
  have decoded : Codec.binary.decode (Codec.binary.bytesOf astrayClass) = .ok astrayClass := by
    decide +kernel
  have member : _ ∈ astrayClass.methods := List.mem_singleton.mpr rfl
  have mended := only_a_missing_slot_is_mended shallowBody Rule.standard (WeaveContext.ofSize 3)
    (ofRules Rule.standard) _ astrayClass decoded ⟨_, member, astrayBody, rfl, broken⟩
  have short : shallowBody.OneSlotShort ∧
      ∃ rule ∈ Rule.standard, rule.Unprotected shallowBody.instructions := by
    by_contra enough
    exact mended.1.mpr enough shallow verified
  exact ⟨shallow, short, astray,
    mended.2.mpr ⟨_, member, Or.inr ⟨astrayBody, rfl, broken, beyond⟩⟩⟩

/-- A class that was read with a broken body comes back changed. -/
theorem shallow_class_is_written :
    ∃ out,
      Codec.binary.decode (Codec.binary.bytesOf shallowClass) = .ok shallowClass ∧
      shallowBody.verify = .error (.frameExceedsMaxStack ⟨0⟩ 2 1) ∧
      (ofRules Rule.standard).transform (Codec.binary.bytesOf shallowClass) =
        .ok (⟨"app/Shallow", [⟨"stop()V", .runtimeExit⟩]⟩, some out) := by
  refine ⟨Codec.binary.bytesOf ((ofRules Rule.standard).weaveClass shallowClass).file, ?_⟩
  decide +kernel

end Transformer

end AccessWeave
