import AccessWeave.Proofs.Weave.Dispatching

/-!
# When weaving fails, and what it leaves behind

A body can only fail to be woven for want of a slot in its declared stack, and it does exactly
where it needs a guard and declares the largest stack there is. A class fails with the first of
its methods that does. The guards are in the stream by then and are not taken out: what is left is
never what was given, and on a second attempt those guards count as guards that are there already.
-/

namespace AccessWeave

open Instruction (invoke)

section Bodies

variable {body : Body} {rules : List Rule} {context : WeaveContext} {error : WeaveError}

theorem weave_body_error_iff :
    (weaveBody body rules context).result = .error error ↔
      error = .stackOverflow 65535 ∧ body.maxStack = 65535 ∧
        ∃ rule ∈ rules, rule.Unprotected body.instructions := by
  have outcome := weave_body_outcome body rules context
  generalize (weaveBody body rules context).result = result at outcome ⊢
  generalize (weaveBody body rules context).body = left at outcome
  cases outcome with
  | kept guarded =>
      constructor
      · intro failed
        cases failed
      · rintro ⟨_, _, rule, member, unguarded⟩
        exact (guarded rule member unguarded).elim
  | grown _ _ _ room =>
      constructor
      · intro failed
        cases failed
      · rintro ⟨_, full, _⟩
        exact (room full).elim
  | overflow unguarded _ _ full =>
      constructor
      · intro failed
        exact ⟨(Except.error.inj failed).symm, full, unguarded⟩
      · rintro ⟨rfl, _⟩
        rfl

/-- A body that could not be woven is left longer than it was. -/
theorem failed_body_differs (failed : (weaveBody body rules context).result = .error error) :
    (weaveBody body rules context).body ≠ body := by
  have outcome := weave_body_outcome body rules context
  rw [failed] at outcome
  generalize (weaveBody body rules context).body = left at outcome ⊢
  cases outcome with
  | @overflow inserted final _ insertions some _ =>
      intro same
      have streams : final = body.instructions := congrArg Body.instructions same
      have grown := insertions.length_eq
      have positive := List.length_pos_iff.mpr some
      rw [streams] at grown
      omega

theorem body_kept_on_error_iff :
    (∀ error, (weaveBody body rules context).result = .error error →
        (weaveBody body rules context).body = body) ↔
      ¬(body.maxStack = 65535 ∧ ∃ rule ∈ rules, rule.Unprotected body.instructions) := by
  constructor
  · rintro kept ⟨full, unguarded⟩
    have failed : (weaveBody body rules context).result = .error (.stackOverflow 65535) :=
      weave_body_error_iff.mpr ⟨rfl, full, unguarded⟩
    exact failed_body_differs failed (kept _ failed)
  · intro room error failed
    exact (room (weave_body_error_iff.mp failed).2).elim

theorem unprotected_iff_uncovered {rule : Rule} {stream : List Instruction}
    (foreign : rule.signature ≠ guardEntry) :
    rule.Unprotected stream ↔ ¬Covered rule.operation rule.signature stream := by
  constructor
  · rintro ⟨called, unguarded⟩ covered
    rcases List.eq_append_cons_of_mem called with ⟨before, rest, rfl, unseen⟩
    obtain ⟨head, last, final⟩ := first_and_last_call rest unseen
    have protection := (protects_iff_covered rule.operation foreign head final).mpr covered
    rw [unguarded _ _ (end_calls_of_positions head final)] at protection
    cases protection
  · intro uncovered
    refine ⟨?_, fun first last ends => ?_⟩
    · by_contra absent
      exact uncovered (.absent absent)
    · obtain ⟨head, final⟩ := end_calls_iff.mp ends
      exact Bool.eq_false_iff.mpr
        (mt (protects_iff_covered rule.operation foreign head final).mp uncovered)

end Bodies

namespace Method

variable {rules : List Rule} {method : Method}

/-- Whether the method has a call to guard and no slot left for the guard. -/
def Overflows (rules : List Rule) (method : Method) : Prop :=
  ∃ body, method.body = some body ∧ body.maxStack = 65535 ∧
    ∃ rule ∈ rules, rule.Unprotected body.instructions

theorem outcome_error_iff {error : WeaveError} :
    method.outcome rules = .error error ↔
      error = .stackOverflow 65535 ∧ method.Overflows rules := by
  cases present : method.body with
  | none => simp [outcome, Overflows, present]
  | some body => simp [outcome, Overflows, present, weaveMethodBody, weave_body_error_iff]

theorem outcome_ok_iff :
    (∃ inserted, method.outcome rules = .ok inserted) ↔ ¬method.Overflows rules := by
  cases finished : method.outcome rules with
  | ok inserted =>
      have fits : ¬method.Overflows rules := by
        intro overflows
        rw [outcome_error_iff.mpr ⟨rfl, overflows⟩] at finished
        cases finished
      simp [fits]
  | error error => simp [(outcome_error_iff.mp finished).2]

theorem woven_ne_of_overflows (overflows : method.Overflows rules) :
    method.woven rules ≠ method := by
  rcases overflows with ⟨body, present, full, unguarded⟩
  have failed : (weaveMethodBody body rules).result = .error (.stackOverflow 65535) :=
    weave_body_error_iff.mpr ⟨rfl, full, unguarded⟩
  intro same
  have bodies := congrArg Method.body same
  rw [woven_body present, present] at bodies
  exact failed_body_differs failed (Option.some.inj bodies)

/-- What weaving leaves of a method needs no guard any more, also where the weaving failed. -/
theorem woven_idle (foreign : ∀ rule ∈ rules, rule.signature ≠ guardEntry) (method : Method) :
    (method.woven rules).outcome rules = .ok [] ∧
      (method.woven rules).woven rules = method.woven rules := by
  cases present : method.body with
  | none => simp [outcome, woven, present]
  | some body =>
      let left := (weaveMethodBody body rules).body
      have guarded : ∀ rule ∈ rules, ¬rule.Unprotected left.instructions := by
        intro rule member unguarded
        have covered := (weave_body_spec foreign body (WeaveContext.ofSize rules.length)).covers
          foreign member
        exact (unprotected_iff_uncovered (foreign rule member)).mp unguarded covered
      -- Every rule is covered by now, so that only the first way to come out is open.
      have again := weave_body_outcome left rules (WeaveContext.ofSize rules.length)
      have idle : (weaveMethodBody left rules).result = .ok [] ∧
          (weaveMethodBody left rules).body = left := by
        rw [weaveMethodBody]
        generalize (weaveBody left rules _).result = result at again ⊢
        generalize (weaveBody left rules _).body = final at again ⊢
        cases again with
        | kept _ => exact ⟨rfl, rfl⟩
        | grown unguarded _ _ _ =>
            rcases unguarded with ⟨rule, member, found⟩
            exact (guarded rule member found).elim
        | overflow unguarded _ _ _ =>
            rcases unguarded with ⟨rule, member, found⟩
            exact (guarded rule member found).elim
      have wovenPresent : (method.woven rules).body = some left := woven_body present
      rw [outcome_of_body wovenPresent]
      refine ⟨idle.1, ?_⟩
      rw [woven, wovenPresent, Option.map_some, idle.2, ← wovenPresent]

end Method

namespace Transformer

open Method (woven sites)

variable {transformer : Transformer} {file : ClassFile}

/-- A rule that is not tried on a class finds no unprotected call in it. -/
theorem unprotected_applicable_iff {method : Method} {body : Body}
    (inside : method ∈ file.methods) (present : method.body = some body) :
    (∃ rule ∈ transformer.applicableRules file, rule.Unprotected body.instructions) ↔
      ∃ rule ∈ transformer.rules, rule.Unprotected body.instructions := by
  constructor
  · rintro ⟨rule, member, unguarded⟩
    exact ⟨rule, mem_of_mem_applicable member, unguarded⟩
  · rintro ⟨rule, member, unguarded⟩
    refine ⟨rule, ?_, unguarded⟩
    have owned := file.mem_call_owners inside present unguarded.1
    rw [applicableRules]
    cases transformer.dispatch with
    | allRules => exact member
    | referencedOwners => exact List.mem_filter.mpr ⟨member, decide_eq_true owned⟩

theorem overflows_applicable_iff {method : Method} (inside : method ∈ file.methods) :
    method.Overflows (transformer.applicableRules file) ↔ method.Overflows transformer.rules := by
  constructor
  · rintro ⟨body, present, full, unguarded⟩
    exact ⟨body, present, full, (unprotected_applicable_iff inside present).mp unguarded⟩
  · rintro ⟨body, present, full, unguarded⟩
    exact ⟨body, present, full, (unprotected_applicable_iff inside present).mpr unguarded⟩

/-- The one way in which a class is woven to its end, and the one way in which that fails. -/
theorem weave_class_cases (transformer : Transformer) (file : ClassFile) :
    ((∀ method ∈ file.methods, ¬method.Overflows transformer.rules) ∧
      transformer.weaveClass file =
        ⟨.ok ⟨file.name, file.methods.flatMap (sites (transformer.applicableRules file))⟩,
          { file with methods := file.methods.map (woven (transformer.applicableRules file)) }⟩) ∨
    ∃ earlier method later,
      file.methods = earlier ++ method :: later ∧
      (∀ item ∈ earlier, ¬item.Overflows transformer.rules) ∧
      method.Overflows transformer.rules ∧
      transformer.weaveClass file =
        ⟨.error (.weave file.name method.qualifiedName (.stackOverflow 65535)),
          { file with
            methods := earlier.map (woven (transformer.applicableRules file)) ++
              method.woven (transformer.applicableRules file) :: later }⟩ := by
  let tried := transformer.applicableRules file
  have overflows {method : Method} (inside : method ∈ file.methods) :
      method.Overflows tried ↔ method.Overflows transformer.rules :=
    overflows_applicable_iff inside
  rcases weave_methods_cases tried (WeaveContext.ofSize tried.length) file.methods with
    ⟨each, same⟩ | ⟨earlier, method, later, error, split, each, failed, same⟩
  · left
    refine ⟨fun method inside => ?_, by simp only [weaveClass, tried, same]⟩
    rw [← overflows inside]
    exact Method.outcome_ok_iff.mp (each method inside)
  · right
    rcases Method.outcome_error_iff.mp failed with ⟨rfl, here⟩
    refine ⟨earlier, method, later, split, fun item inside => ?_, ?_, ?_⟩
    · have among : item ∈ file.methods := by
        rw [split]
        exact List.mem_append_left _ inside
      rw [← overflows among]
      exact Method.outcome_ok_iff.mp (each item inside)
    · have among : method ∈ file.methods := by simp [split]
      exact (overflows among).mp here
    · simp only [weaveClass, tried, same]

theorem weave_class_fails_iff :
    (∃ error, (transformer.weaveClass file).result = .error error) ↔
      ∃ method ∈ file.methods, method.Overflows transformer.rules := by
  rcases weave_class_cases transformer file with
    ⟨fits, same⟩ | ⟨earlier, method, later, split, _, overflows, stopped⟩
  · rw [same]
    constructor
    · rintro ⟨_, failed⟩
      cases failed
    · rintro ⟨method, inside, overflows⟩
      exact (fits method inside overflows).elim
  · rw [stopped]
    constructor
    · intro _
      exact ⟨method, by simp [split], overflows⟩
    · exact fun _ => ⟨_, rfl⟩

theorem weave_class_failure {error : TransformError}
    (failed : (transformer.weaveClass file).result = .error error) :
    ∃ earlier method later,
      file.methods = earlier ++ method :: later ∧
      (∀ item ∈ earlier, ¬item.Overflows transformer.rules) ∧
      method.Overflows transformer.rules ∧
      error = .weave file.name method.qualifiedName (.stackOverflow 65535) := by
  rcases weave_class_cases transformer file with
    ⟨_, same⟩ | ⟨earlier, method, later, split, fits, overflows, stopped⟩
  · rw [same] at failed
    cases failed
  · rw [stopped] at failed
    exact ⟨earlier, method, later, split, fits, overflows, (Except.error.inj failed).symm⟩

theorem failed_class_differs {error : TransformError}
    (failed : (transformer.weaveClass file).result = .error error) :
    (transformer.weaveClass file).file ≠ file := by
  rcases weave_class_cases transformer file with
    ⟨_, same⟩ | ⟨earlier, method, later, split, _, overflows, stopped⟩
  · rw [same] at failed
    cases failed
  · have among : method ∈ file.methods := by simp [split]
    have tried := (overflows_applicable_iff among).mpr overflows
    rw [stopped]
    intro same
    have methods := congrArg ClassFile.methods same
    rw [split] at methods
    have aligned := List.append_inj_right methods (List.length_map _)
    exact Method.woven_ne_of_overflows tried (List.cons.inj aligned).1

theorem class_kept_on_error_iff :
    (∀ error, (transformer.weaveClass file).result = .error error →
        (transformer.weaveClass file).file = file) ↔
      ¬∃ method ∈ file.methods, method.Overflows transformer.rules := by
  rw [← weave_class_fails_iff]
  constructor
  · rintro kept ⟨error, failed⟩
    exact failed_class_differs failed (kept error failed)
  · intro fits error failed
    exact (fits ⟨error, failed⟩).elim

/-- What was woven already is passed over, whether it was woven to its end or not. -/
theorem weave_methods_after_woven {rules : List Rule}
    (foreign : ∀ rule ∈ rules, rule.signature ≠ guardEntry) (context : WeaveContext)
    (before later : List Method) :
    weaveMethods rules context (before.map (woven rules) ++ later) =
      ((weaveMethods rules context later).1,
        before.map (woven rules) ++ (weaveMethods rules context later).2) := by
  apply weave_methods_after_idle
  intro item inside
  rcases List.mem_map.mp inside with ⟨method, _, rfl⟩
  exact Method.woven_idle foreign method

theorem weave_class_again {error : TransformError}
    (foreign : ∀ rule ∈ transformer.rules, rule.signature ≠ guardEntry)
    (failed : (transformer.weaveClass file).result = .error error) :
    ∃ earlier method later,
      file.methods = earlier ++ method :: later ∧
      (∀ item ∈ earlier, ¬item.Overflows transformer.rules) ∧
      method.Overflows transformer.rules ∧
      error = .weave file.name method.qualifiedName (.stackOverflow 65535) ∧
      (transformer.weaveClass (transformer.weaveClass file).file).result =
        (transformer.weaveClass { file with methods := later }).result := by
  -- With all rules, what is tried on the class that is left is what was tried at first.
  let everything : Transformer := ⟨transformer.rules, transformer.codec, .allRules⟩
  have byAll (given : ClassFile) : transformer.weaveClass given = everything.weaveClass given :=
    transformer.weave_class_by_all_rules given foreign transformer.codec
  simp only [byAll] at failed ⊢
  rcases weave_class_cases everything file with
    ⟨_, done⟩ | ⟨earlier, method, later, split, fits, overflows, stopped⟩
  · rw [done] at failed
    cases failed
  · rw [stopped] at failed ⊢
    refine ⟨earlier, method, later, split, fits, overflows, (Except.error.inj failed).symm, ?_⟩
    have passed := weave_methods_after_woven foreign
      (WeaveContext.ofSize transformer.rules.length) (earlier ++ [method]) later
    have front : (earlier ++ [method]).map (woven transformer.rules) ++ later =
        earlier.map (woven transformer.rules) ++ method.woven transformer.rules :: later := by
      simp
    rw [front] at passed
    simp only [weaveClass, applicableRules, everything, passed]
    cases (weaveMethods transformer.rules _ later).1 <;> rfl

/-- A body and a class are after an error what they were before only where there can be no error.
Weaving the class again passes over the method that failed: its outcome is that of the methods
behind, and so the same error only if one of those has the same name. -/
theorem failure_leaves_guards_behind (body : Body) (rules : List Rule) (context : WeaveContext)
    (transformer : Transformer) (file : ClassFile) :
    ((∀ error, (weaveBody body rules context).result = .error error →
        (weaveBody body rules context).body = body) ↔
      ¬(body.maxStack = 65535 ∧ ∃ rule ∈ rules, rule.Unprotected body.instructions)) ∧
    ((∀ error, (transformer.weaveClass file).result = .error error →
        (transformer.weaveClass file).file = file) ↔
      ¬∃ method ∈ file.methods, method.Overflows transformer.rules) ∧
    ∀ error, (∀ rule ∈ transformer.rules, rule.signature ≠ guardEntry) →
      (transformer.weaveClass file).result = .error error →
      ∃ earlier method later,
        file.methods = earlier ++ method :: later ∧
        (∀ item ∈ earlier, ¬item.Overflows transformer.rules) ∧
        method.Overflows transformer.rules ∧
        error = .weave file.name method.qualifiedName (.stackOverflow 65535) ∧
        (transformer.weaveClass (transformer.weaveClass file).file).result =
          (transformer.weaveClass { file with methods := later }).result ∧
        ((transformer.weaveClass (transformer.weaveClass file).file).result = .error error →
          ∃ other ∈ later, other.qualifiedName = method.qualifiedName) := by
  refine ⟨body_kept_on_error_iff, class_kept_on_error_iff, ?_⟩
  intro error foreign failed
  rcases weave_class_again foreign failed with
    ⟨earlier, method, later, split, fits, overflows, rfl, again⟩
  refine ⟨earlier, method, later, split, fits, overflows, rfl, again, ?_⟩
  intro sameWay
  rw [again] at sameWay
  rcases weave_class_failure sameWay with ⟨before, other, behind, rest, _, _, errors⟩
  have parts : later = before ++ other :: behind := rest
  have inside : other ∈ later := by simp [parts]
  exact ⟨other, inside, (TransformError.weave.inj errors).2.1.symm⟩

theorem crowded_class_is_passed_over :
    (∀ rule ∈ Rule.standard, rule.signature ≠ guardEntry) ∧
      ((ofRules Rule.standard).weaveClass crowdedClass).result =
        .error (.weave "app/Crowd" "full()V" (.stackOverflow 65535)) ∧
      ∃ earlier method later,
        crowdedClass.methods = earlier ++ method :: later ∧
        (∀ item ∈ earlier, ¬item.Overflows Rule.standard) ∧
        method.Overflows Rule.standard ∧
        TransformError.weave "app/Crowd" "full()V" (.stackOverflow 65535) =
          .weave crowdedClass.name method.qualifiedName (.stackOverflow 65535) ∧
        ((ofRules Rule.standard).weaveClass
          ((ofRules Rule.standard).weaveClass crowdedClass).file).result =
            ((ofRules Rule.standard).weaveClass { crowdedClass with methods := later }).result ∧
        (((ofRules Rule.standard).weaveClass
            ((ofRules Rule.standard).weaveClass crowdedClass).file).result =
              .error (.weave "app/Crowd" "full()V" (.stackOverflow 65535)) →
          ∃ other ∈ later, other.qualifiedName = method.qualifiedName) := by
  have foreign : ∀ rule ∈ Rule.standard, rule.signature ≠ guardEntry := by decide
  have failed : ((ofRules Rule.standard).weaveClass crowdedClass).result =
      .error (.weave "app/Crowd" "full()V" (.stackOverflow 65535)) := by decide +kernel
  have left := failure_leaves_guards_behind (stoppingBody 65535) Rule.standard
    (WeaveContext.ofSize 3) (ofRules Rule.standard) crowdedClass
  exact ⟨foreign, failed, left.2.2 _ foreign failed⟩

/-- A body and a class are not left as they were, and the second attempt on the class succeeds:
the method that failed the first time counts as guarded. -/
theorem crowded_class_is_left_woven :
    (weaveBody (stoppingBody 65535) Rule.standard (WeaveContext.ofSize 3)).result =
        .error (.stackOverflow 65535) ∧
      (weaveBody (stoppingBody 65535) Rule.standard (WeaveContext.ofSize 3)).body ≠
        stoppingBody 65535 ∧
      ((ofRules Rule.standard).weaveClass crowdedClass).result =
        .error (.weave "app/Crowd" "full()V" (.stackOverflow 65535)) ∧
      ((ofRules Rule.standard).weaveClass crowdedClass).file ≠ crowdedClass ∧
      ((ofRules Rule.standard).weaveClass
        ((ofRules Rule.standard).weaveClass crowdedClass).file).result =
          .ok ⟨"app/Crowd", [⟨"last()V", .runtimeExit⟩]⟩ := by
  decide +kernel

end Transformer

end AccessWeave
