import AccessWeave.Proofs.Weave.Dispatching
import AccessWeave.Proofs.Weave.Growth

/-!
# A context keeps nothing from one method to the next

One context serves all the methods of a class. What it holds when a method is taken up makes no
difference to that method, and what it holds afterwards is about that method alone: which rules
found a call in it. So a class is woven as if each of its methods were woven with a context of its
own, as far as the first that cannot be.
-/

namespace AccessWeave

open Instruction (invoke)

/-- A rule that is tried needs nothing more in the method exactly when it found a call. -/
theorem weave_stream_applied {rule : Rule} (foreign : rule.signature ≠ guardEntry)
    (stream : List Instruction) :
    (weaveStream stream rule false).applied = decide (invoke rule.signature ∈ stream) := by
  have step := weave_stream_step foreign stream
  generalize weaveStream stream rule false = woven at step ⊢
  cases step with
  | kept => rfl
  | inserted _ uncovered _ => exact (decide_eq_true (mem_of_not_covered uncovered)).symm

/-- The flags of a list of rules tell of the calls in the stream as it is at first, since no rule
puts in or takes out a call that another looks for. -/
theorem weave_each_applied_iff {rules : List Rule}
    (foreign : ∀ rule ∈ rules, rule.signature ≠ guardEntry) (stream : List Instruction)
    (index : Nat) :
    (((weaveEach false rules stream)[index]?).map WovenStream.applied).getD false = true ↔
      ∃ rule, rules[index]? = some rule ∧ invoke rule.signature ∈ stream := by
  induction rules generalizing stream index with
  | nil => simp [weaveEach]
  | cons rule rules induction =>
      rw [List.forall_mem_cons] at foreign
      rcases foreign with ⟨own, others⟩
      rw [weaveEach]
      cases index with
      | zero =>
          rw [List.getElem?_cons_zero, List.getElem?_cons_zero, Option.map_some,
            Option.getD_some, weave_stream_applied own stream, decide_eq_true_iff]
          constructor
          · exact fun called => ⟨rule, rfl, called⟩
          · rintro ⟨found, same, called⟩
            rw [Option.some.inj same]
            exact called
      | succ index =>
          rw [List.getElem?_cons_succ, List.getElem?_cons_succ, induction others]
          apply exists_congr
          intro later
          apply and_congr_right
          intro at_index
          exact mem_weave_stream_iff (others later (List.mem_of_getElem? at_index)) rule stream

theorem called_iff {signature : Signature} {stream : List Instruction} :
    (∃ instruction ∈ stream, instruction.isCallTo signature = true) ↔
      invoke signature ∈ stream := by
  constructor
  · rintro ⟨instruction, member, called⟩
    rw [is_call_to_iff.mp called] at member
    exact member
  · exact fun member => ⟨invoke signature, member, is_call_to_iff.mpr rfl⟩

/-- A body is woven as with a fresh context, and afterwards, also after an error, the flags tell
which rules found a call in it. A class is woven method by method, each as it would be alone and
the sites in their order; the first method that cannot be woven ends it, and the methods behind
that one are as they were. -/
theorem contexts_do_not_leak (rules : List Rule)
    (foreign : ∀ rule ∈ rules, rule.signature ≠ guardEntry) :
    (∀ (body : Body) (context : WeaveContext),
      (weaveBody body rules context).result = (weaveMethodBody body rules).result ∧
        (weaveBody body rules context).body = (weaveMethodBody body rules).body ∧
        ∀ index, (weaveBody body rules context).context.isApplied index = true ↔
          ∃ rule, rules[index]? = some rule ∧
            ∃ instruction ∈ body.instructions, instruction.isCallTo rule.signature = true) ∧
    ∀ (codec : Codec) (dispatch : Dispatch) (file : ClassFile),
      let woven := (Transformer.mk rules codec dispatch).weaveClass file
      ((∀ method ∈ file.methods, ∃ inserted, method.outcome rules = .ok inserted) ∧
        woven.result = .ok ⟨file.name, file.methods.flatMap (Method.sites rules)⟩ ∧
        woven.file = { file with methods := file.methods.map (Method.woven rules) }) ∨
      ∃ earlier method later error,
        file.methods = earlier ++ method :: later ∧
        (∀ item ∈ earlier, ∃ inserted, item.outcome rules = .ok inserted) ∧
        method.outcome rules = .error error ∧
        woven.result = .error (.weave file.name method.qualifiedName error) ∧
        woven.file = { file with
          methods := earlier.map (Method.woven rules) ++ method.woven rules :: later } := by
  constructor
  · intro body context
    rcases weave_body_any_context body rules context with ⟨result, left⟩
    refine ⟨result, left, fun index => ?_⟩
    rw [is_applied_weave_body, weave_each_applied_iff foreign]
    simp only [called_iff]
  · intro codec dispatch file
    rw [Transformer.weave_class_by_all_rules ⟨rules, codec, dispatch⟩ file foreign codec]
    rcases Transformer.weave_methods_cases rules (WeaveContext.ofSize rules.length)
        file.methods with
      ⟨each, same⟩ | ⟨earlier, method, later, error, split, each, failed, same⟩
    · left
      simp only [Transformer.weaveClass, Transformer.applicableRules, same]
      exact ⟨each, trivial, trivial⟩
    · right
      refine ⟨earlier, method, later, error, split, each, failed, ?_⟩
      simp only [Transformer.weaveClass, Transformer.applicableRules, same]
      exact ⟨trivial, trivial⟩

/-- Whatever flags a context holds, a body that leaves the runtime gets the guard of the rule for
that, and the flags afterwards tell which rules found a call in it. -/
theorem exit_is_guarded_with_any_context :
    (∀ rule ∈ Rule.standard, rule.signature ≠ guardEntry) ∧
      ∀ context : WeaveContext,
        (weaveBody (Transformer.stoppingBody 2) Rule.standard context).result =
            .ok [Rule.forOperation .beforeCall .runtimeExit] ∧
          ∀ index, (weaveBody (Transformer.stoppingBody 2) Rule.standard
              context).context.isApplied index = true ↔
            ∃ rule, Rule.standard[index]? = some rule ∧
              ∃ instruction ∈ (Transformer.stoppingBody 2).instructions,
                instruction.isCallTo rule.signature = true := by
  have foreign : ∀ rule ∈ Rule.standard, rule.signature ≠ guardEntry := by decide
  have alone : (weaveMethodBody (Transformer.stoppingBody 2) Rule.standard).result =
      .ok [Rule.forOperation .beforeCall .runtimeExit] := by decide +kernel
  refine ⟨foreign, fun context => ?_⟩
  rcases (contexts_do_not_leak Rule.standard foreign).1 (Transformer.stoppingBody 2) context with
    ⟨result, _, flags⟩
  exact ⟨result.trans alone, flags⟩

end AccessWeave
