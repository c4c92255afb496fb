import AccessWeave.Proofs.Weave.Weaving
import AccessWeave.Weave.Transformer

/-!
# Weaving the methods of a class

The methods of a class are woven one after another, each with the same rules and from a fresh
set of flags, as far as the first body that cannot be woven. The relation below says what is
left of the methods and which sites are reported; every fact about a woven class is read off
it, and nothing has to look at the flags.
-/

namespace AccessWeave

theorem map_ok_iff {Error Value Result : Type} {result : Except Error Value}
    {change : Value → Result} {changed : Result} :
    result.map change = .ok changed ↔ ∃ value, result = .ok value ∧ change value = changed := by
  cases result <;> simp [Except.map]

inductive WeaveMethods (rules : List Rule) :
    List Method → Except (String × WeaveError) (List GuardedSite) → List Method → Prop
  | nil : WeaveMethods rules [] (.ok []) []
  | bodiless {method : Method} {methods woven : List Method}
      {result : Except (String × WeaveError) (List GuardedSite)} (none : method.body = none)
      (rest : WeaveMethods rules methods result woven) :
      WeaveMethods rules (method :: methods) result (method :: woven)
  | woven {method : Method} {before after : Body} {inserted : List Rule}
      {methods woven : List Method} {result : Except (String × WeaveError) (List GuardedSite)}
      (body : method.body = some before) (weaving : WeaveBody rules before (.ok inserted) after)
      (rest : WeaveMethods rules methods result woven) :
      WeaveMethods rules (method :: methods)
        (result.map (inserted.map (fun rule => ⟨method.qualifiedName, rule.operation⟩) ++ ·))
        ({ method with body := some after } :: woven)
  | failed {method : Method} {before after : Body} {error : WeaveError} {methods : List Method}
      (body : method.body = some before)
      (weaving : WeaveBody rules before (.error error) after) :
      WeaveMethods rules (method :: methods) (.error (method.qualifiedName, error))
        ({ method with body := some after } :: methods)

/-- A method and what weaving made of it, in a class that was woven to its end. -/
inductive WovenMethod (rules : List Rule) : Method → Method → Prop
  | bodiless {method : Method} (none : method.body = none) : WovenMethod rules method method
  | woven {method : Method} {before after : Body} {inserted : List Rule}
      (body : method.body = some before) (weaving : WeaveBody rules before (.ok inserted) after) :
      WovenMethod rules method { method with body := some after }

namespace WeaveMethods

variable {rules : List Rule} {methods woven : List Method} {sites : List GuardedSite}
  {result : Except (String × WeaveError) (List GuardedSite)}

theorem length_eq (weaving : WeaveMethods rules methods result woven) :
    woven.length = methods.length := by
  induction weaving with
  | nil => rfl
  | bodiless _ _ induction => exact congrArg (· + 1) induction
  | woven _ _ _ induction => exact congrArg (· + 1) induction
  | failed _ _ => rfl

/-- Without an error every method that is left was woven. -/
theorem member (weaving : WeaveMethods rules methods (.ok sites) woven) {after : Method}
    (inside : after ∈ woven) : ∃ before ∈ methods, WovenMethod rules before after := by
  generalize done : Except.ok sites = result at weaving
  induction weaving generalizing sites with
  | nil => cases inside
  | @bodiless method _ _ _ none _ induction =>
      rcases List.mem_cons.mp inside with rfl | later
      · exact ⟨_, by simp, .bodiless none⟩
      · rcases induction later done with ⟨before, among, wovenMethod⟩
        exact ⟨before, List.mem_cons_of_mem _ among, wovenMethod⟩
  | @woven method _ _ _ _ _ _ body weaving _ induction =>
      rcases map_ok_iff.mp done.symm with ⟨rest, doneRest, _⟩
      rcases List.mem_cons.mp inside with rfl | later
      · exact ⟨method, by simp, .woven body weaving⟩
      · rcases induction later doneRest.symm with ⟨before, among, wovenMethod⟩
        exact ⟨before, List.mem_cons_of_mem _ among, wovenMethod⟩
  | failed _ _ => cases done

/-- Where every rule's signature is covered already, weaving does nothing. -/
theorem idle (weaving : WeaveMethods rules methods result woven)
    (covered : ∀ method ∈ methods, ∀ body, method.body = some body →
      ∀ rule ∈ rules, Covered rule.operation rule.signature body.instructions) :
    result = .ok [] ∧ woven = methods := by
  induction weaving with
  | nil => exact ⟨rfl, rfl⟩
  | bodiless _ _ induction =>
      rcases induction (fun method later => covered method (List.mem_cons_of_mem _ later)) with
        ⟨rfl, rfl⟩
      exact ⟨rfl, rfl⟩
  | @woven method before after inserted _ _ _ body weaving _ induction =>
      rcases induction (fun method later => covered method (List.mem_cons_of_mem _ later)) with
        ⟨rfl, rfl⟩
      have here := covered method (by simp) before body
      cases weaving with
      | unchanged _ =>
          rw [← body]
          exact ⟨rfl, rfl⟩
      | grown chain some _ => exact (some (chain.idle here).1).elim
  | @failed method before _ _ _ body weaving =>
      have here := covered method (by simp) before body
      cases weaving with
      | overflow chain some _ => exact (some (chain.idle here).1).elim

end WeaveMethods

/-- The owner of a call in some body is among the owners of the class's calls. -/
theorem ClassFile.mem_call_owners {file : ClassFile} {method : Method} {body : Body}
    {signature : Signature} (inside : method ∈ file.methods) (present : method.body = some body)
    (called : Instruction.invoke signature ∈ body.instructions) :
    signature.owner ∈ file.callOwners := by
  refine List.mem_flatMap.mpr ⟨method, inside, ?_⟩
  rw [present]
  exact List.mem_filterMap.mpr ⟨_, called, rfl⟩

namespace Transformer

theorem weave_methods_spec {rules : List Rule}
    (foreign : ∀ rule ∈ rules, rule.signature ≠ guardEntry) (context : WeaveContext)
    (methods : List Method) :
    WeaveMethods rules methods (weaveMethods rules context methods).1
      (weaveMethods rules context methods).2 := by
  induction methods generalizing context with
  | nil => exact .nil
  | cons method methods induction =>
      cases body : method.body with
      | none =>
          simp only [weaveMethods, body]
          exact .bodiless body (induction context)
      | some before =>
          have spec := weave_body_spec foreign before context
          simp only [weaveMethods, body]
          cases result : (weaveBody before rules context).result with
          | error error =>
              rw [result] at spec
              exact .failed body spec
          | ok inserted =>
              rw [result] at spec
              exact .woven body spec (induction _)

theorem mem_of_mem_applicable {transformer : Transformer} {file : ClassFile} {rule : Rule}
    (member : rule ∈ transformer.applicableRules file) : rule ∈ transformer.rules := by
  unfold applicableRules at member
  split at member
  · exact member
  · exact List.mem_of_mem_filter member

theorem applicable_foreign {transformer : Transformer}
    (foreign : ∀ rule ∈ transformer.rules, rule.signature ≠ guardEntry) (file : ClassFile) :
    ∀ rule ∈ transformer.applicableRules file, rule.signature ≠ guardEntry :=
  fun rule member => foreign rule (mem_of_mem_applicable member)

/-- What weaving a class comes to: the methods are woven with the rules that are tried, and
the rest of the class stays. -/
theorem weave_class_spec {transformer : Transformer}
    (foreign : ∀ rule ∈ transformer.rules, rule.signature ≠ guardEntry) (file : ClassFile) :
    ∃ result woven,
      WeaveMethods (transformer.applicableRules file) file.methods result woven ∧
      (transformer.weaveClass file).file = { file with methods := woven } ∧
      (∀ report, (transformer.weaveClass file).result = .ok report ↔
        ∃ sites, result = .ok sites ∧ ⟨file.name, sites⟩ = report) := by
  have spec := weave_methods_spec (applicable_foreign foreign file)
    (WeaveContext.ofSize (transformer.applicableRules file).length) file.methods
  refine ⟨_, _, spec, ?_⟩
  simp only [weaveClass]
  generalize weaveMethods (transformer.applicableRules file) _ file.methods = steps
  rcases steps with ⟨result, woven⟩
  cases result with
  | error failure => exact ⟨rfl, by simp⟩
  | ok sites => exact ⟨rfl, by simp⟩

/-- A class that was woven to its end. -/
theorem weave_class_done {transformer : Transformer} {file : ClassFile} {report : Report}
    (foreign : ∀ rule ∈ transformer.rules, rule.signature ≠ guardEntry)
    (done : (transformer.weaveClass file).result = .ok report) :
    ∃ woven,
      WeaveMethods (transformer.applicableRules file) file.methods (.ok report.guarded) woven ∧
      (transformer.weaveClass file).file = { file with methods := woven } ∧
      report.className = file.name := by
  rcases weave_class_spec foreign file with ⟨result, woven, weaving, fileIs, reportIs⟩
  rcases (reportIs report).mp done with ⟨sites, rfl, rfl⟩
  exact ⟨woven, weaving, fileIs, rfl⟩

end Transformer

end AccessWeave
