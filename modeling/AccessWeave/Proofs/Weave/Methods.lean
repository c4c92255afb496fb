import AccessWeave.Proofs.Weave.Insertion
import AccessWeave.Weave.Transformer

/-!
# Methods are woven one by one

What becomes of a method depends on its own body and on the rules, and on nothing that was done
to the methods before it. So a list of methods is woven by weaving each of them, as far as the
first that fails; the methods behind that one stay as they are. All of this holds for any rules.
-/

namespace AccessWeave

namespace Method

/-- What weaving the body comes to, which is nothing where there is no body. -/
def outcome (rules : List Rule) (method : Method) : Except WeaveError (List Rule) :=
  match method.body with
  | none => .ok []
  | some body => (weaveMethodBody body rules).result

def woven (rules : List Rule) (method : Method) : Method :=
  { method with body := method.body.map fun body => (weaveMethodBody body rules).body }

def sites (rules : List Rule) (method : Method) : List GuardedSite :=
  match method.outcome rules with
  | .ok inserted => inserted.map fun rule => ⟨method.qualifiedName, rule.operation⟩
  | .error _ => []

variable {rules : List Rule} {method : Method}

theorem woven_of_bodiless (none : method.body = none) : method.woven rules = method := by
  cases method
  cases none
  rfl

theorem woven_body {body : Body} (present : method.body = some body) :
    (method.woven rules).body = some (weaveMethodBody body rules).body := by
  simp [woven, present]

theorem outcome_of_body {body : Body} (present : method.body = some body) :
    method.outcome rules = (weaveMethodBody body rules).result := by
  simp [outcome, present]

end Method

namespace Transformer

open Method (outcome woven sites)

theorem weave_methods_any_context (rules : List Rule) (context other : WeaveContext)
    (methods : List Method) :
    weaveMethods rules context methods = weaveMethods rules other methods := by
  induction methods generalizing context other with
  | nil => rfl
  | cons method methods induction =>
      cases present : method.body with
      | none =>
          simp only [weaveMethods, present]
          rw [induction context other]
      | some body =>
          rcases weave_body_any_context body rules context with ⟨result, left⟩
          rcases weave_body_any_context body rules other with ⟨otherResult, otherLeft⟩
          simp only [weaveMethods, present, result, left, otherResult, otherLeft]
          rw [induction (weaveBody body rules context).context
            (weaveBody body rules other).context]

theorem weave_methods_cons (rules : List Rule) (context : WeaveContext) (method : Method)
    (methods : List Method) :
    weaveMethods rules context (method :: methods) =
      match method.outcome rules with
      | .error error =>
          (.error (method.qualifiedName, error), method.woven rules :: methods)
      | .ok _ =>
          ((weaveMethods rules context methods).1.map (method.sites rules ++ ·),
            method.woven rules :: (weaveMethods rules context methods).2) := by
  cases present : method.body with
  | none =>
      have nothing : method.outcome rules = .ok [] := by simp [outcome, present]
      have noSites : method.sites rules = [] := by simp [sites, nothing]
      have same (result : Except (String × WeaveError) (List GuardedSite)) :
          result.map (([] : List GuardedSite) ++ ·) = result := by
        cases result <;> rfl
      simp only [weaveMethods, present, nothing, noSites, Method.woven_of_bodiless present, same]
  | some body =>
      rcases weave_body_any_context body rules context with ⟨result, left⟩
      have outcomeIs : method.outcome rules = (weaveMethodBody body rules).result :=
        Method.outcome_of_body present
      have wovenIs : { method with body := some (weaveMethodBody body rules).body } =
          method.woven rules := by
        simp [woven, present]
      simp only [weaveMethods, present, result, left, wovenIs, ← outcomeIs]
      cases finished : method.outcome rules with
      | error error => rfl
      | ok inserted =>
          rw [weave_methods_any_context rules (weaveBody body rules context).context context]
          simp only [sites, finished]

/-- The one way in which the methods of a class are woven to their end, and the one way in
which that fails. -/
theorem weave_methods_cases (rules : List Rule) (context : WeaveContext)
    (methods : List Method) :
    ((∀ method ∈ methods, ∃ inserted, method.outcome rules = .ok inserted) ∧
      weaveMethods rules context methods =
        (.ok (methods.flatMap (Method.sites rules)), methods.map (Method.woven rules))) ∨
    ∃ earlier method later error,
      methods = earlier ++ method :: later ∧
      (∀ item ∈ earlier, ∃ inserted, item.outcome rules = .ok inserted) ∧
      method.outcome rules = .error error ∧
      weaveMethods rules context methods =
        (.error (method.qualifiedName, error),
          earlier.map (Method.woven rules) ++ method.woven rules :: later) := by
  induction methods with
  | nil => exact Or.inl ⟨by simp, rfl⟩
  | cons method methods induction =>
      rw [weave_methods_cons]
      cases finished : method.outcome rules with
      | error error =>
          exact Or.inr ⟨[], method, methods, error, rfl, by simp, finished, rfl⟩
      | ok inserted =>
          rcases induction with
            ⟨each, same⟩ | ⟨earlier, failing, later, error, split, each, failed, same⟩
          · left
            rw [List.forall_mem_cons, same]
            exact ⟨⟨⟨inserted, finished⟩, each⟩, rfl⟩
          · right
            refine ⟨method :: earlier, failing, later, error, by rw [split]; rfl, ?_, failed, ?_⟩
            · exact List.forall_mem_cons.mpr ⟨⟨inserted, finished⟩, each⟩
            · rw [same]
              rfl

/-- Methods that weaving leaves alone can be left out in front. -/
theorem weave_methods_after_idle {rules : List Rule} {idle : List Method}
    (context : WeaveContext) (later : List Method)
    (nothing : ∀ method ∈ idle, method.outcome rules = .ok [] ∧ method.woven rules = method) :
    weaveMethods rules context (idle ++ later) =
      ((weaveMethods rules context later).1, idle ++ (weaveMethods rules context later).2) := by
  induction idle with
  | nil => rfl
  | cons method idle induction =>
      rw [List.forall_mem_cons] at nothing
      rcases nothing with ⟨⟨outcomeIs, wovenIs⟩, rest⟩
      have noSites : method.sites rules = [] := by simp [sites, outcomeIs]
      rw [List.cons_append, weave_methods_cons, outcomeIs, wovenIs, noSites, induction rest]
      cases (weaveMethods rules context later).1 <;> rfl

end Transformer

end AccessWeave
