import AccessWeave.Proofs.Weave.Classes
import AccessWeave.Proofs.Weave.GuardedPaths
import AccessWeave.Proofs.Weave.Traces

/-!
# What weaving leaves as it was

Weaving adds one guard pair to a body for each site that it reports and, when it adds any, one
slot to the declared stack. Everything else of a class stays, and so do the trails of each
body once the guards that were put in are left out. Nothing here asks whether a body verifies.
-/

namespace AccessWeave

/-- A body and what weaving makes of it, with the operations whose guards were put in. -/
structure BodyPreserved (before after : Body) (operations : List Operation) : Prop where
  maxLocals : after.maxLocals = before.maxLocals
  handlers : after.handlers = before.handlers
  frames : after.frames = before.frames
  maxStack : after.maxStack.toNat = before.maxStack.toNat + if operations = [] then 0 else 1
  stream : ∃ layout : Layout,
    layout.original = before.instructions ∧
    layout.woven = after.instructions ∧
    layout.guards.Perm operations ∧
    (∀ index, layout.silent index = false →
      after.instructions[index]? = before.instructions[layout.origin index]?) ∧
    (∀ trace target, before.Run trace target ↔
      ∃ trail index, after.Run trail index ∧ layout.Quiet trail ∧
        layout.erase trail = trace ∧ layout.origin index = target) ∧
    (∀ handler index, layout.silent index = false →
      (after.Protected handler index ↔ before.Protected handler (layout.origin index)))

inductive MethodPreserved : Method → Method → List Operation → Prop
  | bodiless {method : Method} (none : method.body = none) : MethodPreserved method method []
  | woven {method : Method} {before after : Body} {operations : List Operation}
      (body : method.body = some before) (preserved : BodyPreserved before after operations) :
      MethodPreserved method { method with body := some after } operations

/-- Methods correspond in order, and so do the sites reported for them. -/
inductive MethodsPreserved : List Method → List Method → List GuardedSite → Prop
  | nil : MethodsPreserved [] [] []
  | cons {before after : Method} {operations : List Operation} {methods woven : List Method}
      {sites : List GuardedSite} (first : MethodPreserved before after operations)
      (rest : MethodsPreserved methods woven sites) :
      MethodsPreserved (before :: methods) (after :: woven)
        (operations.map (GuardedSite.mk before.qualifiedName) ++ sites)

structure ClassPreserved (before after : ClassFile) (report : Report) : Prop where
  name : after.name = before.name
  superName : after.superName = before.superName
  attributes : after.attributes = before.attributes
  methods : MethodsPreserved before.methods after.methods report.guarded
  reported : report.className = before.name
  untouched : report.guarded = [] ↔ after = before

/-- A body without new guards is the same body, and one with new guards is not. -/
theorem BodyPreserved.untouched_iff {before after : Body} {operations : List Operation}
    (preserved : BodyPreserved before after operations) : operations = [] ↔ after = before := by
  constructor
  · rintro rfl
    rcases preserved.stream with ⟨layout, originalIs, wovenIs, guardsAre, _⟩
    have instructions : after.instructions = before.instructions := by
      rw [← wovenIs, ← originalIs, Layout.woven_of_no_guards guardsAre.eq_nil]
    have maxStack : after.maxStack = before.maxStack := UInt16.toNat_inj.mp preserved.maxStack
    cases after
    cases before
    simp only [Body.mk.injEq]
    exact ⟨maxStack, preserved.maxLocals, instructions, preserved.handlers, preserved.frames⟩
  · rintro rfl
    by_contra some
    have grown := preserved.maxStack
    rw [if_neg some] at grown
    omega

theorem MethodPreserved.untouched_iff {before after : Method} {operations : List Operation}
    (preserved : MethodPreserved before after operations) : operations = [] ↔ after = before := by
  cases preserved with
  | bodiless none => simp
  | woven body preserved =>
      rw [preserved.untouched_iff]
      constructor
      · rintro rfl
        rw [← body]
      · intro same
        have bodies := congrArg Method.body same
        rw [body] at bodies
        exact Option.some.inj bodies

theorem MethodsPreserved.untouched_iff {methods woven : List Method} {sites : List GuardedSite}
    (preserved : MethodsPreserved methods woven sites) : sites = [] ↔ woven = methods := by
  induction preserved with
  | nil => simp
  | cons first _ induction =>
      rw [List.append_eq_nil_iff, List.map_eq_nil_iff, first.untouched_iff, induction,
        List.cons.injEq]

theorem Weaving.body_preserved {rules inserted : List Rule} {body : Body}
    {final : List Instruction} (weaving : Weaving rules body.instructions inserted final)
    (maxStack : UInt16) (grown : maxStack.toNat =
      body.maxStack.toNat + if inserted.map Rule.operation = [] then 0 else 1) :
    BodyPreserved body { body with instructions := final, maxStack }
      (inserted.map Rule.operation) := by
  rcases weaving.has_layout with ⟨layout, originalIs, wovenIs, guardsAre⟩
  have between : layout.Between body { body with instructions := final, maxStack } :=
    ⟨originalIs, wovenIs, rfl⟩
  exact ⟨rfl, rfl, rfl, grown, layout, originalIs, wovenIs, guardsAre,
    fun _ loud => between.instruction_kept loud, between.run_iff,
    fun _ _ loud => between.protected_iff loud⟩

theorem WeaveBody.preserved {rules inserted : List Rule} {body woven : Body}
    (weaving : WeaveBody rules body (.ok inserted) woven) :
    BodyPreserved body woven (inserted.map Rule.operation) := by
  cases weaving with
  | unchanged weaving => exact weaving.body_preserved body.maxStack rfl
  | grown weaving some room =>
      apply weaving.body_preserved
      have mapped : inserted.map Rule.operation ≠ [] := mt List.map_eq_nil_iff.mp some
      rw [if_neg mapped, slot_added room]

/-- Methods that were woven to their end correspond to what they were. -/
theorem WeaveMethods.preserved {rules : List Rule} {methods woven : List Method}
    {sites : List GuardedSite} (weaving : WeaveMethods rules methods (.ok sites) woven) :
    MethodsPreserved methods woven sites := by
  generalize done : Except.ok sites = result at weaving
  induction weaving generalizing sites with
  | nil =>
      cases done
      exact .nil
  | bodiless none _ induction => exact .cons (.bodiless none) (induction done)
  | woven body weaving _ induction =>
      rcases map_ok_iff.mp done.symm with ⟨rest, later, rfl⟩
      have first := MethodPreserved.woven body weaving.preserved
      have both := MethodsPreserved.cons first (induction later.symm)
      rw [List.map_map] at both
      exact both
  | failed _ _ => cases done

namespace Transformer

/-- Weaving a class without an error preserves it: names, flags, attributes, handlers and
frames are as they were, each method's stream is the old one with exactly the reported guards
put in, and the trails of each body are the old ones. Nothing is reported exactly when the
class is the same. -/
theorem weaving_preserves_class (transformer : Transformer) (file : ClassFile) (report : Report)
    (foreign : ∀ rule ∈ transformer.rules, rule.signature ≠ guardEntry)
    (done : (transformer.weaveClass file).result = .ok report) :
    ClassPreserved file (transformer.weaveClass file).file report := by
  rcases weave_class_done foreign done with ⟨woven, weaving, fileIs, reported⟩
  have preserved := weaving.preserved
  rw [fileIs]
  refine ⟨rfl, rfl, rfl, preserved, reported, preserved.untouched_iff.trans ?_⟩
  constructor
  · rintro rfl
    rfl
  · exact congrArg ClassFile.methods

/-- A class whose one body guards its call only where no exception is thrown. -/
def evadingClass : ClassFile where
  name := "app/Stopper"
  superName := some "java/lang/Object"
  methods := [⟨"plan", "()V", 0x0401, none⟩, ⟨"stop", "()V", 0x0009, some evadingBody⟩]
  attributes := [⟨"SourceFile", [0x07]⟩]

theorem weaving_preserves_evading_class :
    (∀ rule ∈ Rule.standard, rule.signature ≠ guardEntry) ∧
      ((ofRules Rule.standard).weaveClass evadingClass).result =
        .ok ⟨"app/Stopper", [⟨"stop()V", .runtimeExit⟩]⟩ ∧
      ClassPreserved evadingClass ((ofRules Rule.standard).weaveClass evadingClass).file
        ⟨"app/Stopper", [⟨"stop()V", .runtimeExit⟩]⟩ := by
  have foreign : ∀ rule ∈ Rule.standard, rule.signature ≠ guardEntry := by decide
  have done : ((ofRules Rule.standard).weaveClass evadingClass).result =
      .ok ⟨"app/Stopper", [⟨"stop()V", .runtimeExit⟩]⟩ := by decide +kernel
  exact ⟨foreign, done,
    weaving_preserves_class (ofRules Rule.standard) evadingClass _ foreign done⟩

end Transformer

end AccessWeave
