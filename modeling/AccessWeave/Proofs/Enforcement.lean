import AccessWeave.Proofs.Policy.AllowList
import AccessWeave.Proofs.Policy.Attribution
import AccessWeave.Proofs.Weave.GuardedPaths

/-!
# Woven code obeys the policy

The two halves meet in one literal: the key that weaving puts in front of a call is the key
that the guard looks up. Together they say that an execution of woven code under a stack gets
to a guarded call only if the properties list whoever the stack attributes the call to.
-/

namespace AccessWeave

open Instruction (loadConst invoke)

/-- Whether the guard lets an execution go on: wherever a literal and the guard call behind it
were executed back to back and the call returned, the guard allows that literal on the
stack. -/
def Engine.Admits (engine : Engine) (stack : ShadowStack) (body : Body) (trail : Trail) : Prop :=
  ∀ index key,
    body.instructions[index]? = some (loadConst (.string key)) →
    body.instructions[index + 1]? = some (invoke guardEntry) →
    [(index, .falls), (index + 1, .falls)] <:+: trail →
    (engine.guardPermission key stack).1 = .ok ()

theorem placed_rules_foreign (placement : Placement) :
    ∀ rule ∈ Rule.placed placement, rule.signature ≠ guardEntry := by
  cases placement <;> decide

theorem mem_placed_rules (placement : Placement) (operation : Operation) :
    Rule.forOperation placement operation ∈ Rule.placed placement := by
  cases operation <;> simp [Rule.placed, Operation.all]

/-- An execution that has completed a guard of an operation was let on for that operation. -/
theorem permission_of_completed_guard {engine : Engine} {stack : ShadowStack} {body : Body}
    {trail : Trail} {operation : Operation} (admitted : engine.Admits stack body trail)
    (completed : body.CompletesGuard operation trail) :
    (engine.guardPermission operation.key stack).1 = .ok () := by
  rcases completed with ⟨index, literal, call, passed⟩
  exact admitted index operation.key literal call passed

/-- If an execution of a body woven with one rule for each operation gets to a call of an
operation, the innermost frame that is not trusted exists and has a name, and the allow-list
of the operation in the properties spells its principal. So nothing gets to the call when
nobody is allowed. -/
theorem reached_call_is_listed (properties : Properties) (config : Config)
    (accepted : Config.ofProperties properties = .ok config) (stack : ShadowStack)
    (placement : Placement) (body : Body) (context : WeaveContext) (operation : Operation)
    (trail : Trail) (target : Nat) (instruction : Instruction)
    (run : (weaveBody body (Rule.placed placement) context).body.Run trail target)
    (admitted : (Engine.mk (Catalog.ofConfig config) .shadow).Admits stack
      (weaveBody body (Rule.placed placement) context).body trail)
    (here : (weaveBody body (Rule.placed placement) context).body.instructions[target]? =
      some instruction)
    (matching : instruction.isCallTo operation.signature = true) :
    (∃ frame principal value,
      stack.find? (fun frame => !frame.isTrusted) = some frame ∧
      frame.principal = some principal ∧
      properties.find? operation.configKey = some value ∧
      principal.text ∈ listedEntries value) ∧
    config.allowed operation ≠ .empty := by
  have foreign := placed_rules_foreign placement
  have member := mem_placed_rules placement operation
  have covered := (weave_body_spec foreign body context).covers foreign member
  rw [is_call_to_iff.mp matching] at here
  have completed : (weaveBody body (Rule.placed placement) context).body.CompletesGuard
      operation trail := covered.guards (foreign _ member) run here
  have allowed := permission_of_completed_guard admitted completed
  rcases Engine.guard_allows_iff.mp allowed with ⟨principal, attribution, granted⟩
  rcases attributed_some_iff.mp attribution with ⟨frame, innermost, named⟩
  rcases allowed_is_listed accepted granted with ⟨value, found, listed⟩
  refine ⟨⟨frame, principal, value, innermost, named, found, listed⟩, ?_⟩
  intro empty
  have nobody : (Catalog.ofConfig config).allows operation principal = false := by
    simp [Catalog.allows, Catalog.ofConfig, config.lookup_allow, empty, PrincipalSet.contains,
      PrincipalSet.empty]
  rw [nobody] at granted
  cases granted

/-- One module may end the process, another is listed in a property that grants nothing of the
kind. -/
def exampleProperties : Properties :=
  .ofList
    [("callguard.runtime.exit.allow", " module app.x,\tmodule app.y "),
     ("callguard.system.exec.allow", "module app.z"), ("java.home", "module app.z")]

/-- A call of the runtime made for a module that a third module called. -/
def exampleStack : ShadowStack :=
  [.runtime "java.lang.Runtime.exit", .ofModule "app.y" "app.y.Main.stop",
    .ofModule "app.z" "app.z.Main.run"]

/-- On the path on which the body's own guard throws, the guard that was put in has to allow
the module that called. -/
theorem evading_path_reaches_listed_call :
    ∃ config, Config.ofProperties exampleProperties = .ok config ∧
      evadingWoven.Run evadingTrail 7 ∧
      (Engine.mk (Catalog.ofConfig config) .shadow).Admits exampleStack evadingWoven
        evadingTrail ∧
      evadingWoven.instructions[7]? = some (invoke Operation.runtimeExit.signature) ∧
      (∃ frame principal value,
        exampleStack.find? (fun frame => !frame.isTrusted) = some frame ∧
        frame.principal = some principal ∧
        exampleProperties.find? Operation.runtimeExit.configKey = some value ∧
        principal.text ∈ listedEntries value) ∧
      config.allowed .runtimeExit ≠ .empty := by
  let config : Config :=
    (Config.denyAll.setAllowed .runtimeExit (.ofList [⟨"app.x"⟩, ⟨"app.y"⟩])).setAllowed
      .processStart (.ofList [⟨"app.z"⟩])
  have accepted : Config.ofProperties exampleProperties = .ok config := by decide +kernel
  have admitted : (Engine.mk (Catalog.ofConfig config) .shadow).Admits exampleStack evadingWoven
      evadingTrail := by
    intro index key literal call passed
    have first : (index, Edge.falls) ∈ evadingTrail := passed.subset (by simp)
    have second : (index + 1, Edge.falls) ∈ evadingTrail := passed.subset (by simp)
    have place : index = 0 ∨ index = 3 ∨ index = 4 ∨ index = 5 := by
      simp [evadingTrail, straight, List.range'] at first second
      omega
    rw [evading_instructions] at literal
    rcases place with rfl | rfl | rfl | rfl
    · cases literal
    · cases literal
    · cases literal
    · cases literal
      decide +kernel
  exact ⟨config, accepted, evading_run, admitted, evading_call,
    reached_call_is_listed exampleProperties config accepted exampleStack .beforeCall evadingBody
      (WeaveContext.ofSize 3) .runtimeExit evadingTrail 7 _ evading_run admitted evading_call
      (by decide)⟩

end AccessWeave
