import AccessWeave.Policy.Decision

/-!
# Who a check is about

Each layer of the deciding code enters one frame of its own, and the frames to skip add up to
just these. So on the shadow stack a check is about the innermost frame that is not trusted,
its outcome depends on nothing else of the stack, and the stack is afterwards as it was.
-/

namespace AccessWeave

/-- The principal of the innermost frame that is not trusted, if there is such a frame and it
has a name. -/
def attributed (stack : ShadowStack) : Option Principal :=
  (stack.find? fun frame => !frame.isTrusted).bind Frame.principal

theorem attributed_some_iff {stack : ShadowStack} {principal : Principal} :
    attributed stack = some principal ↔
      ∃ frame, stack.find? (fun frame => !frame.isTrusted) = some frame ∧
        frame.principal = some principal := by
  simp [attributed, Option.bind_eq_some_iff]

theorem caller_behind_frames (entered stack : ShadowStack) :
    callerOf entered.length (entered ++ stack) = attributed stack := by
  simp [callerOf, attributed]

theorem of_key_key (operation : Operation) :
    Operation.ofKey? operation.key = some operation := by
  cases operation <;> decide

theorem map_error_ok_iff {Error Other Value : Type} {result : Except Error Value}
    {change : Error → Other} {value : Value} :
    result.mapError change = .ok value ↔ result = .ok value := by
  cases result with
  | ok other =>
      constructor
      · rintro ⟨⟩
        rfl
      · rintro ⟨⟩
        rfl
  | error error => exact iff_of_false nofun nofun

namespace Engine

theorem decide_ok_iff {engine : Engine} {operation : Operation} {caller : Option Principal} :
    engine.decide operation caller = .ok () ↔
      ∃ principal, caller = some principal ∧
        engine.catalog.allows operation principal = true := by
  cases caller with
  | none => simp [decide]
  | some principal =>
      by_cases allowed : engine.catalog.allows operation principal <;> simp [decide, allowed]

/-- What the guard answers on the shadow stack, and the stack it leaves. -/
theorem guard_permission_eq (catalog : Catalog) (key : String) (stack : ShadowStack) :
    (Engine.mk catalog .shadow).guardPermission key stack =
      (match Operation.ofKey? key with
        | none => .error (.internal (.unknownOperation key))
        | some operation =>
            ((Engine.mk catalog .shadow).decide operation (attributed stack)).mapError .denied,
        stack) := by
  cases known : Operation.ofKey? key with
  | none => simp [guardPermission, Walker.within, Walker.enter, Walker.leave, known]
  | some operation =>
      have skipped : ∀ resolver decision entry guard : Frame,
          callerOf guardedSkip (resolver :: decision :: entry :: guard :: stack) =
            attributed stack :=
        fun resolver decision entry guard =>
          caller_behind_frames [resolver, decision, entry, guard] stack
      simp [guardPermission, checkGuarded, checkOperation, resolveCaller, Walker.within,
        Walker.enter, Walker.leave, Walker.frames, known, skipped]

/-- The guard allows a key exactly when it is an operation's key and the principal that the
check is about has been granted that operation. -/
theorem guard_allows_iff {catalog : Catalog} {operation : Operation} {stack : ShadowStack} :
    ((Engine.mk catalog .shadow).guardPermission operation.key stack).1 = .ok () ↔
      ∃ principal, attributed stack = some principal ∧
        catalog.allows operation principal = true := by
  rw [guard_permission_eq, of_key_key]
  exact map_error_ok_iff.trans decide_ok_iff

end Engine

end AccessWeave
