import AccessWeave.Policy.Guarded
import AccessWeave.Proofs.Policy.Attribution

/-!
# Every way to a decision leads to the same one

The guard, the engine behind it and the guarded operations enter different numbers of frames
of their own, and each skips or passes over just those. So all of them decide by one frame:
the innermost one that belongs neither to the runtime nor to the guard's own code. What lies
outside that frame, and frames of those two modules, make no difference.
-/

namespace AccessWeave

/-- Whether a frame belongs neither to the runtime nor to the guard's own code. A frame without
a name does. -/
def Frame.Foreign (frame : Frame) : Prop :=
  frame.principal ≠ some runtimeModule ∧ frame.principal ≠ some supportModule

def InnermostForeign (stack : ShadowStack) (frame : Frame) : Prop :=
  ∃ inner outer, stack = inner ++ frame :: outer ∧ frame.Foreign ∧
    ∀ passed ∈ inner, ¬passed.Foreign

/-- What a catalog says about an operation on a stack. -/
inductive Ruling (catalog : Catalog) (operation : Operation) (stack : ShadowStack) :
    Except Denial Unit → Prop
  | granted {frame : Frame} {principal : Principal} (innermost : InnermostForeign stack frame)
      (named : frame.principal = some principal)
      (listed : principal ∈ catalog.allowed operation) : Ruling catalog operation stack (.ok ())
  | unlisted {frame : Frame} {principal : Principal} (innermost : InnermostForeign stack frame)
      (named : frame.principal = some principal)
      (missing : principal ∉ catalog.allowed operation) :
      Ruling catalog operation stack (.error ⟨operation, some principal⟩)
  | unnamed {frame : Frame} (innermost : InnermostForeign stack frame)
      (nameless : frame.principal = none) :
      Ruling catalog operation stack (.error ⟨operation, none⟩)
  | nobody (absent : ∀ frame, ¬InnermostForeign stack frame) :
      Ruling catalog operation stack (.error ⟨operation, none⟩)

theorem not_trusted_iff_foreign {frame : Frame} : (!frame.isTrusted) = true ↔ frame.Foreign := by
  unfold Frame.isTrusted Frame.Foreign
  cases frame.principal with
  | none => simp
  | some principal => simp

theorem find_iff_innermost_foreign {stack : ShadowStack} {frame : Frame} :
    stack.find? (fun frame => !frame.isTrusted) = some frame ↔ InnermostForeign stack frame := by
  rw [List.find?_eq_some_iff_append]
  simp only [not_trusted_iff_foreign, InnermostForeign]
  constructor
  · rintro ⟨foreign, inner, outer, split, passed⟩
    refine ⟨inner, outer, split, foreign, fun other inside => ?_⟩
    rw [← not_trusted_iff_foreign]
    simpa using passed other inside
  · rintro ⟨inner, outer, split, foreign, passed⟩
    refine ⟨foreign, inner, outer, split, fun other inside => ?_⟩
    have trusted := passed other inside
    rw [← not_trusted_iff_foreign] at trusted
    simpa using trusted

theorem allows_iff_mem_allowed {catalog : Catalog} {operation : Operation}
    {principal : Principal} :
    catalog.allows operation principal = true ↔ principal ∈ catalog.allowed operation := by
  unfold Catalog.allows Catalog.allowed
  cases catalog.entryAt? operation with
  | none => simp
  | some principals => simp [PrincipalSet.contains]

theorem attributed_cases (stack : ShadowStack) :
    (∃ frame, InnermostForeign stack frame ∧ attributed stack = frame.principal) ∨
      (∀ frame, ¬InnermostForeign stack frame) ∧ attributed stack = none := by
  unfold attributed
  cases found : stack.find? fun frame => !frame.isTrusted with
  | none =>
      right
      refine ⟨fun frame innermost => ?_, rfl⟩
      rw [find_iff_innermost_foreign.mpr innermost] at found
      cases found
  | some frame => exact Or.inl ⟨frame, find_iff_innermost_foreign.mp found, rfl⟩

theorem InnermostForeign.attributed_eq {stack : ShadowStack} {frame : Frame}
    (innermost : InnermostForeign stack frame) : attributed stack = frame.principal := by
  rw [attributed, find_iff_innermost_foreign.mpr innermost, Option.bind_some]

theorem Ruling.eq_decide {catalog : Catalog} {operation : Operation} {stack : ShadowStack}
    {ruling : Except Denial Unit} (applies : Ruling catalog operation stack ruling) :
    (Engine.mk catalog .shadow).decide operation (attributed stack) = ruling := by
  cases applies with
  | granted innermost named listed =>
      rw [innermost.attributed_eq, named, Engine.decide, if_pos (allows_iff_mem_allowed.mpr listed)]
  | unlisted innermost named missing =>
      rw [innermost.attributed_eq, named, Engine.decide,
        if_neg (mt allows_iff_mem_allowed.mp missing)]
  | unnamed innermost nameless => rw [innermost.attributed_eq, nameless, Engine.decide]
  | nobody absent =>
      rcases attributed_cases stack with ⟨frame, innermost, _⟩ | ⟨_, unattributed⟩
      · exact absurd innermost (absent frame)
      · rw [unattributed, Engine.decide]

theorem ruling_of_decide (catalog : Catalog) (operation : Operation) (stack : ShadowStack) :
    Ruling catalog operation stack
      ((Engine.mk catalog .shadow).decide operation (attributed stack)) := by
  rcases attributed_cases stack with ⟨frame, innermost, attribution⟩ | ⟨nobody, attribution⟩
  · rw [attribution]
    cases named : frame.principal with
    | none => exact .unnamed innermost named
    | some principal =>
        by_cases listed : principal ∈ catalog.allowed operation
        · rw [Engine.decide, if_pos (allows_iff_mem_allowed.mpr listed)]
          exact .granted innermost named listed
        · rw [Engine.decide, if_neg (mt allows_iff_mem_allowed.mp listed)]
          exact .unlisted innermost named listed
  · rw [attribution]
    exact .nobody nobody

theorem decide_iff_ruling {catalog : Catalog} {operation : Operation} {stack : ShadowStack}
    {ruling : Except Denial Unit} :
    (Engine.mk catalog .shadow).decide operation (attributed stack) = ruling ↔
      Ruling catalog operation stack ruling := by
  constructor
  · rintro rfl
    exact ruling_of_decide catalog operation stack
  · exact Ruling.eq_decide

theorem attributed_foreign {stack : ShadowStack} {principal : Principal}
    (attribution : attributed stack = some principal) :
    principal ≠ runtimeModule ∧ principal ≠ supportModule := by
  rcases attributed_some_iff.mp attribution with ⟨frame, found, named⟩
  rcases find_iff_innermost_foreign.mp found with ⟨_, _, _, foreign, _⟩
  rw [Frame.Foreign, named] at foreign
  exact ⟨fun same => foreign.1 (congrArg some same), fun same => foreign.2 (congrArg some same)⟩

/-- Frames of the runtime and of the guard are passed over wherever they lie. -/
theorem attributed_without {added : ShadowStack} (inner outer : ShadowStack)
    (trusted : ∀ frame ∈ added, ¬frame.Foreign) :
    attributed (inner ++ added ++ outer) = attributed (inner ++ outer) := by
  have passed : added.find? (fun frame => !frame.isTrusted) = none := by
    rw [List.find?_eq_none]
    exact fun frame inside => mt not_trusted_iff_foreign.mp (trusted frame inside)
  simp only [attributed, List.find?_append, passed, Option.or_none]

theorem attributed_within {frame : Frame} (inner outer other : ShadowStack)
    (foreign : frame.Foreign) :
    attributed (inner ++ frame :: outer) = attributed (inner ++ frame :: other) := by
  -- The search ends at the frame, so what lies outside it is never looked at.
  have found (rest : ShadowStack) :
      (frame :: rest).find? (fun frame => !frame.isTrusted) = some frame :=
    List.find?_cons_of_pos (not_trusted_iff_foreign.mpr foreign)
  simp only [attributed, List.find?_append, found]

theorem runtime_frame_not_foreign (symbol : String) : ¬(Frame.runtime symbol).Foreign :=
  fun foreign => foreign.1 rfl

/-- To grant an operation to the runtime or to the guard's own code changes nothing for other
modules. -/
theorem allows_after_grant {catalog : Catalog} {granted operation : Operation}
    {holder principal : Principal} (different : principal ≠ holder) :
    (catalog.grant granted holder).allows operation principal =
      catalog.allows operation principal := by
  have otherName : principal.name ≠ holder.name :=
    fun same => different (congrArg Principal.mk same)
  by_cases sameOperation : operation = granted
  · have member (set : PrincipalSet) :
        principal ∈ (set.insert holder).members ↔ principal ∈ set.members := by
      constructor
      · intro inserted
        rcases mem_insert_ascending inserted with same | before
        · exact absurd same different
        · exact before
      · intro before
        exact mem_insert_ascending_of_other before otherName
    simp only [Catalog.allows, Catalog.grant, if_pos sameOperation]
    cases catalog.entryAt? operation with
    | none => simp [PrincipalSet.contains, member, PrincipalSet.empty]
    | some principals => simp [PrincipalSet.contains, member]
  · simp only [Catalog.allows, Catalog.grant, if_neg sameOperation]

theorem of_key_unowned {key : String} (unowned : ∀ operation : Operation, operation.key ≠ key) :
    Operation.ofKey? key = none := by
  rw [Operation.ofKey?, List.find?_eq_none]
  exact fun operation _ => by simpa using unowned operation

namespace Engine

variable {State : Type} {catalog other : Catalog} {host : Host State}
  {stack otherStack : ShadowStack}

theorem check_permission_eq (catalog : Catalog) (operation : Operation) (stack : ShadowStack) :
    (Engine.mk catalog .shadow).checkPermission operation stack =
      ((Engine.mk catalog .shadow).decide operation (attributed stack), stack) := by
  -- The skip leaves out just the frames of the resolver, of the decision and of the entry.
  have skipped : ∀ resolver decision entry : Frame,
      callerOf directSkip (resolver :: decision :: entry :: stack) = attributed stack :=
    fun resolver decision entry => caller_behind_frames [resolver, decision, entry] stack
  simp [checkPermission, checkOperation, resolveCaller, Walker.within, Walker.enter,
    Walker.leave, Walker.frames, skipped]

theorem guard_permission_of_key (catalog : Catalog) (operation : Operation)
    (stack : ShadowStack) :
    (Engine.mk catalog .shadow).guardPermission operation.key stack =
      (((Engine.mk catalog .shadow).decide operation (attributed stack)).mapError .denied,
        stack) := by
  rw [guard_permission_eq, of_key_key]

theorem attributed_behind_runtime (symbol : String) (stack : ShadowStack) :
    attributed (.runtime symbol :: stack) = attributed stack := by
  have trusted : ∀ frame ∈ [Frame.runtime symbol], ¬frame.Foreign := by
    simpa using runtime_frame_not_foreign symbol
  exact attributed_without [] stack trusted

theorem exit_eq (catalog : Catalog) (status : Int) (stack : ShadowStack) :
    (Engine.mk catalog .shadow).exit status stack =
      (match (Engine.mk catalog .shadow).decide .runtimeExit (attributed stack) with
        | .ok () => .ok status
        | .error denial => .error (.denied denial), stack) := by
  simp only [exit, Walker.within, Walker.enter, guard_permission_of_key,
    attributed_behind_runtime]
  cases (Engine.mk catalog .shadow).decide .runtimeExit (attributed stack) <;> rfl

theorem guarded_eq {Result : Type} (catalog : Catalog) (operation : Operation) (symbol : String)
    (perform : State → Except SystemFault Result × State) (state : State)
    (stack : ShadowStack) :
    (Engine.mk catalog .shadow).guarded operation symbol perform state stack =
      (match (Engine.mk catalog .shadow).decide operation (attributed stack) with
        | .ok () => (perform state).map (Except.mapError .system) id
        | .error denial => (.error (.guard (.denied denial)), state), stack) := by
  simp only [guarded, Walker.within, Walker.enter, guard_permission_of_key,
    attributed_behind_runtime]
  cases (Engine.mk catalog .shadow).decide operation (attributed stack) <;> rfl

/-- Whether whoever asks in any way gets the same answer from two engines on two stacks, and
does the same to the host. -/
structure SameAnswers (engine other : Engine) (host : Host State)
    (stack otherStack : ShadowStack) : Prop where
  guard : ∀ key, (engine.guardPermission key stack).1 = (other.guardPermission key otherStack).1
  check : ∀ operation,
    (engine.checkPermission operation stack).1 = (other.checkPermission operation otherStack).1
  exit : ∀ status, (engine.exit status stack).1 = (other.exit status otherStack).1
  spawn : ∀ program arguments state,
    (engine.spawn host program arguments state stack).1 =
      (other.spawn host program arguments state otherStack).1
  connect : ∀ address state,
    (engine.connect host address state stack).1 =
      (other.connect host address state otherStack).1

theorem SameAnswers.of_decide
    (same : ∀ operation,
      (Engine.mk catalog .shadow).decide operation (attributed stack) =
        (Engine.mk other .shadow).decide operation (attributed otherStack)) :
    SameAnswers ⟨catalog, .shadow⟩ ⟨other, .shadow⟩ host stack otherStack where
  guard key := by
    rw [guard_permission_eq, guard_permission_eq]
    cases Operation.ofKey? key with
    | none => rfl
    | some operation => exact congrArg (Except.mapError GuardError.denied) (same operation)
  check operation := by rw [check_permission_eq, check_permission_eq, same operation]
  exit status := by rw [exit_eq, exit_eq, same .runtimeExit]
  spawn program arguments state := by simp only [Engine.spawn, guarded_eq, same .processStart]
  connect address state := by simp only [Engine.connect, guarded_eq, same .socketConnect]

theorem SameAnswers.of_attributed (same : attributed stack = attributed otherStack) :
    SameAnswers ⟨catalog, .shadow⟩ ⟨catalog, .shadow⟩ host stack otherStack :=
  .of_decide fun _ => by rw [same]

theorem SameAnswers.of_trusted_grant {holder : Principal} (granted : Operation)
    (trusted : holder = runtimeModule ∨ holder = supportModule) :
    SameAnswers ⟨catalog.grant granted holder, .shadow⟩ ⟨catalog, .shadow⟩ host stack stack := by
  refine .of_decide fun operation => ?_
  cases attribution : attributed stack with
  | none => rfl
  | some principal =>
      have foreign := attributed_foreign attribution
      have different : principal ≠ holder := by
        rcases trusted with rfl | rfl
        · exact foreign.1
        · exact foreign.2
      simp only [decide, allows_after_grant different]

/-- A key that no operation has is an error of its own. Else the innermost foreign frame
decides, whichever way the question comes, and a guarded operation is performed exactly if the
decision allows it: a refused one leaves the host in its state. Added frames of the runtime and of
the guard, whatever lies outside a foreign frame, and grants to the runtime and to the guard change
no answer. -/
theorem innermost_foreign_frame_decides {State : Type} (catalog : Catalog) (host : Host State)
    (stack : ShadowStack) :
    (∀ key, (∀ operation : Operation, operation.key ≠ key) →
      ((Engine.mk catalog .shadow).guardPermission key stack).1 =
        .error (.internal (.unknownOperation key))) ∧
    (∀ operation ruling,
      ((Engine.mk catalog .shadow).checkPermission operation stack).1 = ruling ↔
        Ruling catalog operation stack ruling) ∧
    (∀ operation : Operation,
      ((Engine.mk catalog .shadow).guardPermission operation.key stack).1 =
        ((Engine.mk catalog .shadow).checkPermission operation stack).1.mapError .denied) ∧
    (∀ status, ((Engine.mk catalog .shadow).exit status stack).1 =
      match ((Engine.mk catalog .shadow).checkPermission .runtimeExit stack).1 with
      | .ok () => .ok status
      | .error denial => .error (.denied denial)) ∧
    (∀ program arguments state,
      ((Engine.mk catalog .shadow).spawn host program arguments state stack).1 =
        match ((Engine.mk catalog .shadow).checkPermission .processStart stack).1 with
        | .ok () => (host.start program arguments state).map (Except.mapError .system) id
        | .error denial => (.error (.guard (.denied denial)), state)) ∧
    (∀ address state, ((Engine.mk catalog .shadow).connect host address state stack).1 =
      match ((Engine.mk catalog .shadow).checkPermission .socketConnect stack).1 with
      | .ok () => (host.dial address state).map (Except.mapError .system) id
      | .error denial => (.error (.guard (.denied denial)), state)) ∧
    (∀ inner added outer, (∀ frame ∈ added, ¬frame.Foreign) →
      SameAnswers ⟨catalog, .shadow⟩ ⟨catalog, .shadow⟩ host (inner ++ added ++ outer)
        (inner ++ outer)) ∧
    (∀ inner frame outer other, frame.Foreign →
      SameAnswers ⟨catalog, .shadow⟩ ⟨catalog, .shadow⟩ host (inner ++ frame :: outer)
        (inner ++ frame :: other)) ∧
    (∀ granted holder, holder = runtimeModule ∨ holder = supportModule →
      SameAnswers ⟨catalog.grant granted holder, .shadow⟩ ⟨catalog, .shadow⟩ host stack stack) := by
  refine ⟨?_, ?_, ?_, ?_, ?_, ?_, ?_, ?_, ?_⟩
  · intro key unowned
    rw [guard_permission_eq, of_key_unowned unowned]
  · intro operation ruling
    rw [check_permission_eq]
    exact decide_iff_ruling
  · intro operation
    rw [guard_permission_of_key, check_permission_eq]
  · intro status
    rw [exit_eq, check_permission_eq]
  · intro program arguments state
    rw [check_permission_eq, spawn, guarded_eq]
  · intro address state
    rw [check_permission_eq, connect, guarded_eq]
  · intro inner added outer trusted
    exact .of_attributed (attributed_without inner outer trusted)
  · intro inner frame outer other foreign
    exact .of_attributed (attributed_within inner outer other foreign)
  · intro granted holder trusted
    exact .of_trusted_grant granted trusted

/-- A plugin that was called by an application, with frames of the runtime around both. -/
def pluginStack : ShadowStack :=
  [.runtime "java.lang.Runtime.exit", .unnamed "Plugin.stop", .runtime "java.lang.Thread.run",
    .ofModule "app.x" "app.x.Main.main"]

def pluginCatalog : Catalog :=
  (Catalog.denyAll.grant .runtimeExit ⟨"app.x"⟩).grant .runtimeExit runtimeModule

/-- A host without programs and without a network, which counts how often it was tried. -/
def bareHost : Host Nat where
  start _ _ tried := (.error .notFound, tried + 1)
  dial _ tried := (.error .networkUnreachable, tried + 1)

/-- The nameless plugin is refused, though its caller and the runtime are allowed; whoever called
it makes no difference. Without the plugin its caller is found. A program that may not be started
is not tried. -/
theorem plugin_hides_its_caller :
    Ruling pluginCatalog .runtimeExit pluginStack (.error ⟨.runtimeExit, none⟩) ∧
      SameAnswers ⟨pluginCatalog, .shadow⟩ ⟨pluginCatalog, .shadow⟩ bareHost pluginStack
        (pluginStack.take 2) ∧
      Ruling pluginCatalog .runtimeExit (pluginStack.drop 2) (.ok ()) ∧
      ((Engine.mk pluginCatalog .shadow).spawn bareHost "ls" [] 0 pluginStack).1 =
        (.error (.guard (.denied ⟨.processStart, none⟩)), 0) ∧
      ((Engine.mk (pluginCatalog.grant .processStart ⟨"app.x"⟩) .shadow).spawn bareHost "ls" [] 0
        (pluginStack.drop 2)).1 = (.error (.system .notFound), 1) := by
  have foreign : (Frame.unnamed "Plugin.stop").Foreign := ⟨nofun, nofun⟩
  rcases innermost_foreign_frame_decides pluginCatalog bareHost pluginStack with
    ⟨_, onPlugin, _, _, onSpawn, _, _, outside, _⟩
  rcases innermost_foreign_frame_decides pluginCatalog bareHost (pluginStack.drop 2) with
    ⟨_, onCaller, _⟩
  rcases innermost_foreign_frame_decides (pluginCatalog.grant .processStart ⟨"app.x"⟩) bareHost
    (pluginStack.drop 2) with ⟨_, _, _, _, onGranted, _⟩
  refine ⟨?_, ?_, ?_, ?_, ?_⟩
  · exact (onPlugin .runtimeExit _).mp rfl
  · exact outside [.runtime "java.lang.Runtime.exit"] _ _ [] foreign
  · exact (onCaller .runtimeExit _).mp rfl
  · exact (onSpawn "ls" [] 0).trans rfl
  · exact (onGranted "ls" [] 0).trans rfl

end Engine

end AccessWeave
