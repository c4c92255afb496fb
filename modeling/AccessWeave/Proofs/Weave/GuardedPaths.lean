import AccessWeave.Proofs.Class.ControlFlow
import AccessWeave.Proofs.Weave.Weaving

/-!
# Every path to a covered call passes its guard

A covered signature is guarded by control flow: the guards at the start are fallen through by
everything that gets behind them, and the span from a guard to the last call is entered at the
guard only. So in a woven body no path reaches a call of a rule before a guard of the rule's
operation has run to its end. Guard pairs that were in the body before count only where a path
cannot miss them.
-/

namespace AccessWeave

open Instruction (loadConst invoke guardSequence)

/-- Whether a guard of the operation ran to its end: its literal and its call were executed
back to back, and the call returned to the instruction after it. -/
def Body.CompletesGuard (body : Body) (operation : Operation) (trail : Trail) : Prop :=
  ∃ index,
    body.instructions[index]? = some (loadConst (.string operation.key)) ∧
    body.instructions[index + 1]? = some (invoke guardEntry) ∧
    [(index, .falls), (index + 1, .falls)] <:+: trail

/-- A guard in a run, and the instructions in front of it and behind it in the stream. -/
theorem guard_in_run {keys : List String} {key : String} (member : key ∈ keys) :
    ∃ earlier later, guardRun keys =
      guardRun earlier ++ loadConst (.string key) :: invoke guardEntry :: guardRun later := by
  rcases List.append_of_mem member with ⟨earlier, later, rfl⟩
  exact ⟨earlier, later, by simp⟩

theorem completes_guard_of_infix {body : Body} {operation : Operation} {trail : Trail}
    (front back : List Instruction)
    (split : body.instructions =
      front ++ loadConst (.string operation.key) :: invoke guardEntry :: back)
    (passed : straight front.length 2 <:+: trail) : body.CompletesGuard operation trail := by
  refine ⟨front.length, ?_, ?_, passed⟩
  · simp [split]
  · simp [split]

theorem completes_guard_at_entry {body : Body} {operation : Operation} {signature : Signature}
    {keys : List String} {rest : List Instruction} {trail : Trail} {target : Nat}
    (foreign : signature ≠ guardEntry) (split : body.instructions = guardRun keys ++ rest)
    (member : operation.key ∈ keys) (run : body.Run trail target)
    (call : body.instructions[target]? = some (invoke signature)) :
    body.CompletesGuard operation trail := by
  have outsideRun : invoke signature ∉ guardRun keys :=
    fun inside => guard_run_no_call foreign inside rfl
  have callSplit : (guardRun keys ++ rest ++ [])[target]? = some (invoke signature) := by
    rw [List.append_nil, ← split, call]
  rcases index_in_block outsideRun List.not_mem_nil callSplit with ⟨offset, behind, _⟩
  have fallen := run.through_entry split (fun _ => guard_run_no_label)
    (fun _ => guard_run_no_target) (by omega)
  rcases guard_in_run member with ⟨earlier, later, runIs⟩
  have bound : (guardRun earlier).length + 2 ≤ 0 + (guardRun keys).length := by
    rw [runIs, List.length_append, List.length_cons, List.length_cons]
    omega
  apply completes_guard_of_infix (guardRun earlier) (guardRun later ++ rest)
  · simp [split, runIs]
  · exact (straight_within 2 (Nat.zero_le _) bound).trans fallen.isInfix

theorem completes_guard_before_calls {body : Body} {operation : Operation}
    {signature : Signature} {before span after : List Instruction} {keys : List String}
    {trail : Trail} {target : Nat} (foreign : signature ≠ guardEntry)
    (split : body.instructions =
      before ++ guardRun keys ++ invoke signature :: (span ++ after))
    (member : operation.key ∈ keys) (unseen : invoke signature ∉ before)
    (unseenAfter : invoke signature ∉ after)
    (unlabelled : ∀ instruction ∈ span, instruction.isLabel = false)
    (run : body.Run trail target)
    (call : body.instructions[target]? = some (invoke signature)) :
    body.CompletesGuard operation trail := by
  rcases guard_in_run member with ⟨earlier, later, runIs⟩
  let front := before ++ guardRun earlier
  let tail := guardRun later ++ invoke signature :: span
  let block := loadConst (.string operation.key) :: invoke guardEntry :: tail
  have blockSplit : body.instructions = front ++ block ++ after := by
    simp [split, runIs, front, block, tail]
  have unseenFront : invoke signature ∉ front := by
    intro inside
    rcases List.mem_append.mp inside with early | guard
    · exact unseen early
    · exact guard_run_no_call foreign guard rfl
  have blockUnlabelled : ∀ instruction ∈ block, instruction.isLabel = false := by
    intro instruction inside
    simp only [block, tail, List.mem_cons, List.mem_append] at inside
    rcases inside with rfl | rfl | guard | rfl | inSpan
    · rfl
    · rfl
    · exact guard_run_no_label guard
    · rfl
    · exact unlabelled instruction inSpan
  rw [blockSplit] at call
  rcases index_in_block unseenFront unseenAfter call with ⟨offset, rfl, inBlock⟩
  have bound : offset < block.length := (List.getElem?_eq_some_iff.mp inBlock).1
  rcases run.through_block blockSplit blockUnlabelled bound with ⟨earlierTrail, _, rfl⟩
  -- The call is behind the pair: neither the literal nor the guard's own call is one.
  have afterPair : 2 ≤ offset := by
    rcases offset with _ | _ | offset
    · cases inBlock
    · rw [List.getElem?_cons_succ, List.getElem?_cons_zero] at inBlock
      cases inBlock
      exact (foreign rfl).elim
    · omega
  have passed := straight_within 2 (Nat.le_refl front.length) (by omega : _ ≤ front.length + offset)
  apply completes_guard_of_infix front (tail ++ after)
  · rw [blockSplit, List.append_assoc]
    rfl
  · exact passed.trans (List.suffix_append earlierTrail _).isInfix

/-- No path reaches a call to a covered signature without completing a guard of the
operation. -/
theorem Covered.guards {body : Body} {operation : Operation} {signature : Signature}
    {trail : Trail} {target : Nat} (foreign : signature ≠ guardEntry)
    (covered : Covered operation signature body.instructions) (run : body.Run trail target)
    (call : body.instructions[target]? = some (invoke signature)) :
    body.CompletesGuard operation trail := by
  cases covered with
  | absent unseen => exact (unseen (List.mem_of_getElem? call)).elim
  | atEntry keys rest split member =>
      exact completes_guard_at_entry foreign split member run call
  | beforeCalls before keys span after split member unseen unseenAfter unlabelled =>
      exact completes_guard_before_calls foreign split member unseen unseenAfter unlabelled
        run call

/-- In a woven body, every path from the start to a call that some rule matches completes a
guard of that rule's operation before it gets there. This needs neither a body that verifies
nor room in its declared stack. -/
theorem every_path_to_a_call_is_guarded (body : Body) (rules : List Rule)
    (context : WeaveContext) (foreign : ∀ rule ∈ rules, rule.signature ≠ guardEntry)
    (rule : Rule) (member : rule ∈ rules) (trail : Trail) (target : Nat)
    (instruction : Instruction)
    (run : (weaveBody body rules context).body.Run trail target)
    (here : (weaveBody body rules context).body.instructions[target]? = some instruction)
    (matching : instruction.isCallTo rule.signature = true) :
    (weaveBody body rules context).body.CompletesGuard rule.operation trail := by
  have covered := (weave_body_spec foreign body context).covers foreign member
  rw [is_call_to_iff.mp matching] at here
  exact covered.guards (foreign rule member) run here

/-- A body that asks before its call only where no exception is thrown: the handler of the
guard lands right before the call, and the call is in a loop. -/
def evadingBody : Body where
  maxStack := 2
  maxLocals := 1
  instructions :=
    [.label ⟨0⟩, loadConst (.string "Runtime.exit"), invoke guardEntry, .label ⟨1⟩,
      .plain 0x04 [], invoke Operation.runtimeExit.signature, .branch 0xa7 ⟨1⟩]
  handlers := [⟨⟨0⟩, ⟨1⟩, ⟨1⟩, none⟩]
  frames := []

/-- The body with its guards put in. -/
def evadingWoven : Body := (weaveBody evadingBody Rule.standard (WeaveContext.ofSize 3)).body

/-- The path on which the body's own guard throws and the one that was put in returns. -/
def evadingTrail : Trail := [(0, .falls), (1, .falls), (2, .throws)] ++ straight 3 4

theorem evading_instructions : evadingWoven.instructions =
    [.label ⟨0⟩, loadConst (.string "Runtime.exit"), invoke guardEntry, .label ⟨1⟩,
      .plain 0x04 [], loadConst (.string "Runtime.exit"), invoke guardEntry,
      invoke Operation.runtimeExit.signature, .branch 0xa7 ⟨1⟩] := by
  decide

theorem evading_call :
    evadingWoven.instructions[7]? = some (invoke Operation.runtimeExit.signature) := by
  rw [evading_instructions]
  rfl

theorem evading_run : evadingWoven.Run evadingTrail 7 := by
  have listed : ⟨⟨0⟩, ⟨1⟩, ⟨1⟩, none⟩ ∈ evadingWoven.handlers := by decide
  have caught : evadingWoven.Step 2 .throws 3 :=
    .throws listed ⟨0, 3, by decide, by decide, by decide, by decide⟩ (by decide)
  have thrown := (Body.Run.start.falls_straight 2 (by decide)).step caught
  exact thrown.falls_straight 4 (by decide)

theorem evading_path_is_guarded :
    (∀ rule ∈ Rule.standard, rule.signature ≠ guardEntry) ∧
      evadingWoven.Run evadingTrail 7 ∧
      evadingWoven.instructions[7]? = some (invoke Operation.runtimeExit.signature) ∧
      evadingWoven.CompletesGuard .runtimeExit evadingTrail := by
  have foreign : ∀ rule ∈ Rule.standard, rule.signature ≠ guardEntry := by decide
  exact ⟨foreign, evading_run, evading_call,
    every_path_to_a_call_is_guarded evadingBody Rule.standard (WeaveContext.ofSize 3) foreign
      (Rule.forOperation .beforeCall .runtimeExit) (by decide) evadingTrail 7 _ evading_run
      evading_call (by decide)⟩

end AccessWeave
