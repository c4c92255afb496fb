import AccessWeave.Proofs.Weave.RuleOrder
import AccessWeave.Proofs.Weave.Traces

/-!
# The declared operand stack stays sufficient

The depth of the operand stack is followed along the paths of a body, for any effect of its
instructions: it starts at nothing, grows by the effect of each instruction that is completed, and
is one where a handler is entered. A guard that was put in holds one slot, from its literal to its
call, on top of what the path has at the original instruction behind the guard. Guards that stand
next to each other hold that slot one after the other, which is why one more slot is enough for any
number of them. A guard that throws does so where the call behind it is protected, and a call may
throw as well, so no handler is entered that was not entered before.
-/

namespace AccessWeave

open Instruction (loadConst invoke guardSequence)

/-- How the instructions of a stream use the operand stack: by which edges control may leave an
instruction, and by how many slots the stack grows when the instruction is completed. -/
structure StackUse where
  leaves : Nat → Edge → Prop
  effect : Nat → Int

namespace StackUse

/-- The depth behind an instruction: an exception leaves itself on the stack and nothing else. -/
def after (use : StackUse) (depth : Int) (index : Nat) : Edge → Int
  | .throws => 1
  | .falls | .jumps => depth + use.effect index

/-- The depth behind a trail that starts with an empty stack. -/
def depth (use : StackUse) (trail : Trail) : Int :=
  trail.foldl (fun depth passed => use.after depth passed.1 passed.2) 0

end StackUse

namespace Body

/-- Whether a path brings control to the index with so many slots in use. -/
def Reaches (body : Body) (use : StackUse) (index : Nat) (depth : Int) : Prop :=
  ∃ trail, body.Run trail index ∧ (∀ passed ∈ trail, use.leaves passed.1 passed.2) ∧
    use.depth trail = depth

/-- Whether a call may throw, wherever it stands. -/
def CallsMayThrow (body : Body) (use : StackUse) : Prop :=
  ∀ index signature, body.instructions[index]? = some (invoke signature) →
    use.leaves index .throws

/-- Whether at most so many slots are in use before and after every instruction of every path. -/
def StaysWithin (body : Body) (use : StackUse) (bound : Int) : Prop :=
  ∀ index depth, body.Reaches use index depth →
    depth ≤ bound ∧ (index < body.instructions.length → depth + use.effect index ≤ bound)

namespace Reaches

variable {body : Body} {use : StackUse} {index next : Nat} {depth : Int} {edge : Edge}

theorem start : body.Reaches use 0 0 :=
  ⟨[], .start, fun _ inside => absurd inside List.not_mem_nil, rfl⟩

theorem step (reached : body.Reaches use index depth) (step : body.Step index edge next)
    (left : use.leaves index edge) : body.Reaches use next (use.after depth index edge) := by
  rcases reached with ⟨trail, run, allowed, rfl⟩
  refine ⟨trail ++ [(index, edge)], run.step step, ?_, ?_⟩
  · intro passed inside
    rcases List.mem_append.mp inside with early | last
    · exact allowed passed early
    · rw [List.mem_singleton.mp last]
      exact left
  · rw [StackUse.depth, List.foldl_append]
    rfl

/-- What holds of the empty stack at the start and is kept by every step holds wherever control
comes. -/
theorem preserves (holds : Nat → Int → Prop) (initial : holds 0 0)
    (kept : ∀ {index next : Nat} {depth : Int} {edge : Edge}, holds index depth →
      body.Step index edge next → use.leaves index edge →
        holds next (use.after depth index edge))
    (reached : body.Reaches use index depth) : holds index depth := by
  rcases reached with ⟨trail, run, allowed, rfl⟩
  induction run with
  | start => exact initial
  | @step trail index next edge _ step induction =>
      rw [StackUse.depth, List.foldl_append]
      have before := induction fun passed inside => allowed passed (List.mem_append_left _ inside)
      have left := allowed (index, edge) (List.mem_append_right _ (List.mem_singleton.mpr rfl))
      exact kept before step left

end Reaches

end Body

namespace Layout

/-- How many slots a guard that was put in holds at an index of the woven stream: its literal,
when control is at its call. -/
def held : Layout → Nat → Nat
  | [], _ => 0
  | .kept _ :: _, 0 => 0
  | .kept _ :: layout, index + 1 => held layout index
  | .guard _ :: _, 0 => 0
  | .guard _ :: _, 1 => 1
  | .guard _ :: layout, index + 2 => held layout index

/-- The use of the stack in the woven stream: an original instruction uses it as before, the
literal of a guard that was put in pushes one slot, and the call of the guard pops it. Either may
throw, where a handler covers it. -/
def stackUse (layout : Layout) (use : StackUse) : StackUse where
  leaves index edge := layout.silent index = true ∨ use.leaves (layout.origin index) edge
  effect index :=
    if layout.silent index then if layout.held index = 0 then 1 else -1
    else use.effect (layout.origin index)

/-- Whether guards stand only at the start and right before calls. -/
def Sited (layout : Layout) : Prop :=
  ∀ index, layout.silent index = true →
    layout.origin index = 0 ∨
      ∃ signature, layout.original[layout.origin index]? = some (invoke signature)

variable {layout : Layout} {use : StackUse} {index : Nat}

theorem held_of_kept (loud : layout.silent index = false) : layout.held index = 0 := by
  fun_induction silent layout index with
  | case1 => rfl
  | case2 => rfl
  | case3 _ _ _ induction => exact induction loud
  | case4 => cases loud
  | case5 => cases loud
  | case6 _ _ _ induction => exact induction loud

theorem held_zero : layout.held 0 = 0 := by
  cases layout with
  | nil => rfl
  | cons piece layout => cases piece <;> rfl

theorem held_after_kept (loud : layout.silent index = false) : layout.held (index + 1) = 0 := by
  fun_induction silent layout index with
  | case1 => rfl
  | case2 => exact held_zero
  | case3 _ _ _ induction => exact induction loud
  | case4 => cases loud
  | case5 => cases loud
  | case6 _ _ _ induction => exact induction loud

theorem held_at_silent (quiet : layout.silent index = true) :
    layout.held index = 0 ∧ layout.held (index + 1) = 1 ∨
      layout.held index = 1 ∧ layout.held (index + 1) = 0 := by
  fun_induction silent layout index with
  | case1 => cases quiet
  | case2 => cases quiet
  | case3 _ _ _ induction => exact induction quiet
  | case4 => exact Or.inl ⟨rfl, rfl⟩
  | case5 => exact Or.inr ⟨rfl, held_zero⟩
  | case6 _ _ _ induction => exact induction quiet

theorem effect_at_silent (quiet : layout.silent index = true) :
    (layout.stackUse use).effect index = layout.held (index + 1) - layout.held index := by
  rcases held_at_silent quiet with ⟨here, next⟩ | ⟨here, next⟩ <;>
    simp [stackUse, quiet, here, next]

theorem effect_at_kept (loud : layout.silent index = false) :
    (layout.stackUse use).effect index = use.effect (layout.origin index) := by
  simp [stackUse, loud]

theorem held_le_one : layout.held index ≤ 1 := by
  cases silence : layout.silent index with
  | true => rcases held_at_silent silence with ⟨here, _⟩ | ⟨here, _⟩ <;> omega
  | false =>
      rw [held_of_kept silence]
      exact Nat.zero_le 1

theorem place_unique {other : Nat} (loud : layout.silent index = false)
    (otherLoud : layout.silent other = false) (same : layout.origin index = layout.origin other) :
    index = other := by
  rcases Nat.lt_trichotomy index other with before | equal | behind
  · have order := origin_lt_of_kept loud before
    omega
  · exact equal
  · have order := origin_lt_of_kept otherLoud behind
    omega

theorem guards_at_of_silent (quiet : layout.silent index = true) :
    layout.guardsAt (layout.origin index) ≠ [] := by
  fun_induction silent layout index with
  | case1 => cases quiet
  | case2 => cases quiet
  | case3 _ _ _ induction => exact induction quiet
  | case4 => exact List.cons_ne_nil _ _
  | case5 => exact List.cons_ne_nil _ _
  | case6 _ layout index induction =>
      have behind := induction quiet
      rw [origin]
      cases place : origin layout index with
      | zero => exact List.cons_ne_nil _ _
      | succ target =>
          rw [place] at behind
          exact behind

namespace Between

variable {before after : Body} (between : layout.Between before after)
include between

/-- A handler that covers a guard covers the call behind it. At the start no handler covers
anything: a range begins at a label, and none has been passed. -/
theorem protected_of_silent {handler : Handler} (sited : layout.Sited)
    (quiet : layout.silent index = true) (covered : after.Protected handler index) :
    before.Protected handler (layout.origin index) ∧
      ∃ signature, before.instructions[layout.origin index]? = some (invoke signature) := by
  rcases covered with ⟨start, finish, defined, ended, early, late⟩
  rcases between.defines_iff.mp defined with ⟨loudStart, definedBefore⟩
  rcases between.defines_iff.mp ended with ⟨_, endedBefore⟩
  have notStart : start ≠ index := by
    rintro rfl
    rw [quiet] at loudStart
    cases loudStart
  have opened : layout.origin start < layout.origin index :=
    origin_lt_of_kept loudStart (Nat.lt_of_le_of_ne early notStart)
  rcases sited index quiet with entry | ⟨signature, call⟩
  · omega
  rw [between.original] at call
  have notFinish : layout.origin index ≠ layout.origin finish := by
    intro same
    rw [Body.Defines, ← same, call] at endedBefore
    cases endedBefore
  have closing : layout.origin index ≤ layout.origin finish := origin_mono (Nat.le_of_lt late)
  exact ⟨⟨_, _, definedBefore, endedBefore, Nat.le_of_lt opened,
    Nat.lt_of_le_of_ne closing notFinish⟩, signature, call⟩

theorem held_of_defined {label : Label} (defined : after.Defines label index) :
    layout.held index = 0 :=
  held_of_kept (between.defines_iff.mp defined).1

theorem held_after_step {next : Nat} {edge : Edge} (loud : layout.silent index = false)
    (step : after.Step index edge next) : layout.held next = 0 := by
  cases step with
  | falls => exact held_after_kept loud
  | jumps _ _ defined => exact between.held_of_defined defined
  | throws _ _ defined => exact between.held_of_defined defined

/-- Control that is at the original instruction, or in the guards before it, has the depth of some
path of the original body, and one slot more at the call of a guard. -/
theorem reaches_before {depth : Int} (sited : layout.Sited)
    (callsThrow : before.CallsMayThrow use)
    (reached : after.Reaches (layout.stackUse use) index depth) :
    before.Reaches use (layout.origin index) (depth - layout.held index) := by
  refine reached.preserves
    (fun index depth => before.Reaches use (layout.origin index) (depth - layout.held index)) ?_ ?_
  · rw [origin_zero, held_zero]
    exact .start
  · intro index next depth edge earlier step left
    cases silence : layout.silent index with
    | true =>
        cases step with
        | falls =>
            rw [origin_after_silent silence, StackUse.after, effect_at_silent silence]
            convert earlier using 1
            omega
        | jumps here named _ =>
            rcases silent_instruction silence with ⟨instruction, found, _, jumpless⟩
            rw [between.woven, here] at found
            rw [Option.some.inj found, jumpless] at named
            cases named
        | throws listed covered defined =>
            rcases between.protected_of_silent sited silence covered with
              ⟨coveredBefore, signature, call⟩
            rw [between.handlers] at listed
            have thrown : before.Step (layout.origin index) .throws (layout.origin next) :=
              .throws listed coveredBefore (between.defines_iff.mp defined).2
            rw [between.held_of_defined defined]
            exact earlier.step thrown (callsThrow _ signature call)
    | false =>
        have leftBefore : use.leaves (layout.origin index) edge := by
          rcases left with quiet | allowed
          · rw [silence] at quiet
            cases quiet
          · exact allowed
        have later := earlier.step (between.erases_step silence step) leftBefore
        rw [held_of_kept silence, Int.ofNat_zero, Int.sub_zero] at later
        rw [between.held_after_step silence step, Int.ofNat_zero, Int.sub_zero]
        cases edge <;> simpa only [StackUse.after, effect_at_kept silence] using later

/-- Control that is inside guards falls through them, and then has what it had before them. -/
theorem reaches_settled {depth : Int}
    (reached : after.Reaches (layout.stackUse use) index depth) :
    ∃ place, layout.silent place = false ∧ layout.origin place = layout.origin index ∧
      after.Reaches (layout.stackUse use) place (depth - layout.held index) := by
  generalize measure : after.instructions.length - index = left
  induction left generalizing index depth with
  | zero =>
      cases silence : layout.silent index with
      | false =>
          refine ⟨index, silence, rfl, ?_⟩
          simpa [held_of_kept silence] using reached
      | true =>
          rcases silent_instruction silence with ⟨_, here, _, _⟩
          rw [between.woven] at here
          have inside := (List.getElem?_eq_some_iff.mp here).1
          omega
  | succ left induction =>
      cases silence : layout.silent index with
      | false =>
          refine ⟨index, silence, rfl, ?_⟩
          simpa [held_of_kept silence] using reached
      | true =>
          have fallen := reached.step (.falls (by omega)) (Or.inl silence)
          rcases induction fallen (by omega) with ⟨place, loud, originIs, settled⟩
          refine ⟨place, loud, originIs.trans (origin_after_silent silence), ?_⟩
          rw [StackUse.after, effect_at_silent silence] at settled
          convert settled using 1
          omega

theorem reaches_after {target : Nat} {depth : Int} (reached : before.Reaches use target depth) :
    ∃ place, layout.silent place = false ∧ layout.origin place = target ∧
      after.Reaches (layout.stackUse use) place depth := by
  refine reached.preserves (fun target depth => ∃ place, layout.silent place = false ∧
    layout.origin place = target ∧ after.Reaches (layout.stackUse use) place depth) ?_ ?_
  · have entered : after.Reaches (layout.stackUse use) 0 0 := .start
    rcases between.reaches_settled entered with ⟨place, loud, originIs, settled⟩
    rw [held_zero] at settled
    exact ⟨place, loud, originIs.trans origin_zero, settled⟩
  · rintro _ target depth edge ⟨index, loud, rfl, earlier⟩ step left
    rcases between.lifts_step loud step with ⟨next, rfl, taken⟩
    have later := earlier.step taken (Or.inr left)
    rcases between.reaches_settled later with ⟨place, loudPlace, originIs, settled⟩
    refine ⟨place, loudPlace, originIs, ?_⟩
    rw [between.held_after_step loud taken, Int.ofNat_zero, Int.sub_zero] at settled
    cases edge <;> simpa only [StackUse.after, effect_at_kept loud] using settled

/-- An original instruction is reached with the depths it was reached with. -/
theorem reaches_kept_iff {depth : Int} (sited : layout.Sited)
    (callsThrow : before.CallsMayThrow use) (loud : layout.silent index = false) :
    after.Reaches (layout.stackUse use) index depth ↔
      before.Reaches use (layout.origin index) depth := by
  constructor
  · intro reached
    have earlier := between.reaches_before sited callsThrow reached
    rwa [held_of_kept loud, Int.ofNat_zero, Int.sub_zero] at earlier
  · intro reached
    rcases between.reaches_after reached with ⟨place, loudPlace, same, later⟩
    rwa [place_unique loudPlace loud same] at later

theorem stays_within {bound grown : Int} (sited : layout.Sited)
    (callsThrow : before.CallsMayThrow use)
    (room : ∀ index, bound + layout.held index ≤ grown)
    (within : before.StaysWithin use bound) :
    after.StaysWithin (layout.stackUse use) grown := by
  intro index depth reached
  rcases within _ _ (between.reaches_before sited callsThrow reached) with ⟨here, completed⟩
  have now := room index
  refine ⟨by omega, fun inside => ?_⟩
  cases silence : layout.silent index with
  | true =>
      rw [effect_at_silent silence]
      have next := room (index + 1)
      omega
  | false =>
      have behind := completed ((between.inside_iff silence).mp inside)
      rw [effect_at_kept silence]
      omega

end Between

end Layout

theorem spot_cases (rule : Rule) (stream : List Instruction) :
    rule.spot stream = 0 ∨ stream[rule.spot stream]? = some (invoke rule.signature) := by
  unfold Rule.spot
  split
  · next first last head _ =>
      split
      · exact Or.inr (mem_call_positions_iff.mp (List.mem_of_head? head))
      · exact Or.inl rfl
  · exact Or.inl rfl

/-- A body that was woven without an error, by the places of its guards and the slot for them. -/
theorem woven_body_layout {body : Body} {rules inserted : List Rule} {context : WeaveContext}
    (foreign : ∀ rule ∈ rules, rule.signature ≠ guardEntry)
    (done : (weaveBody body rules context).result = .ok inserted) :
    ∃ layout : Layout, layout.Between body (weaveBody body rules context).body ∧
      (∀ index, (layout.guardsAt index).Perm
        ((inserted.filter fun rule => rule.spot body.instructions = index).map
          Rule.operation)) ∧
      (weaveBody body rules context).body.maxStack.toNat =
        body.maxStack.toNat + if inserted = [] then 0 else 1 := by
  have placed := guards_at_spots foreign (body.instructions.map .kept)
  simp only [Layout.woven_of_kept, Layout.original_of_kept, Layout.guards_at_of_kept,
    List.nil_append] at placed
  rcases placed with ⟨layout, originalIs, wovenIs, guards⟩
  simp only [weaveBody, weave_flagged_reset] at done ⊢
  generalize insertedRules rules (weaveEach false rules body.instructions) = found at done guards ⊢
  cases found with
  | nil =>
      cases done
      exact ⟨layout, ⟨originalIs, wovenIs, rfl⟩, guards, rfl⟩
  | cons rule others =>
      by_cases room : body.maxStack.toNat + 1 < UInt16.size
      · simp only [List.isEmpty_cons, Bool.false_eq_true, if_false, room, if_true,
          Except.ok.injEq] at done ⊢
        subst done
        refine ⟨layout, ⟨originalIs, wovenIs, rfl⟩, guards, ?_⟩
        rw [slot_added room, if_neg (List.cons_ne_nil _ _)]
      · simp only [List.isEmpty_cons, Bool.false_eq_true, if_false, room] at done
        cases done

/-- Where the guards stand at the spots of their rules, they stand at the start and before
calls. -/
theorem sited_of_spots {layout : Layout} {body : Body} {inserted : List Rule}
    (originalIs : layout.original = body.instructions)
    (guards : ∀ index, (layout.guardsAt index).Perm
      ((inserted.filter fun rule => rule.spot body.instructions = index).map Rule.operation)) :
    layout.Sited := by
  intro index quiet
  obtain ⟨operation, member⟩ := List.exists_mem_of_ne_nil _ (Layout.guards_at_of_silent quiet)
  rcases List.mem_map.mp ((guards _).mem_iff.mp member) with ⟨rule, kept, _⟩
  have spotIs : rule.spot body.instructions = layout.origin index :=
    of_decide_eq_true (List.mem_filter.mp kept).2
  rw [originalIs, ← spotIs]
  rcases spot_cases rule body.instructions with entry | call
  · exact Or.inl entry
  · exact Or.inr ⟨_, call⟩

theorem held_of_nothing {layout : Layout} (none : ∀ index, layout.guardsAt index = [])
    (index : Nat) : layout.held index = 0 := by
  cases silence : layout.silent index with
  | true => exact absurd (none _) (Layout.guards_at_of_silent silence)
  | false => exact Layout.held_of_kept silence

/-- However control may leave the instructions of a body, as long as a call may throw, and whatever
their effect on the operand stack: when the declared stack is enough for every path of the body, it
is enough for every path of the woven one, and every original instruction is reached with exactly
the depths it was reached with. The layout tells the guards that were put in. -/
theorem declared_stack_stays_sufficient (body : Body) (rules inserted : List Rule)
    (context : WeaveContext) (foreign : ∀ rule ∈ rules, rule.signature ≠ guardEntry)
    (done : (weaveBody body rules context).result = .ok inserted) :
    ∃ layout : Layout, layout.original = body.instructions ∧
      layout.woven = (weaveBody body rules context).body.instructions ∧
      (∀ index, (layout.guardsAt index).Perm
        ((inserted.filter fun rule => rule.spot body.instructions = index).map
          Rule.operation)) ∧
      ∀ use : StackUse, body.CallsMayThrow use →
        (body.StaysWithin use body.maxStack.toNat →
          (weaveBody body rules context).body.StaysWithin (layout.stackUse use)
            (weaveBody body rules context).body.maxStack.toNat) ∧
        ∀ index, layout.silent index = false → ∀ depth,
          (weaveBody body rules context).body.Reaches (layout.stackUse use) index depth ↔
            body.Reaches use (layout.origin index) depth := by
  rcases woven_body_layout foreign done with ⟨layout, between, guards, grown⟩
  have sited := sited_of_spots between.original guards
  refine ⟨layout, between.original, between.woven, guards, fun use callsThrow => ⟨?_, ?_⟩⟩
  · apply between.stays_within sited callsThrow
    intro index
    rw [grown]
    by_cases nothing : inserted = []
    · have none : ∀ index, layout.guardsAt index = [] := by
        intro index
        have here := guards index
        rw [nothing] at here
        exact here.eq_nil
      rw [held_of_nothing none, if_pos nothing]
      omega
    · have slot : layout.held index ≤ 1 := Layout.held_le_one
      rw [if_neg nothing]
      omega
  · exact fun index loud depth => between.reaches_kept_iff sited callsThrow loud

/-- A program is started from what the stack holds and leaves the same; a status is pushed and taken
by the call that ends the process. -/
def twoCallUse : StackUse where
  leaves _ _ := True
  effect index := if index = 2 then 1 else if index = 3 then -1 else 0

theorem two_call_body_within : twoCallBody.StaysWithin twoCallUse twoCallBody.maxStack.toNat := by
  intro index depth reached
  have exact : depth = if index = 3 then 1 else 0 := by
    refine reached.preserves (fun index depth => depth = if index = 3 then 1 else 0) rfl ?_
    rintro index next depth edge rfl step _
    cases step with
    | falls _ =>
        simp only [StackUse.after, twoCallUse]
        split_ifs <;> omega
    | jumps here named _ =>
        have jumpless : ∀ instruction ∈ twoCallBody.instructions,
            instruction.branchTargets = [] := by decide
        rw [jumpless _ (List.mem_of_getElem? here)] at named
        cases named
    | throws listed _ _ => cases listed
  have declared : twoCallBody.maxStack.toNat = 2 := rfl
  rw [exact, declared, twoCallUse]
  constructor
  · split_ifs <;> omega
  · intro _
    dsimp only
    split_ifs <;> omega

theorem declared_stack_stays_sufficient_for_two_calls :
    (∀ rule ∈ Rule.standard, rule.signature ≠ guardEntry) ∧
      (weaveBody twoCallBody Rule.standard (WeaveContext.ofSize 3)).result =
        .ok [Rule.forOperation .beforeCall .runtimeExit,
          Rule.forOperation .beforeCall .processStart] ∧
      ∃ layout : Layout, layout.original = twoCallBody.instructions ∧
        layout.woven =
          (weaveBody twoCallBody Rule.standard (WeaveContext.ofSize 3)).body.instructions ∧
        (weaveBody twoCallBody Rule.standard (WeaveContext.ofSize 3)).body.StaysWithin
          (layout.stackUse twoCallUse) 3 := by
  have foreign : ∀ rule ∈ Rule.standard, rule.signature ≠ guardEntry := by decide
  have done : (weaveBody twoCallBody Rule.standard (WeaveContext.ofSize 3)).result =
      .ok [Rule.forOperation .beforeCall .runtimeExit,
        Rule.forOperation .beforeCall .processStart] := by decide +kernel
  have grown : (weaveBody twoCallBody Rule.standard
      (WeaveContext.ofSize 3)).body.maxStack.toNat = 3 := by decide +kernel
  rcases declared_stack_stays_sufficient twoCallBody Rule.standard _ (WeaveContext.ofSize 3)
      foreign done with ⟨layout, originalIs, wovenIs, _, each⟩
  have within := (each twoCallUse fun _ _ _ => trivial).1 two_call_body_within
  rw [grown] at within
  exact ⟨foreign, done, layout, originalIs, wovenIs, within⟩

end AccessWeave
