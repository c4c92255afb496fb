import AccessWeave.Proofs.Weave.Weaving

/-!
# Layout of a woven stream

A woven stream is the original one with guard pairs between its instructions. A layout says
where: it lists the instructions that were kept and the guards that were put in, so that both
streams can be read off it. An index into the woven stream then either is inside a pair, which
is silent, or belongs to one original instruction. Silence depends on the layout only; a pair
that was in the body before is not silent.
-/

namespace AccessWeave

open Instruction (loadConst invoke guardSequence)

inductive Piece
  | kept (instruction : Instruction)
  | guard (operation : Operation)
  deriving DecidableEq

namespace Piece

def instructions : Piece → List Instruction
  | kept instruction => [instruction]
  | guard operation => guardSequence operation

def kept? : Piece → Option Instruction
  | kept instruction => some instruction
  | guard _ => none

def guard? : Piece → Option Operation
  | kept _ => none
  | guard operation => some operation

end Piece

abbrev Layout := List Piece

namespace Layout

def woven (layout : Layout) : List Instruction := layout.flatMap Piece.instructions

def original (layout : Layout) : List Instruction := layout.filterMap Piece.kept?

/-- The operations of the guards that were put in, in the order of the stream. -/
def guards (layout : Layout) : List Operation := layout.filterMap Piece.guard?

/-- Whether the instruction at an index of the woven stream is part of a guard that was put
in. -/
def silent : Layout → Nat → Bool
  | [], _ => false
  | .kept _ :: _, 0 => false
  | .kept _ :: layout, index + 1 => silent layout index
  | .guard _ :: _, 0 => true
  | .guard _ :: _, 1 => true
  | .guard _ :: layout, index + 2 => silent layout index

/-- How many original instructions lie before an index of the woven stream. For an instruction
that was kept this is its index in the original stream. -/
def origin : Layout → Nat → Nat
  | [], index => index
  | .kept _ :: _, 0 => 0
  | .kept _ :: layout, index + 1 => origin layout index + 1
  | .guard _ :: _, 0 => 0
  | .guard _ :: _, 1 => 0
  | .guard _ :: layout, index + 2 => origin layout index

@[simp] theorem woven_append (front back : Layout) :
    woven (front ++ back) = woven front ++ woven back :=
  List.flatMap_append

theorem woven_of_kept (stream : List Instruction) : woven (stream.map .kept) = stream := by
  induction stream with
  | nil => rfl
  | cons instruction stream induction => exact congrArg (instruction :: ·) induction

theorem original_of_kept (stream : List Instruction) : original (stream.map .kept) = stream := by
  induction stream with
  | nil => rfl
  | cons instruction stream induction => exact congrArg (instruction :: ·) induction

theorem guards_of_kept (stream : List Instruction) : guards (stream.map .kept) = [] := by
  induction stream with
  | nil => rfl
  | cons instruction stream induction => exact induction

/-- Without guards both streams are the same. -/
theorem woven_of_no_guards {layout : Layout} (none : layout.guards = []) :
    layout.woven = layout.original := by
  induction layout with
  | nil => rfl
  | cons piece layout induction =>
      cases piece with
      | kept instruction => exact congrArg (instruction :: ·) (induction none)
      | guard operation => cases none

/-- Where weaving puts a guard, no pair of the layout is split. -/
theorem split_at_site {layout : Layout} {left right : List Instruction}
    (site : IsSite left right) (split : layout.woven = left ++ right) :
    ∃ front back, layout = front ++ back ∧ front.woven = left ∧ back.woven = right := by
  rcases site with rfl | ⟨called, rest, foreign, rfl⟩
  · exact ⟨[], layout, rfl, rfl, split⟩
  induction layout generalizing left with
  | nil => cases left <;> cases split
  | cons piece layout induction =>
      cases left with
      | nil => exact ⟨[], piece :: layout, rfl, rfl, split⟩
      | cons first left =>
          cases piece with
          | kept instruction =>
              obtain ⟨rfl, tail⟩ := List.cons.inj split
              rcases induction tail with ⟨front, back, rfl, rfl, behind⟩
              exact ⟨.kept instruction :: front, back, rfl, rfl, behind⟩
          | guard operation =>
              obtain ⟨rfl, behindLiteral⟩ := List.cons.inj split
              cases left with
              | nil =>
                  -- The site would be between the literal and the call of the guard.
                  have same := (List.cons.inj behindLiteral).1
                  exact (foreign (Instruction.invoke.inj same).symm).elim
              | cons second left =>
                  obtain ⟨rfl, tail⟩ := List.cons.inj behindLiteral
                  rcases induction tail with ⟨front, back, rfl, rfl, behind⟩
                  exact ⟨.guard operation :: front, back, rfl, rfl, behind⟩

end Layout

/-- Weaving extends a layout of the stream by one guard for each rule that put one in. -/
theorem Weaving.extends_layout {rules inserted : List Rule} {stream final : List Instruction}
    (weaving : Weaving rules stream inserted final) (layout : Layout)
    (laid : layout.woven = stream) :
    ∃ extended : Layout, extended.original = layout.original ∧ extended.woven = final ∧
      extended.guards.Perm (layout.guards ++ inserted.map Rule.operation) := by
  induction weaving generalizing layout with
  | done => exact ⟨layout, rfl, laid, by simp⟩
  | kept _ _ induction => exact induction layout laid
  | @inserted rule _ inserted left right _ site _ _ _ induction =>
      rcases Layout.split_at_site site laid with ⟨front, back, rfl, rfl, rfl⟩
      have middle : Layout.woven (front ++ .guard rule.operation :: back) =
          front.woven ++ guardSequence rule.operation ++ back.woven := by
        rw [Layout.woven_append, List.append_assoc]
        rfl
      rcases induction _ middle with ⟨extended, originalIs, wovenIs, guardsAre⟩
      refine ⟨extended, ?_, wovenIs, guardsAre.trans ?_⟩
      · rw [originalIs]
        simp only [Layout.original, List.filterMap_append, List.filterMap_cons, Piece.kept?]
      · simp only [Layout.guards, List.filterMap_append, List.filterMap_cons, Piece.guard?,
          List.map_cons]
        rw [List.append_assoc, List.append_assoc, List.cons_append]
        apply List.Perm.append_left
        exact List.perm_middle.symm

theorem Weaving.has_layout {rules inserted : List Rule} {stream final : List Instruction}
    (weaving : Weaving rules stream inserted final) :
    ∃ layout : Layout, layout.original = stream ∧ layout.woven = final ∧
      layout.guards.Perm (inserted.map Rule.operation) := by
  rcases weaving.extends_layout (stream.map .kept) (Layout.woven_of_kept stream) with
    ⟨layout, originalIs, wovenIs, guardsAre⟩
  rw [Layout.original_of_kept] at originalIs
  rw [Layout.guards_of_kept, List.nil_append] at guardsAre
  exact ⟨layout, originalIs, wovenIs, guardsAre⟩

namespace Layout

variable {layout : Layout} {index : Nat}

/-- A silent instruction defines no label and names none. -/
theorem silent_instruction (quiet : layout.silent index = true) :
    ∃ instruction, layout.woven[index]? = some instruction ∧
      instruction.isLabel = false ∧ instruction.branchTargets = [] := by
  fun_induction silent layout index with
  | case1 => cases quiet
  | case2 => cases quiet
  | case3 _ _ _ induction => exact induction quiet
  | case4 operation => exact ⟨loadConst (.string operation.key), rfl, rfl, rfl⟩
  | case5 => exact ⟨invoke guardEntry, rfl, rfl, rfl⟩
  | case6 _ _ _ induction => exact induction quiet

theorem origin_after_silent (quiet : layout.silent index = true) :
    layout.origin (index + 1) = layout.origin index := by
  fun_induction silent layout index with
  | case1 => cases quiet
  | case2 => cases quiet
  | case3 _ _ _ induction => simp only [origin, induction quiet]
  | case4 => rfl
  | case5 _ layout => cases layout with
      | nil => rfl
      | cons piece layout => cases piece <;> rfl
  | case6 _ _ _ induction => simp only [origin, induction quiet]

theorem origin_after_kept (loud : layout.silent index = false) :
    layout.origin (index + 1) = layout.origin index + 1 := by
  fun_induction silent layout index with
  | case1 => rfl
  | case2 _ layout => cases layout with
      | nil => rfl
      | cons piece layout => cases piece <;> rfl
  | case3 _ _ _ induction => simp only [origin, induction loud]
  | case4 => cases loud
  | case5 => cases loud
  | case6 _ _ _ induction => simp only [origin, induction loud]

theorem kept_instruction (loud : layout.silent index = false) :
    layout.woven[index]? = layout.original[layout.origin index]? := by
  fun_induction silent layout index with
  | case1 => rfl
  | case2 => rfl
  | case3 _ _ _ induction => exact induction loud
  | case4 => cases loud
  | case5 => cases loud
  | case6 _ _ _ induction => exact induction loud

theorem origin_zero : layout.origin 0 = 0 := by
  cases layout with
  | nil => rfl
  | cons piece layout => cases piece <;> rfl

theorem origin_mono {later : Nat} (order : index ≤ later) :
    layout.origin index ≤ layout.origin later := by
  induction order with
  | refl => exact Nat.le_refl _
  | @step later _ induction =>
      apply Nat.le_trans induction
      cases quiet : layout.silent later with
      | true => exact Nat.le_of_eq (origin_after_silent quiet).symm
      | false =>
          rw [origin_after_kept quiet]
          exact Nat.le_succ _

theorem origin_lt_of_kept {later : Nat} (loud : layout.silent index = false)
    (order : index < later) : layout.origin index < layout.origin later := by
  have next : layout.origin (index + 1) ≤ layout.origin later := origin_mono order
  rw [origin_after_kept loud] at next
  exact next

/-- Every original instruction is still somewhere. -/
theorem exists_place (layout : Layout) (target : Nat) :
    ∃ index, layout.silent index = false ∧ layout.origin index = target := by
  induction layout generalizing target with
  | nil => exact ⟨target, rfl, rfl⟩
  | cons piece layout induction =>
      cases piece with
      | kept instruction =>
          cases target with
          | zero => exact ⟨0, rfl, rfl⟩
          | succ target =>
              rcases induction target with ⟨index, loud, place⟩
              exact ⟨index + 1, loud, congrArg (· + 1) place⟩
      | guard operation =>
          rcases induction target with ⟨index, loud, place⟩
          exact ⟨index + 2, loud, place⟩

end Layout

end AccessWeave
