import AccessWeave.Class.ClassFile
import Mathlib.Data.List.Basic

/-!
# Control flow of a body

Control enters a body at its first instruction. From any instruction it may fall to the next
one; a branch or a switch may jump to a place that defines one of its labels; and anything
that a handler protects may throw to that handler. Where an instruction ends the method no
step follows, so every prefix of an execution is a run. Labels are looked up as a relation:
a body that defines a label twice has more runs, not undefined ones.
-/

namespace AccessWeave

/-- How control leaves an instruction. -/
inductive Edge
  | falls
  | jumps
  | throws
  deriving DecidableEq, Repr

/-- What control did so far: each instruction it passed, by its index, and how it left it. -/
abbrev Trail := List (Nat × Edge)

namespace Body

def Defines (body : Body) (label : Label) (index : Nat) : Prop :=
  body.instructions[index]? = some (.label label)

instance (body : Body) (label : Label) (index : Nat) : Decidable (body.Defines label index) :=
  inferInstanceAs (Decidable (_ = _))

/-- Whether an index is in the range that the handler protects. -/
def Protected (body : Body) (handler : Handler) (index : Nat) : Prop :=
  ∃ start finish, body.Defines handler.start start ∧ body.Defines handler.finish finish ∧
    start ≤ index ∧ index < finish

inductive Step (body : Body) : Nat → Edge → Nat → Prop
  | falls {index : Nat} (inside : index < body.instructions.length) :
      Step body index .falls (index + 1)
  | jumps {index target : Nat} {instruction : Instruction} {label : Label}
      (here : body.instructions[index]? = some instruction)
      (named : label ∈ instruction.branchTargets) (defined : body.Defines label target) :
      Step body index .jumps target
  | throws {index target : Nat} {handler : Handler} (listed : handler ∈ body.handlers)
      (covered : body.Protected handler index) (defined : body.Defines handler.target target) :
      Step body index .throws target

/-- The trails from the start of the body, and the index at which control is after each. -/
inductive Run (body : Body) : Trail → Nat → Prop
  | start : Run body [] 0
  | step {trail : Trail} {index next : Nat} {edge : Edge} (run : Run body trail index)
      (step : Step body index edge next) : Run body (trail ++ [(index, edge)]) next

end Body

/-- Falling through a number of instructions in a row. -/
def straight (start count : Nat) : Trail :=
  (List.range' start count).map fun index => (index, .falls)

@[simp] theorem straight_zero (start : Nat) : straight start 0 = [] := rfl

theorem straight_succ (start count : Nat) :
    straight start (count + 1) = straight start count ++ [(start + count, .falls)] := by
  simp [straight, List.range'_concat]

theorem straight_add (start first second : Nat) :
    straight start (first + second) = straight start first ++ straight (start + first) second := by
  simp [straight, ← List.range'_append_1]

/-- Part of a straight trail is inside it. -/
theorem straight_within {start count place : Nat} (size : Nat) (after : start ≤ place)
    (inside : place + size ≤ start + count) : straight place size <:+: straight start count := by
  obtain ⟨early, rfl⟩ := Nat.exists_eq_add_of_le after
  obtain ⟨late, split⟩ := Nat.exists_eq_add_of_le inside
  have countIs : count = early + (size + late) := by omega
  rw [countIs, straight_add, straight_add, ← List.append_assoc]
  exact List.infix_append _ _ _

namespace Body

variable {body : Body} {trail : Trail}

/-- Control may fall through any number of instructions. -/
theorem Run.falls_straight {index : Nat} (run : body.Run trail index) (count : Nat)
    (inside : index + count ≤ body.instructions.length) :
    body.Run (trail ++ straight index count) (index + count) := by
  induction count with
  | zero => simpa using run
  | succ count induction =>
      rw [straight_succ, ← List.append_assoc]
      exact (induction (by omega)).step (.falls (by omega))

/-- Control comes to a place that is no label only from the place before it. -/
theorem Step.falls_of_unlabelled {index next : Nat} {edge : Edge}
    (step : body.Step index edge next) (unlabelled : ∀ label, ¬body.Defines label next) :
    edge = .falls ∧ next = index + 1 := by
  cases step with
  | falls => exact ⟨rfl, rfl⟩
  | jumps _ _ defined => exact (unlabelled _ defined).elim
  | throws _ _ defined => exact (unlabelled _ defined).elim

theorem defines_within_block {front block after : List Instruction} {label : Label}
    {offset : Nat} (split : body.instructions = front ++ block ++ after)
    (inside : offset < block.length) (defined : body.Defines label (front.length + offset)) :
    Instruction.label label ∈ block := by
  have bound : front.length + offset < (front ++ block).length := by
    rw [List.length_append]
    omega
  rw [Defines, split, List.getElem?_append_left bound,
    List.getElem?_append_right (Nat.le_add_right _ _), Nat.add_sub_cancel_left] at defined
  exact List.mem_of_getElem? defined

/-- A block without labels is entered at its beginning only: control that is inside it has
fallen through everything before. -/
theorem Run.through_block {front block after : List Instruction} {offset : Nat}
    (split : body.instructions = front ++ block ++ after)
    (unlabelled : ∀ instruction ∈ block, instruction.isLabel = false)
    (inside : offset < block.length) (run : body.Run trail (front.length + offset)) :
    ∃ before, body.Run before front.length ∧ trail = before ++ straight front.length offset := by
  induction offset generalizing trail with
  | zero => exact ⟨trail, run, by simp⟩
  | succ offset induction =>
      have plain : ∀ label, ¬body.Defines label (front.length + (offset + 1)) := by
        intro label defined
        have labelled := unlabelled _ (defines_within_block split inside defined)
        cases labelled
      generalize place : front.length + (offset + 1) = target at run plain
      cases run with
      | start => omega
      | step earlier step =>
          rcases step.falls_of_unlabelled plain with ⟨rfl, rfl⟩
          have here : _ = front.length + offset := Nat.succ.inj place.symm
          rw [here] at earlier ⊢
          rcases induction (Nat.lt_of_succ_lt inside) earlier with ⟨before, reached, rfl⟩
          exact ⟨before, reached, by rw [straight_succ, List.append_assoc]⟩

/-- Inside a block at the start that has neither labels nor jumps, control only falls: a handler
that protected any of it would begin there. -/
theorem Step.falls_in_entry {block after : List Instruction} {index next : Nat} {edge : Edge}
    (split : body.instructions = block ++ after)
    (unlabelled : ∀ instruction ∈ block, instruction.isLabel = false)
    (untargeted : ∀ instruction ∈ block, instruction.branchTargets = [])
    (inside : index < block.length) (step : body.Step index edge next) :
    edge = .falls ∧ next = index + 1 := by
  have inBlock : ∀ {place : Nat} {instruction : Instruction}, place < block.length →
      body.instructions[place]? = some instruction → instruction ∈ block := by
    intro place instruction inside here
    rw [split, List.getElem?_append_left inside] at here
    exact List.mem_of_getElem? here
  cases step with
  | falls => exact ⟨rfl, rfl⟩
  | jumps here named _ =>
      rw [untargeted _ (inBlock inside here)] at named
      cases named
  | throws _ covered _ =>
      rcases covered with ⟨start, _, defined, _, before, _⟩
      have labelled := unlabelled _ (inBlock (Nat.lt_of_le_of_lt before inside) defined)
      cases labelled

/-- A block at the start of a body that has neither labels nor jumps is fallen through by all
control that gets behind it. -/
theorem Run.through_entry {block after : List Instruction} {target : Nat}
    (split : body.instructions = block ++ after)
    (unlabelled : ∀ instruction ∈ block, instruction.isLabel = false)
    (untargeted : ∀ instruction ∈ block, instruction.branchTargets = [])
    (behind : block.length ≤ target) (run : body.Run trail target) :
    straight 0 block.length <+: trail := by
  -- Control has fallen from the start as far as it is, or has left the block at its end.
  suffices progress : ∀ {trail : Trail} {target : Nat}, body.Run trail target →
      target ≤ block.length ∧ trail = straight 0 target ∨ straight 0 block.length <+: trail by
    rcases progress run with ⟨bound, rfl⟩ | passed
    · obtain rfl := Nat.le_antisymm bound behind
      exact List.prefix_rfl
    · exact passed
  intro trail target run
  induction run with
  | start => exact Or.inl ⟨Nat.zero_le _, rfl⟩
  | @step trail index next edge _ step induction =>
      rcases induction with ⟨bound, rfl⟩ | passed
      · rcases Nat.lt_or_eq_of_le bound with inside | atEnd
        · rcases step.falls_in_entry split unlabelled untargeted inside with ⟨rfl, rfl⟩
          exact Or.inl ⟨inside, by rw [straight_succ, Nat.zero_add]⟩
        · right
          rw [← atEnd]
          exact List.prefix_append _ _
      · exact Or.inr (passed.trans (List.prefix_append _ _))

end Body

end AccessWeave
