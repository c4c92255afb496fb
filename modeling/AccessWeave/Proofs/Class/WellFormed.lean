import AccessWeave.Class.Verify
import AccessWeave.Proofs.Class.ControlFlow

/-!
# Well formed bodies

A body is well formed when its labels say one place each, every label that it names is defined,
its handlers protect a range that does not end before it begins, and its frames fit the declared
stack. Verification accepts exactly those bodies. Of the stream it takes only the labels, in
their order, and the labels that are jumped to; this is what the last lemma says.
-/

namespace AccessWeave

theorem defined_iff {instruction : Instruction} {label : Label} :
    instruction.defined? = some label ↔ instruction = .label label := by
  cases instruction <;> simp [Instruction.defined?]

theorem first_repeated_none_iff {seen labels : List Label} :
    firstRepeated seen labels = none ↔ labels.Nodup ∧ ∀ label ∈ labels, label ∉ seen := by
  induction labels generalizing seen with
  | nil => simp [firstRepeated]
  | cons label labels induction =>
      by_cases repeated : label ∈ seen
      · simp [firstRepeated, repeated]
      · rw [firstRepeated, if_neg repeated, induction, List.nodup_cons, List.forall_mem_cons]
        constructor
        · rintro ⟨once, apart⟩
          refine ⟨⟨fun again => apart label again (by simp), once⟩, repeated, ?_⟩
          exact fun other inside early => apart other inside (List.mem_cons_of_mem _ early)
        · rintro ⟨⟨new, once⟩, _, apart⟩
          refine ⟨once, fun other inside early => ?_⟩
          rcases List.mem_cons.mp early with rfl | before
          · exact new inside
          · exact apart other inside before

namespace Body

variable {body : Body}

structure WellFormed (body : Body) : Prop where
  once : ∀ label first second,
    body.Defines label first → body.Defines label second → first = second
  targets : ∀ instruction ∈ body.instructions, ∀ label ∈ instruction.branchTargets,
    label ∈ body.labels
  handlers : ∀ handler ∈ body.handlers,
    (∃ start finish, body.Defines handler.start start ∧ body.Defines handler.finish finish ∧
      start < finish) ∧ handler.target ∈ body.labels
  frames : ∀ frame ∈ body.frames,
    frame.label ∈ body.labels ∧ frame.stack.length ≤ body.maxStack.toNat

theorem mem_labels_iff {label : Label} :
    label ∈ body.labels ↔ ∃ index, body.Defines label index := by
  rw [labels, List.mem_filterMap]
  constructor
  · rintro ⟨instruction, inside, defines⟩
    rw [defined_iff.mp defines] at inside
    exact List.mem_iff_getElem?.mp inside
  · rintro ⟨index, defined⟩
    exact ⟨.label label, List.mem_of_getElem? defined, rfl⟩

/-- The order of the labels is the order of their places. -/
theorem labels_pairwise_iff {relation : Label → Label → Prop} :
    body.labels.Pairwise relation ↔
      ∀ start finish early late, body.Defines early start → body.Defines late finish →
        start < finish → relation early late := by
  rw [labels, List.pairwise_filterMap, List.pairwise_iff_getElem]
  constructor
  · intro ordered start finish early late defined ended before
    obtain ⟨startInside, startIs⟩ := List.getElem?_eq_some_iff.mp defined
    obtain ⟨finishInside, finishIs⟩ := List.getElem?_eq_some_iff.mp ended
    exact ordered start finish startInside finishInside before early (defined_iff.mpr startIs)
      late (defined_iff.mpr finishIs)
  · intro ordered start finish startInside finishInside before early defined late ended
    apply ordered start finish early late _ _ before
    · exact List.getElem?_eq_some_iff.mpr ⟨startInside, defined_iff.mp defined⟩
    · exact List.getElem?_eq_some_iff.mpr ⟨finishInside, defined_iff.mp ended⟩

theorem labels_nodup_iff :
    body.labels.Nodup ↔
      ∀ label first second,
        body.Defines label first → body.Defines label second → first = second := by
  rw [List.nodup_iff_pairwise_ne, labels_pairwise_iff]
  constructor
  · intro apart label first second defined again
    rcases Nat.lt_trichotomy first second with before | same | behind
    · exact (apart first second label label defined again before rfl).elim
    · exact same
    · exact (apart second first label label again defined behind rfl).elim
  · rintro once start finish early _ defined ended before rfl
    exact Nat.ne_of_lt before (once early start finish defined ended)

theorem labels_in_order_iff {early late : Label} :
    [early, late].Sublist body.labels ↔
      ∃ start finish, body.Defines early start ∧ body.Defines late finish ∧ start < finish := by
  -- No such pair lies in the list exactly when it is pairwise free of it.
  have none : (∀ first second, [first, second].Sublist body.labels →
      ¬(first = early ∧ second = late)) ↔ _ :=
    List.pairwise_iff_forall_sublist.symm.trans labels_pairwise_iff
  constructor
  · intro inOrder
    by_contra absent
    refine none.mpr ?_ early late inOrder ⟨rfl, rfl⟩
    rintro start finish _ _ defined ended before ⟨rfl, rfl⟩
    exact absent ⟨start, finish, defined, ended, before⟩
  · rintro ⟨start, finish, defined, ended, before⟩
    by_contra absent
    refine none.mp ?_ start finish early late defined ended before ⟨rfl, rfl⟩
    rintro _ _ inOrder ⟨rfl, rfl⟩
    exact absent inOrder

theorem defines_of_position {label : Label} {index : Nat}
    (found : body.position? label = some index) : body.Defines label index := by
  rcases List.findIdx?_eq_some_iff_getElem.mp found with ⟨inside, defines, _⟩
  have here := defined_iff.mp (of_decide_eq_true defines)
  exact List.getElem?_eq_some_iff.mpr ⟨inside, here⟩

theorem mem_labels_of_position {label : Label} {index : Nat}
    (found : body.position? label = some index) : label ∈ body.labels :=
  mem_labels_iff.mpr ⟨index, defines_of_position found⟩

theorem position_none_iff {label : Label} :
    body.position? label = none ↔ label ∉ body.labels := by
  constructor
  · intro missing inside
    rcases mem_labels_iff.mp inside with ⟨index, defined⟩
    have plain := List.findIdx?_eq_none_iff.mp missing _ (List.mem_of_getElem? defined)
    exact of_decide_eq_false plain rfl
  · intro undefined
    cases found : body.position? label with
    | none => rfl
    | some index => exact (undefined (mem_labels_of_position found)).elim

theorem reference_fault_none_iff {site : ReferenceSite} {label : Label} :
    body.referenceFault site label = none ↔ label ∈ body.labels := by
  cases found : body.position? label with
  | none => simp [referenceFault, found, position_none_iff.mp found]
  | some index => simp [referenceFault, found, mem_labels_of_position found]

theorem instruction_fault_none_iff (body : Body) (instruction : Instruction) (index : Nat) :
    body.instructionFault instruction index = none ↔
      ∀ label ∈ instruction.branchTargets, label ∈ body.labels := by
  rw [instructionFault, List.findSome?_eq_none_iff]
  simp only [reference_fault_none_iff]

/-- The places found for the ends of a range are in order exactly when some places of theirs
are, where no label is defined twice. -/
theorem positions_in_order_iff (once : body.labels.Nodup) {early late : Label}
    {start finish : Nat} (started : body.position? early = some start)
    (ended : body.position? late = some finish) :
    start < finish ↔
      ∃ first last, body.Defines early first ∧ body.Defines late last ∧ first < last := by
  have startHere := defines_of_position started
  have finishHere := defines_of_position ended
  constructor
  · exact fun before => ⟨start, finish, startHere, finishHere, before⟩
  · rintro ⟨first, last, defined, behind, before⟩
    rw [labels_nodup_iff.mp once early start first startHere defined,
      labels_nodup_iff.mp once late finish last finishHere behind]
    exact before

theorem handler_fault_none_iff (once : body.labels.Nodup) (handler : Handler) (index : Nat) :
    body.handlerFault handler index = none ↔
      (∃ start finish, body.Defines handler.start start ∧
        body.Defines handler.finish finish ∧ start < finish) ∧
        handler.target ∈ body.labels := by
  cases started : body.position? handler.start with
  | none =>
      have undefined := position_none_iff.mp started
      rw [mem_labels_iff, not_exists] at undefined
      simp [handlerFault, started, undefined]
  | some start =>
      cases ended : body.position? handler.finish with
      | none =>
          have undefined := position_none_iff.mp ended
          rw [mem_labels_iff, not_exists] at undefined
          simp [handlerFault, started, ended, undefined]
      | some finish =>
          rw [← positions_in_order_iff once started ended]
          cases caught : body.position? handler.target with
          | none => simp [handlerFault, started, ended, caught, position_none_iff.mp caught]
          | some target =>
              simp [handlerFault, started, ended, caught, mem_labels_of_position caught]

theorem frame_fault_none_iff {frame : StackMapFrame} :
    body.frameFault frame = none ↔
      frame.label ∈ body.labels ∧ frame.stack.length ≤ body.maxStack.toNat := by
  cases found : body.position? frame.label with
  | none => simp [frameFault, found, position_none_iff.mp found]
  | some index => simp [frameFault, found, mem_labels_of_position found]

/-- A search that goes by what stands at an index finds nothing wherever the thing stands. -/
theorem indexed_fault_none_iff {Value : Type} {holds : Value → Prop}
    {fault : Value → Nat → Option VerifyError}
    (exact : ∀ value index, fault value index = none ↔ holds value) (values : List Value) :
    (values.zipIdx.findSome? fun (value, index) => fault value index) = none ↔
      ∀ value ∈ values, holds value := by
  rw [List.findSome?_eq_none_iff]
  constructor
  · intro sound value inside
    rcases List.mem_iff_getElem?.mp inside with ⟨index, here⟩
    exact (exact value index).mp (sound (value, index) (List.mem_zipIdx_iff_getElem?.mpr here))
  · rintro each ⟨value, index⟩ indexed
    have here := List.mem_zipIdx_iff_getElem?.mp indexed
    exact (exact value index).mpr (each value (List.mem_of_getElem? here))

theorem fault_none_iff : body.fault? = none ↔ body.WellFormed := by
  cases repeated : firstRepeated [] body.labels with
  | some label =>
      have twice : ¬body.labels.Nodup := by
        intro once
        rw [first_repeated_none_iff.mpr ⟨once, by simp⟩] at repeated
        cases repeated
      simp only [fault?, repeated, reduceCtorEq, false_iff]
      exact fun wellFormed => twice (labels_nodup_iff.mpr wellFormed.once)
  | none =>
      have once := (first_repeated_none_iff.mp repeated).1
      have targets := indexed_fault_none_iff body.instruction_fault_none_iff body.instructions
      have handlers := indexed_fault_none_iff (handler_fault_none_iff once) body.handlers
      rw [fault?, repeated, Option.or_eq_none_iff, Option.or_eq_none_iff, targets, handlers,
        List.findSome?_eq_none_iff]
      simp only [frame_fault_none_iff]
      constructor
      · rintro ⟨targets, handlers, frames⟩
        exact ⟨labels_nodup_iff.mp once, targets, handlers, frames⟩
      · intro wellFormed
        exact ⟨wellFormed.targets, wellFormed.handlers, wellFormed.frames⟩

theorem verify_ok_iff : body.verify = .ok () ↔ body.WellFormed := by
  rw [← fault_none_iff, verify]
  cases body.fault? <;> simp

/-- What verification takes of a stream: its labels in order, and the labels jumped to. -/
theorem well_formed_iff_labels :
    body.WellFormed ↔
      body.labels.Nodup ∧
      (∀ label ∈ body.instructions.flatMap Instruction.branchTargets, label ∈ body.labels) ∧
      (∀ handler ∈ body.handlers,
        [handler.start, handler.finish].Sublist body.labels ∧ handler.target ∈ body.labels) ∧
      ∀ frame ∈ body.frames,
        frame.label ∈ body.labels ∧ frame.stack.length ≤ body.maxStack.toNat := by
  simp only [labels_nodup_iff, labels_in_order_iff, List.forall_mem_flatMap]
  constructor
  · intro wellFormed
    exact ⟨wellFormed.once, wellFormed.targets, wellFormed.handlers, wellFormed.frames⟩
  · rintro ⟨once, targets, handlers, frames⟩
    exact ⟨once, targets, handlers, frames⟩

/-- Where everything but the frames is in order, the first fault is that of a frame. -/
theorem fault_of_frames (sound : ({ body with frames := [] } : Body).WellFormed) :
    body.fault? = body.frames.findSome? body.frameFault := by
  have once : body.labels.Nodup := labels_nodup_iff.mpr sound.once
  have single := first_repeated_none_iff.mpr ⟨once, fun _ _ => List.not_mem_nil⟩
  have targets := (indexed_fault_none_iff body.instruction_fault_none_iff _).mpr sound.targets
  have handlers := (indexed_fault_none_iff (handler_fault_none_iff once) _).mpr sound.handlers
  rw [fault?, single]
  simp only [targets, handlers, Option.none_or]

end Body

theorem ClassFile.fault_none_iff {file : ClassFile} :
    file.fault? = none ↔
      ∀ method ∈ file.methods, ∀ body, method.body = some body → body.verify = .ok () := by
  rw [ClassFile.fault?, List.findSome?_eq_none_iff]
  simp only [Option.map_eq_none_iff, Method.fault?, Option.bind_eq_none_iff,
    Body.fault_none_iff, Body.verify_ok_iff]

end AccessWeave
