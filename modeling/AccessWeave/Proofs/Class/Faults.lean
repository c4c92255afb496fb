import AccessWeave.Proofs.Class.WellFormed

/-!
# What the faults of a body say

A body is sound when every label stands in one place, every label that is named anywhere is
defined, every range begins before it ends, and every frame fits the declared stack. Each fault
says that one of these is missed and where. Verification accepts exactly the sound bodies, and
the fault that it reports is one that the body has: where a label is repeated, a repeated one.
-/

namespace AccessWeave

/-- The labels to which an instruction may jump. -/
inductive Instruction.Names : Instruction → Label → Prop
  | branch {opcode : UInt8} {target : Label} : Names (.branch opcode target) target
  | default {opcode : UInt8} {default : Label} {targets : List Label} :
      Names (.switch opcode default targets) default
  | target {opcode : UInt8} {default target : Label} {targets : List Label}
      (listed : target ∈ targets) : Names (.switch opcode default targets) target

namespace Body

/-- The labels that a body refers to, and where. -/
inductive Refers (body : Body) : ReferenceSite → Label → Prop
  | instruction {index : Nat} {instruction : Instruction} {label : Label}
      (here : body.instructions[index]? = some instruction) (named : instruction.Names label) :
      Refers body (.instruction index) label
  | handlerStart {index : Nat} {handler : Handler}
      (here : body.handlers[index]? = some handler) : Refers body (.handler index) handler.start
  | handlerFinish {index : Nat} {handler : Handler}
      (here : body.handlers[index]? = some handler) : Refers body (.handler index) handler.finish
  | handlerTarget {index : Nat} {handler : Handler}
      (here : body.handlers[index]? = some handler) : Refers body (.handler index) handler.target
  | frame {frame : StackMapFrame} (listed : frame ∈ body.frames) :
      Refers body .frame frame.label

structure Sound (body : Body) : Prop where
  once : ∀ label first second,
    body.Defines label first → body.Defines label second → first = second
  defined : ∀ site label, body.Refers site label → ∃ index, body.Defines label index
  ordered : ∀ handler ∈ body.handlers, ∀ start finish,
    body.Defines handler.start start → body.Defines handler.finish finish → start < finish
  fitting : ∀ frame ∈ body.frames, frame.stack.length ≤ body.maxStack.toNat

/-- What a fault says of the body that has it. -/
inductive HasFault (body : Body) : VerifyError → Prop
  | duplicateLabel {label : Label} {first second : Nat} (defined : body.Defines label first)
      (again : body.Defines label second) (apart : first ≠ second) :
      HasFault body (.duplicateLabel label)
  | undefinedLabel {label : Label} {site : ReferenceSite} (refers : body.Refers site label)
      (undefined : ¬∃ index, body.Defines label index) :
      HasFault body (.undefinedLabel label site)
  | invertedHandlerRange {handler : Handler} {start finish : Nat}
      (listed : handler ∈ body.handlers) (started : body.Defines handler.start start)
      (ended : body.Defines handler.finish finish) (inverted : finish ≤ start) :
      HasFault body (.invertedHandlerRange handler.start handler.finish)
  | frameExceedsMaxStack {frame : StackMapFrame} (listed : frame ∈ body.frames)
      (deep : body.maxStack.toNat < frame.stack.length) :
      HasFault body (.frameExceedsMaxStack frame.label frame.stack.length body.maxStack)

variable {body : Body} {error : VerifyError}

theorem names_iff_target {instruction : Instruction} {label : Label} :
    instruction.Names label ↔ label ∈ instruction.branchTargets := by
  constructor
  · intro named
    cases named with
    | branch => exact List.mem_singleton.mpr rfl
    | default => exact List.mem_cons_self
    | target listed => exact List.mem_cons_of_mem _ listed
  · intro inside
    cases instruction with
    | branch opcode target =>
        obtain rfl := List.mem_singleton.mp inside
        exact .branch
    | switch opcode default targets =>
        rcases List.mem_cons.mp inside with rfl | listed
        · exact .default
        · exact .target listed
    | invoke | loadConst | label | plain => cases inside

theorem WellFormed.sound (wellFormed : body.WellFormed) : body.Sound where
  once := wellFormed.once
  defined := by
    intro site label refers
    cases refers with
    | instruction here named =>
        exact mem_labels_iff.mp
          (wellFormed.targets _ (List.mem_of_getElem? here) _ (names_iff_target.mp named))
    | handlerStart here =>
        obtain ⟨⟨start, _, defined, _⟩, _⟩ := wellFormed.handlers _ (List.mem_of_getElem? here)
        exact ⟨start, defined⟩
    | handlerFinish here =>
        obtain ⟨⟨_, finish, _, defined, _⟩, _⟩ :=
          wellFormed.handlers _ (List.mem_of_getElem? here)
        exact ⟨finish, defined⟩
    | handlerTarget here =>
        exact mem_labels_iff.mp (wellFormed.handlers _ (List.mem_of_getElem? here)).2
    | frame listed => exact mem_labels_iff.mp (wellFormed.frames _ listed).1
  ordered := by
    intro handler listed start finish defined ended
    obtain ⟨⟨first, last, started, finished, before⟩, _⟩ := wellFormed.handlers handler listed
    rw [wellFormed.once _ start first defined started,
      wellFormed.once _ finish last ended finished]
    exact before
  fitting := fun frame listed => (wellFormed.frames frame listed).2

theorem Sound.well_formed (sound : body.Sound) : body.WellFormed where
  once := sound.once
  targets := by
    intro instruction inside label named
    obtain ⟨index, here⟩ := List.mem_iff_getElem?.mp inside
    exact mem_labels_iff.mpr (sound.defined _ _ (.instruction here (names_iff_target.mpr named)))
  handlers := by
    intro handler listed
    obtain ⟨index, here⟩ := List.mem_iff_getElem?.mp listed
    obtain ⟨start, defined⟩ := sound.defined _ _ (.handlerStart here)
    obtain ⟨finish, ended⟩ := sound.defined _ _ (.handlerFinish here)
    exact ⟨⟨start, finish, defined, ended, sound.ordered _ listed start finish defined ended⟩,
      mem_labels_iff.mpr (sound.defined _ _ (.handlerTarget here))⟩
  frames := fun frame listed =>
    ⟨mem_labels_iff.mpr (sound.defined _ _ (.frame listed)), sound.fitting frame listed⟩

/-! ### The fault that is found -/

theorem first_repeated_some {seen labels : List Label} {label : Label}
    (found : firstRepeated seen labels = some label) :
    ∃ front back, labels = front ++ label :: back ∧ (label ∈ seen ∨ label ∈ front) := by
  induction labels generalizing seen with
  | nil => cases found
  | cons first labels induction =>
      rw [firstRepeated] at found
      split at found
      · rename_i repeated
        cases found
        exact ⟨[], labels, rfl, .inl repeated⟩
      · obtain ⟨front, back, split, early⟩ := induction found
        refine ⟨first :: front, back, by rw [split, List.cons_append], ?_⟩
        rcases early with before | inFront
        · rcases List.mem_cons.mp before with rfl | seenBefore
          · exact .inr List.mem_cons_self
          · exact .inl seenBefore
        · exact .inr (List.mem_cons_of_mem _ inFront)

theorem duplicate_of_repeated {label : Label}
    (repeated : firstRepeated [] body.labels = some label) :
    body.HasFault (.duplicateLabel label) := by
  obtain ⟨front, back, split, early⟩ := first_repeated_some repeated
  have inFront : label ∈ front := early.resolve_left List.not_mem_nil
  have twice : [label, label].Sublist body.labels := by
    rw [split]
    exact (List.singleton_sublist.mpr inFront).append
      (List.singleton_sublist.mpr List.mem_cons_self)
  obtain ⟨first, second, defined, again, before⟩ := labels_in_order_iff.mp twice
  exact .duplicateLabel defined again (Nat.ne_of_lt before)

theorem undefined_of_missing {label : Label} (missing : body.position? label = none) :
    ¬∃ index, body.Defines label index := by
  rw [← mem_labels_iff]
  exact position_none_iff.mp missing

theorem has_fault_of_instruction {instruction : Instruction} {index : Nat}
    (here : body.instructions[index]? = some instruction)
    (found : body.instructionFault instruction index = some error) : body.HasFault error := by
  obtain ⟨label, named, fault⟩ := List.exists_of_findSome?_eq_some found
  cases missing : body.position? label with
  | none =>
      simp only [referenceFault, missing, Option.some.injEq] at fault
      rw [← fault]
      exact .undefinedLabel (.instruction here (names_iff_target.mpr named))
        (undefined_of_missing missing)
  | some index => simp [referenceFault, missing] at fault

theorem has_fault_of_handler {handler : Handler} {index : Nat}
    (here : body.handlers[index]? = some handler)
    (found : body.handlerFault handler index = some error) : body.HasFault error := by
  rw [handlerFault] at found
  split at found
  · rename_i missing
    cases found
    exact .undefinedLabel (.handlerStart here) (undefined_of_missing missing)
  · rename_i missing _
    cases found
    exact .undefinedLabel (.handlerFinish here) (undefined_of_missing missing)
  · rename_i missing _ _
    cases found
    exact .undefinedLabel (.handlerTarget here) (undefined_of_missing missing)
  · rename_i start finish target started ended caught
    split at found
    · cases found
    · rename_i inverted
      cases found
      exact .invertedHandlerRange (List.mem_of_getElem? here) (defines_of_position started)
        (defines_of_position ended) (Nat.le_of_not_lt inverted)

theorem has_fault_of_frame {frame : StackMapFrame} (listed : frame ∈ body.frames)
    (found : body.frameFault frame = some error) : body.HasFault error := by
  rw [frameFault] at found
  split at found
  · rename_i missing
    cases found
    exact .undefinedLabel (.frame listed) (undefined_of_missing missing)
  · split at found
    · cases found
    · rename_i deep
      cases found
      exact .frameExceedsMaxStack listed (Nat.lt_of_not_le deep)

theorem has_fault_of_found (found : body.fault? = some error) : body.HasFault error := by
  cases repeated : firstRepeated [] body.labels with
  | some label =>
      simp only [fault?, repeated, Option.some.injEq] at found
      rw [← found]
      exact duplicate_of_repeated repeated
  | none =>
      rw [fault?, repeated, Option.or_eq_some_iff, Option.or_eq_some_iff] at found
      rcases found with atInstruction | ⟨_, atHandler | ⟨_, atFrame⟩⟩
      · obtain ⟨⟨instruction, index⟩, indexed, fault⟩ :=
          List.exists_of_findSome?_eq_some atInstruction
        exact has_fault_of_instruction (List.mem_zipIdx_iff_getElem?.mp indexed) fault
      · obtain ⟨⟨handler, index⟩, indexed, fault⟩ := List.exists_of_findSome?_eq_some atHandler
        exact has_fault_of_handler (List.mem_zipIdx_iff_getElem?.mp indexed) fault
      · obtain ⟨frame, listed, fault⟩ := List.exists_of_findSome?_eq_some atFrame
        exact has_fault_of_frame listed fault

theorem verify_error_iff : body.verify = .error error ↔ body.fault? = some error := by
  rw [verify]
  cases body.fault? <;> simp

/-- Verification accepts exactly the sound bodies. The fault that it reports is one that the body
has, and a body with a repeated label is reported for a repeated label, whatever else it has. -/
theorem verification_is_exact (body : Body) :
    (body.verify = .ok () ↔ body.Sound) ∧
      (∀ error, body.verify = .error error → body.HasFault error) ∧
      ∀ label, body.HasFault (.duplicateLabel label) →
        ∃ repeated, body.verify = .error (.duplicateLabel repeated) := by
  refine ⟨verify_ok_iff.trans ⟨WellFormed.sound, Sound.well_formed⟩,
    fun error failed => has_fault_of_found (verify_error_iff.mp failed), ?_⟩
  intro label twice
  cases repeated : firstRepeated [] body.labels with
  | some found =>
      refine ⟨found, verify_error_iff.mpr ?_⟩
      rw [fault?, repeated]
  | none =>
      have once := labels_nodup_iff.mp (first_repeated_none_iff.mp repeated).1
      cases twice with
      | duplicateLabel defined again apart => exact (apart (once _ _ _ defined again)).elim

end Body

end AccessWeave
