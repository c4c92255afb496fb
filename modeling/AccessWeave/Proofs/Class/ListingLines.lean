import AccessWeave.Proofs.Class.ListingMarks

/-!
# The lines of a listing

A listing shows a class as a row of items, each followed by a line end: one for the class, and for
every method an empty one, its header, at most one with its guards, one for each instruction and
one for each handler. Names are shown as the class has them. So the items are the lines, and the
marks stand at the calls that they mean, exactly when no name holds a line end and no name at the
end of an item ends in a mark. Literals that are texts can do neither, because they are quoted.
-/

namespace AccessWeave

namespace Instruction

/-- The mark of a call that asks the guard or performs an operation. -/
def mark? (instruction : Instruction) : Option Mark :=
  if instruction.isCallTo guardEntry then some .guard
  else instruction.operation?.map Mark.operation

variable {instruction : Instruction} {mark : Mark}

theorem remark_eq (instruction : Instruction) :
    instruction.remark = match instruction.mark? with
      | none => ""
      | some mark => "    " ++ mark.text := by
  rw [remark, mark?]
  split
  · rfl
  · cases instruction.operation? with
    | none => rfl
    | some operation =>
        change "    ; " ++ operation.displayName = "    " ++ ("; " ++ operation.displayName)
        rw [← String.append_assoc]
        rfl

theorem mark_eq_some_iff :
    instruction.mark? = some mark ↔ instruction.isCallTo mark.signature = true := by
  constructor
  · intro marked
    rw [mark?] at marked
    split at marked
    · next asks =>
        cases marked
        exact asks
    · obtain ⟨operation, found, rfl⟩ := Option.map_eq_some_iff.mp marked
      have calls := List.find?_some found
      exact calls
  · intro calls
    have invoked : instruction.invoked? = some mark.signature := by simpa [isCallTo] using calls
    have others : ∀ other : Mark, instruction.isCallTo other.signature = decide (mark = other) := by
      intro other
      simp only [isCallTo, invoked, Option.some.injEq]
      exact decide_eq_decide.mpr ⟨Mark.signature_injective, congrArg Mark.signature⟩
    have asks := others .guard
    have performs : ∀ operation : Operation, instruction.isCallTo operation.signature
        = decide (mark = .operation operation) := fun operation => others (.operation operation)
    rw [Mark.signature] at asks
    simp only [mark?, operation?, asks, performs]
    rcases mark with - | (- | - | -) <;> decide

/-- The texts that an instruction is shown with as the class has them. -/
def names : Instruction → List String
  | invoke target => [target.owner, target.name, target.descriptor]
  | loadConst (.type name) => [name]
  | _ => []

/-- The part of these texts at the end. -/
def nameAtEnd : Instruction → String
  | invoke target => target.owner ++ "." ++ target.name ++ target.descriptor
  | loadConst (.type name) => name
  | _ => ""

/-- Only calls and the literals that are types or texts are not quiet. -/
theorem quiet_cases (instruction : Instruction) :
    (∃ target, instruction = .invoke target) ∨
      (∃ name, instruction = .loadConst (.type name)) ∨
      (∃ value, instruction = .loadConst (.string value)) ∨
      Quiet instruction.text ∧ instruction.names = [] ∧ instruction.nameAtEnd = "" := by
  have quietTexts : ∀ {Value : Type} (shown : Value → String), (∀ value, Quiet (shown value)) →
      ∀ values : List Value, ∀ text ∈ values.map shown, Quiet text := by
    intro Value shown quiet values text member
    obtain ⟨value, -, rfl⟩ := List.mem_map.mp member
    exact quiet value
  cases instruction with
  | invoke target => exact .inl ⟨target, rfl⟩
  | loadConst constant =>
      have load : Quiet "ldc " := by decide
      cases constant with
      | type name => exact .inr (.inl ⟨name, rfl⟩)
      | string value => exact .inr (.inr (.inl ⟨value, rfl⟩))
      | int value =>
          have quiet := load.append (quiet_integer value.toInt)
          exact .inr (.inr (.inr ⟨quiet, rfl, rfl⟩))
      | long value =>
          have quiet := load.append ((quiet_integer value.toInt).append (by decide : Quiet "L"))
          exact .inr (.inr (.inr ⟨quiet, rfl, rfl⟩))
      | float pattern =>
          have quiet := load.append ((quiet_plain_text Decimal.binary32 pattern.toNat).append
            (by decide : Quiet "F"))
          exact .inr (.inr (.inr ⟨quiet, rfl, rfl⟩))
      | double pattern =>
          have quiet := load.append ((quiet_plain_text Decimal.binary64 pattern.toNat).append
            (by decide : Quiet "D"))
          exact .inr (.inr (.inr ⟨quiet, rfl, rfl⟩))
  | label defined =>
      have quiet := (quiet_label defined).append (by decide : Quiet ":")
      exact .inr (.inr (.inr ⟨quiet, rfl, rfl⟩))
  | branch opcode target =>
      have opening := Quiet.append (by decide : Quiet "branch 0x") (quiet_hex_byte opcode)
      have quiet := (opening.append (by decide : Quiet " -> ")).append (quiet_label target)
      exact .inr (.inr (.inr ⟨quiet, rfl, rfl⟩))
  | switch opcode default targets =>
      have opening := Quiet.append (by decide : Quiet "switch 0x") (quiet_hex_byte opcode)
      have listed := (opening.append (by decide : Quiet " [")).append
        (quiet_intercalate (by decide : Quiet ", ") (quietTexts Label.text quiet_label targets))
      have quiet := (listed.append (by decide : Quiet "] default ")).append (quiet_label default)
      exact .inr (.inr (.inr ⟨quiet, rfl, rfl⟩))
  | plain opcode operands =>
      have opening := Quiet.append (by decide : Quiet "op 0x") (quiet_hex_byte opcode)
      have operand : ∀ byte, Quiet (" " ++ Text.hexByte byte) :=
        fun byte => Quiet.append (by decide) (quiet_hex_byte byte)
      have quiet := opening.append (quiet_join (quietTexts _ operand operands))
      exact .inr (.inr (.inr ⟨quiet, rfl, rfl⟩))

theorem invoke_text (target : Signature) :
    (invoke target).text = target.kind.mnemonic ++ " " ++ (invoke target).nameAtEnd := by
  change target.kind.mnemonic ++ " " ++ target.owner ++ "." ++ target.name ++ target.descriptor
    = target.kind.mnemonic ++ " " ++ (target.owner ++ "." ++ target.name ++ target.descriptor)
  simp only [String.append_assoc]

theorem text_ends_in_iff (instruction : Instruction) (mark : Mark) :
    EndsIn instruction.text mark ↔ EndsIn instruction.nameAtEnd mark := by
  rcases instruction.quiet_cases with
    ⟨target, rfl⟩ | ⟨name, rfl⟩ | ⟨value, rfl⟩ | ⟨quiet, -, none⟩
  · have separates : Separates (target.kind.mnemonic ++ " ") := by
      cases target.kind <;> decide +kernel
    rw [invoke_text, ← @String.empty_append (target.kind.mnemonic ++ " ")]
    exact ends_in_behind separates "" _ mark
  · change EndsIn ("ldc " ++ ("class " ++ name)) mark ↔ EndsIn name mark
    rw [← String.append_assoc]
    exact ends_in_behind (by decide +kernel) "ldc " name mark
  · exact iff_of_false (not_ends_in_quoted "ldc " value mark) (not_ends_in_empty mark)
  · rw [none]
    exact iff_of_false (not_ends_in_of_plain quiet.2 mark) (not_ends_in_empty mark)

theorem line_end_mem_text_iff (instruction : Instruction) :
    '\n' ∈ instruction.text.toList ↔ ∃ name ∈ instruction.names, '\n' ∈ name.toList := by
  rcases instruction.quiet_cases with
    ⟨target, rfl⟩ | ⟨name, rfl⟩ | ⟨value, rfl⟩ | ⟨quiet, none, -⟩
  · have mnemonic : '\n' ∉ target.kind.mnemonic.toList := by
      cases target.kind <;> decide
    rw [invoke_text]
    simp [nameAtEnd, names, mnemonic]
  · change '\n' ∈ ("ldc " ++ ("class " ++ name)).toList ↔ _
    simp [names]
  · have quoted := line_end_not_mem_quoted value
    change '\n' ∈ ("ldc " ++ Text.quoted value).toList ↔ _
    simp [names, quoted]
  · rw [none]
    exact iff_of_false quiet.1 (by simp)

/-- A call with a mark ends in that mark alone, and everything else ends as its name does. -/
theorem listed_ends_in_iff (instruction : Instruction) (index : Nat) (mark : Mark) :
    EndsIn (instruction.listed index) mark ↔
      instruction.mark? = some mark ∨
        instruction.mark? = none ∧ EndsIn instruction.nameAtEnd mark := by
  rw [listed, remark_eq]
  cases marked : instruction.mark? with
  | none =>
      rw [String.append_empty, ends_in_behind (by decide +kernel), text_ends_in_iff]
      simp
  | some other =>
      rw [← String.append_assoc, ends_in_behind (by decide +kernel), ends_in_mark_iff]
      simp

theorem line_end_mem_listed_iff (instruction : Instruction) (index : Nat) :
    '\n' ∈ (instruction.listed index).toList ↔
      ∃ name ∈ instruction.names, '\n' ∈ name.toList := by
  have number := (quiet_align_right (quiet_natural index) 4).1
  have remark : '\n' ∉ instruction.remark.toList := by
    rw [remark_eq]
    rcases instruction.mark? with - | - | (- | - | -) <;> decide
  have margin : Quiet "    " := by decide
  have colon : Quiet ": " := by decide
  rw [listed, ← line_end_mem_text_iff]
  simp only [String.toList_append, List.mem_append, margin.1, number, colon.1, remark, or_false,
    false_or]

end Instruction

/-! ### Items -/

inductive ListedItem
  | headline (file : ClassFile)
  | blank
  | header (method : Method)
  | guards (operations : List Operation)
  | instruction (instruction : Instruction) (index : Nat)
  | handler (handler : Handler)

def Method.header (method : Method) : String :=
  match method.body with
  | none => "  " ++ method.qualifiedName ++ " (no body)"
  | some body =>
      "  " ++ method.qualifiedName ++ "  max_stack=" ++ toString body.maxStack.toNat
        ++ " max_locals=" ++ toString body.maxLocals.toNat

def Body.items (body : Body) : List ListedItem :=
  (if body.carriedGuards.isEmpty then [] else [.guards body.carriedGuards])
    ++ (body.instructions.zipIdx.map fun (instruction, index) => .instruction instruction index)
    ++ body.handlers.map .handler

def Method.items (method : Method) : List ListedItem :=
  .blank :: .header method :: (method.body.map Body.items).getD []

def ClassFile.items (file : ClassFile) : List ListedItem :=
  .headline file :: file.methods.flatMap Method.items

namespace ListedItem

def text : ListedItem → String
  | headline file => file.headline
  | blank => ""
  | header method => method.header
  | guards operations => "    guards: " ++ String.intercalate ", " (operations.map Operation.key)
  | instruction shown index => shown.listed index
  | handler shown => shown.listed

/-- The item is an instruction that calls the signature. -/
def IsCallTo (item : ListedItem) (signature : Signature) : Prop :=
  ∃ shown index, item = .instruction shown index ∧ shown.isCallTo signature = true

/-- The texts that an item shows as the class has them. -/
def names : ListedItem → List String
  | headline file => file.name :: file.superName.toList
  | header method => [method.name, method.descriptor]
  | instruction shown _ => shown.names
  | handler shown => shown.catchType.toList
  | blank | guards _ => []

/-- The name that an item without a mark ends in. -/
def nameAtEnd : ListedItem → String
  | headline file => file.superName.getD file.name
  | instruction shown _ => if shown.mark?.isSome then "" else shown.nameAtEnd
  | blank | header _ | guards _ | handler _ => ""

theorem quiet_guards (operations : List Operation) : Quiet (guards operations).text := by
  apply Quiet.append (by decide)
  apply quiet_intercalate (by decide)
  intro key member
  obtain ⟨operation, -, rfl⟩ := List.mem_map.mp member
  cases operation <;> decide

theorem headline_ends_in_iff (file : ClassFile) (mark : Mark) :
    EndsIn file.headline mark ↔ EndsIn (file.superName.getD file.name) mark := by
  rw [ClassFile.headline]
  cases file.superName with
  | none =>
      have whole : "class " ++ file.name ++ "" = "" ++ "class " ++ file.name := by simp
      rw [whole, ends_in_behind (by decide +kernel)]
      rfl
  | some superName =>
      rw [← String.append_assoc, ends_in_behind (by decide +kernel)]
      rfl

theorem not_ends_in_header (method : Method) (mark : Mark) : ¬EndsIn method.header mark := by
  rw [Method.header]
  cases method.body with
  | none =>
      have whole : "  " ++ method.qualifiedName ++ " (no body)"
          = "  " ++ method.qualifiedName ++ " (no body)" ++ "" := String.append_empty.symm
      rw [whole, ends_in_behind (by decide +kernel)]
      exact not_ends_in_empty mark
  | some body =>
      rw [ends_in_behind (by decide +kernel)]
      exact not_ends_in_of_plain (quiet_natural _).2 mark

theorem not_ends_in_handler (shown : Handler) (mark : Mark) : ¬EndsIn shown.listed mark := by
  change ¬EndsIn (_ ++ " -> " ++ shown.target.text) mark
  rw [ends_in_behind (by decide +kernel)]
  exact not_ends_in_of_plain (quiet_label _).2 mark

theorem is_call_to_mark_iff {shown : Instruction} {index : Nat} {mark : Mark} :
    (ListedItem.instruction shown index).IsCallTo mark.signature ↔ shown.mark? = some mark := by
  rw [Instruction.mark_eq_some_iff]
  constructor
  · rintro ⟨_, _, same, calls⟩
    cases same
    exact calls
  · exact fun calls => ⟨shown, index, rfl, calls⟩

theorem ends_in_iff (item : ListedItem) (mark : Mark) :
    EndsIn item.text mark ↔ item.IsCallTo mark.signature ∨ EndsIn item.nameAtEnd mark := by
  have noCall : (∀ shown index, item ≠ .instruction shown index) →
      ¬item.IsCallTo mark.signature := by
    rintro other ⟨shown, index, rfl, -⟩
    exact other shown index rfl
  cases item with
  | headline file =>
      rw [or_iff_right (noCall (by simp))]
      exact headline_ends_in_iff file mark
  | blank => exact (or_iff_right (noCall (by simp))).symm
  | header method =>
      rw [or_iff_right (noCall (by simp))]
      exact iff_of_false (not_ends_in_header method mark) (not_ends_in_empty mark)
  | guards operations =>
      rw [or_iff_right (noCall (by simp))]
      exact iff_of_false (not_ends_in_of_plain (quiet_guards operations).2 mark)
        (not_ends_in_empty mark)
  | handler shown =>
      rw [or_iff_right (noCall (by simp))]
      exact iff_of_false (not_ends_in_handler shown mark) (not_ends_in_empty mark)
  | instruction shown index =>
      rw [text, Instruction.listed_ends_in_iff, is_call_to_mark_iff, nameAtEnd]
      cases shown.mark? with
      | none => simp
      | some other => simp [not_ends_in_empty]

theorem line_end_mem_iff (item : ListedItem) :
    '\n' ∈ item.text.toList ↔ ∃ name ∈ item.names, '\n' ∈ name.toList := by
  cases item with
  | headline file =>
      simp only [text, names, ClassFile.headline]
      cases file.superName <;> simp
  | blank => simp [text, names]
  | header method =>
      simp only [text, names, Method.header]
      cases method.body with
      | none => simp [Method.qualifiedName]
      | some body =>
          have stack := (quiet_natural body.maxStack.toNat).1
          have locals := (quiet_natural body.maxLocals.toNat).1
          rw [Nat.toString_eq_repr, Nat.toList_repr] at stack locals
          simp [Method.qualifiedName, stack, locals]
  | guards operations => exact iff_of_false (quiet_guards operations).1 (by simp [names])
  | instruction shown index => exact shown.line_end_mem_listed_iff index
  | handler shown =>
      have start := (quiet_label shown.start).1
      have finish := (quiet_label shown.finish).1
      have target := (quiet_label shown.target).1
      change '\n' ∈ ("    try " ++ shown.start.text ++ ".." ++ shown.finish.text ++ " catch "
        ++ shown.catchType.getD "*" ++ " -> " ++ shown.target.text).toList ↔ _
      rw [names]
      cases shown.catchType <;> simp [start, finish, target]

end ListedItem

theorem items_text (file : ClassFile) : file.items.map ListedItem.text = file.listed := by
  have methods : ∀ method : Method, method.items.map ListedItem.text = method.listed := by
    intro method
    rw [Method.items, Method.listed, List.map_cons, List.map_cons, ListedItem.text,
      ListedItem.text, Method.header]
    cases method.body with
    | none => rfl
    | some body =>
        rw [Option.map_some, Option.getD_some, Body.items, List.map_append, List.map_append,
          List.map_map, List.map_map]
        dsimp only
        split <;> rfl
  rw [ClassFile.items, ClassFile.listed, List.map_cons, List.map_flatMap]
  simp only [methods]
  rfl

/-! ### The whole listing -/

/-- The items of the listing are its lines, and those end in a mark that call what it means. -/
structure ClassFile.FaithfullyListed (file : ClassFile) : Prop where
  lines : Text.linesOf file.listing = file.items.map ListedItem.text
  marks : ∀ item ∈ file.items, ∀ mark,
    EndsIn item.text mark ↔ item.IsCallTo mark.signature

/-- No name of the item ends a line, and no name at its end looks like a mark. -/
structure ListedItem.IsPlain (item : ListedItem) : Prop where
  unbroken : ∀ name ∈ item.names, '\n' ∉ name.toList
  unmarked : ∀ mark, ¬EndsIn item.nameAtEnd mark

theorem faithfully_listed_iff {file : ClassFile} :
    file.FaithfullyListed ↔ ∀ item ∈ file.items, item.IsPlain := by
  have lines : Text.linesOf file.listing = file.items.map ListedItem.text ↔
      ∀ item ∈ file.items, ∀ name ∈ item.names, '\n' ∉ name.toList := by
    rw [ClassFile.listing, ← items_text, Text.lines_are_items_iff, List.forall_mem_map]
    simp only [ListedItem.line_end_mem_iff, not_exists, not_and]
  constructor
  · rintro ⟨sameLines, sameMarks⟩ item member
    refine ⟨lines.mp sameLines item member, ?_⟩
    intro mark ends
    have calls := (sameMarks item member mark).mp ((item.ends_in_iff mark).mpr (.inr ends))
    -- A call with a mark ends in no name.
    obtain ⟨shown, index, rfl, calls⟩ := calls
    rw [← Instruction.mark_eq_some_iff] at calls
    rw [ListedItem.nameAtEnd, calls] at ends
    exact not_ends_in_empty mark ends
  · intro plain
    refine ⟨lines.mpr fun item member => (plain item member).unbroken, ?_⟩
    intro item member mark
    rw [item.ends_in_iff, or_iff_left ((plain item member).unmarked mark)]

end AccessWeave
