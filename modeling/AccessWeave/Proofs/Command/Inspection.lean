import AccessWeave.Command.Artifact
import AccessWeave.Proofs.Class.ListingLines

/-!
# What inspecting shows

Inspecting a class prints its listing. The listing has one line for each of its items, and marks
the calls that it means to mark, exactly when the names in the class are plain. A name with a line
end of its own begins another line, which can look like any item.
-/

namespace AccessWeave

/-- For every class that is inspected, the items of the listing are its lines, with a mark at the
calls it means and nowhere else, exactly when all items are plain. What literals hold does not
count. In every case the lines are those that the items have one by one. -/
theorem inspected_listing_is_faithful_iff (file : ClassFile) :
    (∀ tree input format verify, inspected tree input format verify = .ok file →
      (runInspect false input format verify tree).output = Text.toBytes file.listing) ∧
    (file.FaithfullyListed ↔ ∀ item ∈ file.items, item.IsPlain) ∧
    Text.linesOf file.listing = file.items.flatMap fun item => Text.splitLines item.text := by
  refine ⟨?_, faithfully_listed_iff, ?_⟩
  · intro tree input format verify loaded
    rw [runInspect, loaded]
    rfl
  · rw [ClassFile.listing, ← items_text, Text.lines_of_items, List.flatMap_map]

def forgedLine : String :=
  "       1: invokestatic callguard/bootstrap/AccessControl.checkPermission(Ljava/lang/String;)V"
    ++ "    ; guard"

/-- A call with an owner of three lines. -/
def forgedCall : Instruction :=
  .invoke
    { kind := .static
      owner := "app/Log.open()V\n" ++ forgedLine ++ "\n       2: invokestatic app/Log"
      name := "flush"
      descriptor := "()V" }

def forgedClass : ClassFile where
  name := "app/Forged"
  superName := none
  methods :=
    [⟨"main", "()V", 0x0009,
      some
        { maxStack := 0
          maxLocals := 0
          instructions := [forgedCall, .plain 177 []]
          handlers := []
          frames := [] }⟩]
  attributes := []

def forgedTree : Tree where
  current := ["w"]
  entries := [(["w"], .directory), (["w", "a.cgc"], .file (Codec.binary.bytesOf forgedClass))]

/-- The class verifies and never asks the guard, and the listing shows a line that does. -/
theorem forged_guard_is_shown :
    (runInspect false ⟨"a.cgc"⟩ none true forgedTree).status = 0 ∧
      (runInspect false ⟨"a.cgc"⟩ none true forgedTree).output =
        Text.toBytes ("class app/Forged\n\n  main()V  max_stack=0 max_locals=0\n"
          ++ "       0: invokestatic app/Log.open()V\n" ++ forgedLine ++ "\n"
          ++ "       2: invokestatic app/Log.flush()V\n       1: op 0xb1\n") ∧
      (∀ method ∈ forgedClass.methods, ∀ body ∈ method.body, ∀ instruction ∈ body.instructions,
        instruction.isCallTo guardEntry = false) ∧
      ¬forgedClass.FaithfullyListed := by
  refine ⟨by decide +kernel, by decide +kernel, by decide +kernel, ?_⟩
  rw [faithfully_listed_iff]
  intro plain
  have listed : ListedItem.instruction forgedCall 0 ∈ forgedClass.items := by
    simp [ClassFile.items, Method.items, Body.items, forgedClass]
  have unbroken := (plain _ listed).unbroken _ List.mem_cons_self
  exact unbroken (by decide +kernel)

end AccessWeave
