import AccessWeave.Class.ClassFile
import AccessWeave.Text.Column
import AccessWeave.Weave.Guard

/-!
A class as a listing for people. After a line for the class, every method has an empty line,
a line of its own, a line with the guards it carries, a line for each instruction and a line
for each handler. String literals are quoted; names, owners, descriptors and types are shown
as the class has them, so a line end inside one of them ends a line of the listing too.
-/

namespace AccessWeave

def Instruction.remark (instruction : Instruction) : String :=
  if instruction.isCallTo guardEntry then "    ; guard"
  else match instruction.operation? with
    | some operation => "    ; " ++ operation.displayName
    | none => ""

def Instruction.listed (instruction : Instruction) (index : Nat) : String :=
  "    " ++ Text.alignRight 4 (toString index) ++ ": " ++ instruction.text
    ++ instruction.remark

def Handler.listed (handler : Handler) : String :=
  "    try " ++ handler.start.text ++ ".." ++ handler.finish.text ++ " catch "
    ++ handler.catchType.getD "*" ++ " -> " ++ handler.target.text

def Body.carriedGuards (body : Body) : List Operation :=
  Operation.all.filter fun operation => (guardPosition? operation body.instructions).isSome

def Method.listed (method : Method) : List String :=
  match method.body with
  | none => ["", "  " ++ method.qualifiedName ++ " (no body)"]
  | some body =>
      let guards := body.carriedGuards
      ["", "  " ++ method.qualifiedName ++ "  max_stack=" ++ toString body.maxStack.toNat
        ++ " max_locals=" ++ toString body.maxLocals.toNat]
      ++ (if guards.isEmpty then []
          else ["    guards: " ++ String.intercalate ", " (guards.map Operation.key)])
      ++ (body.instructions.zipIdx.map fun (instruction, index) => instruction.listed index)
      ++ body.handlers.map Handler.listed

def ClassFile.headline (file : ClassFile) : String :=
  "class " ++ file.name ++ (match file.superName with
    | none => ""
    | some superName => " extends " ++ superName)

/-- The items of the listing, which are its lines when no name holds a line end. -/
def ClassFile.listed (file : ClassFile) : List String :=
  file.headline :: file.methods.flatMap Method.listed

def ClassFile.listing (file : ClassFile) : String :=
  String.join (file.listed.map fun line => line ++ "\n")

end AccessWeave
