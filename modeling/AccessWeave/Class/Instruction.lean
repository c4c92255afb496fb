import AccessWeave.Decimal.Layout
import AccessWeave.Operation
import AccessWeave.Text.Quoted

/-!
Instructions of a method body. Only calls and string literals matter to the weaver; every
other instruction is carried along unread. Jumps name labels instead of offsets, so inserting
an instruction never breaks one.
-/

namespace AccessWeave

/-- A position inside one body. -/
structure Label where
  number : UInt32
  deriving DecidableEq, Repr

def Label.text (label : Label) : String := "L" ++ toString label.number.toNat

/-- A literal. Floating point literals are bit patterns, so every one of them is kept. -/
inductive Constant
  | int (value : Int32)
  | long (value : Int64)
  | float (pattern : UInt32)
  | double (pattern : UInt64)
  | string (value : String)
  | type (name : String)
  deriving DecidableEq

def Constant.text : Constant → String
  | .int value => toString value.toInt
  | .long value => toString value.toInt ++ "L"
  | .float pattern => Decimal.plainText Decimal.binary32 pattern.toNat ++ "F"
  | .double pattern => Decimal.plainText Decimal.binary64 pattern.toNat ++ "D"
  | .string value => Text.quoted value
  | .type name => "class " ++ name

inductive Instruction
  | invoke (target : Signature)
  | loadConst (constant : Constant)
  | label (label : Label)
  | branch (opcode : UInt8) (target : Label)
  | switch (opcode : UInt8) (default : Label) (targets : List Label)
  /-- Any other instruction. -/
  | plain (opcode : UInt8) (operands : List UInt8)
  deriving DecidableEq

namespace Instruction

def invoked? : Instruction → Option Signature
  | invoke target => some target
  | _ => none

def isLabel : Instruction → Bool
  | label _ => true
  | _ => false

def defined? : Instruction → Option Label
  | label defined => some defined
  | _ => none

def branchTargets : Instruction → List Label
  | branch _ target => [target]
  | switch _ default targets => default :: targets
  | _ => []

def isCallTo (instruction : Instruction) (signature : Signature) : Bool :=
  instruction.invoked? = some signature

/-- The guard of an operation: its key as a literal, so that the class refers to nothing it
may be unable to resolve, and the call that asks. -/
def guardSequence (operation : Operation) : List Instruction :=
  [loadConst (.string operation.key), invoke guardEntry]

def operation? (instruction : Instruction) : Option Operation :=
  Operation.all.find? fun operation => instruction.isCallTo operation.signature

def text : Instruction → String
  | invoke target => target.text
  | loadConst constant => "ldc " ++ constant.text
  | label defined => defined.text ++ ":"
  | branch opcode target => "branch 0x" ++ Text.hexByte opcode ++ " -> " ++ target.text
  | switch opcode default targets =>
      "switch 0x" ++ Text.hexByte opcode ++ " ["
        ++ String.intercalate ", " (targets.map Label.text) ++ "] default " ++ default.text
  | plain opcode operands =>
      "op 0x" ++ Text.hexByte opcode
        ++ String.join (operands.map fun operand => " " ++ Text.hexByte operand)

end Instruction

end AccessWeave
