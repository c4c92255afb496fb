import AccessWeave.Class.Instruction

/-!
Classes. A class has methods, and a method has a body unless it is abstract or native.
Attributes, handlers and stack map frames are carried along; the types that a frame records
are texts without further meaning.
-/

namespace AccessWeave

/-- Protects the instructions from the start up to, and without, the end. -/
structure Handler where
  start : Label
  finish : Label
  target : Label
  /-- Nothing catches everything. -/
  catchType : Option String
  deriving DecidableEq

structure StackMapFrame where
  label : Label
  locals : List String
  stack : List String
  deriving DecidableEq

structure Body where
  maxStack : UInt16
  maxLocals : UInt16
  instructions : List Instruction
  handlers : List Handler
  frames : List StackMapFrame
  deriving DecidableEq

structure Method where
  name : String
  descriptor : String
  accessFlags : UInt16
  body : Option Body
  deriving DecidableEq

/-- The name and the descriptor together tell a method from the others of its class. -/
def Method.qualifiedName (method : Method) : String := method.name ++ method.descriptor

structure Attribute where
  name : String
  data : List UInt8
  deriving DecidableEq

structure ClassFile where
  name : String
  superName : Option String
  methods : List Method
  attributes : List Attribute
  deriving DecidableEq

def ClassFile.callOwners (file : ClassFile) : List String :=
  file.methods.flatMap fun method =>
    match method.body with
    | none => []
    | some body => body.instructions.filterMap fun instruction =>
        instruction.invoked?.map Signature.owner

end AccessWeave
