import AccessWeave.Class.ClassFile

/-!
Structural verification of a body. A well formed body defines each label once, refers only
to labels it defines, has handlers whose start lies before their end, and records no stack
map frame deeper than the declared stack. The first fault is reported, and a repeated label
before any other.
-/

namespace AccessWeave

inductive ReferenceSite
  | instruction (index : Nat)
  | handler (index : Nat)
  | frame
  deriving DecidableEq, Repr

def ReferenceSite.text : ReferenceSite → String
  | .instruction index => "instruction " ++ toString index
  | .handler index => "exception handler " ++ toString index
  | .frame => "stack map frame"

inductive VerifyError
  | duplicateLabel (label : Label)
  | undefinedLabel (label : Label) (site : ReferenceSite)
  | invertedHandlerRange (start finish : Label)
  | frameExceedsMaxStack (label : Label) (depth : Nat) (maxStack : UInt16)
  deriving DecidableEq, Repr

def VerifyError.message : VerifyError → String
  | .duplicateLabel label => "label " ++ label.text ++ " is defined more than once"
  | .undefinedLabel label site => site.text ++ " refers to undefined label " ++ label.text
  | .invertedHandlerRange start finish =>
      "exception range " ++ start.text ++ ".." ++ finish.text ++ " ends before it starts"
  | .frameExceedsMaxStack label depth maxStack =>
      "stack map frame at " ++ label.text ++ " has " ++ toString depth
        ++ " stack entries but max_stack is " ++ toString maxStack.toNat

def firstRepeated (seen : List Label) : List Label → Option Label
  | [] => none
  | label :: labels =>
      if label ∈ seen then some label else firstRepeated (label :: seen) labels

namespace Body

def labels (body : Body) : List Label := body.instructions.filterMap Instruction.defined?

def position? (body : Body) (label : Label) : Option Nat :=
  body.instructions.findIdx? fun instruction => instruction.defined? = some label

def referenceFault (body : Body) (site : ReferenceSite) (label : Label) :
    Option VerifyError :=
  match body.position? label with
  | none => some (.undefinedLabel label site)
  | some _ => none

def instructionFault (body : Body) (instruction : Instruction) (index : Nat) :
    Option VerifyError :=
  instruction.branchTargets.findSome? (body.referenceFault (.instruction index))

def handlerFault (body : Body) (handler : Handler) (index : Nat) : Option VerifyError :=
  match body.position? handler.start, body.position? handler.finish,
      body.position? handler.target with
  | none, _, _ => some (.undefinedLabel handler.start (.handler index))
  | _, none, _ => some (.undefinedLabel handler.finish (.handler index))
  | _, _, none => some (.undefinedLabel handler.target (.handler index))
  | some start, some finish, some _ =>
      if start < finish then none
      else some (.invertedHandlerRange handler.start handler.finish)

def frameFault (body : Body) (frame : StackMapFrame) : Option VerifyError :=
  match body.position? frame.label with
  | none => some (.undefinedLabel frame.label .frame)
  | some _ =>
      if frame.stack.length ≤ body.maxStack.toNat then none
      else some (.frameExceedsMaxStack frame.label frame.stack.length body.maxStack)

def fault? (body : Body) : Option VerifyError :=
  match firstRepeated [] body.labels with
  | some label => some (.duplicateLabel label)
  | none =>
      (body.instructions.zipIdx.findSome? fun (instruction, index) =>
        body.instructionFault instruction index).or
      ((body.handlers.zipIdx.findSome? fun (handler, index) =>
        body.handlerFault handler index).or
      (body.frames.findSome? body.frameFault))

def verify (body : Body) : Except VerifyError Unit :=
  match body.fault? with
  | none => .ok ()
  | some error => .error error

end Body

def Method.fault? (method : Method) : Option VerifyError := method.body.bind Body.fault?

def ClassFile.fault? (file : ClassFile) : Option (String × VerifyError) :=
  file.methods.findSome? fun method =>
    method.fault?.map fun error => (method.qualifiedName, error)

end AccessWeave
