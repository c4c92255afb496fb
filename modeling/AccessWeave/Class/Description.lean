import AccessWeave.Class.ClassFile
import AccessWeave.Json.Record

/-!
Classes described by JSON documents. Records have one member for each field, in the order of
the record; choices have one member, named for the choice. A floating point literal that is
not finite has no number, so it is described as null, which no reader accepts as a literal.
-/

namespace AccessWeave

open Json (Document)

namespace Label

def describe (label : Label) : Document := Document.ofInt label.number.toNat

def ofDocument? (document : Document) : Option Label := document.uint32?.map Label.mk

end Label

def describeByte (byte : UInt8) : Document := Document.ofInt byte.toNat

namespace InvokeKind

def ofDocument? (document : Document) : Option InvokeKind :=
  document.word?.bind InvokeKind.ofWord?

end InvokeKind

namespace Signature

def describe (target : Signature) : Document :=
  Document.ofFields
    [("kind", Document.ofText target.kind.word), ("owner", Document.ofText target.owner),
     ("name", Document.ofText target.name), ("descriptor", Document.ofText target.descriptor)]

def ofDocument? (document : Document) : Option Signature := do
  match ← document.fields? ["kind", "owner", "name", "descriptor"] with
  | [kind, owner, name, descriptor] => do
      let kind ← Document.required? InvokeKind.ofDocument? kind
      let owner ← Document.required? Document.text? owner
      let name ← Document.required? Document.text? name
      let descriptor ← Document.required? Document.text? descriptor
      some { kind, owner, name, descriptor }
  | _ => none

end Signature

namespace Constant

def describe : Constant → Document
  | .int value => Document.ofFields [("int", Document.ofInt value.toInt)]
  | .long value => Document.ofFields [("long", Document.ofInt value.toInt)]
  | .float pattern =>
      Document.ofFields
        [("float", Json.ofPattern Decimal.binary32 Json.fixedRange32 pattern.toNat)]
  | .double pattern =>
      Document.ofFields
        [("double", Json.ofPattern Decimal.binary64 Json.fixedRange64 pattern.toNat)]
  | .string value => Document.ofFields [("string", Document.ofText value)]
  | .type name => Document.ofFields [("class", Document.ofText name)]

def ofDocument? (document : Document) : Option Constant := do
  match ← document.choice? with
  | ("int", some content) => content.int32?.map .int
  | ("long", some content) => content.int64?.map .long
  | ("float", some content) => content.float32?.map .float
  | ("double", some content) => content.float64?.map .double
  | ("string", some content) => content.text?.map .string
  | ("class", some content) => content.text?.map .type
  | _ => none

end Constant

namespace Instruction

def describe : Instruction → Document
  | .invoke target => Document.ofFields [("invoke", target.describe)]
  | .loadConst constant => Document.ofFields [("load_const", constant.describe)]
  | .label defined => Document.ofFields [("label", defined.describe)]
  | .branch opcode target =>
      Document.ofFields
        [("branch", Document.ofFields
          [("opcode", describeByte opcode), ("target", target.describe)])]
  | .switch opcode default targets =>
      Document.ofFields
        [("switch", Document.ofFields
          [("opcode", describeByte opcode), ("default", default.describe),
           ("targets", Document.ofList Label.describe targets)])]
  | .plain opcode operands =>
      Document.ofFields
        [("op", Document.ofFields
          [("opcode", describeByte opcode),
           ("operands", Document.ofList describeByte operands)])]

def branchOfDocument? (document : Document) : Option Instruction := do
  match ← document.fields? ["opcode", "target"] with
  | [opcode, target] => do
      let opcode ← Document.required? Document.uint8? opcode
      let target ← Document.required? Label.ofDocument? target
      some (.branch opcode target)
  | _ => none

def switchOfDocument? (document : Document) : Option Instruction := do
  match ← document.fields? ["opcode", "default", "targets"] with
  | [opcode, default, targets] => do
      let opcode ← Document.required? Document.uint8? opcode
      let default ← Document.required? Label.ofDocument? default
      let targets ← Document.required? (Document.list? Label.ofDocument?) targets
      some (.switch opcode default targets)
  | _ => none

def plainOfDocument? (document : Document) : Option Instruction := do
  match ← document.fields? ["opcode", "operands"] with
  | [opcode, operands] => do
      let opcode ← Document.required? Document.uint8? opcode
      let operands ← Document.required? (Document.list? Document.uint8?) operands
      some (.plain opcode operands)
  | _ => none

def ofDocument? (document : Document) : Option Instruction := do
  match ← document.choice? with
  | ("invoke", some content) => (Signature.ofDocument? content).map .invoke
  | ("load_const", some content) => (Constant.ofDocument? content).map .loadConst
  | ("label", some content) => (Label.ofDocument? content).map .label
  | ("branch", some content) => branchOfDocument? content
  | ("switch", some content) => switchOfDocument? content
  | ("op", some content) => plainOfDocument? content
  | _ => none

end Instruction

namespace Handler

def describe (handler : Handler) : Document :=
  Document.ofFields
    [("start", handler.start.describe), ("end", handler.finish.describe),
     ("handler", handler.target.describe),
     ("catch_type", Document.ofOption Document.ofText handler.catchType)]

def ofDocument? (document : Document) : Option Handler := do
  match ← document.fields? ["start", "end", "handler", "catch_type"] with
  | [start, finish, target, catchType] => do
      let start ← Document.required? Label.ofDocument? start
      let finish ← Document.required? Label.ofDocument? finish
      let target ← Document.required? Label.ofDocument? target
      let catchType ← Document.absentOr? Document.text? catchType
      some { start, finish, target, catchType }
  | _ => none

end Handler

namespace StackMapFrame

def describe (frame : StackMapFrame) : Document :=
  Document.ofFields
    [("label", frame.label.describe), ("locals", Document.ofList Document.ofText frame.locals),
     ("stack", Document.ofList Document.ofText frame.stack)]

def ofDocument? (document : Document) : Option StackMapFrame := do
  match ← document.fields? ["label", "locals", "stack"] with
  | [label, locals, stack] => do
      let label ← Document.required? Label.ofDocument? label
      let locals ← Document.required? (Document.list? Document.text?) locals
      let stack ← Document.required? (Document.list? Document.text?) stack
      some { label, locals, stack }
  | _ => none

end StackMapFrame

namespace Body

def describe (body : Body) : Document :=
  Document.ofFields
    [("max_stack", Document.ofInt body.maxStack.toNat),
     ("max_locals", Document.ofInt body.maxLocals.toNat),
     ("instructions", Document.ofList Instruction.describe body.instructions),
     ("handlers", Document.ofList Handler.describe body.handlers),
     ("frames", Document.ofList StackMapFrame.describe body.frames)]

def ofDocument? (document : Document) : Option Body := do
  match ← document.fields? ["max_stack", "max_locals", "instructions", "handlers", "frames"] with
  | [maxStack, maxLocals, instructions, handlers, frames] => do
      let maxStack ← Document.required? Document.uint16? maxStack
      let maxLocals ← Document.required? Document.uint16? maxLocals
      let instructions ←
        Document.required? (Document.list? Instruction.ofDocument?) instructions
      let handlers ← Document.required? (Document.list? Handler.ofDocument?) handlers
      let frames ← Document.required? (Document.list? StackMapFrame.ofDocument?) frames
      some { maxStack, maxLocals, instructions, handlers, frames }
  | _ => none

end Body

namespace Method

def describe (method : Method) : Document :=
  Document.ofFields
    [("name", Document.ofText method.name), ("descriptor", Document.ofText method.descriptor),
     ("access_flags", Document.ofInt method.accessFlags.toNat),
     ("body", Document.ofOption Body.describe method.body)]

def ofDocument? (document : Document) : Option Method := do
  match ← document.fields? ["name", "descriptor", "access_flags", "body"] with
  | [name, descriptor, accessFlags, body] => do
      let name ← Document.required? Document.text? name
      let descriptor ← Document.required? Document.text? descriptor
      let accessFlags ← Document.required? Document.uint16? accessFlags
      let body ← Document.absentOr? Body.ofDocument? body
      some { name, descriptor, accessFlags, body }
  | _ => none

end Method

namespace Attribute

def describe (note : Attribute) : Document :=
  Document.ofFields
    [("name", Document.ofText note.name),
     ("data", Document.ofList describeByte note.data)]

def ofDocument? (document : Document) : Option Attribute := do
  match ← document.fields? ["name", "data"] with
  | [name, data] => do
      let name ← Document.required? Document.text? name
      let data ← Document.required? (Document.list? Document.uint8?) data
      some { name, data }
  | _ => none

end Attribute

namespace ClassFile

def describe (file : ClassFile) : Document :=
  Document.ofFields
    [("name", Document.ofText file.name),
     ("super_name", Document.ofOption Document.ofText file.superName),
     ("methods", Document.ofList Method.describe file.methods),
     ("attributes", Document.ofList Attribute.describe file.attributes)]

def ofDocument? (document : Document) : Option ClassFile := do
  match ← document.fields? ["name", "super_name", "methods", "attributes"] with
  | [name, superName, methods, attributes] => do
      let name ← Document.required? Document.text? name
      let superName ← Document.absentOr? Document.text? superName
      let methods ← Document.required? (Document.list? Method.ofDocument?) methods
      let attributes ← Document.required? (Document.list? Attribute.ofDocument?) attributes
      some { name, superName, methods, attributes }
  | _ => none

end ClassFile

end AccessWeave
