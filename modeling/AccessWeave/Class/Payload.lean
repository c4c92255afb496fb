import AccessWeave.Class.ClassFile
import AccessWeave.Text.Bytes

/-!
The binary payload of a class. Numbers are little endian and of fixed width; a text or a
sequence is its length in eight bytes and then its content; an optional value is a zero byte,
or a one byte and the value; a choice is its index in four bytes and then its content. Nothing
stands between the fields of a record. A decoder takes what it needs from the front of the
input and hands back the rest. Decoding never verifies a class.
-/

namespace AccessWeave.Payload

/-- A number in the given count of bytes, least significant first. -/
def encodeNumber : Nat → Nat → List UInt8
  | 0, _ => []
  | count + 1, value => UInt8.ofNat (value % 256) :: encodeNumber count (value / 256)

def decodeNumber : Nat → List UInt8 → Option (Nat × List UInt8)
  | 0, input => some (0, input)
  | _ + 1, [] => none
  | count + 1, byte :: rest => do
      let (high, suffix) ← decodeNumber count rest
      some (byte.toNat + 256 * high, suffix)

def takeExactly : Nat → List UInt8 → Option (List UInt8 × List UInt8)
  | 0, input => some ([], input)
  | _ + 1, [] => none
  | count + 1, byte :: rest => do
      let (bytes, suffix) ← takeExactly count rest
      some (byte :: bytes, suffix)

def decodeMany {Value : Type} (decode : List UInt8 → Option (Value × List UInt8)) :
    Nat → List UInt8 → Option (List Value × List UInt8)
  | 0, input => some ([], input)
  | count + 1, input => do
      let (value, afterValue) ← decode input
      let (values, suffix) ← decodeMany decode count afterValue
      some (value :: values, suffix)

def encodeList {Value : Type} (encode : Value → List UInt8) (values : List Value) :
    List UInt8 :=
  encodeNumber 8 values.length ++ values.flatMap encode

def decodeList {Value : Type} (decode : List UInt8 → Option (Value × List UInt8))
    (input : List UInt8) : Option (List Value × List UInt8) := do
  let (count, afterCount) ← decodeNumber 8 input
  decodeMany decode count afterCount

def encodeOption {Value : Type} (encode : Value → List UInt8) : Option Value → List UInt8
  | none => [0]
  | some value => 1 :: encode value

def decodeOption {Value : Type} (decode : List UInt8 → Option (Value × List UInt8)) :
    List UInt8 → Option (Option Value × List UInt8)
  | [] => none
  | tag :: rest =>
      if tag = 0 then some (none, rest)
      else if tag = 1 then do
        let (value, suffix) ← decode rest
        some (some value, suffix)
      else none

def encodeByte (byte : UInt8) : List UInt8 := [byte]

def decodeByte : List UInt8 → Option (UInt8 × List UInt8)
  | [] => none
  | byte :: suffix => some (byte, suffix)

def encodeUInt16 (value : UInt16) : List UInt8 := encodeNumber 2 value.toNat

def decodeUInt16 (input : List UInt8) : Option (UInt16 × List UInt8) := do
  let (value, suffix) ← decodeNumber 2 input
  some (UInt16.ofNat value, suffix)

def encodeUInt32 (value : UInt32) : List UInt8 := encodeNumber 4 value.toNat

def decodeUInt32 (input : List UInt8) : Option (UInt32 × List UInt8) := do
  let (value, suffix) ← decodeNumber 4 input
  some (UInt32.ofNat value, suffix)

def encodeUInt64 (value : UInt64) : List UInt8 := encodeNumber 8 value.toNat

def decodeUInt64 (input : List UInt8) : Option (UInt64 × List UInt8) := do
  let (value, suffix) ← decodeNumber 8 input
  some (UInt64.ofNat value, suffix)

def encodeText (text : String) : List UInt8 :=
  let bytes := Text.toBytes text
  encodeNumber 8 bytes.length ++ bytes

def decodeText (input : List UInt8) : Option (String × List UInt8) := do
  let (length, afterLength) ← decodeNumber 8 input
  let (bytes, suffix) ← takeExactly length afterLength
  let text ← Text.ofBytes bytes
  some (text, suffix)

def encodeLabel (label : Label) : List UInt8 := encodeUInt32 label.number

def decodeLabel (input : List UInt8) : Option (Label × List UInt8) := do
  let (number, suffix) ← decodeUInt32 input
  some (⟨number⟩, suffix)

def encodeIndex (index : Nat) : List UInt8 := encodeNumber 4 index

def encodeKind : InvokeKind → List UInt8
  | .static => encodeIndex 0
  | .virtual => encodeIndex 1
  | .special => encodeIndex 2
  | .interface => encodeIndex 3

def decodeKind (input : List UInt8) : Option (InvokeKind × List UInt8) := do
  let (index, suffix) ← decodeNumber 4 input
  match index with
  | 0 => some (.static, suffix)
  | 1 => some (.virtual, suffix)
  | 2 => some (.special, suffix)
  | 3 => some (.interface, suffix)
  | _ => none

def encodeSignature (target : Signature) : List UInt8 :=
  encodeKind target.kind ++ encodeText target.owner ++ encodeText target.name
    ++ encodeText target.descriptor

def decodeSignature (input : List UInt8) : Option (Signature × List UInt8) := do
  let (kind, afterKind) ← decodeKind input
  let (owner, afterOwner) ← decodeText afterKind
  let (name, afterName) ← decodeText afterOwner
  let (descriptor, suffix) ← decodeText afterName
  some (⟨kind, owner, name, descriptor⟩, suffix)

def encodeConstant : Constant → List UInt8
  | .int value => encodeIndex 0 ++ encodeUInt32 value.toUInt32
  | .long value => encodeIndex 1 ++ encodeUInt64 value.toUInt64
  | .float pattern => encodeIndex 2 ++ encodeUInt32 pattern
  | .double pattern => encodeIndex 3 ++ encodeUInt64 pattern
  | .string value => encodeIndex 4 ++ encodeText value
  | .type name => encodeIndex 5 ++ encodeText name

def decodeConstant (input : List UInt8) : Option (Constant × List UInt8) := do
  let (index, rest) ← decodeNumber 4 input
  match index with
  | 0 => do
      let (value, suffix) ← decodeUInt32 rest
      some (.int value.toInt32, suffix)
  | 1 => do
      let (value, suffix) ← decodeUInt64 rest
      some (.long value.toInt64, suffix)
  | 2 => do
      let (pattern, suffix) ← decodeUInt32 rest
      some (.float pattern, suffix)
  | 3 => do
      let (pattern, suffix) ← decodeUInt64 rest
      some (.double pattern, suffix)
  | 4 => do
      let (value, suffix) ← decodeText rest
      some (.string value, suffix)
  | 5 => do
      let (name, suffix) ← decodeText rest
      some (.type name, suffix)
  | _ => none

def encodeInstruction : Instruction → List UInt8
  | .invoke target => encodeIndex 0 ++ encodeSignature target
  | .loadConst constant => encodeIndex 1 ++ encodeConstant constant
  | .label label => encodeIndex 2 ++ encodeLabel label
  | .branch opcode target => encodeIndex 3 ++ encodeByte opcode ++ encodeLabel target
  | .switch opcode default targets =>
      encodeIndex 4 ++ encodeByte opcode ++ encodeLabel default
        ++ encodeList encodeLabel targets
  | .plain opcode operands =>
      encodeIndex 5 ++ encodeByte opcode ++ encodeList encodeByte operands

def decodeInstruction (input : List UInt8) : Option (Instruction × List UInt8) := do
  let (index, rest) ← decodeNumber 4 input
  match index with
  | 0 => do
      let (target, suffix) ← decodeSignature rest
      some (.invoke target, suffix)
  | 1 => do
      let (constant, suffix) ← decodeConstant rest
      some (.loadConst constant, suffix)
  | 2 => do
      let (label, suffix) ← decodeLabel rest
      some (.label label, suffix)
  | 3 => do
      let (opcode, afterOpcode) ← decodeByte rest
      let (target, suffix) ← decodeLabel afterOpcode
      some (.branch opcode target, suffix)
  | 4 => do
      let (opcode, afterOpcode) ← decodeByte rest
      let (default, afterDefault) ← decodeLabel afterOpcode
      let (targets, suffix) ← decodeList decodeLabel afterDefault
      some (.switch opcode default targets, suffix)
  | 5 => do
      let (opcode, afterOpcode) ← decodeByte rest
      let (operands, suffix) ← decodeList decodeByte afterOpcode
      some (.plain opcode operands, suffix)
  | _ => none

def encodeHandler (handler : Handler) : List UInt8 :=
  encodeLabel handler.start ++ encodeLabel handler.finish ++ encodeLabel handler.target
    ++ encodeOption encodeText handler.catchType

def decodeHandler (input : List UInt8) : Option (Handler × List UInt8) := do
  let (start, afterStart) ← decodeLabel input
  let (finish, afterFinish) ← decodeLabel afterStart
  let (target, afterTarget) ← decodeLabel afterFinish
  let (catchType, suffix) ← decodeOption decodeText afterTarget
  some (⟨start, finish, target, catchType⟩, suffix)

def encodeFrame (frame : StackMapFrame) : List UInt8 :=
  encodeLabel frame.label ++ encodeList encodeText frame.locals
    ++ encodeList encodeText frame.stack

def decodeFrame (input : List UInt8) : Option (StackMapFrame × List UInt8) := do
  let (label, afterLabel) ← decodeLabel input
  let (locals, afterLocals) ← decodeList decodeText afterLabel
  let (stack, suffix) ← decodeList decodeText afterLocals
  some (⟨label, locals, stack⟩, suffix)

def encodeBody (body : Body) : List UInt8 :=
  encodeUInt16 body.maxStack ++ encodeUInt16 body.maxLocals
    ++ encodeList encodeInstruction body.instructions
    ++ encodeList encodeHandler body.handlers ++ encodeList encodeFrame body.frames

def decodeBody (input : List UInt8) : Option (Body × List UInt8) := do
  let (maxStack, afterStack) ← decodeUInt16 input
  let (maxLocals, afterLocals) ← decodeUInt16 afterStack
  let (instructions, afterInstructions) ← decodeList decodeInstruction afterLocals
  let (handlers, afterHandlers) ← decodeList decodeHandler afterInstructions
  let (frames, suffix) ← decodeList decodeFrame afterHandlers
  some (⟨maxStack, maxLocals, instructions, handlers, frames⟩, suffix)

def encodeMethod (method : Method) : List UInt8 :=
  encodeText method.name ++ encodeText method.descriptor ++ encodeUInt16 method.accessFlags
    ++ encodeOption encodeBody method.body

def decodeMethod (input : List UInt8) : Option (Method × List UInt8) := do
  let (name, afterName) ← decodeText input
  let (descriptor, afterDescriptor) ← decodeText afterName
  let (accessFlags, afterFlags) ← decodeUInt16 afterDescriptor
  let (body, suffix) ← decodeOption decodeBody afterFlags
  some (⟨name, descriptor, accessFlags, body⟩, suffix)

def encodeAttribute (note : Attribute) : List UInt8 :=
  encodeText note.name ++ encodeList encodeByte note.data

def decodeAttribute (input : List UInt8) : Option (Attribute × List UInt8) := do
  let (name, afterName) ← decodeText input
  let (data, suffix) ← decodeList decodeByte afterName
  some (⟨name, data⟩, suffix)

def encodeClass (file : ClassFile) : List UInt8 :=
  encodeText file.name ++ encodeOption encodeText file.superName
    ++ encodeList encodeMethod file.methods ++ encodeList encodeAttribute file.attributes

def decodeClass (input : List UInt8) : Option (ClassFile × List UInt8) := do
  let (name, afterName) ← decodeText input
  let (superName, afterSuper) ← decodeOption decodeText afterName
  let (methods, afterMethods) ← decodeList decodeMethod afterSuper
  let (attributes, suffix) ← decodeList decodeAttribute afterMethods
  some (⟨name, superName, methods, attributes⟩, suffix)

end AccessWeave.Payload
