import AccessWeave.Class.Listing
import AccessWeave.Command.Format
import AccessWeave.Command.Outcome

/-!
Commands on a single artifact. Inspecting shows a class as a listing or as JSON, and may
verify it first. Assembling makes a binary artifact from a JSON description, which it names
after the description unless it is told a name.
-/

namespace AccessWeave

def loadClass (tree : Tree) (codec : Codec) (doing : String) (input : Path) :
    Except Failure ClassFile :=
  match tree.read input with
  | .error fault => .error ((Failure.plain fault.message).within ("reading " ++ input.text))
  | .ok bytes =>
      match codec.decode bytes with
      | .error error =>
          .error ((Failure.mk error.message error.causes).within (doing ++ " " ++ input.text))
      | .ok file => .ok file

def ClassFile.verified (file : ClassFile) : Except Failure ClassFile :=
  match file.fault? with
  | none => .ok file
  | some (method, fault) =>
      .error (.plain ("method " ++ method ++ " failed verification: " ++ fault.message))

def inspected (tree : Tree) (input : Path) (format : Option Codec) (verify : Bool) :
    Except Failure ClassFile :=
  match loadClass tree (format.getD (.ofPath input)) "decoding" input with
  | .error failure => .error failure
  | .ok file => if verify then file.verified else .ok file

def runInspect (asJson : Bool) (input : Path) (format : Option Codec) (verify : Bool)
    (tree : Tree) : Outcome :=
  match inspected tree input format verify with
  | .error failure => .failed failure tree
  | .ok file =>
      .success (if asJson then printed file.describe else Text.toBytes file.listing) tree

def assembled (tree : Tree) (input : Path) : Except Failure (ClassFile × List UInt8) :=
  match loadClass tree .json "parsing" input with
  | .error failure => .error failure
  | .ok file =>
      match Codec.binary.encode file with
      | .error error =>
          .error ((Failure.mk error.message error.causes).within ("encoding " ++ file.name))
      | .ok bytes => .ok (file, bytes)

def assemblyDescription (file : ClassFile) (target : Path) (bytes : List UInt8) :
    Json.Document :=
  Json.Document.ofFields
    [("bytes", Json.Document.ofInt bytes.length), ("class", Json.Document.ofText file.name),
     ("output", Json.Document.ofText target.text)]

def assemblyLine (file : ClassFile) (target : Path) (bytes : List UInt8) : String :=
  "Assembled " ++ file.name ++ " -> " ++ target.text ++ " (" ++ toString bytes.length
    ++ " bytes)"

/-- Where an assembly writes: where it is told, or beside its input. -/
def assemblyTarget (input : Path) (output : Option Path) : Path :=
  output.getD (input.withExtension (Codec.extension .binary))

def runAssemble (asJson : Bool) (input : Path) (output : Option Path) (tree : Tree) :
    Outcome :=
  match assembled tree input with
  | .error failure => .failed failure tree
  | .ok (file, bytes) =>
      let target := assemblyTarget input output
      match tree.write target bytes with
      | .error fault =>
          .failed ((Failure.plain fault.message).within ("writing " ++ target.text)) tree
      | .ok written =>
          .success
            (if asJson then printed (assemblyDescription file target bytes)
              else printedLines [assemblyLine file target bytes])
            written

end AccessWeave
