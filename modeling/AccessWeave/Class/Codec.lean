import AccessWeave.Class.Description
import AccessWeave.Class.Payload
import AccessWeave.Class.Verify
import AccessWeave.Json.Reader
import AccessWeave.Json.Writer

/-!
The two forms in which classes are stored: a binary artifact, which is a magic number, a
version and a payload, and a JSON text. Bytes after a binary payload are ignored. Both forms
are written only for classes whose bodies verify, and read without verifying.
-/

namespace AccessWeave

inductive CodecError
  /-- Shorter than the header. -/
  | truncated (length : Nat)
  | badMagic (found : List UInt8)
  | unsupportedVersion (version : Nat)
  | malformed
  /-- A body failed verification, so nothing was written. -/
  | verify (method : String) (fault : VerifyError)
  deriving DecidableEq, Repr

namespace CodecError

def message : CodecError → String
  | truncated length =>
      "class bytes truncated: " ++ toString length ++ " bytes is shorter than the header"
  | badMagic found =>
      "bad magic number [" ++ String.intercalate ", " (found.map Text.hexByte) ++ "]"
  | unsupportedVersion version => "unsupported class format version " ++ toString version
  | malformed => "malformed class: the content does not follow the format"
  | verify method fault => "method " ++ method ++ " failed verification: " ++ fault.message

def causes : CodecError → List String
  | verify _ fault => [fault.message]
  | _ => []

end CodecError

inductive Codec
  | binary
  | json
  deriving DecidableEq, Repr

namespace Codec

/-- The bytes that spell CGCA. -/
def magic : List UInt8 := [0x43, 0x47, 0x43, 0x41]

def formatVersion : Nat := 1

/-- The magic number and the version, most significant byte first. -/
def header : List UInt8 := magic ++ [UInt8.ofNat (formatVersion / 256), UInt8.ofNat formatVersion]

def decodeBinary (bytes : List UInt8) : Except CodecError ClassFile :=
  match bytes with
  | a :: b :: c :: d :: high :: low :: payload =>
      let version := high.toNat * 256 + low.toNat
      if [a, b, c, d] ≠ magic then .error (.badMagic [a, b, c, d])
      else if version ≠ formatVersion then .error (.unsupportedVersion version)
      else match Payload.decodeClass payload with
        | none => .error .malformed
        | some (file, _) => .ok file
  | _ => .error (.truncated bytes.length)

def decodeJson (bytes : List UInt8) : Except CodecError ClassFile :=
  match (Json.read bytes).bind ClassFile.ofDocument? with
  | none => .error .malformed
  | some file => .ok file

def decode : Codec → List UInt8 → Except CodecError ClassFile
  | binary => decodeBinary
  | json => decodeJson

def bytesOf : Codec → ClassFile → List UInt8
  | binary, file => header ++ Payload.encodeClass file
  | json, file => Json.write file.describe

def encode (codec : Codec) (file : ClassFile) : Except CodecError (List UInt8) :=
  match file.fault? with
  | some (method, fault) => .error (.verify method fault)
  | none => .ok (codec.bytesOf file)

end Codec

end AccessWeave
