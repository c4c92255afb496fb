import AccessWeave.Class.Codec
import AccessWeave.Weave.Body

/-!
Weaving whole classes. A transformer weaves its rules into every body of a class, in the
order of the methods, and stops at the first body that it cannot weave. Stored classes are
decoded, woven and encoded again; a class in which nothing was inserted is not written, so
its bytes stay as they are.
-/

namespace AccessWeave

inductive Dispatch
  | allRules
  /-- Only rules whose owner the class calls into. -/
  | referencedOwners
  deriving DecidableEq, Repr

def Dispatch.word : Dispatch → String
  | .allRules => "all_rules"
  | .referencedOwners => "referenced_owners"

structure GuardedSite where
  method : String
  operation : Operation
  deriving DecidableEq, Repr

structure Report where
  className : String
  guarded : List GuardedSite
  deriving DecidableEq, Repr

def Report.isModified (report : Report) : Bool := !report.guarded.isEmpty

inductive TransformError
  | decode (error : CodecError)
  | weave (className method : String) (error : WeaveError)
  | encode (className : String) (error : CodecError)
  deriving DecidableEq, Repr

namespace TransformError

def message : TransformError → String
  | decode error => "cannot decode class: " ++ error.message
  | weave className method error =>
      "cannot rewrite " ++ className ++ "." ++ method ++ ": " ++ error.message
  | encode className error => "cannot re-encode " ++ className ++ ": " ++ error.message

def causes : TransformError → List String
  | decode error => error.message :: error.causes
  | weave _ _ error => [error.message]
  | encode _ error => error.message :: error.causes

end TransformError

structure Transformer where
  rules : List Rule
  codec : Codec
  dispatch : Dispatch
  deriving DecidableEq, Repr

structure WovenClass where
  result : Except TransformError Report
  file : ClassFile

namespace Transformer

def ofRules (rules : List Rule) : Transformer := ⟨rules, .binary, .allRules⟩

def applicableRules (transformer : Transformer) (file : ClassFile) : List Rule :=
  match transformer.dispatch with
  | .allRules => transformer.rules
  | .referencedOwners =>
      let owners := file.callOwners
      transformer.rules.filter fun rule => rule.signature.owner ∈ owners

/-- The methods as weaving leaves them, up to and including the first that fails, and the
methods after it untouched; the sites that received a guard, or the failing method. -/
def weaveMethods (rules : List Rule) :
    WeaveContext → List Method → Except (String × WeaveError) (List GuardedSite) × List Method
  | _, [] => (.ok [], [])
  | context, method :: methods =>
      match method.body with
      | none =>
          let (result, woven) := weaveMethods rules context methods
          (result, method :: woven)
      | some body =>
          let step := weaveBody body rules context
          let method' := { method with body := some step.body }
          match step.result with
          | .error error => (.error (method.qualifiedName, error), method' :: methods)
          | .ok inserted =>
              let sites := inserted.map fun rule => ⟨method.qualifiedName, rule.operation⟩
              let (result, woven) := weaveMethods rules step.context methods
              (result.map (sites ++ ·), method' :: woven)

def weaveClass (transformer : Transformer) (file : ClassFile) : WovenClass :=
  let rules := transformer.applicableRules file
  let (result, methods) := weaveMethods rules (WeaveContext.ofSize rules.length) file.methods
  let woven := { file with methods }
  match result with
  | .ok guarded => ⟨.ok ⟨file.name, guarded⟩, woven⟩
  | .error (method, error) => ⟨.error (.weave file.name method error), woven⟩

/-- Weaves a stored class: what was done, and the new bytes unless nothing was. -/
def transform (transformer : Transformer) (bytes : List UInt8) :
    Except TransformError (Report × Option (List UInt8)) :=
  match transformer.codec.decode bytes with
  | .error error => .error (.decode error)
  | .ok file =>
      let woven := transformer.weaveClass file
      match woven.result with
      | .error error => .error error
      | .ok report =>
          if report.isModified then
            match transformer.codec.encode woven.file with
            | .error error => .error (.encode file.name error)
            | .ok encoded => .ok (report, some encoded)
          else .ok (report, none)

end Transformer

end AccessWeave
